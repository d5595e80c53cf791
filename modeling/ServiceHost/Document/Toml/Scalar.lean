/-
  ServiceHost.Document.Toml.Scalar — the words of TOML 1.0: blanks and comments, keys,
  the four kinds of string, numbers and dates.

  A reader takes the characters still to be read and gives what it read with the rest,
  or nothing if the text does not start with its word.
-/

import ServiceHost.Decimal.Reading
import ServiceHost.Document
import ServiceHost.Power

namespace ServiceHost.Document.Toml

open ServiceHost.Text ServiceHost.Decimal

abbrev Reader (α : Type) := List Char → Option (α × List Char)

/-! ## Blanks -/

def isSpace (c : Char) : Bool := c = ' ' || c = '\t'

def skipSpaces (cs : List Char) : List Char := cs.dropWhile isSpace

/-- What follows a line end: a line feed, alone or after a carriage return. -/
def afterNewline? : List Char → Option (List Char)
  | '\n' :: cs => some cs
  | '\r' :: '\n' :: cs => some cs
  | _ => none

/-- What a comment may hold: anything but control characters, and tabs. -/
def isCommentChar (c : Char) : Bool := c = '\t' || (0x20 ≤ c.toNat && c.toNat ≠ 0x7F)

def skipComment : List Char → List Char
  | '#' :: cs => cs.dropWhile isCommentChar
  | cs => cs

/-- The rest after blanks, an optional comment and the end of the line or of the text. -/
def lineEnd? (cs : List Char) : Option (List Char) :=
  let rest := skipComment (skipSpaces cs)
  if rest.isEmpty then some [] else afterNewline? rest

def skipBlankLines : Nat → List Char → List Char
  | 0, cs => cs
  | fuel + 1, cs =>
    let cs := skipSpaces cs
    match afterNewline? cs with
    | some rest => skipBlankLines fuel rest
    | none => cs

def skipTrivia : Nat → List Char → List Char
  | 0, cs => cs
  | fuel + 1, cs =>
    let cs := skipBlankLines (cs.length + 1) cs
    match cs with
    | '#' :: _ => skipTrivia fuel (skipComment cs)
    | _ => cs

/-! ## Strings -/

/-- A character that stands for itself in a basic string. -/
def isBasicChar (c : Char) : Bool :=
  c = '\t' || (0x20 ≤ c.toNat && c.toNat ≠ 0x7F && c ≠ '"' && c ≠ '\\')

/-- A character that stands for itself in a literal string. -/
def isLiteralChar (c : Char) : Bool := c = '\t' || (0x20 ≤ c.toNat && c.toNat ≠ 0x7F && c ≠ '\'')

/-- The character of a code point given by exactly `width` hexadecimal digits. -/
def scalarEscape (width : Nat) : Reader Char := fun cs => do
  let ds := cs.take width
  if ds.length ≠ width then none
  let n ← ds.foldlM (fun n c => (hexValue? c).map (16 * n + ·)) 0
  if h : n.isValidChar then some (Char.ofNatAux n h, cs.drop width) else none

def escape : Reader Char
  | 'b' :: cs => some ('\x08', cs)
  | 't' :: cs => some ('\t', cs)
  | 'n' :: cs => some ('\n', cs)
  | 'f' :: cs => some ('\x0c', cs)
  | 'r' :: cs => some ('\r', cs)
  | '"' :: cs => some ('"', cs)
  | '\\' :: cs => some ('\\', cs)
  | 'u' :: cs => scalarEscape 4 cs
  | 'U' :: cs => scalarEscape 8 cs
  | _ => none

/-- The rest of a basic string; `seen` is what came before, last first. -/
def basicString : Nat → List Char → Reader String
  | 0, _, _ => none
  | fuel + 1, seen, cs =>
    match cs with
    | '"' :: cs => some (String.ofList seen.reverse, cs)
    | '\\' :: cs => do
      let (c, rest) ← escape cs
      basicString fuel (c :: seen) rest
    | c :: cs => if isBasicChar c then basicString fuel (c :: seen) cs else none
    | [] => none

def literalString (cs : List Char) : Option (String × List Char) :=
  let body := cs.takeWhile isLiteralChar
  match cs.drop body.length with
  | '\'' :: rest => some (String.ofList body, rest)
  | _ => none

/--
  A run of quotes inside a multi-line string: one or two stand for themselves, three end
  the string, and one or two more in front of those three belong to it.
-/
def quoteRun (quote : Char) (cs : List Char) : Nat × Bool × List Char :=
  let n := (cs.takeWhile (· = quote)).length
  if n ≤ 2 then (n, false, cs.drop n) else let own := min (n - 3) 2; (own, true, cs.drop (own + 3))

def basicLines : Nat → List Char → Reader String
  | 0, _, _ => none
  | fuel + 1, seen, cs =>
    match cs with
    | '"' :: _ =>
      let (n, ended, rest) := quoteRun '"' cs
      let seen := List.replicate n '"' ++ seen
      if ended then some (String.ofList seen.reverse, rest) else basicLines fuel seen rest
    | '\\' :: rest =>
      match afterNewline? (skipSpaces rest) with
      | some below => basicLines fuel seen (skipBlankLines (below.length + 1) below)
      | none => do
        let (c, rest) ← escape rest
        basicLines fuel (c :: seen) rest
    | c :: rest =>
      if isBasicChar c then basicLines fuel (c :: seen) rest
      else (afterNewline? cs).bind (basicLines fuel ('\n' :: seen))
    | [] => none

def literalLines : Nat → List Char → Reader String
  | 0, _, _ => none
  | fuel + 1, seen, cs =>
    match cs with
    | '\'' :: _ =>
      let (n, ended, rest) := quoteRun '\'' cs
      let seen := List.replicate n '\'' ++ seen
      if ended then some (String.ofList seen.reverse, rest) else literalLines fuel seen rest
    | c :: rest =>
      if isLiteralChar c then literalLines fuel (c :: seen) rest
      else (afterNewline? cs).bind (literalLines fuel ('\n' :: seen))
    | [] => none

/-- A string of any kind; a line end right after three opening quotes is not part of it. -/
def string (cs : List Char) : Option (String × List Char) :=
  let fuel := cs.length + 1
  match cs with
  | '"' :: '"' :: '"' :: cs => basicLines fuel [] ((afterNewline? cs).getD cs)
  | '"' :: cs => basicString fuel [] cs
  | '\'' :: '\'' :: '\'' :: cs => literalLines fuel [] ((afterNewline? cs).getD cs)
  | '\'' :: cs => literalString cs
  | _ => none

/-! ## Keys -/

def isBareKeyChar (c : Char) : Bool := c.isAlphanum || c = '-' || c = '_'

def keyPart (cs : List Char) : Option (String × List Char) :=
  match cs with
  | '"' :: cs => basicString (cs.length + 1) [] cs
  | '\'' :: cs => literalString cs
  | cs =>
    let bare := cs.takeWhile isBareKeyChar
    if bare.isEmpty then none else some (String.ofList bare, cs.drop bare.length)

/-- Parts with dots and blanks between them; `parts` bounds their number. -/
def key (parts : Nat) (cs : List Char) : Option (List String × List Char) :=
  match parts with
  | 0 => none
  | parts + 1 => do
    let (part, rest) ← keyPart (skipSpaces cs)
    match skipSpaces rest with
    | '.' :: rest => (key parts rest).map fun p => (part :: p.1, p.2)
    | rest => some ([part], rest)

/-! ## Numbers -/

/-- Digits of the kind `p` with single underscores between them, the underscores left out. -/
def digitRun (p : Char → Bool) (cs : List Char) : Option (List Char × List Char) :=
  let run := cs.takeWhile fun c => p c || c = '_'
  let parts := cutAll '_' run
  if parts.all fun part => !part.isEmpty then some (parts.flatten, cs.drop run.length) else none

def isOctalDigit (c : Char) : Bool := '0' ≤ c && c ≤ '7'

def isBinaryDigit (c : Char) : Bool := c = '0' || c = '1'

def radixInt (radix : Nat) (p : Char → Bool) (cs : List Char) : Option (Document × List Char) := do
  let (ds, rest) ← digitRun p cs
  let n ← ds.foldlM (fun n c => (hexValue? c).map (radix * n + ·)) 0
  if n < pow2 63 then some (int n, rest) else none

/-- A decimal integer part: one zero, or a run that does not start with one. -/
def wholePart : Reader (List Char)
  | '0' :: cs => some (['0'], cs)
  | cs => digitRun Char.isDigit cs

/-- A decimal integer, or a double if a fraction or an exponent follows. -/
def decimal (cs : List Char) : Option (Document × List Char) := do
  let (negative, cs) := signed cs
  let (whole, rest) ← wholePart cs
  let (places, rest) ← match rest with
    | '.' :: rest => (digitRun Char.isDigit rest).map fun p => (some p.1, p.2)
    | rest => some (none, rest)
  let (exponent, rest) ← match rest with
    | c :: rest =>
      if c = 'e' ∨ c = 'E' then
        let (below, rest) := signed rest
        do
          let (ds, rest) ← digitRun Char.isDigit rest
          let n ← readDigits ds
          some (some (if below then -(n : Int) else n), rest)
      else some (none, c :: rest)
    | [] => some (none, [])
  let digits ← readDigits (whole ++ places.getD [])
  if places.isNone ∧ exponent.isNone then
    let i : Int := if negative then -(digits : Int) else digits
    if -(pow2 63 : Int) ≤ i ∧ i < pow2 63 then some (int i, rest) else none
  else
    match Binary64.ofDecimal negative digits (exponent.getD 0 - (places.getD []).length) with
    | .infinite false => none
    | x => some (real x, rest)

def special (cs : List Char) : Option (Document × List Char) :=
  match signed cs with
  | (s, 'i' :: 'n' :: 'f' :: rest) => some (real (.infinite s), rest)
  | (_, 'n' :: 'a' :: 'n' :: rest) => some (real .nan, rest)
  | _ => none

def number (cs : List Char) : Option (Document × List Char) :=
  match cs with
  | '0' :: 'x' :: cs => radixInt 16 (fun c => (hexValue? c).isSome) cs
  | '0' :: 'o' :: cs => radixInt 8 isOctalDigit cs
  | '0' :: 'b' :: cs => radixInt 2 isBinaryDigit cs
  | cs => (special cs).orElse fun _ => decimal cs

/-! ## Dates and times -/

/-- A number of exactly `width` digits between two bounds. -/
def field (width low high : Nat) (cs : List Char) : Option (Nat × List Char) := do
  if (cs.take width).length ≠ width then none
  let n ← readDigits (cs.take width)
  if low ≤ n ∧ n ≤ high then some (n, cs.drop width) else none

def expect (c : Char) : List Char → Option (List Char)
  | d :: cs => if c = d then some cs else none
  | [] => none

def isLeapYear (y : Nat) : Bool := y % 4 = 0 && (y % 100 ≠ 0 || y % 400 = 0)

def daysInMonth (y m : Nat) : Nat :=
  if m = 2 then if isLeapYear y then 29 else 28 else if m = 4 ∨ m = 6 ∨ m = 9 ∨ m = 11 then 30 else 31

def date (cs : List Char) : Option (List Char) := do
  let (y, cs) ← field 4 0 9999 cs
  let (m, cs) ← field 2 1 12 (← expect '-' cs)
  let (_, cs) ← field 2 1 (daysInMonth y m) (← expect '-' cs)
  return cs

/-- A time of day; sixty is a second of its own, and a fraction may follow. -/
def timeOfDay (cs : List Char) : Option (List Char) := do
  let (_, cs) ← field 2 0 23 cs
  let (_, cs) ← field 2 0 59 (← expect ':' cs)
  let (_, cs) ← field 2 0 60 (← expect ':' cs)
  match cs with
  | '.' :: cs =>
    let places := cs.takeWhile Char.isDigit
    if places.isEmpty then none else some (cs.drop places.length)
  | cs => some cs

def offset (cs : List Char) : Option (List Char) :=
  match cs with
  | [] => some []
  | c :: rest =>
    if c = 'Z' ∨ c = 'z' then some rest
    else if c = '+' ∨ c = '-' then do
      let (_, rest) ← field 2 0 23 rest
      let (_, rest) ← field 2 0 59 (← expect ':' rest)
      return rest
    else some cs

/-- A date, a date and time, or a time of day: what follows it. -/
def afterMoment? (cs : List Char) : Option (List Char) :=
  match date cs with
  | some (c :: rest) =>
    if c = 'T' ∨ c = 't' ∨ c = ' ' then
      match timeOfDay rest with
      | some rest => offset rest
      | none => some (c :: rest)
    else some (c :: rest)
  | some [] => some []
  | none => timeOfDay cs

def moment? (cs : List Char) : Option (Document × List Char) :=
  (afterMoment? cs).map fun rest => (moment (String.ofList (cs.take (cs.length - rest.length))), rest)

end ServiceHost.Document.Toml
