/-
  ServiceHost.Document.Json — JSON: reading a document, and writing one without spaces.

  An integer that fits neither a signed nor an unsigned 64-bit word is read as a double,
  and so is every number with a fraction, an exponent or a negative zero. Writing escapes
  quotes, backslashes and the characters below the space, and nothing else.
-/

import ServiceHost.Decimal.Reading
import ServiceHost.Decimal.Shortest
import ServiceHost.Document
import ServiceHost.Power

namespace ServiceHost.Document

open ServiceHost.Text ServiceHost.Decimal

/-! ## Writing -/

def jsonChar (c : Char) : List Char :=
  match c with
  | '"' => ['\\', '"']
  | '\\' => ['\\', '\\']
  | '\n' => ['\\', 'n']
  | '\r' => ['\\', 'r']
  | '\t' => ['\\', 't']
  | '\x08' => ['\\', 'b']
  | '\x0c' => ['\\', 'f']
  | c => if c.toNat < 0x20 then '\\' :: 'u' :: (hex 4 c.toNat).toList else [c]

def jsonString (s : String) : List Char := '"' :: (s.toList.flatMap jsonChar ++ ['"'])

def commaJoined : List (List Char) → List Char
  | [] => []
  | [p] => p
  | p :: ps => p ++ ',' :: commaJoined ps

mutual

def jsonChars : Document → List Char
  | null => "null".toList
  | bool b => (if b then "true" else "false").toList
  | int i => (toString i).toList
  | real x => x.text.toList
  | text s => jsonString s
  | moment s => jsonString s
  | list xs => '[' :: (commaJoined (itemChars xs) ++ [']'])
  | table es => '\x7b' :: (commaJoined (memberChars es) ++ ['\x7d'])

def itemChars : List Document → List (List Char)
  | [] => []
  | d :: ds => jsonChars d :: itemChars ds

def memberChars : List (String × Document) → List (List Char)
  | [] => []
  | (key, d) :: es => (jsonString key ++ ':' :: jsonChars d) :: memberChars es

end

def toJson (d : Document) : String := String.ofList d.jsonChars

mutual

def sortKeys : Document → Document
  | list xs => list (sortItems xs)
  | table es => table ((sortMembers es).mergeSort fun a b => decide (a.1 ≤ b.1))
  | d => d

def sortItems : List Document → List Document
  | [] => []
  | d :: ds => sortKeys d :: sortItems ds

def sortMembers : List (String × Document) → List (String × Document)
  | [] => []
  | (key, d) :: es => (key, sortKeys d) :: sortMembers es

end

/-! ## Reading -/

def skipJsonBlanks (cs : List Char) : List Char :=
  cs.dropWhile fun c => c = ' ' || c = '\n' || c = '\t' || c = '\r'

def hexUnit? : List Char → Option (Nat × List Char)
  | a :: b :: c :: d :: rest => do
    let n ← [a, b, c, d].foldlM (fun n c => (hexValue? c).map (16 * n + ·)) 0
    return (n, rest)
  | _ => none

/-- The character an escape names, and what follows it. -/
def jsonEscape : List Char → Option (Char × List Char)
  | '"' :: cs => some ('"', cs)
  | '\\' :: cs => some ('\\', cs)
  | '/' :: cs => some ('/', cs)
  | 'b' :: cs => some ('\x08', cs)
  | 'f' :: cs => some ('\x0c', cs)
  | 'n' :: cs => some ('\n', cs)
  | 'r' :: cs => some ('\r', cs)
  | 't' :: cs => some ('\t', cs)
  | 'u' :: cs => do
    let (n, rest) ← hexUnit? cs
    if n < 0xD800 ∨ 0xE000 ≤ n then return (Char.ofNat n, rest)
    else
      match rest with
      | '\\' :: 'u' :: rest =>
        let (low, rest) ← hexUnit? rest
        if n < 0xDC00 ∧ 0xDC00 ≤ low ∧ low < 0xE000 then
          return (Char.ofNat (0x10000 + (n - 0xD800) * 1024 + (low - 0xDC00)), rest)
        else none
      | _ => none
  | _ => none

/-- The rest of a string whose opening quote has been read; `seen` is what came before, last first. -/
def jsonText : Nat → List Char → List Char → Option (String × List Char)
  | 0, _, _ => none
  | _ + 1, _, [] => none
  | _ + 1, seen, '"' :: cs => some (String.ofList seen.reverse, cs)
  | fuel + 1, seen, '\\' :: cs => do
    let (c, rest) ← jsonEscape cs
    jsonText fuel (c :: seen) rest
  | fuel + 1, seen, c :: cs => if c.toNat < 0x20 then none else jsonText fuel (c :: seen) cs

/-- An integer part: one zero, or digits that do not start with one. -/
def isWholePart : List Char → Bool
  | ['0'] => true
  | c :: cs => c.isDigit && c ≠ '0' && cs.all Char.isDigit
  | [] => false

def ofJsonNumber (cs : List Char) : Option Document := do
  let (negative, ds) := match cs with
    | '-' :: ds => (true, ds)
    | ds => (false, ds)
  let whole := ds.takeWhile Char.isDigit
  if !isWholePart whole then none
  match ds.drop whole.length with
  | [] =>
    let n ← readDigits whole
    if negative then
      if n = 0 then return real (.zero true)
      else if n ≤ pow2 63 then return int (-n) else return real (.ofInt (-n))
    else if n < pow2 64 then return int n
    else return real (.ofNat n)
  | '.' :: [] => none
  | '.' :: c :: _ => if c.isDigit then decimal negative ds else none
  | _ => decimal negative ds
where
  decimal (negative : Bool) (ds : List Char) : Option Document := do
    if ds.getLast? = some '.' then none
    let (digits, scale) ← readDecimal ds
    match Binary64.ofDecimal negative digits scale with
    | .infinite _ => none
    | x => some (real x)

mutual

def jsonValue : Nat → List Char → Option (Document × List Char)
  | 0, _ => none
  | fuel + 1, cs =>
    match cs with
    | '"' :: cs => (jsonText (cs.length + 1) [] cs).map fun p => (text p.1, p.2)
    | '[' :: cs =>
      match skipJsonBlanks cs with
      | ']' :: rest => some (list [], rest)
      | cs => (jsonItems fuel cs).map fun p => (list p.1, p.2)
    | '{' :: cs =>
      match skipJsonBlanks cs with
      | '}' :: rest => some (table [], rest)
      | cs => (jsonMembers fuel cs).map fun p => (table p.1, p.2)
    | 't' :: 'r' :: 'u' :: 'e' :: rest => some (bool true, rest)
    | 'f' :: 'a' :: 'l' :: 's' :: 'e' :: rest => some (bool false, rest)
    | 'n' :: 'u' :: 'l' :: 'l' :: rest => some (null, rest)
    | cs =>
      let number := cs.takeWhile fun c => c.isDigit || c = '-' || c = '+' || c = '.' || c = 'e' || c = 'E'
      (ofJsonNumber number).map (·, cs.drop number.length)

def jsonItems : Nat → List Char → Option (List Document × List Char)
  | 0, _ => none
  | fuel + 1, cs => do
    let (d, cs) ← jsonValue fuel (skipJsonBlanks cs)
    match skipJsonBlanks cs with
    | ',' :: cs => (jsonItems fuel cs).map fun p => (d :: p.1, p.2)
    | ']' :: cs => some ([d], cs)
    | _ => none

def jsonMembers : Nat → List Char → Option (List (String × Document) × List Char)
  | 0, _ => none
  | fuel + 1, cs =>
    match skipJsonBlanks cs with
    | '"' :: cs => do
      let (key, cs) ← jsonText (cs.length + 1) [] cs
      match skipJsonBlanks cs with
      | ':' :: cs =>
        let (d, cs) ← jsonValue fuel (skipJsonBlanks cs)
        match skipJsonBlanks cs with
        | ',' :: cs => (jsonMembers fuel cs).map fun p => ((key, d) :: p.1, p.2)
        | '}' :: cs => some ([(key, d)], cs)
        | _ => none
      | _ => none
    | _ => none

end

/-- The document a JSON text holds, if it holds one and nothing else. -/
def ofJson? (s : String) : Option Document :=
  let cs := skipJsonBlanks s.toList
  match jsonValue (2 * cs.length + 2) cs with
  | some (d, rest) => if (skipJsonBlanks rest).isEmpty then some d else none
  | none => none

end ServiceHost.Document
