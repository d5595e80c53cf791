/-
  ServiceHost.Text.Numeral — decimal numerals: reading one within a bound, and writing
  one with a least number of digits.
-/

namespace ServiceHost.Text

def digit? (c : Char) : Option Nat := if c.isDigit then some (c.toNat - '0'.toNat) else none

/-- The number that a non-empty run of decimal digits denotes; leading zeros are allowed. -/
def readDigits (cs : List Char) : Option Nat :=
  if cs.isEmpty then none else cs.foldlM (fun n c => (digit? c).map (10 * n + ·)) 0

/-- An unsigned numeral with an optional plus sign, at most `max`. -/
def readUnsigned (max : Nat) (cs : List Char) : Option Nat := do
  let ds := match cs with
    | '+' :: ds => ds
    | ds => ds
  let n ← readDigits ds
  if n ≤ max then some n else none

/-- `n` in decimal, with zeros in front up to `width` digits. -/
def padded (width n : Nat) : String :=
  let t := toString n
  String.ofList (List.replicate (width - t.length) '0') ++ t

def hexDigit (n : Nat) : Char := if n < 10 then Char.ofNat (48 + n) else Char.ofNat (87 + n)

/-- `n` in lower-case hexadecimal, with zeros in front up to `width` digits. -/
def hex (width n : Nat) : String :=
  let ds := (Nat.toDigits 16 n)
  String.ofList (List.replicate (width - ds.length) '0' ++ ds)

def hexValue? (c : Char) : Option Nat :=
  if c.isDigit then some (c.toNat - 48)
  else if 'a' ≤ c ∧ c ≤ 'f' then some (c.toNat - 87)
  else if 'A' ≤ c ∧ c ≤ 'F' then some (c.toNat - 55)
  else none

end ServiceHost.Text
