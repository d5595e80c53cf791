/-
  ServiceHost.Decimal.Reading — the double a numeral denotes.

  A numeral is an optional sign before `inf`, `infinity` or `nan` in any case, or before
  digits with an optional point among or beside them and an optional exponent; at least
  one digit stands beside the point.
-/

import ServiceHost.Decimal.Binary64
import ServiceHost.Text.Cut
import ServiceHost.Text.Numeral

namespace ServiceHost.Decimal

open ServiceHost.Text

def signed : List Char → Bool × List Char
  | '-' :: cs => (true, cs)
  | '+' :: cs => (false, cs)
  | cs => (false, cs)

def readExponent (cs : List Char) : Option Int :=
  let (negative, ds) := signed cs
  (readDigits ds).map fun n => if negative then -(n : Int) else n

def readDecimal (cs : List Char) : Option (Nat × Int) := do
  let mantissa := cs.takeWhile fun c => c ≠ 'e' && c ≠ 'E'
  let exponent ← match cs.drop mantissa.length with
    | [] => some 0
    | _ :: rest => readExponent rest
  let (whole, places) := (cutFirst '.' mantissa).getD (mantissa, [])
  let digits ← readDigits (whole ++ places)
  return (digits, exponent - places.length)

def read64 (s : String) : Option Binary64 :=
  let (negative, cs) := signed s.toList
  match String.ofList (cs.map Char.toLower) with
  | "inf" => some (.infinite negative)
  | "infinity" => some (.infinite negative)
  | "nan" => some .nan
  | _ => (readDecimal cs).map fun d => .ofDecimal negative d.1 d.2

end ServiceHost.Decimal
