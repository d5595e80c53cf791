/-
  ServiceHost.Decimal.Binary64 — the double-precision numbers as exact values: a sign, a
  mantissa and a power of two, so that order and rounding are questions about integers.

  A finite value has one form: the mantissa has 53 binary digits, or the exponent is the
  least one. `ofRatio` takes a quotient to the nearest value, a tie to the even mantissa.
-/

import ServiceHost.Power

namespace ServiceHost.Decimal

inductive Binary64 where
  | nan
  | infinite (negative : Bool)
  | finite (negative : Bool) (mantissa : Nat) (exponent : Int)
  deriving DecidableEq, Repr, Inhabited

namespace Binary64

def leastExponent : Int := -1074

def greatestExponent : Int := 971

def zero (negative : Bool) : Binary64 := finite negative 0 leastExponent

/-- A quotient of naturals, cut to an integer with a half going to the even one. -/
def divToEven (num den : Nat) : Nat :=
  let q := num / den
  let r := num % den
  if den < 2 * r ∨ (den = 2 * r ∧ q % 2 = 1) then q + 1 else q

/-- The greatest `l` with `2 ^ l ≤ num / den`, for positive arguments. -/
def floorLog2 (num den : Nat) : Int :=
  let guess : Int := (num.log2 : Int) - den.log2
  if den * pow2 guess.toNat ≤ num * pow2 (-guess).toNat then guess else guess - 1

def ofRatio (negative : Bool) (num den : Nat) : Binary64 :=
  if num = 0 then zero negative
  else
    let e := max leastExponent (floorLog2 num den - 52)
    let m := divToEven (num * pow2 (-e).toNat) (den * pow2 e.toNat)
    let (m, e) := if m = pow2 53 then (pow2 52, e + 1) else (m, e)
    if greatestExponent < e then infinite negative else finite negative m e

def ofInt (i : Int) : Binary64 := ofRatio (i < 0) i.natAbs 1

def ofNat (n : Nat) : Binary64 := ofRatio false n 1

def ofBillionths (n : Nat) : Binary64 := ofRatio false n (pow10 9)

/-- The value nearest to `digits * 10 ^ scale`; scales far out of range are not computed. -/
def ofDecimal (negative : Bool) (digits : Nat) (scale : Int) : Binary64 :=
  let top : Int := scale + (Nat.toDigits 10 digits).length
  if digits = 0 ∨ top < -330 then zero negative
  else if 320 < top then infinite negative
  else ofRatio negative (digits * pow10 scale.toNat) (pow10 (-scale).toNat)

/-- A finite value in units of the least positive one. -/
def units? : Binary64 → Option Int
  | finite s m e => let n : Int := m * pow2 (e - leastExponent).toNat; some (if s then -n else n)
  | _ => none

/-- The order of the numbers; nothing compares with `nan`. -/
def lt (x y : Binary64) : Bool :=
  match x, y with
  | nan, _ => false
  | _, nan => false
  | infinite s, infinite t => s && !t
  | infinite s, finite .. => s
  | finite .., infinite t => !t
  | finite .., finite .. =>
    match x.units?, y.units? with
    | some a, some b => a < b
    | _, _ => false

def le (x y : Binary64) : Bool :=
  match x, y with
  | nan, _ => false
  | _, nan => false
  | _, _ => !lt y x

def one : Binary64 := finite false (pow2 52) (-52)

/-- Strictly above zero and at most one. -/
def isFraction (x : Binary64) : Bool := lt (zero false) x && le x one

example : nan.isFraction = false ∧ one.isFraction = true := by decide +kernel

end ServiceHost.Decimal.Binary64
