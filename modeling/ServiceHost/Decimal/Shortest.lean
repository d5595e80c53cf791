/-
  ServiceHost.Decimal.Shortest — the fewest decimal digits that read back as a given
  double, and the positional text made of them.

  A double is the nearest one to every real of an interval (`Reach`), ends included
  when its mantissa is even. Of the decimal grids, from one digit on, the first that has
  a point in the interval gives the digits: the point nearer to the value, the upper one
  at equal distance.
-/

import ServiceHost.Decimal.Binary64

namespace ServiceHost.Decimal

/-- The reals that round to a value, over one common denominator. -/
structure Reach where
  low : Nat
  value : Nat
  high : Nat
  den : Nat
  closed : Bool

namespace Reach

/-- Below a power of two the neighbours are half as far apart as above it. -/
def ofFinite (m : Nat) (e : Int) : Reach :=
  let below := if m = pow2 52 ∧ Binary64.leastExponent < e then 1 else 2
  let up := (e - 2).toNat
  { low := (4 * m - below) * pow2 up, value := 4 * m * pow2 up, high := (4 * m + 2) * pow2 up,
    den := pow2 (2 - e).toNat, closed := m % 2 = 0 }

def holds (r : Reach) (d : Nat) (k : Int) : Bool :=
  let x := d * pow10 k.toNat * r.den
  let scale := pow10 (-k).toNat
  if r.closed then r.low * scale ≤ x && x ≤ r.high * scale else r.low * scale < x && x < r.high * scale

/-- The point of the grid `10 ^ k` chosen for the value, if the interval has one. -/
def pick? (r : Reach) (k : Int) : Option Nat :=
  let num := r.value * pow10 (-k).toNat
  let den := r.den * pow10 k.toNat
  let d := num / den
  let upper := r.holds (d + 1) k
  if r.holds d k then if upper && den ≤ 2 * (num % den) then some (d + 1) else some d
  else if upper then some (d + 1)
  else none

/-- The greatest `k` with `10 ^ k ≤ value`, for a positive value. -/
def floorLog10 (r : Reach) : Int :=
  let n := (Nat.toDigits 10 r.value).length
  let d := (Nat.toDigits 10 r.den).length
  let guess : Int := (n : Int) - d
  if r.den * pow10 guess.toNat ≤ r.value * pow10 (-guess).toNat then guess else guess - 1

end Reach

/-- The digits and scale of the shortest decimal for `m * 2 ^ e`; seventeen digits always do. -/
def shortest (m : Nat) (e : Int) : Nat × Int :=
  let r := Reach.ofFinite m e
  let top := r.floorLog10
  let hit := (List.range 17).findSome? fun (n : Nat) => (r.pick? (top - n)).map fun d => (d, top - (n : Int))
  hit.getD (0, 0)

/-- `digits * 10 ^ scale` in positional notation, with no needless zero. -/
def positional (digits : Nat) (scale : Int) : String :=
  let ds := Nat.toDigits 10 digits
  if 0 ≤ scale then String.ofList (ds ++ List.replicate scale.toNat '0')
  else
    let places := (-scale).toNat
    let ds := List.replicate (places + 1 - ds.length) '0' ++ ds
    let tail := ((ds.drop (ds.length - places)).reverse.dropWhile (· = '0')).reverse
    String.ofList (ds.take (ds.length - places) ++ if tail.isEmpty then [] else '.' :: tail)

/-- The text of a double: never an exponent, and no point in a whole number. -/
def Binary64.text : Binary64 → String
  | nan => "NaN"
  | infinite s => if s then "-inf" else "inf"
  | finite s m e =>
    let magnitude := if m = 0 then "0" else let (d, k) := shortest m e; positional d k
    if s then "-" ++ magnitude else magnitude

end ServiceHost.Decimal
