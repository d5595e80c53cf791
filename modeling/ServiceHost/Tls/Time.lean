/-
  ServiceHost.Tls.Time — points in time as certificates write them, in seconds since the
  epoch.

  A UTC time has two digits for the year, those below 50 after 2000, and may leave out
  the seconds; its zone is `Z` or an offset. A generalized time has four digits for the
  year, may have a fraction of one to three digits, which is cut off, and ends in `Z`.
-/

import ServiceHost.Tls.Der

namespace ServiceHost.Tls.Time

open ServiceHost.Text (Octets)

def isLeapYear (y : Nat) : Bool := y % 4 = 0 && (y % 100 ≠ 0 || y % 400 = 0)

def daysInMonth (y m : Nat) : Nat :=
  if m = 2 then if isLeapYear y then 29 else 28 else if m = 4 ∨ m = 6 ∨ m = 9 ∨ m = 11 then 30 else 31

/-- Days of the years before `y`, counted from year zero. -/
def daysBeforeYear (y : Nat) : Nat := 365 * y + (y + 3) / 4 - (y + 99) / 100 + (y + 399) / 400

def epochDay (y m d : Nat) : Int :=
  let before := (List.range (m - 1)).foldl (fun days i => days + daysInMonth y (i + 1)) 0
  ((daysBeforeYear y + before + d : Nat) : Int) - (daysBeforeYear 1970 + 1 : Nat)

/-- A calendar date with a time of day. -/
structure Clock where
  year : Nat
  month : Nat
  day : Nat
  hour : Nat
  minute : Nat
  second : Nat

def Clock.isValid (c : Clock) : Bool :=
  1 ≤ c.month && c.month ≤ 12 && 1 ≤ c.day && c.day ≤ daysInMonth c.year c.month &&
  c.hour ≤ 23 && c.minute ≤ 59 && c.second ≤ 59

def Clock.seconds (c : Clock) : Int :=
  epochDay c.year c.month c.day * 86400 + (c.hour * 3600 + c.minute * 60 + c.second : Nat)

def two : Octets → Option (Nat × Octets)
  | a :: b :: rest =>
    if 48 ≤ a ∧ a ≤ 57 ∧ 48 ≤ b ∧ b ≤ 57 then some ((a.toNat - 48) * 10 + (b.toNat - 48), rest) else none
  | _ => none

/-- Month to second after a year; seconds stand if two more characters do. -/
def afterYear (year : Nat) (bs : Octets) : Option (Clock × Octets) := do
  let (month, bs) ← two bs
  let (day, bs) ← two bs
  let (hour, bs) ← two bs
  let (minute, bs) ← two bs
  let (second, bs) ← if bs.length < 2 then some (0, bs) else two bs
  let c : Clock := { year, month, day, hour, minute, second }
  if c.isValid then some (c, bs) else none

def zone? : Octets → Option Int
  | [90] => some 0
  | sign :: rest => do
    let (h, rest) ← two rest
    let (m, rest) ← two rest
    if rest ≠ [] ∨ 25 < h ∨ 59 < m then none
    else if sign = 43 then some (h * 3600 + m * 60 : Nat)
    else if sign = 45 then if h = 0 then some (m * 60 : Nat) else some (-(h * 3600 + m * 60 : Nat))
    else none
  | [] => none

def ofUtc (bs : Octets) : Option Int := do
  let (y, bs) ← two bs
  let (c, bs) ← afterYear (if y < 50 then 2000 + y else 1900 + y) bs
  return c.seconds - (← zone? bs)

/-- What follows a fraction of one to three digits after a point. -/
def afterFraction? : Octets → Option Octets
  | 46 :: bs =>
    let digits := (bs.takeWhile fun b => 48 ≤ b ∧ b ≤ 57).length
    if 1 ≤ digits ∧ digits ≤ 3 then some (bs.drop digits) else none
  | bs => some bs

def ofGeneralized (bs : Octets) : Option Int := do
  let (hi, bs) ← two bs
  let (lo, bs) ← two bs
  let (c, bs) ← afterYear (hi * 100 + lo) bs
  match ← afterFraction? bs with
  | [90] => some c.seconds
  | _ => none

def read? (bs : Octets) : Option (Int × Octets) := do
  let (e, rest) ← Der.element? bs
  if e.tag = Der.Tag.utcTime then (ofUtc e.content).map (·, rest)
  else if e.tag = Der.Tag.generalizedTime then (ofGeneralized e.content).map (·, rest)
  else none

end ServiceHost.Tls.Time
