/-
  ServiceHost.Proofs.Tls.Countdown — the days left on a certificate as time passes, and the
  warnings about it.

  The days left depend on the whole seconds left alone, and are no fewer where these are no
  fewer (`daysLeft_mono`). Two cuts lead there: the clock is cut toward the epoch, the days
  toward the expiry. Neither turns an order around, on whatever side of its zero a time
  lies. So the days left never grow while time passes, never get fewer for a certificate
  that expires later, and are the distance but for less than a day (`counts_down`).

  A publication that warns is therefore followed by none that does not: of publications in
  the order of time those warn that come after the first that does (`warnings_publishAll`).
  The gauge shows the very count, since a count of days is small enough for a double
  (`units?_ofInt`).
-/

import ServiceHost.Proofs.Tls.Expiry

namespace ServiceHost

/-! ## Integers as doubles -/

theorem pow2_add (a b : Nat) : pow2 (a + b) = pow2 a * pow2 b := Nat.pow_add 2 a b

namespace Decimal.Binary64

theorem divToEven_one (n : Nat) : divToEven n 1 = n := by
  simp [divToEven, Nat.mod_one]

theorem floorLog2_one {n : Nat} (h : n ≠ 0) : floorLog2 n 1 = n.log2 := by
  have hself : pow2 n.log2 ≤ n := Nat.log2_self_le h
  have hone : Nat.log2 1 = 0 := rfl
  have hzero : pow2 0 = 1 := rfl
  simp [floorLog2, hone, hzero, hself]

theorem units?_ofInt {i : Int} (h : i.natAbs < pow2 53) : (ofInt i).units? = some (i * pow2 1074) := by
  by_cases hi : i = 0
  · subst hi
    rw [Int.zero_mul]
    rfl
  have hne : i.natAbs ≠ 0 := Int.natAbs_ne_zero.2 hi
  obtain ⟨k, hk⟩ : ∃ k, 52 = i.natAbs.log2 + k :=
    Nat.exists_eq_add_of_le (Nat.le_of_lt_succ ((Nat.log2_lt hne).2 h))
  have hexponent : max leastExponent (floorLog2 i.natAbs 1 - 52) = -(k : Int) := by
    rw [floorLog2_one hne, leastExponent]
    omega
  have hmantissa : i.natAbs * pow2 k < pow2 53 := by
    have hlt : i.natAbs < pow2 (i.natAbs.log2 + 1) := Nat.lt_log2_self
    calc i.natAbs * pow2 k < pow2 (i.natAbs.log2 + 1) * pow2 k := Nat.mul_lt_mul_of_pos_right hlt (pow2_pos k)
      _ = pow2 53 := by rw [← pow2_add, Nat.add_right_comm, ← hk]
  have hof : ofInt i = finite (i < 0) (i.natAbs * pow2 k) (-(k : Int)) := by
    have hone : 1 * pow2 (-(k : Int)).toNat = 1 := by rw [Int.toNat_neg_natCast]; rfl
    have hscaled : i.natAbs * pow2 (- -(k : Int)).toNat = i.natAbs * pow2 k := by rw [Int.neg_neg, Int.toNat_natCast]
    have hgreatest : ¬ greatestExponent < -(k : Int) := by
      rw [greatestExponent]
      omega
    simp only [ofInt, ofRatio, if_neg hne, hexponent, hone, hscaled, divToEven_one,
      if_neg (Nat.ne_of_lt hmantissa), if_neg hgreatest]
  have hshift : (-(k : Int) - leastExponent).toNat = 1074 - k := by
    rw [leastExponent]
    omega
  have hunits : i.natAbs * pow2 k * pow2 (1074 - k) = i.natAbs * pow2 1074 := by
    rw [Nat.mul_assoc, ← pow2_add, Nat.add_sub_of_le (by omega)]
  rw [hof, units?, hshift]
  simp only [← Int.natCast_mul, hunits]
  rw [Int.natCast_mul, ← Int.neg_mul]
  split
  · next hneg => rw [Int.ofNat_natAbs_of_nonpos (Int.le_of_lt (of_decide_eq_true hneg)), Int.neg_neg]
  · next hneg => rw [Int.natAbs_of_nonneg (Int.not_lt.1 fun h => hneg (decide_eq_true h))]

end Decimal.Binary64

namespace CertificateInfo

open Metrics (Publication)

variable {c c' : CertificateInfo} {now now' : Int}

/-! ## Days and seconds -/

theorem present_cut (now : Int) :
    (0 ≤ now → present now * nanosPerSecond ≤ now ∧ now < (present now + 1) * nanosPerSecond) ∧
      (now ≤ 0 → now ≤ present now * nanosPerSecond ∧ (present now - 1) * nanosPerSecond < now) := by
  rw [present, nanosPerSecond]
  split <;> omega

theorem present_mono (h : now ≤ now') : present now ≤ present now' := by
  rw [present, present, nanosPerSecond]
  split <;> split <;> omega

theorem daysLeft_mono (h : c.secondsLeft now ≤ c'.secondsLeft now') : c.daysLeft now ≤ c'.daysLeft now' := by
  rw [daysLeft_eq, daysLeft_eq, secondsPerDay]
  split <;> split <;> omega

theorem daysLeft_falls (c : CertificateInfo) (h : now ≤ now') : c.daysLeft now' ≤ c.daysLeft now := by
  have hpresent := present_mono h
  refine daysLeft_mono ?_
  rw [secondsLeft, secondsLeft]
  omega

/-- The days left are whole days of the distance, and it lacks less than one more. -/
theorem daysLeft_close (c : CertificateInfo) (now : Int) :
    (c.daysLeft now * secondsPerDay - c.secondsLeft now).natAbs < secondsPerDay.natAbs ∧
      (c.daysLeft now * secondsPerDay).natAbs ≤ (c.secondsLeft now).natAbs := by
  rw [daysLeft_eq, secondsPerDay]
  split <;> omega

/-! ## Publications -/

def soonEvent (c : CertificateInfo) (role : String) (now : Int) : Log.Event :=
  ⟨.warn, .metrics, "Certificate expires soon",
    [("subject", .bare c.subject), ("role", .text role), ("days", .int (c.daysLeft now))]⟩

def warnings (es : List Effect) : List Log.Event :=
  (Effect.events es).filter (·.message = "Certificate expires soon")

/-- Publishes a certificate at one time after the other. -/
def publishAll (c : CertificateInfo) (role : String) (sink : Log.Sink) : List Int → Run Unit
  | [] => pure ()
  | now :: times => do
    Publisher.gauges.publish now sink (.certExpiry c role)
    c.publishAll role sink times

theorem warnings_append (es es' : List Effect) : warnings (es ++ es') = warnings es ++ warnings es' := by
  rw [warnings, Effect.events, List.filterMap_append, List.filter_append]
  rfl

theorem warnings_publish (c : CertificateInfo) (role : String) (sink : Log.Sink) (now : Int) :
    warnings (Publisher.gauges.publish now sink (.certExpiry c role)).effects =
      if c.daysLeft now < Metrics.soon then [c.soonEvent role now] else [] := by
  by_cases h : c.daysLeft now < Metrics.soon <;>
    simp [Publisher.publish, Publication.warning?, warnings, Effect.events, soonEvent, h]

theorem warnings_publishAll (c : CertificateInfo) (role : String) (sink : Log.Sink) {times : List Int}
    (ht : times.Pairwise (· ≤ ·)) :
    warnings (c.publishAll role sink times).effects =
      (times.dropWhile fun now => Metrics.soon ≤ c.daysLeft now).map (c.soonEvent role) := by
  induction times with
  | nil => rfl
  | cons now times ih =>
    obtain ⟨hlater, hrest⟩ := List.pairwise_cons.1 ht
    rw [publishAll, Run.effects_bind, warnings_append, warnings_publish, ih hrest]
    by_cases hsoon : Metrics.soon ≤ c.daysLeft now
    · rw [if_neg (Int.not_lt.2 hsoon), List.dropWhile_cons_of_pos (by simpa using hsoon), List.nil_append]
    · -- from here on none is far enough from the expiry
      have hall : times.dropWhile (fun now => Metrics.soon ≤ c.daysLeft now) = times := by
        cases times with
        | nil => rfl
        | cons next times =>
          refine List.dropWhile_cons_of_neg ?_
          have hnext := c.daysLeft_falls (hlater next (.head _))
          simp only [decide_eq_true_eq]
          omega
      rw [if_pos (Int.not_le.1 hsoon), List.dropWhile_cons_of_neg (by simpa using hsoon), hall]
      rfl

variable (c) in
/-- What the days left on a certificate tell, at any times. -/
structure CountsDown : Prop where
  /-- The present is the clock in whole seconds, cut toward the epoch. -/
  clock : ∀ now, (0 ≤ now → present now * nanosPerSecond ≤ now ∧ now < (present now + 1) * nanosPerSecond) ∧
    (now ≤ 0 → now ≤ present now * nanosPerSecond ∧ (present now - 1) * nanosPerSecond < now)
  /-- As time passes the days left never grow. -/
  falls : ∀ now now', now ≤ now' → c.daysLeft now' ≤ c.daysLeft now
  /-- A certificate that does not expire earlier has no fewer. -/
  grows : ∀ (c' : CertificateInfo) now, c.notAfter ≤ c'.notAfter → c.daysLeft now ≤ c'.daysLeft now
  /-- They are less than a day off the whole seconds from the present to the expiry. -/
  close : ∀ now, (c.daysLeft now * secondsPerDay - (c.notAfter - present now)).natAbs < secondsPerDay.natAbs
  /-- And never beyond them. -/
  within : ∀ now, (c.daysLeft now * secondsPerDay).natAbs ≤ (c.notAfter - present now).natAbs
  /-- The gauge holds their very number, unless the seconds are too many for a word. -/
  gauge : ∀ now role, (c.notAfter - present now).natAbs ≤ pow2 63 →
    ((Publication.certExpiry c role).metric now).value.units? = some (c.daysLeft now * pow2 1074)
  /-- A publication after one that warns warns too. -/
  lasting : ∀ role role' sink sink' now now', now ≤ now' →
    c.soonEvent role now ∈ warnings (Publisher.gauges.publish now sink (.certExpiry c role)).effects →
    warnings (Publisher.gauges.publish now' sink' (.certExpiry c role')).effects = [c.soonEvent role' now']
  /-- Publications in the order of time warn from the first on that has fewer than thirty days left. -/
  onward : ∀ role sink (times : List Int), times.Pairwise (· ≤ ·) →
    warnings (c.publishAll role sink times).effects =
      (times.dropWhile fun now => Metrics.soon ≤ c.daysLeft now).map (c.soonEvent role)

/--
  The days left on a certificate follow its expiry whatever time it is, before the epoch or
  after it: they never grow as time passes, never get fewer for a later expiry, and are the
  distance in days but for less than one. Once a certificate is warned of it always is.
-/
theorem counts_down (c : CertificateInfo) : c.CountsDown := by
  constructor
  case clock => exact present_cut
  case falls => exact fun now now' => c.daysLeft_falls
  case grows =>
    intro c' now h
    refine daysLeft_mono ?_
    rw [secondsLeft, secondsLeft]
    omega
  case close => exact fun now => (c.daysLeft_close now).1
  case within => exact fun now => (c.daysLeft_close now).2
  case gauge =>
    intro now role hword
    refine Decimal.Binary64.units?_ofInt ?_
    have hdays := (c.daysLeft_close now).2
    have hlimits : pow2 63 < pow2 53 * 86400 := by decide
    rw [secondsLeft, secondsPerDay] at hdays
    omega
  case lasting =>
    intro role role' sink sink' now now' h hwarned
    have hsoon : c.daysLeft now < Metrics.soon := by
      rw [warnings_publish] at hwarned
      split at hwarned
      · assumption
      · cases hwarned
    rw [warnings_publish, if_pos (Int.lt_of_le_of_lt (c.daysLeft_falls h) hsoon)]
  case onward => exact fun role sink times => c.warnings_publishAll role sink

end CertificateInfo

end ServiceHost
