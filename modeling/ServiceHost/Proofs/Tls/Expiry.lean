/-
  ServiceHost.Proofs.Tls.Expiry — the days left on a certificate, and what is told of one
  that has expired.

  A certificate has expired when its last second lies before the present one
  (`CertificateInfo.HasExpired`); the present is a number of whole seconds, on its side of
  the epoch (`CertificateInfo.present`). The days left are whole ones on either side of the
  expiry (`daysLeft_eq`): a day that is not over does not count, neither before the expiry
  nor after it. So the count turns negative a whole day after the expiry
  (`told_of_expiry`), and until then a certificate that has expired is told like one that
  is about to (`expired_unsaid`).
-/

import ServiceHost.Publisher

namespace ServiceHost

namespace CertificateInfo

/-! ## Seconds and days -/

/-- Whole seconds from the epoch, on the side on which a time lies. -/
def present (now : Int) : Int := if 0 ≤ now then now / nanosPerSecond else -(-now / nanosPerSecond)

/-- The last second of the certificate lies before the present one. -/
def HasExpired (c : CertificateInfo) (now : Int) : Prop := c.notAfter < present now

def secondsLeft (c : CertificateInfo) (now : Int) : Int := c.notAfter - present now

variable {c : CertificateInfo} {now : Int}

theorem hasExpired_iff : c.HasExpired now ↔ c.secondsLeft now < 0 := by
  rw [HasExpired, secondsLeft]
  omega

theorem tdiv_eq_ite (a b : Int) : Int.tdiv a b = if 0 ≤ a then a / b else -(-a / b) := by
  split
  · next ha => exact Int.tdiv_eq_ediv_of_nonneg ha
  · next ha => rw [← Int.tdiv_eq_ediv_of_nonneg (by omega : 0 ≤ -a), Int.neg_tdiv, Int.neg_neg]

/-- The days left are the whole days up to the expiry, or those since then. -/
theorem daysLeft_eq (c : CertificateInfo) (now : Int) :
    c.daysLeft now =
      if 0 ≤ c.secondsLeft now then c.secondsLeft now / secondsPerDay else -(-c.secondsLeft now / secondsPerDay) := by
  rw [daysLeft, tdiv_eq_ite now, ← present, ← secondsLeft, tdiv_eq_ite]

/-- Only a whole day after the expiry makes the count negative. -/
theorem daysLeft_neg_iff : c.daysLeft now < 0 ↔ c.secondsLeft now ≤ -secondsPerDay := by
  rw [daysLeft_eq, secondsPerDay]
  split <;> omega

theorem daysLeft_eq_zero_iff :
    c.daysLeft now = 0 ↔ -secondsPerDay < c.secondsLeft now ∧ c.secondsLeft now < secondsPerDay := by
  rw [daysLeft_eq, secondsPerDay]
  split <;> omega

/-! ## What is told of the expiry -/

open Metrics (Publication)

/-- A certificate with fewer than thirty days left is warned of, and so is one that has expired. -/
theorem warning?_of_expired (h : c.HasExpired now) (role : String) :
    (Publication.certExpiry c role).warning? now =
      some ⟨.warn, .metrics, "Certificate expires soon",
        [("subject", .bare c.subject), ("role", .text role), ("days", .int (c.daysLeft now))]⟩ := by
  refine if_pos ?_
  have hleft := hasExpired_iff.1 h
  rw [daysLeft_eq, if_neg (by omega), secondsPerDay, Metrics.soon]
  omega

variable (c now) in
/-- What is told at a time of a certificate that expires. -/
structure Expiry : Prop where
  /-- A count that is negative is that of a certificate that has expired, and a whole day ago. -/
  overdue : c.daysLeft now < 0 ↔ c.HasExpired now ∧ secondsPerDay ≤ present now - c.notAfter
  /-- It counts the days since then. -/
  since : c.HasExpired now → c.daysLeft now = -((present now - c.notAfter) / secondsPerDay)
  /-- As long as a certificate has not expired, the days up to then are counted. -/
  ahead : ¬ c.HasExpired now → c.daysLeft now = (c.notAfter - present now) / secondsPerDay ∧ 0 ≤ c.daysLeft now
  /-- One that has expired is not told as such in its first day, and only then. -/
  unsaid : c.HasExpired now ∧ ¬ c.daysLeft now < 0 ↔
    0 < present now - c.notAfter ∧ present now - c.notAfter < secondsPerDay
  /-- Then the gauge is set to zero, as on the last day before the expiry. -/
  gauge : c.HasExpired now → ¬ c.daysLeft now < 0 → ∀ role,
    ((Publication.certExpiry c role).metric now).value = .ofInt 0
  /-- But it is warned of. -/
  warned : c.HasExpired now → ∀ role, (Publication.certExpiry c role).warning? now =
    some ⟨.warn, .metrics, "Certificate expires soon",
      [("subject", .bare c.subject), ("role", .text role), ("days", .int (c.daysLeft now))]⟩

/--
  Whenever a certificate expires and whatever time it is, before the epoch or after it, the
  days left are negative if and only if it expired a whole day ago or earlier. So what has
  expired is told as such except in the first day.
-/
theorem told_of_expiry (c : CertificateInfo) (now : Int) : c.Expiry now := by
  have hleft : c.secondsLeft now = c.notAfter - present now := rfl
  constructor
  case overdue =>
    rw [daysLeft_neg_iff, hasExpired_iff, secondsPerDay]
    omega
  case since =>
    intro h
    have hneg := hasExpired_iff.1 h
    rw [daysLeft_eq, if_neg (by omega), hleft, Int.neg_sub]
  case ahead =>
    intro h
    have hnonneg : 0 ≤ c.secondsLeft now := Int.not_lt.1 fun hneg => h (hasExpired_iff.2 hneg)
    rw [daysLeft_eq, if_pos hnonneg, secondsPerDay]
    exact ⟨rfl, by omega⟩
  case unsaid =>
    rw [daysLeft_neg_iff, hasExpired_iff, secondsPerDay]
    omega
  case gauge =>
    intro h hsign role
    have hneg := hasExpired_iff.1 h
    rw [daysLeft_neg_iff, secondsPerDay] at hsign
    have hzero : c.daysLeft now = 0 := by
      rw [daysLeft_eq_zero_iff, secondsPerDay]
      omega
    rw [Publication.metric, hzero]
  case warned => exact warning?_of_expired

def fleeting : CertificateInfo :=
  { subject := "CN=x", commonName := some "x", organizationalUnit := none, notAfter := 0 }

/-- One second after its expiry the certificate counts as having no days left, and not as expired. -/
theorem expired_unsaid : fleeting.HasExpired nanosPerSecond ∧ fleeting.daysLeft nanosPerSecond = 0 := by
  unfold HasExpired
  decide

end CertificateInfo

end ServiceHost
