/-
  ServiceHost.Proofs.Text.Uptime — the uptime form tells the whole seconds of a span.

  A text in uptime form is a run of numerals, each with the mark of its unit behind it
  (`Marked`). As no mark is a digit, such a text can be taken apart in one way only, with
  whatever marks and however many numerals. What is found is one of three shapes (`Uptime`):
  hours, minutes and seconds, or without the hours, or the seconds alone.

  Of the shapes in which minutes and seconds stay below sixty, and the unit in front is not
  zero, there is one for every number of seconds (`ofSecs_secs`); this one is written. So a
  text tells the whole seconds, and only these (`uptime_told`).
-/

import ServiceHost.Power
import ServiceHost.Proofs.Text.Numeral
import ServiceHost.Text.Duration

namespace ServiceHost.Text

/-! ## Numerals with marks -/

/-- A text of numerals, with a mark behind each. -/
inductive Marked : List Char → List (Nat × Char) → Prop
  | nil : Marked [] []
  | cons {ds cs : List Char} {n : Nat} {mark : Char} {units : List (Nat × Char)} :
      readDigits ds = some n → mark.isDigit = false → Marked cs units →
        Marked (ds ++ mark :: cs) ((n, mark) :: units)

theorem numeral_unique {ds es cs bs : List Char} {c b : Char} (hds : ∀ d ∈ ds, d.isDigit = true)
    (hes : ∀ d ∈ es, d.isDigit = true) (hc : c.isDigit = false) (hb : b.isDigit = false)
    (h : ds ++ c :: cs = es ++ b :: bs) : ds = es ∧ c = b ∧ cs = bs := by
  have hrun : ds = es := by
    rw [← takeWhile_append_lacks hds (lacksFirst_cons.2 hc : LacksFirst Char.isDigit (c :: cs)), h,
      takeWhile_append_lacks hes (lacksFirst_cons.2 hb)]
  subst hrun
  exact ⟨rfl, List.cons.inj (List.append_cancel_left h)⟩

theorem Marked.unique {cs : List Char} {us vs : List (Nat × Char)} (hu : Marked cs us) (hv : Marked cs vs) :
    us = vs := by
  induction hu generalizing vs with
  | nil =>
    generalize htext : ([] : List Char) = text at hv
    cases hv with
    | nil => rfl
    | cons => simp at htext
  | @cons ds cs n mark us hds hmark _ ih =>
    -- where its first numeral ends cannot be read off the text's form, so the text gets a name
    generalize htext : ds ++ mark :: cs = text at hv
    cases hv with
    | nil => simp at htext
    | @cons es bs m other vs hes hother hv =>
      obtain ⟨rfl, rfl, rfl⟩ :=
        numeral_unique (isDigit_of_readDigits hds) (isDigit_of_readDigits hes) hmark hother htext
      obtain rfl : n = m := Option.some.inj (hds.symm.trans hes)
      rw [ih hv]

/-! ## Units -/

inductive Uptime where
  | hours (hours minutes seconds : Nat)
  | minutes (minutes seconds : Nat)
  | seconds (seconds : Nat)

namespace Uptime

def secs : Uptime → Nat
  | hours h m s => h * 3600 + m * 60 + s
  | minutes m s => m * 60 + s
  | seconds s => s

/-- Minutes and seconds stay below sixty, and the unit in front is not zero, unless it stands alone. -/
def IsProper : Uptime → Prop
  | hours h m s => 0 < h ∧ m < 60 ∧ s < 60
  | minutes m s => 0 < m ∧ m < 60 ∧ s < 60
  | seconds s => s < 60

/-- The numerals with the marks that they are written with. -/
def units : Uptime → List (Nat × Char)
  | hours h m s => [(h, 'h'), (m, 'm'), (s, 's')]
  | minutes m s => [(m, 'm'), (s, 's')]
  | seconds s => [(s, 's')]

theorem units_inj {u v : Uptime} (h : u.units = v.units) : u = v := by
  cases u <;> cases v <;> simp_all [units]

def ofSecs (n : Nat) : Uptime :=
  if 0 < n / 3600 then hours (n / 3600) (n % 3600 / 60) (n % 60)
  else if 0 < n % 3600 / 60 then minutes (n % 3600 / 60) (n % 60)
  else seconds (n % 60)

theorem ofSecs_proper (n : Nat) : (ofSecs n).IsProper := by
  have hminutes : n % 3600 / 60 < 60 := by omega
  have hseconds : n % 60 < 60 := by omega
  unfold ofSecs
  split
  · exact ⟨‹_›, hminutes, hseconds⟩
  · split
    · exact ⟨‹_›, hminutes, hseconds⟩
    · exact hseconds

theorem secs_ofSecs (n : Nat) : (ofSecs n).secs = n := by
  unfold ofSecs
  split
  · simp only [secs]
    omega
  · split
    · simp only [secs]
      omega
    · simp only [secs]
      omega

theorem ofSecs_secs {u : Uptime} (h : u.IsProper) : ofSecs u.secs = u := by
  cases u with
  | hours h m s =>
    obtain ⟨hh, hm, hs⟩ := h
    have hhours : (h * 3600 + m * 60 + s) / 3600 = h := by omega
    have hminutes : (h * 3600 + m * 60 + s) % 3600 / 60 = m := by omega
    have hseconds : (h * 3600 + m * 60 + s) % 60 = s := by omega
    rw [secs, ofSecs, hhours, hminutes, hseconds, if_pos hh]
  | minutes m s =>
    obtain ⟨hm0, hm, hs⟩ := h
    have hhours : (m * 60 + s) / 3600 = 0 := by omega
    have hminutes : (m * 60 + s) % 3600 / 60 = m := by omega
    have hseconds : (m * 60 + s) % 60 = s := by omega
    rw [secs, ofSecs, hhours, hminutes, hseconds, if_neg (Nat.lt_irrefl 0), if_pos hm0]
  | seconds s =>
    have hs : s < 60 := h
    have hhours : s / 3600 = 0 := by omega
    have hminutes : s % 3600 / 60 = 0 := by omega
    have hseconds : s % 60 = s := by omega
    rw [secs, ofSecs, hhours, hminutes, hseconds, if_neg (Nat.lt_irrefl 0), if_neg (Nat.lt_irrefl 0)]

end Uptime

/-! ## The uptime form -/

theorem marked_cons (n : Nat) {mark : Char} (hmark : mark.isDigit = false) {cs : List Char} {units : List (Nat × Char)}
    (h : Marked cs units) : Marked (Nat.toDigits 10 n ++ mark :: cs) ((n, mark) :: units) :=
  .cons (readDigits_toDigits n) hmark h

theorem uptimeText_marked (n : Nat) : Marked (uptimeText n).toList (Uptime.ofSecs n).units := by
  have hseconds : Marked (Nat.toDigits 10 (n % 60) ++ ['s']) [(n % 60, 's')] := marked_cons _ rfl .nil
  have hminutes := marked_cons (n % 3600 / 60) (rfl : 'm'.isDigit = false) hseconds
  have hhours := marked_cons (n / 3600) (rfl : 'h'.isDigit = false) hminutes
  unfold uptimeText Uptime.ofSecs
  by_cases hh : 0 < n / 3600
  · simpa [hh, Uptime.units] using hhours
  · by_cases hm : 0 < n % 3600 / 60
    · simpa [hh, hm, Uptime.units] using hminutes
    · simpa [hh, hm, Uptime.units] using hseconds

theorem uptimeText_inj {m n : Nat} (h : uptimeText m = uptimeText n) : m = n := by
  have hunits : (Uptime.ofSecs m).units = (Uptime.ofSecs n).units :=
    (uptimeText_marked m).unique (h ▸ uptimeText_marked n)
  rw [← Uptime.secs_ofSecs m, Uptime.units_inj hunits, Uptime.secs_ofSecs]

/-- How a text tells a number of seconds, as an uptime. -/
structure TellsSecs (text : String) (secs : Nat) (u : Uptime) : Prop where
  proper : u.IsProper
  secs_eq : u.secs = secs
  /-- It can be taken apart into the units of this uptime, and into no others. -/
  marked_iff : ∀ units, Marked text.toList units ↔ units = u.units
  /-- No other uptime of so many seconds is proper. -/
  only : ∀ v : Uptime, v.IsProper → v.secs = secs → v = u

theorem uptimeText_tells (n : Nat) : TellsSecs (uptimeText n) n (.ofSecs n) where
  proper := Uptime.ofSecs_proper n
  secs_eq := Uptime.secs_ofSecs n
  marked_iff units := ⟨fun h => h.unique (uptimeText_marked n), fun h => h ▸ uptimeText_marked n⟩
  only v hv hsecs := by rw [← hsecs, Uptime.ofSecs_secs hv]

def wholeSecs (nanos : Nat) : Nat := nanos / pow10 9

/-- The uptime form of a span tells its whole seconds, and is that of another one just if these are the same. -/
theorem uptime_told (nanos : Nat) :
    (∃ u, TellsSecs (uptimeText (wholeSecs nanos)) (wholeSecs nanos) u) ∧
      ∀ other, uptimeText (wholeSecs nanos) = uptimeText (wholeSecs other) ↔ wholeSecs nanos = wholeSecs other := by
  constructor
  · exact ⟨_, uptimeText_tells (wholeSecs nanos)⟩
  · intro other
    exact ⟨uptimeText_inj, congrArg uptimeText⟩

/-- Minutes are written behind hours also when they are zero. -/
example : uptimeText 3605 = "1h0m5s" := by decide

end ServiceHost.Text
