/-
  ServiceHost.Proofs.Signal — no line misses the stop signal, and none hears it too early.

  Every receiver belongs to a listener, which begins waits on it and gives them up when
  something else comes first, as a loop does between two ticks. The waits go on in steps
  (`Signal.turn`), with whatever the coordinator and other listeners do between any two of
  them (`Audience.step`). The coordinator wakes those that sleep when it sets the value and
  when it goes. Steps in a row are a wait on the receiver (`run_alone`).

  The value can be set just after a listener has looked at it. Then it does not sleep: there
  is a version that it has not seen (`Wait.Fits`). It can also be set before a receiver was
  handed out, or cloned from one that has seen it. Then there is nothing newer to ask for
  (`asking_late`), but a wait looks at the value first. So nobody sleeps once the signal has
  fired, and two more turns of its own end a wait (`run_ended`), while no wait is over before
  (`heeded`).
-/

import Mathlib.Data.List.Basic
import ServiceHost.Signal

namespace ServiceHost

/-! ## Waits -/

namespace Signal

/-- Nothing but the signal decides whether a wait ends: not what its receiver has seen. -/
theorem recv_eq (s : Signal) (r : Receiver) : s.recv r = (⟨r.id, s.version⟩, s.hasFired) := by
  cases ht : s.triggered <;> cases hd : s.dropped <;> simp [recv, turn, hasFired, ht, hd]

@[simp] theorem id_turn (s : Signal) (r : Receiver) (w : Wait) : (s.turn r w).1.id = r.id := by
  cases w with
  | asking =>
    rw [turn]
    split <;> rfl
  | looking | asleep | ended => rfl

theorem seen_turn_le {s : Signal} {r : Receiver} (h : r.seen ≤ s.version) (w : Wait) :
    (s.turn r w).1.seen ≤ s.version := by
  cases w with
  | looking => exact Nat.le_refl _
  | asking =>
    rw [turn]
    split
    · exact Nat.le_refl _
    · exact h
  | asleep | ended => exact h

/-- A receiver from the coordinator has seen the value, set or not: if it only asked for a newer one, it would sleep. -/
theorem asking_late {s t : Signal} {r : Receiver} (h : s.subscribe = some (t, r)) :
    t.turn r .asking = (r, .asleep) := by
  rw [subscribe] at h
  split at h
  · cases h
  · next hd =>
    obtain ⟨rfl, rfl⟩ := Prod.mk.inj (Option.some.inj h)
    simp [turn, hd]

end Signal

namespace Wait

def wake : Wait → Wait
  | asleep => asking
  | w => w

variable {s : Signal} {r : Receiver} {w : Wait}

/-- What a wait on a receiver that has come so far says of the signal. -/
def Fits (s : Signal) (r : Receiver) : Wait → Prop
  | looking => True
  | asking => s.triggered = true → r.seen ≠ s.version
  | asleep => s.hasFired = false
  | ended => s.hasFired = true

theorem Fits.turn (h : w.Fits s r) : (s.turn r w).2.Fits s (s.turn r w).1 := by
  cases w with
  | looking =>
    cases ht : s.triggered <;> simp [Signal.turn, Fits, Signal.hasFired, ht]
  | asking =>
    by_cases hseen : r.seen = s.version
    · -- it has looked at the value that there still is, so this is not set
      have ht : s.triggered = false := Bool.eq_false_iff.2 fun ht => h ht hseen
      cases hd : s.dropped <;> simp [Signal.turn, Fits, Signal.hasFired, hseen, ht, hd]
    · simp [Signal.turn, Fits, hseen]
  | asleep | ended => exact h

theorem Fits.trigger (h : w.Fits s r) (hseen : r.seen ≤ s.version) : w.wake.Fits s.trigger r := by
  have hnews : r.seen ≠ s.trigger.version := Nat.ne_of_lt (Nat.lt_succ_of_le hseen)
  cases w with
  | looking => trivial
  | asking | asleep => exact fun _ => hnews
  | ended => rfl

theorem Fits.drop (h : w.Fits s r) : w.wake.Fits s.drop r := by
  cases w with
  | looking => trivial
  | asking => exact h
  | asleep =>
    intro ht
    have hfired : s.triggered = false := (Bool.or_eq_false_iff.1 h).1
    exact absurd ht (by simp [Signal.drop, hfired])
  | ended => simp [wake, Fits, Signal.hasFired, Signal.drop]

/-- How many turns a wait takes to its end, at most, once the signal has fired. -/
def due (s : Signal) : Wait → Nat
  | looking => if s.triggered then 1 else 2
  | asking => if s.triggered then 2 else 1
  | asleep | ended => 0

theorem due_congr {t : Signal} (h : t.triggered = s.triggered) (w : Wait) : w.due t = w.due s := by
  cases w <;> simp [due, h]

theorem due_le_two (s : Signal) (w : Wait) : w.due s ≤ 2 := by
  cases w <;> cases ht : s.triggered <;> simp [due, ht]

/-- Once the signal has fired, a turn is one of those that a wait takes. -/
theorem due_turn (h : w.Fits s r) (hseen : r.seen ≤ s.version) (hfired : s.hasFired = true) :
    (s.turn r w).2.due s ≤ w.due s - 1 := by
  cases w with
  | looking => cases ht : s.triggered <;> simp [Signal.turn, due, ht]
  | asking =>
    cases ht : s.triggered with
    | true =>
      have hnews : r.seen ≠ s.version := h ht
      simp [Signal.turn, due, ht, hnews]
    | false =>
      -- a value that was never set has one version, and the coordinator is gone
      have hsame : r.seen = s.version := by
        have hzero : s.version = 0 := s.unset ht
        omega
      have hd : s.dropped = true := by simpa [Signal.hasFired, ht] using hfired
      simp [Signal.turn, due, ht, hsame, hd]
  | asleep | ended => exact Nat.zero_le _

theorem ended_of_due (h : w.Fits s r) (hfired : s.hasFired = true) (hdue : w.due s = 0) : w = ended := by
  cases w with
  | looking | asking => cases ht : s.triggered <;> simp [due, ht] at hdue
  | asleep => exact absurd (h.symm.trans hfired) Bool.false_ne_true
  | ended => rfl

end Wait

namespace Signal

/-! ## Listeners -/

structure Listener where
  receiver : Receiver
  /-- The wait that it is in. -/
  wait? : Option Wait := none

namespace Listener

def begin (l : Listener) : Listener := { l with wait? := some .looking }

def abandon (l : Listener) : Listener := { l with wait? := none }

def turn (s : Signal) (l : Listener) : Listener :=
  match l.wait? with
  | some w => ⟨(s.turn l.receiver w).1, some (s.turn l.receiver w).2⟩
  | none => l

def wake (l : Listener) : Listener := { l with wait? := l.wait?.map Wait.wake }

variable {s t : Signal} {l : Listener}

structure Fits (s : Signal) (l : Listener) : Prop where
  seen_le : l.receiver.seen ≤ s.version
  wait : ∀ w, l.wait? = some w → w.Fits s l.receiver

theorem id_turn (s : Signal) (l : Listener) : (l.turn s).receiver.id = l.receiver.id := by
  cases hw : l.wait? with
  | none => simp [turn, hw]
  | some w => simp [turn, hw]

theorem Fits.begin (h : l.Fits s) : l.begin.Fits s where
  seen_le := h.seen_le
  wait w hw := by
    obtain rfl := Option.some.inj hw
    trivial

theorem Fits.abandon (h : l.Fits s) : l.abandon.Fits s := ⟨h.seen_le, nofun⟩

theorem Fits.turn (h : l.Fits s) : (l.turn s).Fits s := by
  rw [Listener.turn]
  cases hw : l.wait? with
  | none => exact h
  | some w =>
    refine ⟨seen_turn_le h.seen_le w, fun v hv => ?_⟩
    obtain rfl := Option.some.inj hv
    exact (h.wait w hw).turn

theorem Fits.trigger (h : l.Fits s) : l.wake.Fits s.trigger where
  seen_le := Nat.le_succ_of_le h.seen_le
  wait v hv := by
    obtain ⟨w, hw, rfl⟩ := Option.map_eq_some_iff.1 hv
    exact (h.wait w hw).trigger h.seen_le

theorem Fits.drop (h : l.Fits s) : l.wake.Fits s.drop where
  seen_le := h.seen_le
  wait v hv := by
    obtain ⟨w, hw, rfl⟩ := Option.map_eq_some_iff.1 hv
    exact (h.wait w hw).drop

theorem Fits.congr (h : l.Fits s) (htriggered : t.triggered = s.triggered) (hdropped : t.dropped = s.dropped)
    (hversion : t.version = s.version) : l.Fits t where
  seen_le := hversion ▸ h.seen_le
  wait w hw := by
    have hfits := h.wait w hw
    cases w with
    | looking => trivial
    | asking | asleep | ended => simpa [Wait.Fits, hasFired, htriggered, hdropped, hversion] using hfits

end Listener

/-! ## Listeners among each other -/

inductive Event where
  | subscribe
  /-- Another listener gets a receiver like that of this one. -/
  | clone (id : Nat)
  /-- A listener drops its receiver, and with it the wait that it is in. -/
  | release (id : Nat)
  | trigger
  /-- The coordinator goes. -/
  | drop
  | begin (id : Nat)
  | abandon (id : Nat)
  /-- The wait of a listener goes on. -/
  | turn (id : Nat)
  deriving DecidableEq

/-- The event leaves a listener in the wait that it is in. -/
def Event.Spares (id : Nat) (e : Event) : Prop := e ≠ .release id ∧ e ≠ .begin id ∧ e ≠ .abandon id

/-- The coordinator was triggered, or went: lines that listen are to stop. -/
def Fires (es : List Event) : Prop := ∃ e ∈ es, e = .trigger ∨ e = .drop

/-- A signal with those that listen to it, by their receivers. -/
structure Audience where
  signal : Signal := {}
  listeners : Nat → Option Listener := fun _ => none

namespace Audience

def handOut (a : Audience) : Event → Option (Signal × Receiver)
  | .subscribe => a.signal.subscribe
  | .clone id => (a.listeners id).bind fun l => a.signal.clone l.receiver
  | _ => none

def issuedBy (a : Audience) (e : Event) : List Nat := ((a.handOut e).map (·.2.id)).toList

def join (a : Audience) (issued : Signal × Receiver) : Audience :=
  { signal := issued.1
    listeners := Function.update a.listeners issued.2.id (some { receiver := issued.2 }) }

def enter (a : Audience) (e : Event) : Audience := (a.handOut e).elim a a.join

def leave (a : Audience) (id : Nat) (l : Listener) : Audience :=
  { signal := a.signal.release l.receiver
    listeners := Function.update a.listeners id none }

def announce (a : Audience) (s : Signal) : Audience :=
  { signal := s
    listeners := fun id => (a.listeners id).map Listener.wake }

def alter (a : Audience) (id : Nat) (f : Listener → Listener) : Audience :=
  { a with listeners := Function.update a.listeners id ((a.listeners id).map f) }

/-- What cannot be done, as there is no such listener or the coordinator is gone, changes nothing. -/
def step (a : Audience) : Event → Audience
  | .subscribe => a.enter .subscribe
  | .clone id => a.enter (.clone id)
  | .release id => (a.listeners id).elim a (a.leave id)
  | .trigger => if a.signal.dropped then a else a.announce a.signal.trigger
  | .drop => a.announce a.signal.drop
  | .begin id => a.alter id Listener.begin
  | .abandon id => a.alter id Listener.abandon
  | .turn id => a.alter id (Listener.turn a.signal)

def run (a : Audience) (es : List Event) : Audience := es.foldl step a

def wait? (a : Audience) (id : Nat) : Option Wait := (a.listeners id).bind (·.wait?)

@[simp] theorem listeners_join (a : Audience) (issued : Signal × Receiver) (id : Nat) :
    (a.join issued).listeners id = if id = issued.2.id then some { receiver := issued.2 } else a.listeners id :=
  Function.update_apply ..

@[simp] theorem listeners_leave (a : Audience) (id : Nat) (l : Listener) (other : Nat) :
    (a.leave id l).listeners other = if other = id then none else a.listeners other := Function.update_apply ..

@[simp] theorem listeners_announce (a : Audience) (s : Signal) (id : Nat) :
    (a.announce s).listeners id = (a.listeners id).map Listener.wake := rfl

@[simp] theorem listeners_alter (a : Audience) (id : Nat) (f : Listener → Listener) (other : Nat) :
    (a.alter id f).listeners other = if other = id then (a.listeners id).map f else a.listeners other :=
  Function.update_apply ..

/-- Every live receiver has its listener, and that fits the signal. -/
structure Sound (a : Audience) : Prop where
  live : ∀ id, id ∈ a.signal.live ↔ (a.listeners id).isSome = true
  own : ∀ id l, a.listeners id = some l → l.receiver.id = id
  fits : ∀ id l, a.listeners id = some l → l.Fits a.signal

variable {a : Audience} {id : Nat} {l : Listener} {e : Event}

theorem start_sound : ({} : Audience).Sound where
  live _ := by simp
  own := nofun
  fits := nofun

theorem Sound.mem_live (h : a.Sound) (hl : a.listeners id = some l) : id ∈ a.signal.live :=
  (h.live id).2 (Option.isSome_of_eq_some hl)

theorem Sound.receiver_live (h : a.Sound) (hl : a.listeners id = some l) : l.receiver.id ∈ a.signal.live := by
  rw [h.own id l hl]
  exact h.mem_live hl

/-- A receiver that is handed out is a new one, and has seen no more than there was to see. -/
theorem Sound.enter_cases (h : a.Sound) (e : Event) :
    a.issuedBy e = [] ∧ a.enter e = a ∨
      a.issuedBy e = [a.signal.next] ∧ ∃ seen ≤ a.signal.version, a.enter e = a.join (a.signal.issue seen) := by
  have hnone (hout : a.handOut e = none) : a.issuedBy e = [] ∧ a.enter e = a := by simp [issuedBy, enter, hout]
  have hsome (seen : Nat) (hout : a.handOut e = some (a.signal.issue seen)) :
      a.issuedBy e = [a.signal.next] ∧ a.enter e = a.join (a.signal.issue seen) := by
    simp [issuedBy, enter, hout, issue]
  cases e with
  | subscribe =>
    cases hd : a.signal.dropped with
    | true => exact .inl (hnone (if_pos hd))
    | false =>
      obtain ⟨hissued, henter⟩ := hsome a.signal.version (if_neg (by simp [hd]))
      exact .inr ⟨hissued, _, Nat.le_refl _, henter⟩
  | clone id =>
    cases hl : a.listeners id with
    | none => exact .inl (hnone (by simp [handOut, hl]))
    | some l =>
      obtain ⟨hissued, henter⟩ := hsome l.receiver.seen (by simp [handOut, hl, Signal.clone, h.receiver_live hl])
      exact .inr ⟨hissued, _, (h.fits id l hl).seen_le, henter⟩
  | release | trigger | drop | begin | abandon | turn => exact .inl (hnone rfl)

/-! ### What is kept -/

theorem Sound.join (h : a.Sound) {seen : Nat} (hseen : seen ≤ a.signal.version) :
    (a.join (a.signal.issue seen)).Sound := by
  have hcases (id : Nat) (l : Listener) (hl : (a.join (a.signal.issue seen)).listeners id = some l) :
      l.receiver.id = id ∧ l.Fits (a.signal.issue seen).1 := by
    rw [listeners_join] at hl
    split at hl
    · next hid =>
      obtain rfl := Option.some.inj hl
      exact ⟨hid.symm, hseen, nofun⟩
    · exact ⟨h.own id l hl, (h.fits id l hl).congr rfl rfl rfl⟩
  refine ⟨fun id => ?_, fun id l hl => (hcases id l hl).1, fun id l hl => (hcases id l hl).2⟩
  by_cases hid : id = a.signal.next <;> simp [Audience.join, Signal.issue, hid, h.live]

theorem Sound.leave (h : a.Sound) (hl : a.listeners id = some l) : (a.leave id l).Sound := by
  have hcases (other : Nat) (m : Listener) (hm : (a.leave id l).listeners other = some m) :
      a.listeners other = some m := by
    rw [listeners_leave] at hm
    split at hm
    · cases hm
    · exact hm
  refine ⟨fun other => ?_, fun other m hm => h.own other m (hcases other m hm),
    fun other m hm => (h.fits other m (hcases other m hm)).congr rfl rfl rfl⟩
  have hid : l.receiver.id = id := h.own id l hl
  by_cases hother : other = id <;>
    simp [Audience.leave, Signal.release, hid, a.signal.nodup.mem_erase_iff, hother, h.live]

theorem Sound.announce (h : a.Sound) {s : Signal} (hlive : s.live = a.signal.live)
    (hfits : ∀ l : Listener, l.Fits a.signal → l.wake.Fits s) : (a.announce s).Sound where
  live id := by simp [Audience.announce, hlive, h.live]
  own id m hm := by
    obtain ⟨l, hl, rfl⟩ := Option.map_eq_some_iff.1 hm
    exact h.own id l hl
  fits id m hm := by
    obtain ⟨l, hl, rfl⟩ := Option.map_eq_some_iff.1 hm
    exact hfits l (h.fits id l hl)

theorem Sound.alter (h : a.Sound) (id : Nat) {f : Listener → Listener}
    (hown : ∀ l, (f l).receiver.id = l.receiver.id)
    (hfits : ∀ l : Listener, l.Fits a.signal → (f l).Fits a.signal) : (a.alter id f).Sound := by
  have hcases (other : Nat) (m : Listener) (hm : (a.alter id f).listeners other = some m) :
      m.receiver.id = other ∧ m.Fits a.signal := by
    rw [listeners_alter] at hm
    split at hm
    · next hother =>
      subst hother
      obtain ⟨l, hl, rfl⟩ := Option.map_eq_some_iff.1 hm
      exact ⟨(hown l).trans (h.own other l hl), hfits l (h.fits other l hl)⟩
    · exact ⟨h.own other m hm, h.fits other m hm⟩
  refine ⟨fun other => ?_, fun other m hm => (hcases other m hm).1, fun other m hm => (hcases other m hm).2⟩
  by_cases hother : other = id <;> simp [Audience.alter, hother, h.live]

theorem step_sound (h : a.Sound) (e : Event) : (a.step e).Sound := by
  cases e with
  | subscribe | clone id =>
    rw [step]
    rcases h.enter_cases _ with ⟨-, hstep⟩ | ⟨-, seen, hseen, hstep⟩ <;> rw [hstep]
    · exact h
    · exact h.join hseen
  | release id =>
    rw [step]
    cases hl : a.listeners id with
    | none => exact h
    | some l => exact h.leave hl
  | trigger =>
    rw [step]
    split
    · exact h
    · exact h.announce rfl fun l hl => hl.trigger
  | drop => exact h.announce rfl fun l hl => hl.drop
  | begin id => exact h.alter id (fun _ => rfl) fun l hl => hl.begin
  | abandon id => exact h.alter id (fun _ => rfl) fun l hl => hl.abandon
  | turn id => exact h.alter id (Listener.id_turn a.signal) fun l hl => hl.turn

theorem run_sound (h : a.Sound) (es : List Event) : (a.run es).Sound := by
  induction es generalizing a with
  | nil => exact h
  | cons e es ih => exact ih (step_sound h e)

/-! ### What the coordinator has done -/

theorem step_value (h : a.Sound) (e : Event) :
    (a.step e).signal.triggered = (a.signal.triggered || !a.signal.dropped && e = .trigger) ∧
      (a.step e).signal.dropped = (a.signal.dropped || e = .drop) := by
  cases e with
  | subscribe | clone id =>
    rw [step]
    rcases h.enter_cases _ with ⟨-, hstep⟩ | ⟨-, seen, -, hstep⟩ <;> rw [hstep] <;> simp [join, issue]
  | release id => cases hl : a.listeners id <;> simp [step, hl, leave, Signal.release]
  | trigger => cases hd : a.signal.dropped <;> simp [step, hd, announce, Signal.trigger]
  | drop => simp [step, announce, Signal.drop]
  | begin | abandon | turn => simp [step, alter]

theorem step_fired (h : a.Sound) (e : Event) :
    (a.step e).signal.hasFired = true ↔ a.signal.hasFired = true ∨ e = .trigger ∨ e = .drop := by
  obtain ⟨htriggered, hdropped⟩ := step_value h e
  rw [hasFired, hasFired, htriggered, hdropped]
  cases a.signal.triggered <;> cases a.signal.dropped <;> simp

theorem run_fired (h : a.Sound) (es : List Event) :
    (a.run es).signal.hasFired = true ↔ a.signal.hasFired = true ∨ Fires es := by
  induction es generalizing a with
  | nil => simp [run, Fires]
  | cons e es ih =>
    rw [Fires, List.exists_mem_cons_iff, ← or_assoc, ← step_fired h e]
    exact ih (step_sound h e)

/-- The value is set once there was a trigger before the coordinator went. -/
theorem run_triggered (h : a.Sound) (es : List Event) :
    (a.run es).signal.triggered = true ↔
      a.signal.triggered = true ∨ a.signal.dropped = false ∧ .trigger ∈ es.takeWhile (· ≠ .drop) := by
  induction es generalizing a with
  | nil => simp [run]
  | cons e es ih =>
    obtain ⟨htriggered, hdropped⟩ := step_value h e
    refine (ih (step_sound h e)).trans ?_
    rw [htriggered, hdropped]
    by_cases hdrop : e = .drop
    · simp [hdrop]
    · by_cases htrigger : e = .trigger
      · cases a.signal.dropped <;> simp [htrigger]
      · simp [hdrop, htrigger, Ne.symm htrigger]

/-! ### Receivers handed out and dropped -/

def freedBy (a : Audience) : Event → List Nat
  | .release id => ((a.listeners id).map (·.receiver.id)).toList
  | _ => []

def issued (a : Audience) : List Event → List Nat
  | [] => []
  | e :: es => a.issuedBy e ++ (a.step e).issued es

def freed (a : Audience) : List Event → List Nat
  | [] => []
  | e :: es => a.freedBy e ++ (a.step e).freed es

theorem step_perm (h : a.Sound) (e : Event) :
    (a.freedBy e ++ (a.step e).signal.live).Perm (a.issuedBy e ++ a.signal.live) := by
  cases e with
  | subscribe | clone id =>
    rw [step]
    rcases h.enter_cases _ with ⟨hissued, hstep⟩ | ⟨hissued, seen, -, hstep⟩ <;> rw [hissued, hstep] <;> exact .refl _
  | release id =>
    cases hl : a.listeners id with
    | none => simp [step, freedBy, issuedBy, handOut, hl]
    | some l =>
      simpa [step, freedBy, issuedBy, handOut, hl, leave, Signal.release] using
        (List.perm_cons_erase (h.receiver_live hl)).symm
  | trigger => cases hd : a.signal.dropped <;> simp [step, freedBy, issuedBy, handOut, hd, announce, Signal.trigger]
  | drop | begin | abandon | turn => exact .refl _

/-- Every receiver there was or that was handed out is dropped or live. -/
theorem run_perm (h : a.Sound) (es : List Event) :
    (a.freed es ++ (a.run es).signal.live).Perm (a.issued es ++ a.signal.live) := by
  induction es generalizing a with
  | nil => exact .refl _
  | cons e es ih =>
    rw [freed, issued, List.append_assoc, List.append_assoc]
    refine ((ih (step_sound h e)).append_left (a.freedBy e)).trans ?_
    refine (List.perm_append_comm_assoc ..).trans ?_
    refine ((step_perm h e).append_left _).trans ?_
    exact List.perm_append_comm_assoc ..

theorem step_next (h : a.Sound) (e : Event) :
    a.issuedBy e = [] ∧ (a.step e).signal.next = a.signal.next ∨
      a.issuedBy e = [a.signal.next] ∧ (a.step e).signal.next = a.signal.next + 1 := by
  cases e with
  | subscribe | clone id =>
    rw [step]
    rcases h.enter_cases _ with ⟨hissued, hstep⟩ | ⟨hissued, seen, -, hstep⟩
    · exact .inl ⟨hissued, congrArg (·.signal.next) hstep⟩
    · exact .inr ⟨hissued, congrArg (·.signal.next) hstep⟩
  | release id => cases hl : a.listeners id <;> exact .inl ⟨rfl, by simp [step, hl, leave, Signal.release]⟩
  | trigger => cases hd : a.signal.dropped <;> exact .inl ⟨rfl, by simp [step, hd, announce, Signal.trigger]⟩
  | drop | begin | abandon | turn => exact .inl ⟨rfl, rfl⟩

theorem issued_range (h : a.Sound) (es : List Event) : ∃ n, a.issued es = List.range' a.signal.next n := by
  induction es generalizing a with
  | nil => exact ⟨0, rfl⟩
  | cons e es ih =>
    obtain ⟨n, hn⟩ := ih (step_sound h e)
    rw [issued, hn]
    rcases step_next h e with ⟨hissued, hnext⟩ | ⟨hissued, hnext⟩
    · exact ⟨n, by rw [hissued, hnext, List.nil_append]⟩
    · exact ⟨n + 1, by rw [hissued, hnext, List.singleton_append, List.range'_succ]⟩

/-! ### Waits once the signal has fired -/

theorem Sound.wait_fits (h : a.Sound) {w : Wait} (hw : a.wait? id = some w) :
    ∃ l, a.listeners id = some l ∧ l.wait? = some w ∧ l.receiver.seen ≤ a.signal.version ∧
      w.Fits a.signal l.receiver := by
  obtain ⟨l, hl, hlw⟩ := Option.bind_eq_some_iff.1 hw
  exact ⟨l, hl, hlw, (h.fits id l hl).seen_le, (h.fits id l hl).wait w hlw⟩

/-- Once the signal has fired, a wait changes only by its own turns. -/
theorem step_wait (h : a.Sound) (hfired : a.signal.hasFired = true) {w : Wait} (hl : a.listeners id = some l)
    (hw : l.wait? = some w) (he : e.Spares id) :
    (a.step e).wait? id = some (if e = .turn id then (a.signal.turn l.receiver w).2 else w) := by
  -- nobody sleeps, so nobody is woken
  have hawake : w.wake = w := by
    have hfits := (h.fits id l hl).wait w hw
    cases w with
    | asleep => exact absurd (hfits.symm.trans hfired) Bool.false_ne_true
    | looking | asking | ended => rfl
  obtain ⟨hrelease, hbegin, habandon⟩ := he
  cases e with
  | subscribe | clone other =>
    rw [step]
    rcases h.enter_cases _ with ⟨-, hstep⟩ | ⟨-, seen, -, hstep⟩ <;> rw [hstep]
    · simp [wait?, hl, hw]
    · have hid : id ≠ a.signal.next := Nat.ne_of_lt (a.signal.below id (h.mem_live hl))
      simp [wait?, issue, hid, hl, hw]
  | release other =>
    have hother : id ≠ other := fun hid => hrelease (hid ▸ rfl)
    cases ho : a.listeners other <;> simp [step, wait?, ho, hother, hl, hw]
  | trigger => cases hd : a.signal.dropped <;> simp [step, wait?, hd, hl, hw, Listener.wake, hawake]
  | drop => simp [step, wait?, hl, hw, Listener.wake, hawake]
  | begin other =>
    have hother : id ≠ other := fun hid => hbegin (hid ▸ rfl)
    simp [step, wait?, hother, hl, hw]
  | abandon other =>
    have hother : id ≠ other := fun hid => habandon (hid ▸ rfl)
    simp [step, wait?, hother, hl, hw]
  | turn other =>
    by_cases hother : id = other
    · simp [step, wait?, ← hother, hl, hw, Listener.turn]
    · simp [step, wait?, hother, Ne.symm hother, hl, hw]

theorem step_due (h : a.Sound) (hfired : a.signal.hasFired = true) {w : Wait} (hw : a.wait? id = some w)
    (he : e.Spares id) :
    ∃ v, (a.step e).wait? id = some v ∧
      v.due (a.step e).signal ≤ w.due a.signal - if e = .turn id then 1 else 0 := by
  obtain ⟨l, hl, hlw, hseen, hfits⟩ := h.wait_fits hw
  have hvalue : (a.step e).signal.triggered = a.signal.triggered := by
    rw [(step_value h e).1]
    cases ht : a.signal.triggered <;> simp_all [hasFired]
  refine ⟨_, step_wait h hfired hl hlw he, ?_⟩
  rw [Wait.due_congr hvalue]
  split
  · exact Wait.due_turn hfits hseen hfired
  · exact Nat.le_refl _

/-- Once the signal has fired, a wait is over after its turns, whatever comes between them. -/
theorem run_ended (h : a.Sound) (hfired : a.signal.hasFired = true) {w : Wait} (hw : a.wait? id = some w)
    {es : List Event} (hspares : ∀ e ∈ es, e.Spares id) (hdue : w.due a.signal ≤ es.count (.turn id)) :
    (a.run es).wait? id = some .ended := by
  induction es generalizing a w with
  | nil =>
    obtain ⟨l, -, -, -, hfits⟩ := h.wait_fits hw
    rw [Wait.ended_of_due hfits hfired (Nat.le_zero.1 hdue)] at hw
    exact hw
  | cons e es ih =>
    obtain ⟨he, hspares⟩ := List.forall_mem_cons.1 hspares
    obtain ⟨v, hv, hvdue⟩ := step_due h hfired hw he
    refine ih (step_sound h e) ((step_fired h e).2 (.inl hfired)) hv hspares ?_
    rw [List.count_cons] at hdue
    by_cases hturn : e = .turn id
    · rw [if_pos hturn] at hvdue
      simp only [hturn, BEq.rfl, if_true] at hdue
      omega
    · rw [if_neg hturn] at hvdue
      simp only [beq_iff_eq, hturn, if_false] at hdue
      omega

/-- A wait that nothing comes between is `recv`. -/
theorem run_alone (hl : a.listeners id = some l) :
    (a.run [.begin id, .turn id, .turn id]).listeners id =
      some ⟨(a.signal.recv l.receiver).1, some (if (a.signal.recv l.receiver).2 then .ended else .asleep)⟩ := by
  have hturns : (a.run [.begin id, .turn id, .turn id]).listeners id = some ((l.begin.turn a.signal).turn a.signal) := by
    simp [run, step, alter, hl]
  rw [hturns, recv_eq]
  cases ht : a.signal.triggered <;> cases hd : a.signal.dropped <;>
    simp [Listener.begin, Listener.turn, Signal.turn, hasFired, ht, hd]

/-! ### Every run -/

/-- How a signal and its listeners stand after some events. -/
structure Heeded (es : List Event) (a : Audience) : Prop where
  /-- The value is set by a trigger, while there is a coordinator to trigger. -/
  set_iff : a.signal.triggered = true ↔ .trigger ∈ es.takeWhile (· ≠ .drop)
  set_for_good : a.signal.triggered = true → ∀ more, (a.run more).signal.triggered = true
  /-- No wait is over before the signal has fired, and none sleeps then. -/
  fires_of_ended : ∀ id, a.wait? id = some .ended → Fires es
  awake_of_fires : Fires es → ∀ id, a.wait? id ≠ some .asleep
  /-- Two turns more and a wait is over then, whatever comes between them. -/
  ended_of_fires : Fires es → ∀ id w more, a.wait? id = some w → (∀ e ∈ more, e.Spares id) →
    2 ≤ more.count (.turn id) → (a.run more).wait? id = some .ended
  recv_iff : ∀ id l, a.listeners id = some l → ((a.signal.recv l.receiver).2 = true ↔ Fires es)
  /-- Each receiver handed out is another one, and is dropped or has a listener. -/
  issued_nodup : (({} : Audience).issued es).Nodup
  account : (({} : Audience).freed es ++ a.signal.live).Perm (({} : Audience).issued es)
  listening : ∀ id, (a.listeners id).isSome = true ↔
    id ∈ ({} : Audience).issued es ∧ id ∉ ({} : Audience).freed es
  receivers : a.signal.receivers + (({} : Audience).freed es).length = (({} : Audience).issued es).length

/--
  Whatever listeners and the coordinator do, and in whatever order: the signal is never
  missed, and never heard before it has fired; and the receivers counted are those that were
  handed out and not dropped.
-/
theorem heeded (es : List Event) : Heeded es (({} : Audience).run es) := by
  have hsound : (({} : Audience).run es).Sound := run_sound start_sound es
  have hfired : (({} : Audience).run es).signal.hasFired = true ↔ Fires es := by
    simpa [hasFired] using run_fired start_sound es
  have hperm : (({} : Audience).freed es ++ (({} : Audience).run es).signal.live).Perm (({} : Audience).issued es) := by
    simpa using run_perm start_sound es
  have hnodup : (({} : Audience).issued es).Nodup := by
    obtain ⟨n, hn⟩ := issued_range start_sound es
    rw [hn]
    exact List.nodup_range'
  constructor
  case set_iff => simpa using run_triggered start_sound es
  case set_for_good => exact fun hset more => (run_triggered hsound more).2 (.inl hset)
  case fires_of_ended =>
    intro id hw
    obtain ⟨l, -, -, -, hfits⟩ := hsound.wait_fits hw
    exact hfired.1 hfits
  case awake_of_fires =>
    intro hfires id hw
    obtain ⟨l, -, -, -, hfits⟩ := hsound.wait_fits hw
    exact Bool.false_ne_true (hfits.symm.trans (hfired.2 hfires))
  case ended_of_fires =>
    intro hfires id w more hw hspares hturns
    exact run_ended hsound (hfired.2 hfires) hw hspares (Nat.le_trans (w.due_le_two _) hturns)
  case recv_iff =>
    intro id l hl
    rw [recv_eq]
    exact hfired
  case issued_nodup => exact hnodup
  case account => exact hperm
  case listening =>
    intro id
    have hdisjoint := (List.nodup_append.1 (hperm.nodup_iff.2 hnodup)).2.2
    rw [← hsound.live, ← hperm.mem_iff, List.mem_append]
    refine ⟨fun hlive => ⟨.inr hlive, fun hfreed => hdisjoint id hfreed id hlive rfl⟩, ?_⟩
    rintro ⟨hfreed | hlive, hkept⟩
    · exact absurd hfreed hkept
    · exact hlive
  case receivers =>
    rw [receivers, ← hperm.length_eq, List.length_append]
    exact Nat.add_comm ..

/-- The value is set between the look of a listener and its question. -/
example : (({} : Audience).run [.subscribe, .begin 0, .turn 0, .trigger, .turn 0, .turn 0]).wait? 0 = some .ended := by
  decide

end Audience

end Signal

end ServiceHost
