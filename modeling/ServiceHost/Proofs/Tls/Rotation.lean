/-
  ServiceHost.Proofs.Tls.Rotation — no rotation of a keypair is lost.

  Any number of calls are under way at once, and between any two of their steps files are
  written and removed and other calls take theirs (`World.step`).

  A file never gets back a stamp it had (`Timeline.Renewing`). So a file that still has the
  stamp a call noted was not written since, and has the content the call read after it
  (`Timeline.Tracks`); that is why the stamps are read before the files. It holds of every
  call under way and of the pair in effect, whatever is done (`World.Sound`, `step_sound`,
  `run_sound`). Hence a slow call can put an old pair in a newer one's place, but never
  with the stamps of the newer files, and the next check finds it out.

  A check that returns, on files untouched since it began, leaves the files' own pair in
  effect (`rotation_kept`): the stamps it noted are still theirs (`World.UpToDate`), and
  are those in effect once it returns (`turn_settles`).
-/

import Mathlib.Control.Monad.Basic
import ServiceHost.Proofs.Tls.Calls

namespace ServiceHost.Tls

open ServiceHost.Text (Octets)

/-! ## The files over time -/

/-- The files as they were, oldest first, and as they are. -/
structure Timeline where
  past : List Files := []
  present : Files

inductive Event where
  | write (path : String) (file : StoredFile)
  | remove (path : String)
  /-- A check begins. -/
  | check
  /-- A reload begins. -/
  | reload
  /-- A call takes its next step. -/
  | turn (call now : Nat)

/-- Whether a file of the keypair is written or removed. -/
def Event.Touches (w : Watch) : Event → Prop
  | write path _ | remove path => path = w.certPath ∨ path = w.keyPath
  | _ => False

namespace Timeline

def moments (t : Timeline) : List Files := t.past ++ [t.present]

def after (t : Timeline) : Event → Timeline
  | .write path file => ⟨t.moments, t.present.write path file⟩
  | .remove path => ⟨t.moments, t.present.remove path⟩
  | _ => t

def Had (t : Timeline) (path : String) (stamp : Stamp) : Prop := ∃ fs ∈ t.moments, fs.stamp path = .ok stamp

instance (t : Timeline) (path : String) (stamp : Stamp) : Decidable (t.Had path stamp) :=
  inferInstanceAs (Decidable (∃ fs ∈ t.moments, fs.stamp path = .ok stamp))

end Timeline

/-- A write gives the file a stamp it never had. (A removed file has none, unless it hid a directory.) -/
def Event.Renews (t : Timeline) : Event → Prop
  | write path file => ¬ t.Had path file.stamp
  | remove path => ∀ stamp, (t.present.remove path).stamp path = .ok stamp → ¬ t.Had path stamp
  | _ => True

/-- No file ever gets back a stamp it had. -/
def Timeline.Renewing : Timeline → List Event → Prop
  | _, [] => True
  | t, e :: es => e.Renews t ∧ (t.after e).Renewing es

/-! ## Calls among each other -/

structure World where
  time : Timeline
  reloader? : Option Reloader := none
  /-- Every call begun so far, the arming first. -/
  calls : List Call := [{ job := .arm }]

namespace World

/-- Checks and reloads are calls of a reloader, which there must be. -/
def begin (s : World) (job : Job) : World :=
  if s.reloader?.isSome then { s with calls := s.calls ++ [{ job }] } else s

variable (w : Watch)

def step (s : World) (e : Event) : Run World :=
  match e with
  | .write .. | .remove _ => pure { s with time := s.time.after e }
  | .check => pure (s.begin .check)
  | .reload => pure (s.begin .reload)
  | .turn i now =>
    match s.calls[i]? with
    | none => pure s
    | some c => do
      let (c, r?) ← c.turn w s.time.present now s.reloader?
      return { s with reloader? := r?, calls := s.calls.set i c }

def run (s : World) (es : List Event) : Run World := es.foldlM (step w) s

/-- What a call returned, if it has. -/
def outcome? (s : World) (i : Nat) : Option (Except Error Bool) := s.calls[i]?.bind Call.outcome?

end World

/-! ## What lasts -/

/-- A file had a stamp, and while it has, this is what is read of it. -/
structure Timeline.Tracks {α : Type} (t : Timeline) (path : String) (stamp : Stamp)
    (load : Files → String → Except Error α) (a : α) : Prop where
  had : t.Had path stamp
  current : t.present.stamp path = .ok stamp → load t.present path = .ok a

/-- The pair is what one load gave, that read the key no earlier than the certificate. -/
def Timeline.Loaded (t : Timeline) (w : Watch) (pair : Keypair) : Prop :=
  ∃ (i j : Nat) (atCert atKey : Files), i ≤ j ∧ t.moments[i]? = some atCert ∧ t.moments[j]? = some atKey ∧
    Keypair.assemble w.keys atCert atKey w.certPath w.keyPath = .ok pair

/-- A pair with the stamps that its files had before they were read. -/
structure Timeline.Keeps (t : Timeline) (w : Watch) (stamps : Stamps) (pair : Keypair) : Prop where
  cert : t.Tracks w.certPath stamps.cert loadCertificates pair.chain
  key : t.Tracks w.keyPath stamps.key loadPrivateKey pair.key
  loaded : t.Loaded w pair

def Progress.Sound (w : Watch) (t : Timeline) : Progress → Prop
  | .begun | .ended _ => True
  | .certStamped cert => t.Had w.certPath cert
  | .stamped stamps | .due stamps => t.Had w.certPath stamps.cert ∧ t.Had w.keyPath stamps.key
  | .certRead stamps chain =>
    t.Tracks w.certPath stamps.cert loadCertificates chain ∧ t.Had w.keyPath stamps.key ∧
      ∃ fs ∈ t.moments, loadCertificates fs w.certPath = .ok chain
  | .pairRead stamps pair => t.Keeps w stamps pair

/-- A reloader of the watched pair, with the stamps that belong to what it serves. -/
structure Timeline.Serves (t : Timeline) (w : Watch) (r : Reloader) : Prop where
  certPath : r.certPath = w.certPath
  keyPath : r.keyPath = w.keyPath
  keeps : t.Keeps w r.stamps r.pair

structure World.Sound (w : Watch) (s : World) : Prop where
  calls : ∀ c ∈ s.calls, c.progress.Sound w s.time
  serves : ∀ r ∈ s.reloader?, s.time.Serves w r

section Loading

variable {keys : KeyProvider} {fs later : Files} {certPath keyPath path : String} {chain : List Octets}
  {pair : Keypair}

theorem loadCertificates_congr (h : later.read path = fs.read path) :
    loadCertificates later path = loadCertificates fs path := by
  simp only [loadCertificates, readFile, h]

theorem loadPrivateKey_congr (h : later.read path = fs.read path) :
    loadPrivateKey later path = loadPrivateKey fs path := by
  simp only [loadPrivateKey, readFile, h]

theorem complete_ok_iff :
    Keypair.complete keys fs keyPath chain = .ok pair ↔
      pair.chain = chain ∧ loadPrivateKey fs keyPath = .ok pair.key ∧ Keypair.fault? keys chain pair.key = none := by
  rw [Keypair.complete]
  cases hk : loadPrivateKey fs keyPath with
  | error e => simp [bind, Except.bind]
  | ok key =>
    simp only [bind, Except.bind]
    cases hf : Keypair.fault? keys chain key with
    | some f =>
      simp only [throw, throwThe, MonadExceptOf.throw, Except.ok.injEq, reduceCtorEq, false_iff, not_and]
      rintro - rfl
      simp [hf]
    | none =>
      simp only [pure, Except.pure, Except.ok.injEq]
      constructor
      · rintro rfl
        exact ⟨rfl, rfl, hf⟩
      · rintro ⟨rfl, rfl, -⟩
        rfl

theorem assemble_ok_iff :
    Keypair.assemble keys fs later certPath keyPath = .ok pair ↔
      loadCertificates fs certPath = .ok pair.chain ∧ loadPrivateKey later keyPath = .ok pair.key ∧
        Keypair.fault? keys pair.chain pair.key = none := by
  rw [assemble_eq]
  cases hc : loadCertificates fs certPath with
  | error e => simp [bind, Except.bind]
  | ok chain =>
    simp only [bind, Except.bind, complete_ok_iff, Except.ok.injEq]
    constructor
    · rintro ⟨rfl, h⟩
      exact ⟨rfl, h⟩
    · rintro ⟨rfl, h⟩
      exact ⟨rfl, h⟩

theorem stampOf_ok_iff {stamp : Stamp} : Reloader.stampOf fs path = .ok stamp ↔ fs.stamp path = .ok stamp := by
  rw [Reloader.stampOf]
  cases fs.stamp path <;> simp [Except.mapError]

theorem stampsOf_ok_iff {stamps : Stamps} :
    Reloader.stampsOf fs certPath keyPath = .ok stamps ↔
      fs.stamp certPath = .ok stamps.cert ∧ fs.stamp keyPath = .ok stamps.key := by
  obtain ⟨cert', key'⟩ := stamps
  rw [Reloader.stampsOf, ← stampOf_ok_iff, ← stampOf_ok_iff]
  cases Reloader.stampOf fs certPath with
  | error e => simp [bind, Except.bind]
  | ok cert =>
    cases Reloader.stampOf fs keyPath with
    | error e => simp [bind, Except.bind]
    | ok key => simp [bind, Except.bind, pure, Except.pure]

end Loading

/-! ## What an event changes -/

section After

variable {w : Watch} {t : Timeline} {e : Event} {path : String} {stamp : Stamp}

theorem moments_after (t : Timeline) (e : Event) : ∃ later, (t.after e).moments = t.moments ++ later := by
  cases e with
  | write path file => exact ⟨[_], rfl⟩
  | remove path => exact ⟨[_], rfl⟩
  | check | reload | turn => exact ⟨[], (List.append_nil _).symm⟩

theorem mem_moments_after {fs : Files} (h : fs ∈ t.moments) : fs ∈ (t.after e).moments := by
  obtain ⟨later, hl⟩ := moments_after t e
  rw [hl]
  exact List.mem_append_left _ h

theorem had_after (h : t.Had path stamp) : (t.after e).Had path stamp := by
  obtain ⟨fs, hfs, hs⟩ := h
  exact ⟨fs, mem_moments_after hfs, hs⟩

theorem present_mem (t : Timeline) : t.present ∈ t.moments := by simp [Timeline.moments]

theorem had_present (h : t.present.stamp path = .ok stamp) : t.Had path stamp := ⟨t.present, present_mem t, h⟩

/-- A stamp that the path has after an event is a new one, or the path was not concerned. -/
theorem stamp_after (hr : e.Renews t) (h : (t.after e).present.stamp path = .ok stamp) :
    (t.present.stamp path = .ok stamp ∧ (t.after e).present.read path = t.present.read path) ∨
      ¬ t.Had path stamp := by
  cases e with
  | check | reload | turn => exact .inl ⟨h, rfl⟩
  | write p file =>
    by_cases hp : path = p
    · subst hp
      cases (Files.stamp_write_self ..).symm.trans h
      exact .inr hr
    · exact .inl (Files.stamp_kept (Files.find?_write_of_ne _ _ hp) rfl h)
  | remove p =>
    by_cases hp : path = p
    · subst hp
      exact .inr (hr _ h)
    · exact .inl (Files.stamp_kept (Files.find?_remove_of_ne _ hp) rfl h)

theorem stamp_untouched (he : ¬ e.Touches w) (hp : path = w.certPath ∨ path = w.keyPath)
    (h : t.present.stamp path = .ok stamp) : (t.after e).present.stamp path = .ok stamp := by
  cases e with
  | check | reload | turn => exact h
  | write p file =>
    have hne : path ≠ p := fun heq => he (heq ▸ hp)
    exact (Files.stamp_kept (Files.find?_write_of_ne _ _ hne).symm rfl h).1
  | remove p =>
    have hne : path ≠ p := fun heq => he (heq ▸ hp)
    exact (Files.stamp_kept (Files.find?_remove_of_ne _ hne).symm rfl h).1

variable {α : Type} {load : Files → String → Except Error α} {a : α}

/-- A stamp that was there before the file was read tells for good whether it is still what was read. -/
theorem tracks_after
    (hload : ∀ {fs later : Files} {path}, later.read path = fs.read path → load later path = load fs path)
    (hr : e.Renews t) (h : t.Tracks path stamp load a) : (t.after e).Tracks path stamp load a where
  had := had_after h.had
  current hs := by
    obtain ⟨hbefore, hread⟩ | hnew := stamp_after hr hs
    · exact (hload hread).trans (h.current hbefore)
    · exact absurd h.had hnew

theorem loaded_after {pair : Keypair} (h : t.Loaded w pair) : (t.after e).Loaded w pair := by
  obtain ⟨i, j, atCert, atKey, hij, hi, hj, hpair⟩ := h
  obtain ⟨later, hl⟩ := moments_after t e
  refine ⟨i, j, atCert, atKey, hij, ?_, ?_, hpair⟩
  · rw [hl, List.getElem?_append_left (List.getElem?_eq_some_iff.mp hi).1, hi]
  · rw [hl, List.getElem?_append_left (List.getElem?_eq_some_iff.mp hj).1, hj]

theorem keeps_after {stamps : Stamps} {pair : Keypair} (hr : e.Renews t) (h : t.Keeps w stamps pair) :
    (t.after e).Keeps w stamps pair where
  cert := tracks_after loadCertificates_congr hr h.cert
  key := tracks_after loadPrivateKey_congr hr h.key
  loaded := loaded_after h.loaded

theorem progress_after {p : Progress} (hr : e.Renews t) (h : p.Sound w t) : p.Sound w (t.after e) := by
  cases p with
  | begun | ended => trivial
  | certStamped cert => exact had_after h
  | stamped stamps | due stamps => exact ⟨had_after h.1, had_after h.2⟩
  | certRead stamps chain =>
    obtain ⟨hcert, hkey, fs, hfs, hload⟩ := h
    exact ⟨tracks_after loadCertificates_congr hr hcert, had_after hkey, fs, mem_moments_after hfs, hload⟩
  | pairRead stamps pair => exact keeps_after hr h

end After

/-! ## What a step of a call adds -/

section Turn

variable {w : Watch} {t : Timeline}

theorem progress_of_ok {α : Type} {x : Except Error α} {next : α → Progress} {P : Progress → Prop}
    (hended : ∀ e, P (.ended (.error e))) (h : ∀ a, x = .ok a → P (next a)) : P (.after x next) := by
  cases x with
  | ok a => exact h a rfl
  | error e => exact hended e

theorem loaded_now {fs : Files} {pair : Keypair} (hfs : fs ∈ t.moments)
    (hc : loadCertificates fs w.certPath = .ok pair.chain)
    (hk : loadPrivateKey t.present w.keyPath = .ok pair.key)
    (hf : Keypair.fault? w.keys pair.chain pair.key = none) : t.Loaded w pair := by
  obtain ⟨i, hi⟩ := List.getElem?_of_mem hfs
  have hlt : i < t.moments.length := (List.getElem?_eq_some_iff.mp hi).1
  refine ⟨i, t.past.length, fs, t.present, ?_, hi, by simp [Timeline.moments], assemble_ok_iff.mpr ⟨hc, hk, hf⟩⟩
  simp only [Timeline.moments, List.length_append, List.length_singleton] at hlt
  omega

/-- What a call puts into effect is what it read, with the stamps it noted. -/
theorem put_serves {r? : Option Reloader} {stamps : Stamps} {pair : Keypair} (now : Nat)
    (hr : ∀ r ∈ r?, t.Serves w r) (h : t.Keeps w stamps pair) : t.Serves w (w.put r? pair stamps now).value := by
  cases r? with
  | some r => exact ⟨(hr r rfl).certPath, (hr r rfl).keyPath, h⟩
  | none => exact ⟨rfl, rfl, h⟩

theorem turn_serves {c : Call} {r? : Option Reloader} (now : Nat) (hc : c.progress.Sound w t)
    (hr : ∀ r ∈ r?, t.Serves w r) : ∀ r ∈ (c.turn w t.present now r?).value.2, t.Serves w r := by
  cases hp : c.progress with
  | pairRead stamps pair =>
    rw [hp] at hc
    simp only [Call.turn, hp, Run.value_bind, Run.value_pure, Option.mem_def, Option.some.injEq]
    rintro r rfl
    exact put_serves now hr hc
  | _ => simpa only [Call.turn, hp, Run.value_pure] using hr

theorem turn_progress {c : Call} (now : Nat) (r? : Option Reloader) (h : c.progress.Sound w t) :
    (c.turn w t.present now r?).value.1.progress.Sound w t := by
  cases hp : c.progress with
  | begun =>
    simp only [Call.turn, hp, Run.value_pure]
    exact progress_of_ok (fun _ => trivial) fun cert hs => had_present (stampOf_ok_iff.mp hs)
  | certStamped cert =>
    rw [hp] at h
    simp only [Call.turn, hp, Run.value_pure]
    refine progress_of_ok (fun _ => trivial) fun key hs => ?_
    have hkey : t.Had w.keyPath key := had_present (stampOf_ok_iff.mp hs)
    split
    · exact ⟨h, hkey⟩
    · exact ⟨h, hkey⟩
  | stamped stamps =>
    rw [hp] at h
    simp only [Call.turn, hp, Run.value_pure]
    split
    · trivial
    · exact h
  | due stamps =>
    rw [hp] at h
    simp only [Call.turn, hp, Run.value_pure]
    exact progress_of_ok (fun _ => trivial) fun chain hc => ⟨⟨h.1, fun _ => hc⟩, h.2, _, present_mem t, hc⟩
  | certRead stamps chain =>
    rw [hp] at h
    obtain ⟨hcert, hkey, fs, hfs, hc⟩ := h
    simp only [Call.turn, hp, Run.value_pure]
    refine progress_of_ok (fun _ => trivial) fun pair hpair => ?_
    obtain ⟨rfl, hk, hf⟩ := complete_ok_iff.mp hpair
    exact ⟨hcert, ⟨hkey, fun _ => hk⟩, loaded_now hfs hc hk hf⟩
  | pairRead stamps pair | ended outcome =>
    simp only [Call.turn, hp, Run.value_pure, Run.value_bind]
    trivial

end Turn

/-! ## Every reachable state -/

namespace World

variable {w : Watch} {s : World} {e : Event}

/-- The files are given, and nothing but the arming has begun. -/
def start (fs : Files) : World := { time := { present := fs } }

@[simp] theorem begin_time (s : World) (job : Job) : (s.begin job).time = s.time := by
  simp only [begin]
  split <;> rfl

@[simp] theorem begin_reloader (s : World) (job : Job) : (s.begin job).reloader? = s.reloader? := by
  simp only [begin]
  split <;> rfl

theorem step_time (w : Watch) (s : World) (e : Event) : (s.step w e).value.time = s.time.after e := by
  cases e with
  | write | remove => rfl
  | check => exact begin_time s .check
  | reload => exact begin_time s .reload
  | turn i now =>
    simp only [step]
    cases s.calls[i]? <;> rfl

theorem mem_begin {job : Job} {c : Call} (h : c ∈ (s.begin job).calls) : c ∈ s.calls ∨ c.progress = .begun := by
  simp only [begin] at h
  split at h
  · obtain h | h := List.mem_append.mp h
    · exact .inl h
    · exact .inr (List.mem_singleton.mp h ▸ rfl)
  · exact .inl h

theorem begin_sound (job : Job) (h : s.Sound w) : (s.begin job).Sound w := by
  refine ⟨fun c hc => ?_, ?_⟩
  · rw [begin_time]
    obtain hc | hc := mem_begin hc
    · exact h.calls c hc
    · rw [hc]
      trivial
  · rw [begin_time, begin_reloader]
    exact h.serves

theorem turn_sound {i : Nat} {c : Call} (now : Nat) (hi : s.calls[i]? = some c) (h : s.Sound w) :
    (s.step w (.turn i now)).value.Sound w := by
  have hc : c.progress.Sound w s.time := h.calls c (List.mem_of_getElem? hi)
  simp only [step, hi, Run.value_bind, Run.value_pure]
  -- the files stay as they are, so only the call that moves and the reloader have to be looked at
  refine ⟨fun d hd => ?_, turn_serves now hc h.serves⟩
  obtain hd | rfl := List.mem_or_eq_of_mem_set hd
  · exact h.calls d hd
  · exact turn_progress now s.reloader? hc

theorem step_sound (hr : e.Renews s.time) (h : s.Sound w) : (s.step w e).value.Sound w := by
  cases e with
  | write | remove =>
    refine ⟨fun c hc => progress_after hr (h.calls c hc), fun r hheld => ?_⟩
    obtain ⟨hcert, hkey, hkeeps⟩ := h.serves r hheld
    exact ⟨hcert, hkey, keeps_after hr hkeeps⟩
  | check => exact begin_sound .check h
  | reload => exact begin_sound .reload h
  | turn i now =>
    cases hi : s.calls[i]? with
    | none =>
      simp only [step, hi, Run.value_pure]
      exact h
    | some c => exact turn_sound now hi h

theorem run_cons (w : Watch) (s : World) (e : Event) (es : List Event) :
    (s.run w (e :: es)).value = ((s.step w e).value.run w es).value := rfl

theorem run_append (w : Watch) (s : World) (before after : List Event) :
    (s.run w (before ++ after)).value = ((s.run w before).value.run w after).value := by
  induction before generalizing s with
  | nil => rfl
  | cons e before ih => exact ih _

theorem run_sound {es : List Event} (hr : s.time.Renewing es) (h : s.Sound w) : (s.run w es).value.Sound w := by
  induction es generalizing s with
  | nil => exact h
  | cons e es ih =>
    rw [run_cons]
    exact ih (by rw [step_time]; exact hr.2) (step_sound hr.1 h)

theorem start_sound (w : Watch) (fs : Files) : (start fs).Sound w where
  calls c hc := by
    cases List.mem_singleton.mp hc
    trivial
  serves _ hr := nomatch hr

end World

/-! ## Checks that the files stay untouched during -/

/-- The stamps that a call has read are the present ones. -/
def Progress.UpToDate (w : Watch) (fs : Files) : Progress → Prop
  | .begun | .ended _ => True
  | .certStamped cert => fs.stamp w.certPath = .ok cert
  | .stamped stamps | .due stamps | .certRead stamps _ | .pairRead stamps _ =>
    fs.stamp w.certPath = .ok stamps.cert ∧ fs.stamp w.keyPath = .ok stamps.key

/-- So it is of the calls from the `n`th on. -/
def World.UpToDate (w : Watch) (s : World) (n : Nat) : Prop :=
  ∀ i c, n ≤ i → s.calls[i]? = some c → c.progress.UpToDate w s.time.present

section UpToDate

variable {w : Watch} {t : Timeline} {s : World} {e : Event} {n : Nat}

theorem upToDate_after {p : Progress} (he : ¬ e.Touches w) (h : p.UpToDate w t.present) :
    p.UpToDate w (t.after e).present := by
  cases p with
  | begun | ended => trivial
  | certStamped cert => exact stamp_untouched he (.inl rfl) h
  | stamped stamps | due stamps | certRead stamps chain | pairRead stamps pair =>
    exact ⟨stamp_untouched he (.inl rfl) h.1, stamp_untouched he (.inr rfl) h.2⟩

theorem turn_upToDate {c : Call} {fs : Files} (now : Nat) (r? : Option Reloader) (h : c.progress.UpToDate w fs) :
    (c.turn w fs now r?).value.1.progress.UpToDate w fs := by
  cases hp : c.progress with
  | begun =>
    simp only [Call.turn, hp, Run.value_pure]
    exact progress_of_ok (fun _ => trivial) fun cert hs => stampOf_ok_iff.mp hs
  | certStamped cert =>
    rw [hp] at h
    simp only [Call.turn, hp, Run.value_pure]
    refine progress_of_ok (fun _ => trivial) fun key hs => ?_
    have hkey : fs.stamp w.keyPath = .ok key := stampOf_ok_iff.mp hs
    split
    · exact ⟨h, hkey⟩
    · exact ⟨h, hkey⟩
  | stamped stamps =>
    rw [hp] at h
    simp only [Call.turn, hp, Run.value_pure]
    split
    · trivial
    · exact h
  | due stamps | certRead stamps chain =>
    rw [hp] at h
    simp only [Call.turn, hp, Run.value_pure]
    exact progress_of_ok (fun _ => trivial) fun _ _ => h
  | pairRead stamps pair | ended outcome =>
    simp only [Call.turn, hp, Run.value_pure, Run.value_bind]
    trivial

namespace World

theorem begin_upToDate (job : Job) (h : s.UpToDate w n) : (s.begin job).UpToDate w n := by
  intro i c hi hc
  rw [begin_time]
  simp only [begin] at hc
  split at hc
  · rw [List.getElem?_append] at hc
    split at hc
    · exact h i c hi hc
    · cases List.mem_singleton.mp (List.mem_of_getElem? hc)
      trivial
  · exact h i c hi hc

theorem step_upToDate (he : ¬ e.Touches w) (h : s.UpToDate w n) : (s.step w e).value.UpToDate w n := by
  cases e with
  | write | remove => exact fun i c hi hc => upToDate_after he (h i c hi hc)
  | check => exact begin_upToDate .check h
  | reload => exact begin_upToDate .reload h
  | turn j now =>
    cases hj : s.calls[j]? with
    | none =>
      simp only [step, hj, Run.value_pure]
      exact h
    | some d =>
      simp only [step, hj, Run.value_bind, Run.value_pure]
      intro i c hi hc
      simp only at hc
      rw [List.getElem?_set] at hc
      split at hc
      · rename_i hji
        split at hc
        · cases hc
          exact turn_upToDate now _ (h j d (hji ▸ hi) hj)
        · cases hc
      · exact h i c hi hc

theorem run_upToDate {es : List Event} (he : ∀ e ∈ es, ¬ e.Touches w) (h : s.UpToDate w n) :
    (s.run w es).value.UpToDate w n := by
  induction es generalizing s with
  | nil => exact h
  | cons e es ih =>
    rw [run_cons]
    exact ih (fun e' he' => he e' (List.mem_cons_of_mem _ he')) (step_upToDate (he e List.mem_cons_self) h)

theorem upToDate_length (w : Watch) (s : World) : s.UpToDate w s.calls.length := by
  intro i c hi hc
  exact absurd (List.getElem?_eq_some_iff.mp hc).1 (Nat.not_lt.mpr hi)

end World

end UpToDate

/-! ## Results -/

/-- The stamps in effect are those of the files only if the pair in effect is theirs. -/
theorem Timeline.Keeps.current {t : Timeline} {w : Watch} {stamps : Stamps} {pair : Keypair}
    (h : t.Keeps w stamps pair) (hs : Reloader.stampsOf t.present w.certPath w.keyPath = .ok stamps) :
    Keypair.load w.keys t.present w.certPath w.keyPath = .ok pair := by
  obtain ⟨hcert, hkey⟩ := stampsOf_ok_iff.mp hs
  obtain ⟨_, _, _, _, -, -, -, hpair⟩ := h.loaded
  exact assemble_ok_iff.mpr ⟨h.cert.current hcert, h.key.current hkey, (assemble_ok_iff.mp hpair).2.2⟩

def Progress.stamps? : Progress → Option Stamps
  | .stamped stamps | .due stamps | .certRead stamps _ | .pairRead stamps _ => some stamps
  | _ => none

theorem Progress.UpToDate.stamps {w : Watch} {fs : Files} {p : Progress} (h : p.UpToDate w fs) {stamps : Stamps}
    (hp : p.stamps? = some stamps) : Reloader.stampsOf fs w.certPath w.keyPath = .ok stamps := by
  cases p with
  | begun | ended | certStamped => cases hp
  | stamped | due | certRead | pairRead =>
    cases hp
    exact stampsOf_ok_iff.mpr h

/-- A call that returns without error leaves the stamps it noted in effect. -/
theorem turn_settles {w : Watch} {c : Call} {fs : Files} {now : Nat} {r? : Option Reloader} {swapped : Bool}
    (hc : c.outcome? = none) (h : (c.turn w fs now r?).value.1.outcome? = some (.ok swapped)) :
    ∃ stamps r, c.progress.stamps? = some stamps ∧ (c.turn w fs now r?).value.2 = some r ∧ r.stamps = stamps := by
  have hnot : ∀ {α : Type} {x : Except Error α} {next : α → Progress}, (∀ a, (next a).outcome? = none) →
      (Progress.after x next).outcome? ≠ some (.ok swapped) := by
    intro α x next hnext
    cases x with
    | ok a => simp [Progress.after, hnext]
    | error e => simp [Progress.after, Progress.outcome?]
  cases hp : c.progress with
  | begun | due stamps | certRead stamps chain =>
    simp only [Call.turn, hp, Run.value_pure, Call.outcome?] at h
    exact absurd h (hnot fun _ => rfl)
  | certStamped cert =>
    simp only [Call.turn, hp, Run.value_pure, Call.outcome?] at h
    refine absurd h (hnot fun key => ?_)
    split <;> rfl
  | stamped stamps =>
    simp only [Call.turn, hp, Run.value_pure, Call.outcome?] at h ⊢
    split at h
    · rename_i hsame
      obtain ⟨r, hr, heq⟩ := (Option.any_eq_true ..).mp hsame
      exact ⟨stamps, r, rfl, hr, of_decide_eq_true heq⟩
    · cases h
  | pairRead stamps pair =>
    simp only [Call.turn, hp, Run.value_bind, Run.value_pure]
    exact ⟨stamps, _, rfl, rfl, by cases r? <;> rfl⟩
  | ended outcome =>
    simp [Call.outcome?, hp, Progress.outcome?] at hc

theorem World.turn_outcome {w : Watch} {s : World} {i now : Nat} {outcome : Except Error Bool}
    (h : (s.step w (.turn i now)).value.outcome? i = some outcome) :
    ∃ c, s.calls[i]? = some c ∧ (c.turn w s.time.present now s.reloader?).value.1.outcome? = some outcome ∧
      (s.step w (.turn i now)).value.reloader? = (c.turn w s.time.present now s.reloader?).value.2 := by
  cases hi : s.calls[i]? with
  | none => simp [World.step, World.outcome?, hi] at h
  | some c =>
    have hlt : i < s.calls.length := (List.getElem?_eq_some_iff.mp hi).1
    refine ⟨c, rfl, ?_, ?_⟩
    · simpa [World.step, World.outcome?, hi, List.getElem?_set_self hlt] using h
    · simp [World.step, hi]

/--
  Whatever comes between the steps of checks and reloads: the pair in effect was read by
  one load, and is the files' own if the stamps kept are theirs. So a check that returns,
  on files untouched since it began, leaves the files' own pair in effect, whether it found
  the stamps unchanged or read the pair again.
-/
theorem rotation_kept (w : Watch) (fs : Files) (es : List Event) (hes : Timeline.Renewing { present := fs } es) :
    let s := ((World.start fs).run w es).value
    (∀ r, s.reloader? = some r → s.time.Loaded w r.pair ∧
      (Reloader.stampsOf s.time.present w.certPath w.keyPath = .ok r.stamps →
        Keypair.load w.keys s.time.present w.certPath w.keyPath = .ok r.pair)) ∧
    ∀ before during now swapped, es = before ++ .check :: during → (∀ e ∈ during, ¬ e.Touches w) →
      let i := ((World.start fs).run w before).value.calls.length
      let s' := (s.step w (.turn i now)).value
      s.outcome? i = none → s'.outcome? i = some (.ok swapped) →
        ∃ r, s'.reloader? = some r ∧ Keypair.load w.keys s'.time.present w.certPath w.keyPath = .ok r.pair := by
  intro s
  have hs : s.Sound w := World.run_sound hes (World.start_sound w fs)
  refine ⟨fun r hr => ⟨(hs.serves r hr).keeps.loaded, (hs.serves r hr).keeps.current⟩, ?_⟩
  intro before during now swapped hsplit huntouched i s' hi hreturned
  obtain ⟨c, hc, hlast, hreloader⟩ := World.turn_outcome hreturned
  simp only [World.outcome?, hc, Option.bind_some] at hi
  obtain ⟨stamps, r, hp, hr, heq⟩ := turn_settles hi hlast
  -- the call began on the files as they still are, so the stamps it noted are theirs
  have hbegun : ((World.start fs).run w (before ++ [.check])).value.UpToDate w i := by
    rw [World.run_append]
    exact World.begin_upToDate .check (World.upToDate_length w _)
  have hdate : s.UpToDate w i := by
    have hrun := World.run_upToDate huntouched hbegun
    rwa [← World.run_append, List.append_assoc, List.singleton_append, ← hsplit] at hrun
  have hstamps : Reloader.stampsOf s.time.present w.certPath w.keyPath = .ok r.stamps :=
    heq ▸ (hdate i c (Nat.le_refl i) hc).stamps hp
  have hs' : s'.Sound w := World.step_sound trivial hs
  have htime : s'.time = s.time := World.step_time w s (.turn i now)
  have hr' : s'.reloader? = some r := hreloader.trans hr
  exact ⟨r, hr', (hs'.serves r hr').keeps.current (htime ▸ hstamps)⟩

namespace SlowReload

def armoured (label : String) (lines : List String) (modified : Nat) : StoredFile :=
  let marked := ("-----BEGIN " ++ label ++ "-----") :: lines ++ ["-----END " ++ label ++ "-----"]
  ⟨marked.flatMap fun line => Text.utf8 line ++ [10], modified⟩

/-! Two pairs on the Edwards curve, whose keys do not hold their public half. -/

def oldChain : Nat → StoredFile :=
  armoured "CERTIFICATE"
    ["MIHVMIGIoAMCAQICAQEwBQYDK2VwMAwxCjAIBgNVBAMMAWEwIBcNMjYxMTIwMDk0",
     "OTMxWhgPMjEyNjEwMjcwOTQ5MzFaMAwxCjAIBgNVBAMMAWEwKjAFBgMrZXADIQCc",
     "FeowEo0fsovb3QIooKEzwnKKBSdxFrd9rf/LsiLogqMNMAswCQYDVR0TBAIwADAF",
     "BgMrZXADQQAjZsyMGiBUJ0Z8vUpdxuhOWd/qRkdmmXrs1lMn9QuatE6xrYmpK3Qo",
     "AvOnRmSL9bFk+puTN/yo0yPhLFuc5boF"]

def oldKey : Nat → StoredFile :=
  armoured "PRIVATE KEY" ["MC4CAQAwBQYDK2VwBCIEIM+iSpH0rC2o2q9CJ74NLJaa9P/MwZyR1NEM83p2pyLL"]

def newChain : Nat → StoredFile :=
  armoured "CERTIFICATE"
    ["MIHVMIGIoAMCAQICAQEwBQYDK2VwMAwxCjAIBgNVBAMMAWEwIBcNMjYxMTIwMDk0",
     "OTMxWhgPMjEyNjEwMjcwOTQ5MzFaMAwxCjAIBgNVBAMMAWEwKjAFBgMrZXADIQAs",
     "NT4Ehfdgob34VDv1O6Dog0/vWiRHKbABbMnXr7gWw6MNMAswCQYDVR0TBAIwADAF",
     "BgMrZXADQQBeVAqTqJoRD42DZXkCOmVHCtZC8FmQ1XKtm0BNyCXFTp9CorMiU7xH",
     "tVP4igZDCKMl4fOg3EGzlhRfcLIqiIcF"]

def newKey : Nat → StoredFile :=
  armoured "PRIVATE KEY" ["MC4CAQAwBQYDK2VwBCIEIOb5gVtkr0it/k0LJ5D70EVMLM+maoANhZFoQeY21tFG"]

def watch : Watch := ⟨.standard, "cert", "key", 60000, .ambient, by decide⟩

def files : Files := { stored := [("cert", oldChain 1), ("key", oldKey 1)] }

def turns (call n : Nat) : List Event := List.replicate n (.turn call 0)

/-- A reload has read the pair when the files are rotated; a check puts the new pair into
effect, then the reload the old one; the next check finds it out. -/
def repaired : List Event :=
  turns 0 5 ++ .reload :: turns 1 4 ++ [.write "cert" (newChain 2), .write "key" (newKey 2)] ++
    .check :: turns 2 6 ++ turns 1 1 ++ .check :: turns 3 6

def events : List Event := repaired ++ .check :: turns 4 2

end SlowReload

open SlowReload in
theorem rotation_kept_slow_reload :
    Timeline.Renewing { present := files } events ∧ ∃ last settled,
      ((World.start files).run watch events).value = last ∧ (last.step watch (.turn 4 0)).value = settled ∧
        [settled.outcome? 1, settled.outcome? 2, settled.outcome? 3] = List.replicate 3 (some (.ok true)) ∧
        settled.outcome? 4 = some (.ok false) ∧
        ∃ r, settled.reloader? = some r ∧
          Keypair.load watch.keys settled.time.present watch.certPath watch.keyPath = .ok r.pair := by
  have hrenewing : Timeline.Renewing { present := files } events := by
    simp only [events, repaired, turns, Timeline.Renewing, List.replicate, List.cons_append, List.nil_append,
      Event.Renews, Timeline.after, true_and, and_true]
    decide +kernel
  have hrun :
      let last := ((World.start files).run watch events).value
      let settled := (last.step watch (.turn 4 0)).value
      ((World.start files).run watch repaired).value.calls.length = 4 ∧ last.outcome? 4 = none ∧
        [settled.outcome? 1, settled.outcome? 2, settled.outcome? 3] = List.replicate 3 (some (.ok true)) ∧
        settled.outcome? 4 = some (.ok false) := by
    decide +kernel
  obtain ⟨hcalls, hunderway, hbefore, hunchanged⟩ := hrun
  have huntouched : ∀ e ∈ turns 4 2, ¬ e.Touches watch := by
    simp [turns, Event.Touches]
  have hkept := (rotation_kept watch files events hrenewing).2 repaired (turns 4 2) 0 false rfl huntouched
  simp only [hcalls] at hkept
  exact ⟨hrenewing, _, _, rfl, rfl, hbefore, hunchanged, hkept hunderway hunchanged⟩

end ServiceHost.Tls
