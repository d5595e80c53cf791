/-
  ServiceHost.Proofs.Tls.Calls — arming, checking and reloading a keypair step by step.

  A call reads the stamp of the certificate, then that of the key; a check compares both
  with the stamps kept, and is over if nothing changed; then the certificate is read, then
  the key; last the pair is put into effect, and the stamps are kept with it
  (`Call.turn`). A call that nothing comes between is the arming, the check or the reload
  itself (`arm_alone`, `check_alone`, `reload_alone`).
-/

import ServiceHost.Tls.Reloader

namespace ServiceHost.Tls

open ServiceHost.Text (Octets)

/-! ## Calls -/

/-- Which keypair is watched, how often, and with which keys. -/
structure Watch where
  keys : KeyProvider
  certPath : String
  keyPath : String
  interval : Nat
  sink : Log.Sink
  interval_pos : 0 < interval

inductive Job where
  | arm
  | check
  | reload
  deriving DecidableEq, Repr

inductive Progress where
  | begun
  | certStamped (cert : Stamp)
  /-- Both stamps are read, and a check has to compare them. -/
  | stamped (stamps : Stamps)
  /-- The files have to be read. -/
  | due (stamps : Stamps)
  | certRead (stamps : Stamps) (chain : List Octets)
  | pairRead (stamps : Stamps) (pair : Keypair)
  /-- The call has returned: an error, or whether it put a pair into effect. -/
  | ended (outcome : Except Error Bool)

structure Call where
  job : Job
  progress : Progress := .begun

def Progress.outcome? : Progress → Option (Except Error Bool)
  | ended outcome => some outcome
  | _ => none

def Call.outcome? (c : Call) : Option (Except Error Bool) := c.progress.outcome?

/-- What a step leads to: the next one, or the end of the call with an error. -/
def Progress.after {α : Type} (x : Except Error α) (next : α → Progress) : Progress :=
  match x with
  | .ok a => next a
  | .error e => .ended (.error e)

def Keypair.complete (keys : KeyProvider) (atKey : Files) (keyPath : String) (chain : List Octets) :
    Except Error Keypair := do
  let key ← loadPrivateKey atKey keyPath
  match fault? keys chain key with
  | some f => throw (.key keyPath f)
  | none => return { chain, key }

namespace Watch

def armed (w : Watch) (pair : Keypair) (stamps : Stamps) (now : Nat) : Run Reloader := do
  Run.log w.sink .info .reloader "Keypair reloader armed"
    [("cert", .bare w.certPath), ("key", .bare w.keyPath), ("interval", .bare (Text.spanText w.interval))]
  return { certPath := w.certPath, keyPath := w.keyPath, interval := w.interval, pair, stamps, loadedAt := now,
           poller? := some (.start w.interval now w.interval_pos) }

/-- Puts a pair into effect, in the reloader there is or in a new one. -/
def put (w : Watch) (r? : Option Reloader) (pair : Keypair) (stamps : Stamps) (now : Nat) : Run Reloader :=
  match r? with
  | some r => ⟨r.install pair stamps now, [.logged w.sink r.reloadedEvent]⟩
  | none => w.armed pair stamps now

end Watch

namespace Call

variable (w : Watch)

def turn (fs : Files) (now : Nat) (c : Call) (r? : Option Reloader) : Run (Call × Option Reloader) :=
  let on (progress : Progress) : Run (Call × Option Reloader) := pure ({ c with progress }, r?)
  match c.progress with
  | .begun => on (.after (Reloader.stampOf fs w.certPath) .certStamped)
  | .certStamped cert =>
    on (.after (Reloader.stampOf fs w.keyPath) fun key =>
      if c.job = .check then .stamped ⟨cert, key⟩ else .due ⟨cert, key⟩)
  | .stamped stamps => on (if r?.any (·.stamps = stamps) then .ended (.ok false) else .due stamps)
  | .due stamps => on (.after (loadCertificates fs w.certPath) (.certRead stamps))
  | .certRead stamps chain => on (.after (Keypair.complete w.keys fs w.keyPath chain) (.pairRead stamps))
  | .pairRead stamps pair => do
    let r ← w.put r? pair stamps now
    return ({ c with progress := .ended (.ok true) }, some r)
  | .ended outcome => on (.ended outcome)

/-- The most steps a call takes. -/
def steps : Nat := 6

/-- Takes some steps of a call, with nothing in between. -/
def alone (fs : Files) (now : Nat) : Nat → Call → Option Reloader → Run (Call × Option Reloader)
  | 0, c, r? => pure (c, r?)
  | n + 1, c, r? => do
    let (c, r?) ← c.turn w fs now r?
    alone fs now n c r?

end Call

/-! ## A call alone -/

section Alone

variable (w : Watch) (fs : Files) (now n : Nat) (job : Job) (stamps : Stamps) (r? : Option Reloader)

theorem assemble_eq (keys : KeyProvider) (atCert atKey : Files) (certPath keyPath : String) :
    Keypair.assemble keys atCert atKey certPath keyPath =
      loadCertificates atCert certPath >>= Keypair.complete keys atKey keyPath := rfl

namespace Call

theorem alone_succ (c : Call) :
    c.alone w fs now (n + 1) r? = c.turn w fs now r? >>= fun x => x.1.alone w fs now n x.2 := rfl

theorem alone_ended (outcome : Except Error Bool) :
    alone w fs now n ⟨job, .ended outcome⟩ r? = pure (⟨job, .ended outcome⟩, r?) := by
  induction n with
  | zero => rfl
  | succ n ih =>
    rw [alone_succ]
    exact ih

def returned (x : Except Error (Run (Reloader × Bool))) : Run (Call × Option Reloader) :=
  match x with
  | .ok ran => (fun y => (⟨job, .ended (.ok y.2)⟩, some y.1)) <$> ran
  | .error e => pure (⟨job, .ended (.error e)⟩, r?)

theorem alone_due :
    alone w fs now (n + 3) ⟨job, .due stamps⟩ r? =
      returned job r? ((Keypair.load w.keys fs w.certPath w.keyPath).map fun pair =>
        (·, true) <$> w.put r? pair stamps now) := by
  rw [Keypair.load, assemble_eq, alone_succ]
  cases hc : loadCertificates fs w.certPath with
  | error e =>
    simp only [turn, hc, Progress.after, pure_bind]
    exact alone_ended ..
  | ok chain =>
    simp only [turn, hc, Progress.after, pure_bind]
    rw [alone_succ]
    change _ = returned job r? ((Keypair.complete w.keys fs w.keyPath chain).map _)
    cases hk : Keypair.complete w.keys fs w.keyPath chain with
    | error e =>
      simp only [turn, hk, Progress.after, pure_bind]
      exact alone_ended ..
    | ok pair =>
      simp only [turn, hk, Progress.after, pure_bind]
      rw [alone_succ]
      simp only [turn, bind_assoc, pure_bind, alone_ended, returned, Except.map, map_eq_pure_bind]

theorem alone_begun :
    alone w fs now (n + 2) ⟨job, .begun⟩ r? =
      match Reloader.stampsOf fs w.certPath w.keyPath with
      | .ok stamps => alone w fs now n ⟨job, if job = .check then .stamped stamps else .due stamps⟩ r?
      | .error e => pure (⟨job, .ended (.error e)⟩, r?) := by
  rw [Reloader.stampsOf, alone_succ]
  cases hc : Reloader.stampOf fs w.certPath with
  | error e =>
    simp only [turn, hc, Progress.after, pure_bind]
    exact alone_ended ..
  | ok cert =>
    simp only [turn, hc, Progress.after, pure_bind]
    rw [alone_succ]
    cases hk : Reloader.stampOf fs w.keyPath with
    | error e =>
      simp only [turn, hk, Progress.after, pure_bind]
      exact alone_ended ..
    | ok key =>
      simp only [turn, hk, Progress.after, pure_bind]
      rfl

variable {w} {r : Reloader}

/-- A check that nothing comes between is the check. -/
theorem check_alone (hc : r.certPath = w.certPath) (hk : r.keyPath = w.keyPath) :
    alone w fs now steps { job := .check } (some r) = returned .check (some r) (r.check w.keys fs now w.sink) := by
  rw [steps, alone_begun, Reloader.check, hc, hk]
  cases hs : Reloader.stampsOf fs w.certPath w.keyPath with
  | error e => rfl
  | ok stamps =>
    simp only [if_true]
    rw [alone_succ]
    change _ = returned .check (some r) (if stamps = r.stamps then _ else _)
    by_cases he : stamps = r.stamps
    · simp only [turn, he, Option.any_some, decide_true, if_true, pure_bind]
      exact alone_ended ..
    · simp only [turn, Option.any_some, Ne.symm he, decide_false, Bool.false_eq_true, if_false, pure_bind, he,
        Reloader.swap, hc, hk]
      rw [alone_due]
      cases hload : Keypair.load w.keys fs w.certPath w.keyPath with
      | error e => rfl
      | ok pair => rfl

theorem reload_alone (hc : r.certPath = w.certPath) (hk : r.keyPath = w.keyPath) :
    alone w fs now steps { job := .reload } (some r) =
      returned .reload (some r) ((r.reload w.keys fs now w.sink).map ((·, true) <$> ·)) := by
  rw [steps, alone_begun, Reloader.reload, hc, hk]
  cases hs : Reloader.stampsOf fs w.certPath w.keyPath with
  | error e => rfl
  | ok stamps =>
    simp only [reduceCtorEq, if_false]
    change _ = returned .reload (some r) ((r.swap w.keys fs stamps now w.sink).map _)
    rw [alone_due, Reloader.swap, hc, hk]
    cases hload : Keypair.load w.keys fs w.certPath w.keyPath with
    | error e => rfl
    | ok pair => rfl

theorem arm_alone :
    alone w fs now steps { job := .arm } none =
      returned .arm none
        ((Reloader.arm w.keys fs w.certPath w.keyPath w.interval now w.sink).map ((·, true) <$> ·)) := by
  rw [steps, alone_begun, Reloader.arm, dif_pos w.interval_pos]
  cases hs : Reloader.stampsOf fs w.certPath w.keyPath with
  | error e => rfl
  | ok stamps =>
    simp only [reduceCtorEq, if_false]
    rw [alone_due]
    cases hload : Keypair.load w.keys fs w.certPath w.keyPath with
    | error e => rfl
    | ok pair => rfl

end Call

end Alone

end ServiceHost.Tls
