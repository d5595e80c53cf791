/-
  ServiceHost.Tls.Reloader — the keypair that new connections are served with, replaced
  when its files change.

  The reloader keeps the stamps that the files had just before the pair was read. A check
  reads the pair again only if a stamp differs from the one kept. What fails leaves
  everything as it was. A poller checks at every tick of its line until the reloader is
  closed; checks and reloads on request work after that too.
-/

import ServiceHost.Effect
import ServiceHost.Schedule.Line
import ServiceHost.Text.Duration
import ServiceHost.Text.Quoted
import ServiceHost.Tls.Keypair

namespace ServiceHost.Tls

open ServiceHost.Schedule (Body Execution Line)

structure Stamps where
  cert : Stamp
  key : Stamp
  deriving DecidableEq, Repr

/-- Where the events of the reloader's callers go, and where those of its poller do. -/
structure ReloaderSinks where
  own : Log.Sink
  poller : Log.Sink
  deriving DecidableEq, Repr

structure Reloader where
  certPath : String
  keyPath : String
  /-- Milliseconds between two checks of the poller. -/
  interval : Nat
  /-- The pair in effect. -/
  pair : Keypair
  /-- The stamps the files had before the pair was read. -/
  stamps : Stamps
  loadedAt : Nat
  /-- Absent once the reloader is closed. -/
  poller? : Option Line
  deriving Repr

namespace Reloader

def isClosed (r : Reloader) : Bool := r.poller?.isNone

def stampOf (fs : Files) (path : String) : Except Error Stamp :=
  (fs.stamp path).mapError fun e => .read .keypair path (.io e)

/-- The present stamps of both files, the certificate's first. -/
def stampsOf (fs : Files) (certPath keyPath : String) : Except Error Stamps := do
  return ⟨← stampOf fs certPath, ← stampOf fs keyPath⟩

variable (keys : KeyProvider)

/-- Reads a pair and arms a poller for it. -/
def arm (fs : Files) (certPath keyPath : String) (interval now : Nat) (sink : Log.Sink) :
    Except Error (Run Reloader) :=
  if h : 0 < interval then do
    let stamps ← stampsOf fs certPath keyPath
    let pair ← Keypair.load keys fs certPath keyPath
    return do
      Run.log sink .info .reloader "Keypair reloader armed"
        [("cert", .bare certPath), ("key", .bare keyPath), ("interval", .bare (Text.spanText interval))]
      return { certPath, keyPath, interval, pair, stamps, loadedAt := now, poller? := some (.start interval now h) }
  else throw .zeroInterval

/-- Puts a pair into effect, with the stamps seen before it was read. -/
def install (r : Reloader) (pair : Keypair) (stamps : Stamps) (now : Nat) : Reloader :=
  { r with pair, stamps, loadedAt := now }

def reloadedEvent (r : Reloader) : Log.Event := ⟨.info, .reloader, "Keypair reloaded", [("cert", .bare r.certPath)]⟩

/-- Reads the pair whose files had these stamps, and installs it. -/
def swap (r : Reloader) (fs : Files) (stamps : Stamps) (now : Nat) (sink : Log.Sink) :
    Except Error (Run Reloader) := do
  let pair ← Keypair.load keys fs r.certPath r.keyPath
  return ⟨r.install pair stamps now, [.logged sink r.reloadedEvent]⟩

def reload (r : Reloader) (fs : Files) (now : Nat) (sink : Log.Sink) : Except Error (Run Reloader) := do
  r.swap keys fs (← stampsOf fs r.certPath r.keyPath) now sink

/-- Reads the pair again if a file changed; tells whether it did. -/
def check (r : Reloader) (fs : Files) (now : Nat) (sink : Log.Sink) : Except Error (Run (Reloader × Bool)) := do
  let stamps ← stampsOf fs r.certPath r.keyPath
  if stamps = r.stamps then return pure (r, false)
  else return (← r.swap keys fs stamps now sink) >>= fun r => pure (r, true)

def failedEvent (r : Reloader) (e : Error) : Log.Event :=
  ⟨.warn, .reloader, "Keypair reload failed, keeping previous pair",
    [("cert", .bare r.certPath), ("error", .bare e.message)]⟩

def poll (r : Reloader) (fs : Files) (now : Nat) (sink : Log.Sink) : Run Reloader :=
  match r.check keys fs now sink with
  | .ok ran => ran >>= fun x => pure x.1
  | .error e => ⟨r, [.logged sink (r.failedEvent e)]⟩

/-- The poller's ticks up to `now`, and the reloader with its line moved past them. -/
def ticks (r : Reloader) (now : Nat) : List Execution × Reloader :=
  match r.poller? with
  | some line =>
    let moved := line.advance (fun _ => {}) now
    (moved.1, { r with poller? := some moved.2 })
  | none => ([], r)

/-- Polls at every tick up to `now`; the files do not change meanwhile. -/
def advance (r : Reloader) (fs : Files) (now : Nat) (sink : Log.Sink) : Run Reloader :=
  (r.ticks now).1.foldlM (fun r x => r.poll keys fs x.start sink) (r.ticks now).2

def pollerEnd (sinks : ReloaderSinks) (line : Line) : Effect :=
  if line.failed then .logged sinks.own ⟨.error, .reloader, "Keypair poller ended abnormally", []⟩
  else .logged sinks.poller ⟨.debug, .reloader, "Keypair poller stopped", []⟩

/-- Ends the poller. Closing again does nothing. -/
def close (r : Reloader) (sinks : ReloaderSinks) : Run Reloader :=
  match r.poller? with
  | none => pure r
  | some line =>
    ⟨{ r with poller? := none },
      [pollerEnd sinks line,
       .logged sinks.own ⟨.info, .reloader, "Keypair reloader closed", [("cert", .bare r.certPath)]⟩]⟩

def inspected (r : Reloader) : String :=
  Text.inspected "KeypairReloader"
    [("cert_path", Text.quoted r.certPath), ("key_path", Text.quoted r.keyPath),
     ("interval", Text.spanText r.interval), ("closed", toString r.isClosed)] true

/-! ## What the calls come to -/

variable {keys} {r : Reloader} {fs : Files} {stamps : Stamps} {now : Nat} {sink : Log.Sink} {ran : Run Reloader}

/-- What is armed holds the pair of its files, and its poller starts now. -/
theorem arm_ok {certPath keyPath : String} {interval : Nat}
    (hr : arm keys fs certPath keyPath interval now sink = .ok ran) :
    ∃ (hi : 0 < interval) (stamps : Stamps) (pair : Keypair), Keypair.load keys fs certPath keyPath = .ok pair ∧
      ran = ⟨⟨certPath, keyPath, interval, pair, stamps, now, some (.start interval now hi)⟩,
        [.logged sink ⟨.info, .reloader, "Keypair reloader armed",
          [("cert", .bare certPath), ("key", .bare keyPath), ("interval", .bare (Text.spanText interval))]⟩]⟩ := by
  unfold arm at hr
  split at hr
  · next hi =>
    cases hs : stampsOf fs certPath keyPath with
    | error e => simp [hs, bind, Except.bind] at hr
    | ok stamps =>
      cases hl : Keypair.load keys fs certPath keyPath with
      | error e => simp [hs, hl, bind, Except.bind] at hr
      | ok pair =>
        simp only [hs, hl, bind, Except.bind, pure, Except.pure, Except.ok.injEq] at hr
        exact ⟨hi, stamps, pair, rfl, hr.symm⟩
  · cases hr

theorem swap_ok (hr : r.swap keys fs stamps now sink = .ok ran) :
    ∃ pair, Keypair.load keys fs r.certPath r.keyPath = .ok pair ∧
      ran = ⟨r.install pair stamps now, [.logged sink r.reloadedEvent]⟩ := by
  unfold swap at hr
  cases hl : Keypair.load keys fs r.certPath r.keyPath with
  | error e => simp [hl, bind, Except.bind] at hr
  | ok pair =>
    simp only [hl, bind, Except.bind, pure, Except.pure, Except.ok.injEq] at hr
    exact ⟨pair, rfl, hr.symm⟩

theorem reload_ok (hr : r.reload keys fs now sink = .ok ran) :
    ∃ pair stamps, Keypair.load keys fs r.certPath r.keyPath = .ok pair ∧
      ran = ⟨r.install pair stamps now, [.logged sink r.reloadedEvent]⟩ := by
  unfold reload at hr
  cases hs : stampsOf fs r.certPath r.keyPath with
  | error e => simp [hs, bind, Except.bind] at hr
  | ok stamps =>
    have hswap : r.swap keys fs stamps now sink = .ok ran := by simpa only [hs, bind, Except.bind] using hr
    obtain ⟨pair, hl, heq⟩ := swap_ok hswap
    exact ⟨pair, stamps, hl, heq⟩

/-- A poll finds nothing new, fails, or installs the pair of the files; the latter two it tells in one line. -/
theorem poll_cases (keys : KeyProvider) (r : Reloader) (fs : Files) (now : Nat) (sink : Log.Sink) :
    r.poll keys fs now sink = pure r ∨ (∃ e, r.poll keys fs now sink = ⟨r, [.logged sink (r.failedEvent e)]⟩) ∨
      ∃ pair stamps, Keypair.load keys fs r.certPath r.keyPath = .ok pair ∧
        r.poll keys fs now sink = ⟨r.install pair stamps now, [.logged sink r.reloadedEvent]⟩ := by
  unfold poll check
  cases hs : stampsOf fs r.certPath r.keyPath with
  | error e => exact .inr (.inl ⟨e, rfl⟩)
  | ok stamps =>
    simp only [bind, Except.bind]
    by_cases he : stamps = r.stamps
    · rw [if_pos he]
      exact .inl rfl
    · rw [if_neg he]
      cases hw : r.swap keys fs stamps now sink with
      | error e => exact .inr (.inl ⟨e, rfl⟩)
      | ok ran =>
        obtain ⟨pair, hl, rfl⟩ := swap_ok hw
        exact .inr (.inr ⟨pair, stamps, hl, rfl⟩)

end Reloader

end ServiceHost.Tls
