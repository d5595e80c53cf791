/-
  ServiceHost.Host.Stop — bringing a host down: the keypair reloader is closed, the
  scheduler stopped, the listener drained and every service closed; then the stop is
  audited.

  A service that fails to close is logged and does not keep the others from being closed.
  A host is stopped once, whether it was started or not.
-/

import ServiceHost.Host.Basic
import ServiceHost.Power
import ServiceHost.Text.Duration

namespace ServiceHost.Host

inductive StopOutcome where
  | stopped
  /-- The host was stopped before. -/
  | already
  /-- The time to wait for open connections is out of range; the rest of the stop was not done. -/
  | broken
  deriving DecidableEq, Repr

def maxSpanSecs : Nat := pow2 64 - 1

/-- How long the listener may take after the grace period, in seconds. -/
def drainSlackSecs : Nat := 1

/-- What is told of a listener whose line was waited for. -/
def drainEvent (graceSecs : Nat) : Net.Ending → Log.Event
  | .regular => ⟨.info, .shutdown, "Listener drained", []⟩
  | .failed error => ⟨.error, .shutdown, "Listener line ended abnormally", [("error", .bare error)]⟩
  | .cutOff => ⟨.warn, .shutdown, "Listener drain timed out", [("grace_secs", .nat graceSecs)]⟩

/--
  Lets open connections end, and cuts the line of the listener off if it does not. Gives the
  time that took; there is none if the time to wait is out of range.
-/
def drain (listener : Net.Listener) (parting : Net.Parting) (graceSecs : Nat) : Run (Option Nat) :=
  if graceSecs + drainSlackSecs ≤ maxSpanSecs then do
    let (listener, millis) ← listener.await parting ((graceSecs + drainSlackSecs) * 1000)
    Run.tellAll (listener.ending?.toList.map fun ending => .logged .injected (drainEvent graceSecs ending))
    return some millis
  else do
    let _ ← listener.abandon parting
    return none

def closeService (s : Service) : Run Unit := do
  Run.log .injected .debug .shutdown "Closing service" [("service", .text s.name)]
  Run.tell (.closed s.name s.serial)
  match s.closeError? with
  | some e => Run.log .injected .error .shutdown "Service close failed" [("service", .text s.name), ("error", .bare e.message)]
  | none => pure ()

def closeServices : List Service → Run Unit
  | [] => pure ()
  | s :: ss => do
    closeService s
    closeServices ss

def stopMessage (h : Host) (now : Nat) : String :=
  "node=" ++ h.settings.nodeName ++ ", uptime=" ++ Text.uptimeText (h.uptimeSecs now)

/-- The resources to give back, taken out of the phase. -/
def Phase.resources : Phase → Option Tls.Reloader × Option Net.Listener
  | .started serving => (serving.reloader?, some serving.listener)
  | _ => (none, none)

/-- Ends what the start set going: the reloader, the tasks, the listener. Tells when that is done, and whether it is. -/
def windDown (h : Host) (env : Surroundings) : Run (Host × Nat × Bool) := do
  let (reloader?, listener?) := h.phase.resources
  if let some r := reloader? then
    let _ ← r.close reloaderSinks
  let (scheduler, now) ← h.scheduler.stop env.now sinks
  let millis? ← match listener? with
    | some l => drain l env.parting h.settings.config.http.shutdownGraceSecs
    | none => pure (some 0)
  return ({ h with scheduler, phase := .stopped }, now + millis?.getD 0, millis?.isSome)

/-- Stops a host. Gives the time at which that is done. -/
def stop (h : Host) (env : Surroundings) : Run (Host × Nat × StopOutcome) :=
  match h.phase with
  | .stopped => do
    Run.log .injected .debug .shutdown "Already stopped" []
    return (h, env.now, .already)
  | _ => do
    let (h, now, drained) ← h.windDown env
    if drained then
      closeServices (h.registry.listed env.order)
      h.audit (h.lifecycleEvent AuditEvent.serviceStopped (h.stopMessage now))
      return (h, now, .stopped)
    else return (h, now, .broken)

/-- Lets a host go without stopping it: its background lines end. -/
def release (h : Host) : Run Unit :=
  Run.tellAll ((h.scheduler.lines.filter (!·.line.failed)).map (Schedule.Scheduler.endEvent sinks))

end ServiceHost.Host
