/-
  ServiceHost.Session — one run of the command: settings and logging, the metrics
  exporter, a host with the status service, the wait for a signal or a fatal error, and
  the stop.

  Before logging works a fault is a complaint on the error output; after that it is an
  event. A run ends with code 0 only if it was stopped by a signal.
-/

import ServiceHost.CommandLine
import ServiceHost.Config.Load
import ServiceHost.Host.Clock
import ServiceHost.Host.Stop
import ServiceHost.Log.Line
import ServiceHost.Status

namespace ServiceHost

structure World where
  files : Files
  network : Net.Network
  now : Nat
  epoch : Int
  process : String
  machine : Net.Bind.Machine
  /-- The log filter of the environment. -/
  filter? : Option String := none
  contextId : String
  startedAt : String := ""
  localIp : String := "127.0.0.1"
  keys : Tls.KeyProvider := .standard
  order : Registry.Order := fun _ => 0
  parting : Net.Parting := .ends 0

def World.surroundings (w : World) : Surroundings :=
  { files := w.files, bind := w.network.bind, now := w.now, epoch := w.epoch, process := w.process
    keys := w.keys, order := w.order, parting := w.parting }

namespace Session

def success : UInt8 := 0

def failure : UInt8 := 1

/-- What a run leaves: its exit code, the lines of its log, and the complaint on the error output. -/
structure Output where
  code : UInt8
  lines : List String := []
  complaint : String := ""
  deriving Repr

/-- The fault of a run that has no log yet. -/
def complain (message : String) : Output := { code := failure, complaint := "service-hub: " ++ message ++ "\n" }

structure Logging where
  format : Log.Format
  filter : Log.Filter

def Logging.lines (l : Logging) (es : List Effect) : List String := Log.lines l.format l.filter (Effect.events es)

/-- The filter given with the command comes before that of the environment, and that before the settings. -/
def Logging.make (o : CommandLine.Options) (w : World) (c : Config.ObservabilityConfig) :
    Except Log.SetupError Logging := do
  let format ← Log.Format.ofText c.logFormat
  let filter ← Log.Filter.parse ((o.logLevel?.or w.filter?).getD c.logLevel)
  return ⟨format, filter⟩

def settingsFor (o : CommandLine.Options) (fs : Files) : Except Config.LoadError Config.HostConfig :=
  match o.config? with
  | some path => Config.load fs path
  | none => .ok {}

/-- Starts the metrics exporter; a fault is logged and no more. Gives the address it takes. -/
def exporter (c : Config.ObservabilityConfig) (bind : Net.Binder) : Run (Option Net.SocketAddr) :=
  if c.metricsEnabled then
    match Net.SocketAddr.ofText? c.metricsAddress with
    | none => do
      Run.log .ambient .error .command "Failed to parse metrics address"
        [("metrics_address", .bare c.metricsAddress), ("error", .bare "invalid socket address syntax")]
      return none
    | some addr =>
      match bind addr with
      | .ok bound => do
        Run.log .ambient .info .metrics "Metrics exporter listening" [("address", .bare addr.text)]
        return some bound
      | .error e => do
        Run.log .ambient .error .command "Failed to start metrics exporter"
          [("error", .bare ("failed to create HTTP listener: " ++ e.message))]
        return none
  else pure none

/-- A part of the run that can end it; what ends it has been logged. -/
abbrev Part := ExceptT Unit Run

def abandon {α : Type} (message : String) (error : String) : Part α := do
  Run.log .ambient .error .command message [("error", .bare error)]
  throw ()

def rulesFor (c : Config.AuthzConfig) : Part (Option Authz.RuleSet) :=
  if c.isEmpty then pure none
  else
    match Authz.RuleSet.ofConfig c with
    | .ok rules => pure (some rules)
    | .error e => abandon "Invalid authorization rules" e.message

/-- The settings of the command's host. It hears about fatal errors. -/
def hostSettings (o : CommandLine.Options) (w : World) (config : Config.HostConfig) (rules? : Option Authz.RuleSet) :
    Host.Settings :=
  { config, role := o.role, machine := w.machine, localIp := w.localIp, startedAt := w.startedAt, createdAt := w.now
    contextId := w.contextId, rules?, fatalHandler := true }

/-- What the host meets, once the metrics exporter has the address it takes. -/
def meets (w : World) (taken? : Option Net.SocketAddr) : Surroundings :=
  { w.surroundings with bind := (taken?.elim w.network w.network.take).bind }

def started (ended : Host × Except StartFailure Unit) : Part Host :=
  match ended.2 with
  | .ok () => pure ended.1
  | .error (.error e) => abandon "Failed to start" e.message
  | .error (.broken _) => throw ()

def launch (o : CommandLine.Options) (w : World) (config : Config.HostConfig) : Part Host := do
  Run.log .ambient .info .command "service-hub starting" [("version", .text "0.1.0"), ("role", .bare o.role)]
  let taken? ← exporter config.observability w.network.bind
  let rules? ← rulesFor config.authz
  let host ← Host.create (hostSettings o w config rules?)
  let host ← host.addService (Status.service 0)
  started (← host.start (meets w taken?))

end Session

structure Session where
  logging : Session.Logging
  host : Host
  /-- What happened so far. -/
  effects : List Effect

namespace Session

inductive Ending where
  | signal (name : String)
  | fatal (e : FatalError)

def start (o : CommandLine.Options) (w : World) : Except Output Session :=
  match settingsFor o w.files with
  | .error e => .error (complain e.message)
  | .ok config =>
    match Logging.make o w config.observability with
    | .error e => .error (complain e.message)
    | .ok logging =>
      let ran := (launch o w config).run
      match ran.value with
      | .ok host => .ok { logging, host, effects := ran.effects }
      | .error () => .error { code := failure, lines := logging.lines ran.effects }

def lines (s : Session) : List String := s.logging.lines s.effects

def fatal? (s : Session) : Option FatalError := (Effect.fatals s.effects).head?

def Ending.code : Ending → UInt8
  | signal _ => success
  | fatal _ => failure

def Ending.announce : Ending → Run Unit
  | signal name => Run.log .ambient .info .command "Shutdown signal received" [("signal", .text name)]
  | fatal e => Run.log .ambient .error .command "Fatal error, shutting down" [("error", .bare e.message)]

/-- What the host does up to the end of the wait, and its stop. -/
def close (s : Session) (w : World) (ending : Ending) : Run Unit := do
  let host ← s.host.advance w.surroundings
  ending.announce
  let (_, _, outcome) ← host.stop w.surroundings
  if outcome ≠ .broken then Run.log .ambient .info .command "Shutdown complete" []

def finish (s : Session) (w : World) (ending : Ending) : Output :=
  { code := ending.code, lines := s.logging.lines (s.effects ++ (s.close w ending).effects) }

end Session

end ServiceHost
