/-
  ServiceHost.Host.Start — bringing a host up: settings are validated, the address is
  resolved, the profiler made, the keypair armed, the pipeline built and the listener
  launched; then the background tasks start and the start is audited.

  The stages work on the host one after the other, and what one did stays done if a
  later one fails. Everything that can fail comes before the tasks and the audit event,
  and a failed start closes the reloader it armed, so it can be tried again. There is one
  exception: if two services route the same requests the start breaks off, and its
  reloader stays armed.
-/

import ServiceHost.Config.Validation
import ServiceHost.Host.Basic
import ServiceHost.Tls.Serving

namespace ServiceHost

/-- Why a host did not start, by the stage that failed. -/
inductive StartError where
  | config (problems : List Config.Problem)
  | bindAddress (addr : String) (cause : IoError)
  | profiler (e : Http.ProfilerError)
  | tls (e : Tls.Error)
  | authz (e : Authz.Error)
  | notListening (addr : Net.SocketAddr)
  | alreadyStarted
  deriving Repr

def StartError.message : StartError → String
  | config ps => "Invalid configuration: " ++ Config.Problem.messages ps
  | bindAddress addr cause => "Unable to resolve bind address '" ++ addr ++ "': " ++ cause.message
  | profiler e => e.message
  | tls e => "TLS configuration failed: " ++ e.message
  | authz e => "Authorization handler could not be built: " ++ e.message
  | notListening addr => "Listener on " ++ addr.text ++ " did not come up and no fatal handler is installed"
  | alreadyStarted => "Orchestrator already started; create a new instance instead"

inductive StartFailure where
  | error (e : StartError)
  /-- The start broke off while routes were registered; a reloader it armed is held by nobody. -/
  | broken (orphan? : Option Tls.Reloader)
  deriving Repr

/-- A part of the start: work on the host that can end the start. -/
abbrev Stage := ExceptT StartFailure (StateT Host Run)

namespace Stage

variable {ε α : Type}

def fail (e : StartError) : Stage α := throw (.error e)

/-- A part whose error has a place among the errors of the start. -/
def ofExcept (wrap : ε → StartError) (x : Except ε (Run α)) : Stage α :=
  match x with
  | .ok ran => liftM ran
  | .error e => fail (wrap e)

/-- Carries out a part on a host: what it comes to, and the host after it. -/
def exec (x : Stage α) (h : Host) : Run (Except StartFailure α × Host) := x.run.run h

end Stage

namespace Host

/-! ## Stages -/

/-- A keypair reloader with the terms it is served on. -/
structure PreparedTls where
  reloader : Tls.Reloader
  serving : Tls.Serving
  clientAuth : Bool
  expiryCheckSecs : Nat

def closeReloader (r? : Option Tls.Reloader) : StateT Host Run Unit :=
  match r? with
  | some r => do
    let _ ← r.close reloaderSinks
    modify fun h => { h with arming? := none }
  | none => pure ()

def nonEmpty? (s? : Option String) : Option String := s?.filter (· ≠ "")

/-- Arms the reloader, then reads the trusted authorities. -/
def secure (t : Config.TlsConfig) (env : Surroundings) : Stage PreparedTls := do
  let reloader ← Stage.ofExcept .tls
    (Tls.Reloader.arm env.keys env.files t.certFile t.keyFile (t.reloadIntervalSecs * 1000) env.now .injected)
  modify fun h => { h with arming? := some reloader }
  match Tls.Serving.make env.files (nonEmpty? t.trustedCaFile) t.clientAuthRequired .injected with
  | .error e => do
    closeReloader (some reloader)
    Stage.fail (.tls e)
  | .ok ran => do
    let serving ← ran
    Run.log .injected .info .startup "TLS configured"
      [("cert", .bare t.certFile), ("key", .bare t.keyFile), ("client_auth", .flag t.clientAuthRequired)]
    return ⟨reloader, serving, t.clientAuthRequired, t.expiryCheckSecs⟩

def validate (c : Config.HostConfig) : Stage Unit :=
  if c.problems.isEmpty then pure () else Stage.fail (.config c.problems)

def resolve (c : Config.HttpConfig) (env : Surroundings) : Stage Net.SocketAddr :=
  Stage.ofExcept (.bindAddress c.bindAddr) ((env.resolve c.bindAddr).map pure)

def prepareProfiler (c : Config.HttpConfig) (env : Surroundings) : Stage (Option Http.Profiler) :=
  if c.allowProfiling then do
    let p ← Stage.ofExcept .profiler
      (Http.Profiler.start env.files (c.profilerDir.getD "") env.process c.profilerSampleRate .injected)
    return some p
  else pure none

def prepareTls (t? : Option Config.TlsConfig) (env : Surroundings) : Stage (Option PreparedTls) :=
  match t? with
  | some t => some <$> secure t env
  | none => pure none

/-- What is ready before the pipeline is built. -/
structure Prepared where
  addr : Net.SocketAddr
  profiler? : Option Http.Profiler
  tls? : Option PreparedTls

def Prepared.clientAuth (p : Prepared) : Bool := p.tls?.any (·.clientAuth)

def Prepared.reloader? (p : Prepared) : Option Tls.Reloader := p.tls?.map (·.reloader)

/-- The listener serves on the terms that were made, if there are any. -/
def Prepared.mode (p : Prepared) : Net.Mode := p.tls?.elim .plain fun t => .tls t.serving

/-- The keypair to serve, if connections are to be encrypted. -/
def Settings.tls? (s : Settings) : Option Config.TlsConfig := s.config.tls.filter (·.keyFile ≠ "")

def prepare (env : Surroundings) : Stage Prepared := do
  let settings := (← get).settings
  validate settings.config
  let addr ← resolve settings.config.http env
  let profiler? ← prepareProfiler settings.config.http env
  let tls? ← prepareTls settings.tls? env
  return ⟨addr, profiler?, tls?⟩

def Settings.pipeline (s : Settings) (p : Prepared) : Http.PipelineSettings :=
  { role := s.role, rules? := s.rules?, authorizer := s.authorizer, clientAuth := p.clientAuth
    readCertificate := Tls.Certificate.read?, mapper := s.mapper, profiler? := p.profiler?
    bodyLimit? := some s.config.http.maxRequestSize }

/-- The pipeline over the services registered at this moment. -/
def buildPipeline (env : Surroundings) (p : Prepared) : Stage Http.Pipeline := do
  let h ← get
  match Http.Pipeline.build (h.settings.pipeline p) (h.registry.listed env.order) .injected with
  | .ok ran => liftM ran
  | .error .routes => throw (.broken h.arming?)
  | .error (.authz e) => do
    closeReloader p.reloader?
    Stage.fail (.authz e)

/--
  Keeps the address of a listener that came up. That it did not come up is an error only
  if no fatal handler is there to hear about it.
-/
def settle (p : Prepared) (heard : Bool) (listener : Net.Listener) : Stage Unit :=
  match listener.bound? with
  | some bound => modify fun h => { h with localAddr? := h.localAddr?.or (some bound) }
  | none =>
    if heard then
      liftM (Run.log .injected .warn .startup "Listener did not come up" [("address", .bare p.addr.text)])
    else do
      closeReloader p.reloader?
      Stage.fail (.notListening p.addr)

def listen (env : Surroundings) (p : Prepared) : Stage Net.Listener := do
  let heard := (← get).settings.fatalHandler
  let listener ← Net.Listener.launch env.bind p.addr p.mode heard
  settle p heard listener
  return listener

/-! ## Background tasks -/

def reloadFailedEvent (r : Tls.Reloader) (e : Tls.Error) : Log.Event :=
  ⟨.warn, .startup, "Keypair reload failed, keeping previous pair",
    [("cert", .bare r.certPath), ("error", .bare e.message)]⟩

/-- The role under which the serving certificate is published. -/
def servingRole : String := "server"

/-- Reads the keypair again; what fails leaves the pair as it was. -/
def reread (env : Surroundings) (now : Nat) (r : Tls.Reloader) : Run Tls.Reloader :=
  match r.reload env.keys env.files now .injected with
  | .ok ran => ran
  | .error e => ⟨r, [.logged .injected (reloadFailedEvent r e)]⟩

def publishPair (publisher : Publisher) (env : Surroundings) (now : Nat) (r : Tls.Reloader) : Run Unit :=
  match r.pair.leaf? with
  | some info => publisher.publish (env.calendar now) .injected (.certExpiry info servingRole)
  | none => Run.log .injected .warn .startup "Unable to parse serving certificate" [("cert", .bare r.certPath)]

/-- Reads the keypair again, and publishes the days left of the pair then in effect. -/
def publishExpiry (publisher : Publisher) (env : Surroundings) (now : Nat) (r : Tls.Reloader) : Run Tls.Reloader := do
  let r ← reread env now r
  publishPair publisher env now r
  return r

/-- Publishes for the first time what the background task will publish. -/
def publishFirst (publisher : Publisher) (env : Surroundings) (r? : Option Tls.Reloader) : Run (Option Tls.Reloader) :=
  match r? with
  | some r => some <$> publishExpiry publisher env env.now r
  | none => pure none

def expiryTask (secs : Nat) : Schedule.Task Duty := ⟨"servertls", secs * 1000, .certExpiry⟩

def heartbeatTask (secs : Nat) : Schedule.Task Duty := ⟨"server", secs * 1000, .heartbeat⟩

/-- Adds a background task; one that cannot be scheduled is logged. -/
def addDuty (s : Schedule.Scheduler Duty) (t : Schedule.Task Duty) (now : Nat) (complaint : String) :
    Run (Schedule.Scheduler Duty) :=
  match s.add t now sinks with
  | .ok ran => ran
  | .error e => ⟨s, [.logged .injected ⟨.error, .startup, complaint, [("error", .bare e.message)]⟩]⟩

def startMessage (h : Host) (clientAuth : Bool) : String :=
  let addr := h.settings.config.http.bindAddr
  let shown := (Text.after? [':'] addr.toList).elim addr String.ofList
  "node='" ++ h.settings.nodeName ++ "', address='" ++ shown ++ "', ClientAuth=" ++ toString clientAuth

def addExpiry (s : Schedule.Scheduler Duty) (tls? : Option PreparedTls) (now : Nat) : Run (Schedule.Scheduler Duty) :=
  match tls? with
  | some t => addDuty s (expiryTask t.expiryCheckSecs) now "Certificate expiry task not scheduled"
  | none => pure s

def addHeartbeat (s : Schedule.Scheduler Duty) (secs now : Nat) : Run (Schedule.Scheduler Duty) :=
  if 0 < secs then addDuty s (heartbeatTask secs) now "Heartbeat task not scheduled" else pure s

def startTasks (h : Host) (tls? : Option PreparedTls) (now : Nat) : Run (Schedule.Scheduler Duty) := do
  let scheduler ← addExpiry h.scheduler tls? now
  let scheduler ← addHeartbeat scheduler h.settings.config.http.heartbeatSecs now
  scheduler.start now sinks

/-- The last stage, which cannot fail: the background tasks, then the audit event. Gives the reloader in use. -/
def commence (env : Surroundings) (p : Prepared) : StateT Host Run (Option Tls.Reloader) := do
  modify fun h => { h with clientAuth? := h.clientAuth?.or (some p.clientAuth) }
  let h ← get
  let reloader? ← publishFirst h.settings.publisher env p.reloader?
  let scheduler ← h.startTasks p.tls? env.now
  set { h with scheduler }
  h.audit (h.lifecycleEvent AuditEvent.serviceStarted (h.startMessage p.clientAuth))
  return reloader?

/-! ## The start -/

def launch (env : Surroundings) : Stage Serving := do
  let prepared ← prepare env
  let pipeline ← buildPipeline env prepared
  let listener ← listen env prepared
  let reloader? ← commence env prepared
  return ⟨pipeline, listener, reloader?⟩

/-- The host once the stages have come to an end: it holds what they give. -/
def afterLaunch (h : Host) : Except StartFailure Serving → Host
  | .ok serving => { h with phase := .started serving, arming? := none }
  | .error (.error _) => h
  | .error (.broken orphan?) => { h with arming? := none, orphans := h.orphans ++ orphan?.toList }

def start (h : Host) (env : Surroundings) : Run (Host × Except StartFailure Unit) :=
  match h.phase with
  | .new => do
    let (outcome, h) ← (launch env).exec h
    return (h.afterLaunch outcome, outcome.map fun _ => ())
  | _ => pure (h, .error (.error .alreadyStarted))

end Host

end ServiceHost
