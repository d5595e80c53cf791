/-
  ServiceHost.Host.Basic — a host: its settings and collaborators, its services, and what
  it holds in each phase of its life.

  A host is new, then started, then stopped, or goes from new to stopped; it starts at
  most once. The pipeline, the listener and the keypair reloader are held from start to
  stop. While a start is under way its reloader is nobody's yet: the start closes it or
  hands it over. One that breaks off while routes are registered does neither; such
  reloaders are kept apart, since their pollers go on.
-/

import ServiceHost.Config.Schema
import ServiceHost.Http.Pipeline
import ServiceHost.Net.Bind
import ServiceHost.Net.Listener
import ServiceHost.Power
import ServiceHost.Publisher
import ServiceHost.Schedule.Scheduler
import ServiceHost.Tls.Reloader

namespace ServiceHost

inductive Duty where
  /-- Publishes how long the serving certificate is still valid. -/
  | certExpiry
  /-- Publishes how long the host has been running. -/
  | heartbeat
  deriving DecidableEq, Repr

/-- What the host meets outside of itself. -/
structure Surroundings where
  files : Files
  bind : Net.Binder
  /-- Which address a bind address names. Unless told otherwise only numeric hosts are known. -/
  resolve : String → Except IoError Net.SocketAddr := Net.Bind.resolve
  /-- The clock, in milliseconds. -/
  now : Nat
  /-- The calendar time of the clock's zero, in nanoseconds from the epoch. -/
  epoch : Int
  /-- The name of the process in file names. -/
  process : String
  keys : Tls.KeyProvider := .standard
  /-- In which order the registry lists its services. -/
  order : Registry.Order := fun _ => 0
  /-- What becomes of the line of the listener when it is told to end. -/
  parting : Net.Parting := .ends 0

/-- The calendar time of a moment on the clock. -/
def Surroundings.calendar (env : Surroundings) (millis : Nat) : Int := env.epoch + millis * pow10 6

structure Host.Settings where
  config : Config.HostConfig
  /-- The role the host itself acts in. -/
  role : String
  version : String := "0.1.0"
  machine : Net.Bind.Machine := {}
  /-- The address of the outbound interface. -/
  localIp : String := "127.0.0.1"
  /-- When the host was made, as a date. -/
  startedAt : String := ""
  /-- When the host was made, on the clock. -/
  createdAt : Nat := 0
  /-- The id of the host's own work. -/
  contextId : String
  rules? : Option Authz.RuleSet := none
  authorizer : Http.Authorizer := .byRules
  cluster? : Option Cluster := none
  publisher : Publisher := .gauges
  mapper : IdentityMapper := Identity.ofCertificate
  /-- Whether somebody hears about fatal errors. -/
  fatalHandler : Bool := false
  /-- Whether somebody keeps audit events; they are logged otherwise. -/
  auditor : Bool := false

/-- What a host holds between start and stop. -/
structure Host.Serving where
  pipeline : Http.Pipeline
  listener : Net.Listener
  /-- The pair new connections are served with; absent for plain HTTP. -/
  reloader? : Option Tls.Reloader

inductive Host.Phase where
  | new
  | started (serving : Host.Serving)
  | stopped

structure Host where
  settings : Host.Settings
  registry : Registry := {}
  scheduler : Schedule.Scheduler Duty := .empty
  phase : Host.Phase := .new
  /-- Whether clients must present a certificate; set by the start. -/
  clientAuth? : Option Bool := none
  /-- The address really bound; set by the start. -/
  localAddr? : Option Net.SocketAddr := none
  /-- The reloader armed by the start under way. -/
  arming? : Option Tls.Reloader := none
  /-- Reloaders of starts that broke off. -/
  orphans : List Tls.Reloader := []

namespace Host

/-- Everything the host logs goes to its own logger. -/
def sinks : Schedule.Sinks := ⟨.injected, .injected⟩

def reloaderSinks : Tls.ReloaderSinks := ⟨.injected, .injected⟩

/-! ## Telling about a host -/

def Settings.hostName (s : Settings) : String := Net.Bind.hostName s.machine s.config.http.bindAddr

def Settings.port (s : Settings) : String := Net.Bind.port s.config.http.bindAddr

/-- The name in the cluster, or the name of the host without one. -/
def Settings.nodeName (s : Settings) : String := (s.cluster?.map (·.nodeName)).getD s.hostName

/-- The context of what the host does by itself. -/
def Settings.context (s : Settings) : Context := ⟨s.contextId, ⟨s.role, s.hostName⟩⟩

def nodeId (h : Host) : String := (h.settings.cluster?.map (·.nodeId)).getD ""

def leaderId (h : Host) : String := (h.settings.cluster?.map (·.leaderId)).getD ""

def members (h : Host) : Except ClusterError (List ClusterMember) :=
  (h.settings.cluster?.map (·.members)).getD (.error .notSupported)

def clientAuthEnabled (h : Host) : Bool := h.clientAuth?.getD false

def uptimeMillis (h : Host) (now : Nat) : Nat := now - h.settings.createdAt

def uptimeSecs (h : Host) (now : Nat) : Nat := h.uptimeMillis now / 1000

def view (h : Host) (now : Nat) : HostView :=
  { name := h.settings.config.http.serviceName, version := h.settings.version, role := h.settings.role
    hostName := h.settings.hostName, nodeName := h.settings.nodeName, port := h.settings.port
    localIp := h.settings.localIp, startedAt := h.settings.startedAt, uptimeSecs := h.uptimeSecs now
    members := h.members }

def inspected (h : Host) : String :=
  Text.inspected "Orchestrator"
    [("name", Text.quoted h.settings.config.http.serviceName), ("role_name", Text.quoted h.settings.role),
     ("bind_addr", Text.quoted h.settings.config.http.bindAddr), ("services", h.registry.inspected)] false

/-! ## Making and filling a host -/

def create (s : Settings) : Run Host := do
  Run.log .injected .info .host "Orchestrator created"
    [("service", .bare s.config.http.serviceName), ("role", .bare s.role), ("host", .bare s.hostName),
     ("port", .bare s.port)]
  return { settings := s }

/-- Adds a service, in place of another of its name; once there is a listener it will not be dispatched to. -/
def addService (h : Host) (s : Service) : Run Host := do
  let (registry, previous?) ← h.registry.add s
  if previous?.isSome then
    Run.log .injected .debug .host "Service replaced" [("service", .bare s.name)]
  if h.localAddr?.isSome then
    Run.log .injected .warn .host "Service added after start; it will not receive requests" [("service", .bare s.name)]
  return { h with registry }

/-- Hands an audit event to whoever keeps them, or logs it. -/
def audit (h : Host) (e : AuditEvent) : Run Unit :=
  if h.settings.auditor then Run.tell (.audited e) else Run.log .injected .info .host e.text []

def lifecycleEvent (h : Host) (eventType message : String) : AuditEvent :=
  let c := h.settings.context
  ⟨AuditEvent.statusSource, eventType, c.identity.text, c.correlationId, 0, message⟩

/-! ## Serving -/

/-- The answer to a request; nothing unless the host is serving. -/
def serve? (h : Host) (now : Nat) (request : Http.Request) (occasion : Occasion) : Option (Run Http.Response) :=
  match h.phase with
  | .started serving => some (serving.pipeline.serve h.registry { request, occasion, host? := some (h.view now) })
  | _ => none

/-- Every reloader whose poller is armed: the one in use, that of a start under way, and those nobody holds. -/
def armed (h : Host) : List Tls.Reloader :=
  let held :=
    match h.phase with
    | .started serving => serving.reloader?.toList
    | _ => []
  (held ++ h.arming?.toList ++ h.orphans).filter (!·.isClosed)

end Host

end ServiceHost
