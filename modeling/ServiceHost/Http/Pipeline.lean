/-
  ServiceHost.Http.Pipeline — how a request is answered.

  A request passes, from the outside in: the context layer, which names the caller and
  gives the correlation id; the request log; authorization, if client certificates are
  required and rules are set; request metrics and the profiler; the readiness gate; the
  routes of the services as they were when the pipeline was built.

  Two events lack a field here: that of a certificate that cannot be read does not say what
  is wrong with it (`error`, the text of the library that reads certificates), and the line
  of the request log does not say how long the request took (`duration_ms`).
-/

import ServiceHost.Authz
import ServiceHost.Http.Profiler
import ServiceHost.Http.Readiness
import ServiceHost.Http.Table

namespace ServiceHost.Http

/-! ## Layers -/

abbrev CertificateReader := Text.Octets → Option CertificateInfo

namespace Layers

/-- The identity of a caller: its certificate's if that can be read, and a guest's otherwise. -/
def identify (read : CertificateReader) (mapper : IdentityMapper) (r : Request) : Run Identity :=
  match r.leaf? with
  | none => pure (.guest (Context.guestName r))
  | some der =>
    match read der with
    | some c => pure (mapper c)
    | none => do
      Run.log .ambient .debug .context "Unparsable client certificate" []
      return .guest (Context.guestName r)

/--
  Gives the request its context, and the response the correlation id. Everything behind
  this layer logs to the host's own logger.
-/
def context (read : CertificateReader) (mapper : IdentityMapper) : Layer := fun next call => do
  let id := (Context.incomingId? call.request).getD call.occasion.freshId
  let identity ← identify read mapper call.request
  let response ← next { call with context? := some ⟨id, identity⟩, sink := .injected }
  return if (Text.utf8 id).all isTextByte then response.setHeader Context.header id else response

/-- The line of the request log; failures of the server are warnings. -/
def logLine (role : String) (call : Call) (response : Response) : Log.Event :=
  let failed := response.isServerError
  { level := if failed then .warn else .info
    area := .requests
    message := if failed then "Request failed" else "Request served"
    fields :=
      [("role", .bare role), ("method", .bare call.request.method), ("path", .bare call.request.uri.path),
       ("status", .nat response.status), ("correlation_id", .bare call.correlationId),
       ("identity", .bare call.identityText)] }

def requestLog (role : String) : Layer := fun next call => do
  let response ← next call
  Run.tell (.logged call.sink (logLine role call response))
  return response

def refuse (role : Call → String) : Endpoint := fun call => do
  let path := call.request.uri.path
  let caller := role call
  Run.log call.sink .warn .authorization "Request not authorized"
    [("path", .bare path), ("role", .bare caller), ("correlation_id", .text call.correlationId)]
  return (ApiError.forbidden ("role '" ++ caller ++ "' is not allowed to access " ++ path)).response

/-- Refuses calls that the rules do not allow, before anything behind them runs. -/
def enforce (rules : Authz.RuleSet) (role : Call → String) : Layer := fun next call =>
  if rules.allows call.request.uri.path (role call) then next call else refuse role call

/--
  The authorization layer of some rules; `sink` gets the event of setting it up. It needs
  to know how a caller's role is found.
-/
def authorization (rules : Authz.RuleSet) (role? : Option (Call → String)) (sink : Log.Sink) :
    Except Authz.Error (Run Layer) :=
  match role? with
  | none => .error .noRoleMapper
  | some role => .ok do
    Run.log sink .info .authorization "Path authorization enabled" [("rules", .nat rules.rules.length)]
    return enforce rules role

def measuredRecord (m : Measurement) (call : Call) (response : Response) : ProfileRecord :=
  ⟨m.date, call.request.method, call.request.uri.path, response.status, m.elapsedNanos / 1000, call.correlationId⟩

/-- Hands the record of an answer to the profiler, if the request is taken. -/
def keepRecord (profiler? : Option Profiler) (m : Measurement) (call : Call) (response : Response) : Run Unit :=
  match profiler? with
  | some p => if p.samples m.draw then p.keep m.fate (measuredRecord m call response) call.sink else pure ()
  | none => pure ()

/-- Records what was answered, and how fast, by what is measured of a call. -/
def metered (profiler? : Option Profiler) (measure : Call → Measurement) : Layer := fun next call => do
  let m := measure call
  let response ← next call
  Run.tellAll ((Metrics.ofRequest call.request.method response.status m.elapsedNanos).map .measured)
  keepRecord profiler? m call response
  return response

/-- What a call meets, as long as the writer of the profile is there. -/
def measured (call : Call) : Measurement := ⟨call.occasion.date, call.occasion.elapsedNanos, call.occasion.draw, .sent⟩

def profileRecord (call : Call) (response : Response) : ProfileRecord := measuredRecord (measured call) call response

/-- The metrics layer of a pipeline whose profile is written. -/
def metrics (profiler? : Option Profiler) : Layer := metered profiler? measured

@[simp] theorem effects_metered (profiler? : Option Profiler) (measure : Call → Measurement) (next : Endpoint)
    (call : Call) :
    (metered profiler? measure next call).effects =
      (next call).effects ++
        ((Metrics.ofRequest call.request.method (next call).value.status (measure call).elapsedNanos).map .measured ++
          (keepRecord profiler? (measure call) call (next call).value).effects) := by
  simp only [metered, Run.effects_bind, Run.effects_tellAll, Run.effects_pure, List.append_nil]

def limit (bytes : Option Nat) : Layer := fun next call =>
  next (match bytes with
    | some n => { call with bodyLimit := n }
    | none => call)

def unclaimed : Endpoint := fun call => pure (ApiError.notFound call.request.uri).response

end Layers

/-! ## Pipeline -/

/--
  A collaborator that makes the authorization layer out of the rules and of how a caller's
  role is found, if it can. It logs in its own name and does nothing else.
-/
structure Authorizer where
  layer : Authz.RuleSet → Option (Call → String) → Log.Sink → Except Authz.Error (Run Layer)
  notes : ∀ {rules role? sink ran}, layer rules role? sink = .ok ran → ∀ e ∈ ran.effects, e.area? = some .authorization

/-- The collaborator that lets the rules decide. -/
def Authorizer.byRules : Authorizer where
  layer := Layers.authorization
  notes := by
    intro rules role? sink ran h
    unfold Layers.authorization at h
    cases role? with
    | none => cases h
    | some role => cases h; simp [Effect.area?]

/-- What a pipeline is built from, the services apart. -/
structure PipelineSettings where
  role : String
  rules? : Option Authz.RuleSet := none
  authorizer : Authorizer := .byRules
  /-- Whether clients must present a certificate. -/
  clientAuth : Bool := false
  readCertificate : CertificateReader
  mapper : IdentityMapper := Identity.ofCertificate
  profiler? : Option Profiler := none
  bodyLimit? : Option Nat := none

structure Pipeline where
  table : Table
  /-- The authorization layer, which does nothing if none is in force. -/
  guard : Layer
  settings : PipelineSettings

inductive PipelineError where
  /-- Two routes take the same requests, or a path does not start with a slash. -/
  | routes
  | authz (e : Authz.Error)
  deriving DecidableEq, Repr

namespace Pipeline

/-- A pipeline over the routes of some services; `sink` gets the events of building it. -/
def build (c : PipelineSettings) (services : List Service) (sink : Log.Sink) : Except PipelineError (Run Pipeline) :=
  match Table.ofServices services with
  | none => .error .routes
  | some table =>
    let announce : Run Unit := do
      Run.log sink .debug .pipeline "Services registered" [("service_count", .nat services.length)]
      Run.log sink .info .pipeline "Building request pipeline"
        [("role", .bare c.role), ("client_auth", .flag c.clientAuth)]
    match c.rules?, c.clientAuth with
    | some rules, true =>
      match c.authorizer.layer rules (some fun call => Context.roleOf call.context?) sink with
      | .error e => .error (.authz e)
      | .ok layer => .ok do
        announce
        return ⟨table, ← layer, c⟩
    | _, _ => .ok do
      announce
      return ⟨table, id, c⟩

/-- All layers, the outermost first, with some layer at the place of the metrics. -/
def layersWith (p : Pipeline) (registry : Registry) (meter : Layer) : Layer :=
  Layers.context p.settings.readCertificate p.settings.mapper ∘ Layers.requestLog p.settings.role ∘ p.guard ∘
    meter ∘ Readiness.gate registry ∘ Layers.limit p.settings.bodyLimit?

def layers (p : Pipeline) (registry : Registry) : Layer :=
  p.layersWith registry (Layers.metrics p.settings.profiler?)

/-- The answer to a call, readiness taken from the registry as it is now. -/
def serve (p : Pipeline) (registry : Registry) : Endpoint :=
  p.table.serve (p.layers registry) Layers.unclaimed

end Pipeline

end ServiceHost.Http
