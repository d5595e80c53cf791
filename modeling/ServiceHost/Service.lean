/-
  ServiceHost.Service — the units a host is made of: a name, a readiness signal, handlers
  for paths, and what closing it reports.

  A service is told from others of its name by its serial number.
-/

import ServiceHost.Context
import ServiceHost.Effect
import ServiceHost.Http.Message

namespace ServiceHost

inductive CloseError where
  | close (text : String)
  | other (text : String)
  deriving DecidableEq, Repr

def CloseError.message : CloseError → String
  | close text => "close failed: " ++ text
  | other text => text

structure ClusterMember where
  id : String
  name : String
  peerUrls : List String
  deriving DecidableEq, Repr

inductive ClusterError where
  | notSupported
  | query (text : String)
  deriving DecidableEq, Repr

def ClusterError.message : ClusterError → String
  | notSupported => "cluster not supported"
  | query text => "cluster query failed: " ++ text

structure Cluster where
  nodeId : String
  nodeName : String
  leaderId : String
  members : Except ClusterError (List ClusterMember)

/-- What handlers can ask the host about itself. -/
structure HostView where
  name : String
  version : String
  role : String
  hostName : String
  nodeName : String
  port : String
  localIp : String
  startedAt : String
  uptimeSecs : Nat
  members : Except ClusterError (List ClusterMember)

/-- What a request meets that does not come from it: a fresh id, the date and time it takes, the sampler's draw. -/
structure Occasion where
  freshId : String
  date : String := ""
  elapsedNanos : Nat := 0
  draw : Decimal.Binary64 := .zero false

/-- The greatest body a handler reads if no limit is set. -/
def defaultBodyLimit : Nat := 2 * 1024 * 1024

structure Call where
  request : Http.Request
  occasion : Occasion
  context? : Option Context := none
  bodyLimit : Nat := defaultBodyLimit
  /-- Absent once the host is gone. -/
  host? : Option HostView := none
  /-- Where events of the handlers go. -/
  sink : Log.Sink := .ambient

/-- The correlation id of a call, empty without a context. -/
def Call.correlationId (c : Call) : String := ((c.context?.map (·.correlationId))).getD ""

def Call.identityText (c : Call) : String := ((c.context?.map (·.identity.text))).getD ""

abbrev Endpoint := Call → Run Http.Response

abbrev Layer := Endpoint → Endpoint

structure Handler where
  /-- Whether the whole body is read before the handler runs. -/
  readsBody : Bool := false
  answer : Endpoint

inductive Methods where
  /-- Every method no other route of the path takes. -/
  | any
  | only (method : String)
  deriving DecidableEq, Repr

structure Route where
  path : String
  methods : Methods
  handler : Handler

structure Service where
  name : String
  serial : Nat := 0
  ready : Bool := true
  routes : List Route := []
  /-- What closing the service reports. -/
  closeError? : Option CloseError := none

namespace Handler

/-- The endpoint of a service's handler: a body over the limit is refused before the handler runs. -/
def endpoint (h : Handler) (service : String) : Endpoint := fun call =>
  if h.readsBody && call.bodyLimit < call.request.body.utf8ByteSize then
    pure (.plain 413 "Failed to buffer the request body: length limit exceeded")
  else do
    Run.tell (.handled service)
    h.answer call

def text (status : Nat) (body : String) : Handler := { answer := fun _ => pure (.plain status body) }

def whoAmI : Handler :=
  { answer := fun c => pure (.plain 200 (Context.orUnknown c.occasion.freshId c.context?).text) }

def callerRole : Handler := { answer := fun c => pure (.plain 200 (Context.roleOf c.context?)) }

def echo : Handler := { readsBody := true, answer := fun c => pure (.binary c.request.body) }

end Handler

end ServiceHost
