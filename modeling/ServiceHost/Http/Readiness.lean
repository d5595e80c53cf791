/-
  ServiceHost.Http.Readiness — the reserved path that tells whether every service is ready.

  The gate answers from the registry as it is at that moment, in front of the routes.
-/

import ServiceHost.Document.Json
import ServiceHost.Registry

namespace ServiceHost.Http.Readiness

def path : String := "/availability"

def readyBody : String := (Document.table [("status", .text "ready")]).toJson

def pendingBody (names : List String) : String :=
  (Document.table [("pending", .texts names), ("status", .text "not_ready")]).toJson

/--
  The answer on the reserved path. Readiness is judged first, and the names are listed
  after that, from the registry as it is by then.
-/
def verdict (judged listed : Registry) (sink : Log.Sink) : Run Response :=
  if judged.isReady then pure (.json 200 readyBody)
  else do
    Run.log sink .debug .readiness "Not ready" [("pending", .bare (Text.quotedList listed.pending))]
    return .json 503 (pendingBody listed.pending)

def gate (registry : Registry) : Layer := fun next call =>
  if call.request.uri.path = path then verdict registry registry call.sink else next call

end ServiceHost.Http.Readiness
