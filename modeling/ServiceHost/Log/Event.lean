/-
  ServiceHost.Log.Event — what the host reports about itself: a level, the part of the
  host that speaks, a message, and fields in order.

  An event goes to one of two sinks: the logger injected into the host, or the logger
  that happens to be current where the code runs.
-/

import ServiceHost.Decimal.Binary64
import ServiceHost.Text.Quoted

namespace ServiceHost.Log

inductive Level where
  | trace
  | debug
  | info
  | warn
  | error
  deriving DecidableEq, Repr

namespace Level

def text : Level → String
  | trace => "TRACE"
  | debug => "DEBUG"
  | info => "INFO"
  | warn => "WARN"
  | error => "ERROR"

/-- Greater for levels that say more. -/
def verbosity : Level → Nat
  | error => 1
  | warn => 2
  | info => 3
  | debug => 4
  | trace => 5

end Level

inductive Area where
  | command
  | registry
  | status
  | pipeline
  | context
  | requests
  | profiler
  | readiness
  | authorization
  | certificates
  | reloader
  | scheduler
  | metrics
  | host
  | startup
  | shutdown
  deriving DecidableEq, Repr

def Area.target : Area → String
  | command => "service_hub"
  | registry => "service_hub::service::registry"
  | status => "service_hub::service::status"
  | pipeline => "service_hub::http::pipeline"
  | context => "service_hub::http::context"
  | requests => "service_hub::http::logging"
  | profiler => "service_hub::http::metrics"
  | readiness => "service_hub::http::readiness"
  | authorization => "service_hub::security::authz"
  | certificates => "service_hub::net::tls"
  | reloader => "service_hub::net::reloader"
  | scheduler => "service_hub::tasks::scheduler"
  | metrics => "service_hub::observability::metrics"
  | host => "service_hub::lifecycle::orchestrator"
  | startup => "service_hub::lifecycle::startup"
  | shutdown => "service_hub::lifecycle::shutdown"

inductive Value where
  /-- Shown as it is. -/
  | bare (s : String)
  /-- Shown between quotes in a line of text. -/
  | text (s : String)
  | nat (n : Nat)
  | int (i : Int)
  | flag (b : Bool)
  | real (x : Decimal.Binary64)
  deriving DecidableEq, Repr

structure Event where
  level : Level
  area : Area
  message : String
  fields : List (String × Value) := []
  deriving DecidableEq, Repr

inductive Sink where
  /-- The logger given to the host. -/
  | injected
  /-- The logger current where the code runs. -/
  | ambient
  deriving DecidableEq, Repr

end ServiceHost.Log
