/-
  ServiceHost.Metrics — measurements the host records, and how the publications of its
  background tasks become gauges.

  A request counts once by method and status and is timed by method. Of the serving
  certificate the whole days left are published; fewer than thirty are also warned of.
-/

import ServiceHost.Decimal.Binary64
import ServiceHost.Identity
import ServiceHost.Log.Event

namespace ServiceHost

open ServiceHost.Decimal (Binary64)

namespace Metrics

inductive Action where
  /-- A counter grows. -/
  | increment
  /-- A gauge takes a value. -/
  | set
  /-- A histogram takes a sample. -/
  | record
  deriving DecidableEq, Repr

def Action.text : Action → String
  | increment => "increment"
  | set => "set"
  | record => "record"

def Action.kind : Action → String
  | increment => "counter"
  | set => "gauge"
  | record => "histogram"

structure Metric where
  name : String
  labels : List (String × String)
  action : Action
  value : Binary64
  deriving DecidableEq, Repr

def uptimeSeconds : String := "service_uptime_seconds"

def certExpiryDays : String := "tls_cert_expiry_days"

def requestsTotal : String := "http_requests_total"

def requestSeconds : String := "http_request_duration_seconds"

/-- One answered request; the time it took is in nanoseconds. -/
def ofRequest (method : String) (status nanos : Nat) : List Metric :=
  [⟨requestsTotal, [("method", method), ("status", toString status)], .increment, .one⟩,
   ⟨requestSeconds, [("method", method)], .record, .ofBillionths nanos⟩]

inductive Publication where
  | heartbeat (service : String) (uptimeNanos : Nat)
  | certExpiry (certificate : CertificateInfo) (role : String)
  deriving DecidableEq, Repr

/-- Days left below which a certificate is warned of. -/
def soon : Int := 30

def Publication.metric (now : Int) : Publication → Metric
  | heartbeat service nanos => ⟨uptimeSeconds, [("service", service)], .set, .ofBillionths nanos⟩
  | certExpiry c role =>
    ⟨certExpiryDays, [("role", role), ("subject", c.subject)], .set, .ofInt (c.daysLeft now)⟩

def Publication.warning? (now : Int) : Publication → Option Log.Event
  | heartbeat .. => none
  | certExpiry c role =>
    if c.daysLeft now < soon then
      some ⟨.warn, .metrics, "Certificate expires soon",
        [("subject", .bare c.subject), ("role", .text role), ("days", .int (c.daysLeft now))]⟩
    else none

end Metrics

end ServiceHost
