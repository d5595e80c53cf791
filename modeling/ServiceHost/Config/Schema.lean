/-
  ServiceHost.Config.Schema — the settings of a host and their defaults.
-/

import ServiceHost.Decimal.Binary64

namespace ServiceHost.Config

open ServiceHost.Decimal (Binary64)

/-- The nearest double to one hundredth. -/
def onePercent : Binary64 := .finite false 5764607523034235 (-59)

example : onePercent = Binary64.ofDecimal false 1 (-2) := by decide +kernel

structure HttpConfig where
  serviceName : String := "service-hub"
  bindAddr : String := "0.0.0.0:8080"
  /-- Seconds between uptime heartbeats; none at zero. -/
  heartbeatSecs : Nat := 0
  allowProfiling : Bool := false
  profilerDir : Option String := none
  /-- The fraction of requests the profiler samples. -/
  profilerSampleRate : Binary64 := onePercent
  shutdownGraceSecs : Nat := 10
  /-- The greatest accepted request body, in bytes. -/
  maxRequestSize : Nat := 64 * 1024 * 1024
  deriving DecidableEq, Repr, Inhabited

/-- Certificate and key of the listener. -/
structure TlsConfig where
  certFile : String
  keyFile : String
  /-- The authorities client certificates are verified against. -/
  trustedCaFile : Option String := none
  clientCertAuth : Option Bool := none
  reloadIntervalSecs : Nat := 5
  expiryCheckSecs : Nat := 3600
  deriving DecidableEq, Repr, Inhabited

def TlsConfig.clientAuthRequired (t : TlsConfig) : Bool := t.clientCertAuth.getD false

structure AuthzConfig where
  /-- Entries of the form `/path:role1,role2`. -/
  allow : List String := []
  /-- Paths open to every caller. -/
  allowAny : List String := []
  /-- Paths open to every caller with a client certificate. -/
  allowAnyRole : List String := []
  deriving DecidableEq, Repr, Inhabited

def AuthzConfig.isEmpty (a : AuthzConfig) : Bool :=
  a.allow.isEmpty && a.allowAny.isEmpty && a.allowAnyRole.isEmpty

structure ObservabilityConfig where
  logLevel : String := "info"
  logFormat : String := "text"
  metricsEnabled : Bool := true
  metricsAddress : String := "0.0.0.0:9090"
  deriving DecidableEq, Repr, Inhabited

structure HostConfig where
  http : HttpConfig := {}
  /-- Absent for plain HTTP. -/
  tls : Option TlsConfig := none
  authz : AuthzConfig := {}
  observability : ObservabilityConfig := {}
  deriving DecidableEq, Repr, Inhabited

end ServiceHost.Config
