/-
  ServiceHost.Config.Reading — settings as documents: a document is laid over the
  defaults field by field, and settings are written as a document that reads back.

  A section is a table, or a list of its fields in order. Unknown keys are ignored. A
  list longer than its section is refused or cut, as `Form` says.
-/

import ServiceHost.Config.Schema
import ServiceHost.Document
import ServiceHost.Power

namespace ServiceHost.Config

open ServiceHost.Decimal (Binary64)

/-- Where two notations of documents differ in reading a section. -/
structure Form where
  /-- Whether a list may be longer than the section it stands for. -/
  allowsSurplus : Bool

def Form.toml : Form := ⟨true⟩

def Form.json : Form := ⟨false⟩

/-! ## Scalars -/

def word? : Document → Option Nat
  | .int i => if 0 ≤ i ∧ i < pow2 64 then some i.toNat else none
  | _ => none

/-- A double; an integer counts as the nearest one. -/
def real? : Document → Option Binary64
  | .real x => some x
  | .int i => some (.ofInt i)
  | _ => none

def texts? : Document → Option (List String)
  | .list xs => xs.mapM Document.text?
  | _ => none

def nullable {α : Type} (read : Document → Option α) : Document → Option (Option α)
  | .null => some none
  | d => (read d).map some

/-! ## Sections -/

abbrev Fields := List (String × Document)

def Form.fields? (form : Form) (names : List String) : Document → Option Fields
  | .table es => some es
  | .list xs => if form.allowsSurplus || xs.length ≤ names.length then some (names.zip xs) else none
  | .moment _ => if form.allowsSurplus then some [] else none
  | _ => none

/-- The value of a field if it is there, and its default otherwise. -/
def Fields.read {α : Type} (fs : Fields) (name : String) (dflt : α) (read : Document → Option α) : Option α :=
  match Document.find? name fs with
  | none => some dflt
  | some d => read d

def Fields.need {α : Type} (fs : Fields) (name : String) (read : Document → Option α) : Option α :=
  (Document.find? name fs).bind read

def HttpConfig.names : List String :=
  ["service_name", "bind_addr", "heartbeat_secs", "allow_profiling", "profiler_dir",
   "profiler_sample_rate", "shutdown_grace_secs", "max_request_size"]

def HttpConfig.ofFields? (fs : Fields) : Option HttpConfig := do
  let d : HttpConfig := {}
  let serviceName ← fs.read "service_name" d.serviceName Document.text?
  let bindAddr ← fs.read "bind_addr" d.bindAddr Document.text?
  let heartbeatSecs ← fs.read "heartbeat_secs" d.heartbeatSecs word?
  let allowProfiling ← fs.read "allow_profiling" d.allowProfiling Document.flag?
  let profilerDir ← fs.read "profiler_dir" d.profilerDir (nullable Document.text?)
  let profilerSampleRate ← fs.read "profiler_sample_rate" d.profilerSampleRate real?
  let shutdownGraceSecs ← fs.read "shutdown_grace_secs" d.shutdownGraceSecs word?
  let maxRequestSize ← fs.read "max_request_size" d.maxRequestSize word?
  return { serviceName, bindAddr, heartbeatSecs, allowProfiling, profilerDir, profilerSampleRate,
           shutdownGraceSecs, maxRequestSize }

def TlsConfig.names : List String :=
  ["cert_file", "key_file", "trusted_ca_file", "client_cert_auth", "reload_interval_secs",
   "expiry_check_secs"]

def TlsConfig.ofFields? (fs : Fields) : Option TlsConfig := do
  let certFile ← fs.need "cert_file" Document.text?
  let keyFile ← fs.need "key_file" Document.text?
  let d : TlsConfig := { certFile, keyFile }
  let trustedCaFile ← fs.read "trusted_ca_file" d.trustedCaFile (nullable Document.text?)
  let clientCertAuth ← fs.read "client_cert_auth" d.clientCertAuth (nullable Document.flag?)
  let reloadIntervalSecs ← fs.read "reload_interval_secs" d.reloadIntervalSecs word?
  let expiryCheckSecs ← fs.read "expiry_check_secs" d.expiryCheckSecs word?
  return { certFile, keyFile, trustedCaFile, clientCertAuth, reloadIntervalSecs, expiryCheckSecs }

def AuthzConfig.names : List String := ["allow", "allow_any", "allow_any_role"]

def AuthzConfig.ofFields? (fs : Fields) : Option AuthzConfig := do
  let allow ← fs.read "allow" [] texts?
  let allowAny ← fs.read "allow_any" [] texts?
  let allowAnyRole ← fs.read "allow_any_role" [] texts?
  return { allow, allowAny, allowAnyRole }

def ObservabilityConfig.names : List String :=
  ["log_level", "log_format", "metrics_enabled", "metrics_address"]

def ObservabilityConfig.ofFields? (fs : Fields) : Option ObservabilityConfig := do
  let d : ObservabilityConfig := {}
  let logLevel ← fs.read "log_level" d.logLevel Document.text?
  let logFormat ← fs.read "log_format" d.logFormat Document.text?
  let metricsEnabled ← fs.read "metrics_enabled" d.metricsEnabled Document.flag?
  let metricsAddress ← fs.read "metrics_address" d.metricsAddress Document.text?
  return { logLevel, logFormat, metricsEnabled, metricsAddress }

def HostConfig.names : List String := ["http", "tls", "authz", "observability"]

def HostConfig.ofFields? (form : Form) (fs : Fields) : Option HostConfig := do
  let section_ {α : Type} (names : List String) (read : Fields → Option α) (d : Document) : Option α :=
    (form.fields? names d).bind read
  let http ← fs.read "http" {} (section_ HttpConfig.names HttpConfig.ofFields?)
  let tls ← fs.read "tls" none (nullable (section_ TlsConfig.names TlsConfig.ofFields?))
  let authz ← fs.read "authz" {} (section_ AuthzConfig.names AuthzConfig.ofFields?)
  let observability ← fs.read "observability" {} (section_ ObservabilityConfig.names ObservabilityConfig.ofFields?)
  return { http, tls, authz, observability }

def HostConfig.ofDocument? (form : Form) (d : Document) : Option HostConfig :=
  (form.fields? HostConfig.names d).bind (HostConfig.ofFields? form)

/-! ## Writing -/

def HttpConfig.toDocument (c : HttpConfig) : Document :=
  .table
    [("service_name", .text c.serviceName), ("bind_addr", .text c.bindAddr),
     ("heartbeat_secs", .ofNat c.heartbeatSecs), ("allow_profiling", .bool c.allowProfiling),
     ("profiler_dir", .ofText? c.profilerDir), ("profiler_sample_rate", .real c.profilerSampleRate),
     ("shutdown_grace_secs", .ofNat c.shutdownGraceSecs), ("max_request_size", .ofNat c.maxRequestSize)]

def TlsConfig.toDocument (c : TlsConfig) : Document :=
  .table
    [("cert_file", .text c.certFile), ("key_file", .text c.keyFile),
     ("trusted_ca_file", .ofText? c.trustedCaFile),
     ("client_cert_auth", (c.clientCertAuth.map Document.bool).getD .null),
     ("reload_interval_secs", .ofNat c.reloadIntervalSecs), ("expiry_check_secs", .ofNat c.expiryCheckSecs)]

def AuthzConfig.toDocument (c : AuthzConfig) : Document :=
  .table [("allow", .texts c.allow), ("allow_any", .texts c.allowAny), ("allow_any_role", .texts c.allowAnyRole)]

def ObservabilityConfig.toDocument (c : ObservabilityConfig) : Document :=
  .table
    [("log_level", .text c.logLevel), ("log_format", .text c.logFormat),
     ("metrics_enabled", .bool c.metricsEnabled), ("metrics_address", .text c.metricsAddress)]

def HostConfig.toDocument (c : HostConfig) : Document :=
  .table
    [("http", c.http.toDocument), ("tls", (c.tls.map TlsConfig.toDocument).getD .null),
     ("authz", c.authz.toDocument), ("observability", c.observability.toDocument)]

end ServiceHost.Config
