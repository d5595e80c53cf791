/-
  ServiceHost.Config.Validation — what makes settings that read well unusable.

  Every problem is reported, in the order of the fields. Fields that another one switches
  off are not looked at.
-/

import ServiceHost.Config.Schema
import ServiceHost.Decimal.Shortest
import ServiceHost.Text.Blank
import ServiceHost.Text.Cut
import ServiceHost.Text.Numeral

namespace ServiceHost.Config

open ServiceHost.Text ServiceHost.Decimal

inductive Problem where
  | bindAddrEmpty
  | bindAddrForm (addr : String)
  | profilerDirMissing
  | sampleRate (rate : Binary64)
  | certFileEmpty
  | keyFileEmpty
  | trustedCaMissing
  | reloadIntervalZero
  | expiryCheckZero
  | allowForm (entry : String)
  | logFormat (text : String)
  deriving DecidableEq, Repr

namespace Problem

def field : Problem → String
  | bindAddrEmpty => "http.bind_addr"
  | bindAddrForm _ => "http.bind_addr"
  | profilerDirMissing => "http.profiler_dir"
  | sampleRate _ => "http.profiler_sample_rate"
  | certFileEmpty => "tls.cert_file"
  | keyFileEmpty => "tls.key_file"
  | trustedCaMissing => "tls.trusted_ca_file"
  | reloadIntervalZero => "tls.reload_interval_secs"
  | expiryCheckZero => "tls.expiry_check_secs"
  | allowForm _ => "authz.allow"
  | logFormat _ => "observability.log_format"

def reason : Problem → String
  | bindAddrEmpty => "must not be empty"
  | bindAddrForm addr => "'" ++ addr ++ "' is not in host:port form"
  | profilerDirMissing => "required when allow_profiling is set"
  | sampleRate rate => rate.text ++ " is outside (0, 1]"
  | certFileEmpty => "must not be empty"
  | keyFileEmpty => "must not be empty"
  | trustedCaMissing => "required when client_cert_auth is enabled"
  | reloadIntervalZero => "must be > 0"
  | expiryCheckZero => "must be > 0"
  | allowForm entry => "'" ++ entry ++ "' is not in /path:role,... form"
  | logFormat text => "'" ++ text ++ "' is not one of text, json"

def message (p : Problem) : String := p.field ++ ": " ++ p.reason

def messages (ps : List Problem) : String := ", ".intercalate (ps.map message)

end Problem

def hasPort (addr : List Char) : Bool :=
  match cutLast ':' addr with
  | some (_, port) => (readUnsigned 65535 port).isSome
  | none => false

def isMissing (s : Option String) : Bool := s.getD "" = ""

def found (c : Bool) (p : Problem) : List Problem := if c then [p] else []

def HttpConfig.problems (c : HttpConfig) : List Problem :=
  let addr := trim c.bindAddr
  (if addr.isEmpty then [.bindAddrEmpty] else found (!hasPort addr.toList) (.bindAddrForm addr)) ++
  if c.allowProfiling then
    found (isMissing c.profilerDir) .profilerDirMissing ++
    found (!c.profilerSampleRate.isFraction) (.sampleRate c.profilerSampleRate)
  else []

def TlsConfig.problems (c : TlsConfig) : List Problem :=
  found c.certFile.isEmpty .certFileEmpty ++
  found c.keyFile.isEmpty .keyFileEmpty ++
  found (c.clientAuthRequired && isMissing c.trustedCaFile) .trustedCaMissing ++
  found (c.reloadIntervalSecs = 0) .reloadIntervalZero ++
  found (c.expiryCheckSecs = 0) .expiryCheckZero

def isAllowForm (entry : String) : Bool :=
  entry.toList.head? = some '/' && entry.toList.contains ':'

def AuthzConfig.problems (c : AuthzConfig) : List Problem :=
  c.allow.flatMap fun entry => found (!isAllowForm entry) (.allowForm entry)

def ObservabilityConfig.problems (c : ObservabilityConfig) : List Problem :=
  found (c.logFormat ≠ "text" && c.logFormat ≠ "json") (.logFormat c.logFormat)

def HostConfig.problems (c : HostConfig) : List Problem :=
  c.http.problems ++ (c.tls.map TlsConfig.problems).getD [] ++ c.authz.problems ++ c.observability.problems

def HostConfig.IsValid (c : HostConfig) : Prop := c.problems = []

instance (c : HostConfig) : Decidable c.IsValid := inferInstanceAs (Decidable (_ = []))

end ServiceHost.Config
