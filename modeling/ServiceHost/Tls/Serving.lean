/-
  ServiceHost.Tls.Serving — the terms on which a listener takes connections: which
  authorities it trusts for client certificates, whether clients must present one, and
  the protocols it offers.
-/

import ServiceHost.Effect
import ServiceHost.Tls.Keypair

namespace ServiceHost.Tls

/-- The certificates that client certificates may chain to. -/
structure Roots where
  certificates : List Text.Octets
  deriving DecidableEq, Repr

namespace Roots

/-- The readable certificates of a file; unreadable ones are warned of, and one must be readable. -/
def load (fs : Files) (path : String) (sink : Log.Sink) : Except Error (Run Roots) := do
  let all ← loadCertificates fs path
  let readable := all.filter fun der => (Certificate.ofDer? der).isSome
  if readable.isEmpty then throw (.noCertificates path)
  let ignored := all.length - readable.length
  return do
    if 0 < ignored then
      Run.log sink .warn .certificates "Skipped unparsable CA certificates"
        [("path", .bare path), ("ignored", .nat ignored)]
    return ⟨readable⟩

end Roots

/-- How clients are asked for a certificate. -/
inductive ClientPolicy where
  | none
  /-- A certificate that is presented must chain to the roots. -/
  | optional (roots : Roots)
  | required (roots : Roots)
  deriving DecidableEq, Repr

structure Serving where
  clients : ClientPolicy
  protocols : List String := ["h2", "http/1.1"]
  deriving DecidableEq, Repr

/-- The terms for a trusted authority file and a wish for client certificates. -/
def Serving.make (fs : Files) (trustedCa? : Option String) (clientAuth : Bool) (sink : Log.Sink) :
    Except Error (Run Serving) :=
  match trustedCa? with
  | some path => do
    let roots ← Roots.load fs path sink
    return roots >>= fun r => pure { clients := if clientAuth then .required r else .optional r }
  | none => if clientAuth then .error .missingClientCa else .ok (pure { clients := .none })

end ServiceHost.Tls
