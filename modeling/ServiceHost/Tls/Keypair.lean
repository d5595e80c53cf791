/-
  ServiceHost.Tls.Keypair — a certificate chain and the private key that belongs to it, as
  files hold them.

  The key must be usable, and its public half must be the one the leaf of the chain
  certifies. Which keys those are is for a cryptographic library to say (`KeyProvider`).
-/

import ServiceHost.Files
import ServiceHost.Tls.Pem
import ServiceHost.Tls.PrivateKey

namespace ServiceHost.Tls

open ServiceHost.Text (Octets)

/-! ## Errors -/

inductive FileRole where
  | keypair
  | certificate
  | key
  deriving DecidableEq, Repr

def FileRole.text : FileRole → String
  | keypair => "keypair"
  | certificate => "certificate"
  | key => "key"

inductive ReadFault where
  | io (e : IoError)
  | pem (e : Pem.Error)
  deriving DecidableEq, Repr

def ReadFault.message : ReadFault → String
  | io e => e.message
  | pem e => e.message

inductive KeyFault where
  | unusable
  /-- The public half of the key is not known. -/
  | unknown
  | leaf
  | mismatch
  deriving DecidableEq, Repr

def KeyFault.message : KeyFault → String
  | unusable => "unexpected error: failed to parse private key as RSA, ECDSA, or EdDSA"
  | unknown => "keys may not be consistent: Unknown"
  | leaf => "invalid peer certificate: BadEncoding"
  | mismatch => "keys may not be consistent: KeyMismatch"

inductive Error where
  | read (role : FileRole) (path : String) (fault : ReadFault)
  | noCertificates (path : String)
  | noPrivateKey (path : String)
  | key (path : String) (fault : KeyFault)
  | missingClientCa
  | zeroInterval
  deriving DecidableEq, Repr

def Error.message : Error → String
  | read role path fault => "Unable to read " ++ role.text ++ " file '" ++ path ++ "': " ++ fault.message
  | noCertificates path => "No certificates found in '" ++ path ++ "'"
  | noPrivateKey path => "No private key found in '" ++ path ++ "'"
  | key path fault => "Unusable private key in '" ++ path ++ "': " ++ fault.message
  | missingClientCa => "Client certificate auth requires a trusted CA file"
  | zeroInterval => "Keypair reload interval must be non-zero"

/-! ## Loading -/

def readFile (fs : Files) (role : FileRole) (path : String) : Except Error Octets :=
  (fs.read path).mapError fun e => .read role path (.io e)

def loadCertificates (fs : Files) (path : String) : Except Error (List Octets) := do
  let (sections, fault?) := Pem.read (← readFile fs .certificate path)
  if let some e := fault? then throw (.read .certificate path (.pem e))
  let certificates := sections.filterMap fun s => if s.kind = .certificate then some s.content else none
  if certificates.isEmpty then throw (.noCertificates path)
  return certificates

def KeyForm.ofKind? : Pem.Kind → Option KeyForm
  | .rsaPrivateKey => some .pkcs1
  | .ecPrivateKey => some .sec1
  | .privateKey => some .pkcs8
  | _ => none

/-- The first private key of a file; sections after it are not looked at. -/
def loadPrivateKey (fs : Files) (path : String) : Except Error PrivateKey := do
  let (sections, fault?) := Pem.read (← readFile fs .key path)
  let key? := sections.findSome? fun s => (KeyForm.ofKind? s.kind).map fun f => (⟨f, s.content⟩ : PrivateKey)
  match key?, fault? with
  | some k, _ => return k
  | none, some e => throw (.read .key path (.pem e))
  | none, none => throw (.noPrivateKey path)

structure Keypair where
  /-- Leaf first, never empty. -/
  chain : List Octets
  key : PrivateKey
  deriving DecidableEq, Repr

namespace Keypair

def leaf? (p : Keypair) : Option CertificateInfo := p.chain.head?.bind Certificate.read?

/-- Why a key cannot serve for a chain: it is made ready, then compared with what the leaf certifies. -/
def fault? (keys : KeyProvider) (chain : List Octets) (k : PrivateKey) : Option KeyFault :=
  match keys.load? k with
  | none => some .unusable
  | some signing =>
    match signing.public?, chain.head?.bind keys.certified? with
    | none, _ => some .unknown
    | some _, none => some .leaf
    | some own, some certified => if own = certified then none else some .mismatch

/-- A pair from files as they were when the certificate was read, and as they were when the key was. -/
def assemble (keys : KeyProvider) (atCert atKey : Files) (certPath keyPath : String) : Except Error Keypair := do
  let chain ← loadCertificates atCert certPath
  let key ← loadPrivateKey atKey keyPath
  match fault? keys chain key with
  | some f => throw (.key keyPath f)
  | none => return { chain, key }

def load (keys : KeyProvider) (fs : Files) (certPath keyPath : String) : Except Error Keypair :=
  assemble keys fs fs certPath keyPath

end Keypair

end ServiceHost.Tls
