/-
  ServiceHost.Tls.Certificate — X.509 certificates: what is read of one, and what makes
  bytes not one.

  Of signatures and extensions only the form is checked. What follows the certificate,
  or the last known element inside it, is ignored.
-/

import ServiceHost.Identity
import ServiceHost.Power
import ServiceHost.Tls.Name
import ServiceHost.Tls.Time

namespace ServiceHost.Tls

open ServiceHost.Text (Octets)

/-- A public key as certificates hold it. -/
structure PublicKey where
  algorithm : List Nat
  /-- Encoded parameters of the algorithm. -/
  parameters : Octets
  bits : Octets
  deriving DecidableEq, Repr

structure Certificate where
  subject : Name
  notAfter : Int
  key : PublicKey
  deriving DecidableEq, Repr

namespace Certificate

open Der

/-- An algorithm with its parameters, and what follows it. -/
def algorithm? (bs : Octets) : Option ((List Nat × Octets) × Octets) := do
  let (content, rest) ← universal? Tag.sequence bs
  let (oid, parameters) ← oid? content
  return ((oid, parameters), rest)

def afterVersion? (bs : Octets) : Option Octets := do
  let (e, rest) ← element? bs
  if e.tag ≠ 0 then some bs
  else do
    let (version, _) ← universal? Tag.integer e.content
    if version.isEmpty ∨ pow2 32 ≤ bigEndian version then none else some rest

/-- The end of a validity period, and what follows the period. -/
def notAfter? (bs : Octets) : Option (Int × Octets) := do
  let (content, rest) ← universal? Tag.sequence bs
  let (_, content) ← Time.read? content
  let (t, _) ← Time.read? content
  return (t, rest)

def publicKey? (bs : Octets) : Option (PublicKey × Octets) := do
  let (content, rest) ← universal? Tag.sequence bs
  let ((algorithm, parameters), content) ← algorithm? content
  let ((_, bits), _) ← bitString? content
  return (⟨algorithm, parameters, bits⟩, rest)

/-- Skips an element of a context tag, if it stands there. -/
def afterContext (tag : Nat) (bs : Octets) : Octets :=
  match element? bs with
  | some (e, rest) => if e.family = 2 ∧ e.tag = tag then rest else bs
  | none => bs

/-- One extension: its kind, whether it is critical, and its content. -/
def extension? (bs : Octets) : Option (Unit × Octets) := do
  let (content, rest) ← universal? Tag.sequence bs
  let (_, content) ← oid? content
  let content := match universal? Tag.boolean content with
    | some (_, rest) => rest
    | none => content
  let _ ← universal? Tag.octetString content
  return ((), rest)

/-- Whether what follows the key is well formed as far as it is looked at. -/
def isTail (bs : Octets) : Bool :=
  match element? (afterContext 2 (afterContext 1 bs)) with
  | some (e, _) =>
    if e.family = 2 ∧ e.tag = 3 then
      match universal? Tag.sequence e.content with
      | some (content, _) => (many extension? content.length content).2.isEmpty
      | none => false
    else true
  | none => (afterContext 2 (afterContext 1 bs)).isEmpty

def body? (content : Octets) : Option Certificate := do
  let bs ← afterVersion? content
  let (_, bs) ← universal? Tag.integer bs
  let (_, bs) ← algorithm? bs
  let (_, bs) ← Name.read? bs
  let (notAfter, bs) ← notAfter? bs
  let (subject, bs) ← Name.read? bs
  let (key, bs) ← publicKey? bs
  if isTail bs then some { subject, notAfter, key } else none

def ofDer? (der : Octets) : Option Certificate := do
  let (content, _) ← universal? Tag.sequence der
  let (body, content) ← universal? Tag.sequence content
  let certificate ← body? body
  let (_, content) ← algorithm? content
  let _ ← bitString? content
  return certificate

def info (c : Certificate) : CertificateInfo :=
  { subject := c.subject.text, commonName := c.subject.first? Name.commonName,
    organizationalUnit := c.subject.first? Name.organizationalUnit, notAfter := c.notAfter }

/-- The certificate that bytes encode, as far as the host needs it. -/
def read? (der : Octets) : Option CertificateInfo := (ofDer? der).map info

end Certificate

end ServiceHost.Tls
