/-
  ServiceHost.Tls.PrivateKey — private keys, and the public key that belongs to each.

  Keys are used by a cryptographic library, and the host relies on two things it does
  (`KeyProvider`): it makes a key ready to sign, with its public half, and it reads the
  public key that a certificate certifies. The library that hosts have unless told otherwise
  (`KeyProvider.standard`) takes RSA keys, elliptic keys on three curves that hold their
  public half, and Ed25519 keys.
-/

import ServiceHost.Power
import ServiceHost.Tls.Certificate
import ServiceHost.Tls.Ed25519

namespace ServiceHost.Tls

open ServiceHost.Text (Octets)

inductive KeyForm where
  | pkcs1
  | sec1
  | pkcs8
  deriving DecidableEq, Repr

structure PrivateKey where
  form : KeyForm
  der : Octets
  deriving DecidableEq, Repr

/-! ## What is left to a library -/

/-- A private key that is ready to sign. -/
structure SigningKey where
  /-- Its public half, if the library tells it. -/
  public? : Option PublicKey

/-- A cryptographic library, as far as keypairs depend on it. -/
structure KeyProvider where
  /-- Makes a key ready to sign; nothing comes of a key that cannot be used. -/
  load? : PrivateKey → Option SigningKey
  /-- The public key that a certificate certifies, if it is a certificate. -/
  certified? : Octets → Option PublicKey

/-! ## The public halves of keys -/

/-- A curve of elliptic keys, by its identifier and the encoding of that. -/
structure Curve where
  id : List Nat
  parameters : Octets

namespace Curve

def p256 : Curve := ⟨[1, 2, 840, 10045, 3, 1, 7], [0x06, 0x08, 0x2A, 0x86, 0x48, 0xCE, 0x3D, 0x03, 0x01, 0x07]⟩

def p384 : Curve := ⟨[1, 3, 132, 0, 34], [0x06, 0x05, 0x2B, 0x81, 0x04, 0x00, 0x22]⟩

def p521 : Curve := ⟨[1, 3, 132, 0, 35], [0x06, 0x05, 0x2B, 0x81, 0x04, 0x00, 0x23]⟩

def ofId? (id : List Nat) : Option Curve := [p256, p384, p521].find? (·.id = id)

end Curve

namespace PrivateKey

open Der

def ecAlgorithm : List Nat := [1, 2, 840, 10045, 2, 1]

def ed25519 : List Nat := [1, 3, 101, 112]

def rsaAlgorithm : List Nat := [1, 2, 840, 113549, 1, 1, 1]

/-- The least size of a usable RSA modulus, in bits. -/
def minRsaBits : Nat := 2048

def encode (tag : Nat) (content : Octets) : Octets :=
  let n := content.length
  let size := if n < 128 then [n] else if n < 256 then [0x81, n] else [0x82, n / 256, n % 256]
  (tag :: size).map UInt8.ofNat ++ content

/-- The public half that an elliptic key holds; the curve stands outside or inside. -/
def ofEc? (outer : Option (List Nat)) (der : Octets) : Option PublicKey := do
  let (content, _) ← universal? Tag.sequence der
  let (version, content) ← universal? Tag.integer content
  let (_, content) ← universal? Tag.octetString content
  let (inner, content) ← match element? content with
    | some (e, rest) =>
      if e.family = 2 ∧ e.tag = 0 then (oid? e.content).map fun o => (some o.1, rest) else some (none, content)
    | none => none
  let (e, _) ← element? content
  let ((_, bits), _) ← bitString? e.content
  let curve ← (outer.or inner).bind Curve.ofId?
  if version = [1] ∧ e.family = 2 ∧ e.tag = 1 ∧ inner.all (· = curve.id) then
    some ⟨ecAlgorithm, curve.parameters, bits⟩
  else none

def ofRsa? (der : Octets) : Option PublicKey := do
  let (content, _) ← universal? Tag.sequence der
  let (version, content) ← universal? Tag.integer content
  let (n, content) ← universal? Tag.integer content
  let (e, _) ← universal? Tag.integer content
  if version = [0] ∧ pow2 (minRsaBits - 1) ≤ bigEndian n then
    some ⟨rsaAlgorithm, [0x05, 0x00], encode 0x30 (encode 0x02 n ++ encode 0x02 e)⟩
  else none

def ofEd25519? (der : Octets) : Option PublicKey := do
  let (seed, _) ← universal? Tag.octetString der
  if seed.length = 32 then some ⟨ed25519, [], Ed25519.publicKey seed⟩ else none

/-- The public half of a key that stands in a wrapping with its algorithm. -/
def ofWrapped? (der : Octets) : Option PublicKey := do
  let (content, _) ← universal? Tag.sequence der
  let (version, content) ← universal? Tag.integer content
  let ((algorithm, parameters), content) ← Certificate.algorithm? content
  let (key, _) ← universal? Tag.octetString content
  if version ≠ [0] ∧ version ≠ [1] then none
  else if algorithm = ecAlgorithm then do
    let (curve, _) ← oid? parameters
    ofEc? (some curve) key
  else if algorithm = rsaAlgorithm then ofRsa? key
  else if algorithm = ed25519 then ofEd25519? key
  else none

def public? (k : PrivateKey) : Option PublicKey :=
  match k.form with
  | .pkcs1 => ofRsa? k.der
  | .sec1 => ofEc? none k.der
  | .pkcs8 => ofWrapped? k.der

end PrivateKey

def KeyProvider.standard : KeyProvider where
  load? k := k.public?.map fun key => ⟨some key⟩
  certified? der := (Certificate.ofDer? der).map (·.key)

end ServiceHost.Tls
