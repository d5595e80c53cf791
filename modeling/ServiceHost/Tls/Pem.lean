/-
  ServiceHost.Tls.Pem — armoured texts: sections of base 64 between a line that begins them
  and one that ends them.

  Sections of an unknown kind are skipped without decoding them, and so is everything
  between sections. A beginning inside a section takes its place but keeps its lines.
-/

import ServiceHost.Text.Quoted
import ServiceHost.Tls.Base64

namespace ServiceHost.Tls.Pem

open ServiceHost.Text

inductive Error where
  | endMissing (label : String)
  | illegalStart (line : String)
  | base64 (e : Base64.Error)
  deriving DecidableEq, Repr

def Error.message : Error → String
  | endMissing label => "section end " ++ quoted label ++ " missing"
  | illegalStart line => "illegal section start: " ++ quoted line
  | base64 e => e.message

/-- The kinds of section that are decoded. -/
inductive Kind where
  | certificate
  | publicKey
  | rsaPrivateKey
  | ecPrivateKey
  | privateKey
  | revocationList
  | request
  | helloConfig
  deriving DecidableEq, Repr

def Kind.ofLabel? : String → Option Kind
  | "CERTIFICATE" => some .certificate
  | "PUBLIC KEY" => some .publicKey
  | "RSA PRIVATE KEY" => some .rsaPrivateKey
  | "EC PRIVATE KEY" => some .ecPrivateKey
  | "PRIVATE KEY" => some .privateKey
  | "X509 CRL" => some .revocationList
  | "CERTIFICATE REQUEST" => some .request
  | "ECHCONFIG" => some .helloConfig
  | _ => none

structure Section where
  kind : Kind
  content : Octets
  deriving DecidableEq, Repr

/-- Lines with the carriage return or line feed that ends each. -/
def lines : Octets → List Octets
  | [] => []
  | b :: bs =>
    if b = 10 ∨ b = 13 then [b] :: lines bs
    else
      match lines bs with
      | [] => [[b]]
      | l :: ls => (b :: l) :: ls

def isLineEnd (b : UInt8) : Bool := b = 10 || b = 13 || b = 32

/-- A line without blanks and line ends after it. -/
def body (line : Octets) : Octets := (line.reverse.dropWhile isLineEnd).reverse

def beginMark : Octets := utf8 "-----BEGIN "

def endMark (label : Octets) : Octets := utf8 "-----END " ++ label ++ utf8 "-----"

/-- The label of a line that begins a section: what stands before its last five dashes. -/
def label? (line : Octets) : Option Octets :=
  let tail := line.reverse.takeWhile fun b => isLineEnd b || b = 45
  let after := (tail.reverse.dropWhile (· ≠ 45)).length
  if tail.count 45 = 5 then some ((line.take (line.length - after)).drop beginMark.length) else none

/-- Text for an error; bytes that are no text are left out. -/
def shown (bs : Octets) : String := (ofUtf8? bs).getD ""

/-- A section being read: its label and its lines so far. -/
structure Pending where
  label : Octets
  text : Octets

/-- The sections up to the first error, and that error. -/
def readLines (pending : Option Pending) : List Octets → List Section × Option Error
  | [] => ([], pending.map fun p => .endMissing (shown p.label))
  | line :: rest =>
    if beginMark.isPrefixOf line then
      match label? line with
      | none => ([], some (.illegalStart (shown line)))
      | some label => readLines (some ⟨label, (pending.map (·.text)).getD []⟩) rest
    else
      match pending with
      | none => readLines none rest
      | some p =>
        if (endMark p.label).isPrefixOf line then
          match Kind.ofLabel? (shown p.label) with
          | none => readLines none rest
          | some kind =>
            match Base64.decode p.text with
            | .error e => ([], some (.base64 e))
            | .ok content => let (ss, e) := readLines none rest; (⟨kind, content⟩ :: ss, e)
        else readLines (some { p with text := p.text ++ body line }) rest

def read (bs : Octets) : List Section × Option Error := readLines none (lines bs)

end ServiceHost.Tls.Pem
