/-
  ServiceHost.Tls.Der — the distinguished encoding of ASN.1 values: elements of a tag, a
  length and a content.

  Lengths are definite; a long form may have needless zeros in front.
-/

import ServiceHost.Power
import ServiceHost.Text.Octets

namespace ServiceHost.Tls.Der

open ServiceHost.Text (Octets)

structure Element where
  /-- Universal, application, context or private, from zero. -/
  family : Nat
  constructed : Bool
  tag : Nat
  content : Octets
  deriving DecidableEq, Repr

namespace Tag

def boolean : Nat := 1
def integer : Nat := 2
def bitString : Nat := 3
def octetString : Nat := 4
def oid : Nat := 6
def sequence : Nat := 16
def setOf : Nat := 17
def utcTime : Nat := 23
def generalizedTime : Nat := 24

end Tag

/-- A number in groups of seven bits, all but the last marked. -/
def base128 : Nat → Octets → Option (Nat × Octets)
  | _, [] => none
  | n, b :: bs =>
    let n := n * 128 + b.toNat % 128
    if b.toNat < 128 then some (n, bs) else base128 n bs

/-- A number in base 256. -/
def bigEndian (bs : Octets) : Nat := bs.foldl (fun n b => 256 * n + b.toNat) 0

def length? : Octets → Option (Nat × Octets)
  | [] => none
  | b :: bs =>
    let n := b.toNat
    if n < 128 then some (n, bs)
    else if n = 128 ∨ n = 255 ∨ bs.length < n - 128 then none
    else some (bigEndian (bs.take (n - 128)), bs.drop (n - 128))

def element? : Octets → Option (Element × Octets)
  | [] => none
  | b :: bs => do
    let (tag, bs) ← if b.toNat % 32 = 31 then base128 0 bs else some (b.toNat % 32, bs)
    let (n, bs) ← length? bs
    if bs.length < n then none
    else some (⟨b.toNat / 64, b.toNat / 32 % 2 = 1, tag, bs.take n⟩, bs.drop n)

/-- An element of a given universal tag, and what follows it. -/
def universal? (tag : Nat) (bs : Octets) : Option (Octets × Octets) := do
  let (e, rest) ← element? bs
  if e.family = 0 ∧ e.tag = tag then some (e.content, rest) else none

/-- As many values of a kind as stand one after the other; `fuel` bounds their number. -/
def many {α : Type} (read : Octets → Option (α × Octets)) : Nat → Octets → List α × Octets
  | 0, bs => ([], bs)
  | fuel + 1, bs =>
    match read bs with
    | some (a, rest) => let (as, rest) := many read fuel rest; (a :: as, rest)
    | none => ([], bs)

/-- The arcs of an object identifier; the first number holds two. -/
def arcs (content : Octets) : List Nat :=
  match (many (base128 0) content.length content).1 with
  | [] => []
  | n :: ns => if n < 80 then n / 40 :: n % 40 :: ns else 2 :: (n - 80) :: ns

def oid? (bs : Octets) : Option (List Nat × Octets) := do
  let (content, rest) ← universal? Tag.oid bs
  if content.isEmpty then none else some (arcs content, rest)

/-- The bits of a bit string as octets, and how many bits at the end are unused. -/
def bitString? (bs : Octets) : Option ((Nat × Octets) × Octets) := do
  let (content, rest) ← universal? Tag.bitString bs
  match content with
  | [] => none
  | unused :: bits =>
    let u := unused.toNat
    let last := (bits.getLast?.map UInt8.toNat).getD 0
    if 7 < u ∨ (bits.isEmpty ∧ 0 < u) ∨ last % pow2 u ≠ 0 then none else some ((u, bits), rest)

end ServiceHost.Tls.Der
