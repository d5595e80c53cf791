/-
  ServiceHost.Tls.Ed25519 — the public half of an Ed25519 key, computed from its seed.

  The seed is hashed (SHA-512). The lower half of the hash, with some bits fixed, is the
  number by which the base point of the curve is multiplied; the public key is the point
  that gives.
-/

import ServiceHost.Power
import ServiceHost.Text.Octets

namespace ServiceHost.Tls

open ServiceHost.Text (Octets)

/-! ## The hash -/

namespace Sha512

/-- The first bits of the fractions of the cube roots of the first eighty primes. -/
def roundConstants : List UInt64 :=
  [
    0x428a2f98d728ae22, 0x7137449123ef65cd, 0xb5c0fbcfec4d3b2f, 0xe9b5dba58189dbbc, 0x3956c25bf348b538,
    0x59f111f1b605d019, 0x923f82a4af194f9b, 0xab1c5ed5da6d8118, 0xd807aa98a3030242, 0x12835b0145706fbe,
    0x243185be4ee4b28c, 0x550c7dc3d5ffb4e2, 0x72be5d74f27b896f, 0x80deb1fe3b1696b1, 0x9bdc06a725c71235,
    0xc19bf174cf692694, 0xe49b69c19ef14ad2, 0xefbe4786384f25e3, 0x0fc19dc68b8cd5b5, 0x240ca1cc77ac9c65,
    0x2de92c6f592b0275, 0x4a7484aa6ea6e483, 0x5cb0a9dcbd41fbd4, 0x76f988da831153b5, 0x983e5152ee66dfab,
    0xa831c66d2db43210, 0xb00327c898fb213f, 0xbf597fc7beef0ee4, 0xc6e00bf33da88fc2, 0xd5a79147930aa725,
    0x06ca6351e003826f, 0x142929670a0e6e70, 0x27b70a8546d22ffc, 0x2e1b21385c26c926, 0x4d2c6dfc5ac42aed,
    0x53380d139d95b3df, 0x650a73548baf63de, 0x766a0abb3c77b2a8, 0x81c2c92e47edaee6, 0x92722c851482353b,
    0xa2bfe8a14cf10364, 0xa81a664bbc423001, 0xc24b8b70d0f89791, 0xc76c51a30654be30, 0xd192e819d6ef5218,
    0xd69906245565a910, 0xf40e35855771202a, 0x106aa07032bbd1b8, 0x19a4c116b8d2d0c8, 0x1e376c085141ab53,
    0x2748774cdf8eeb99, 0x34b0bcb5e19b48a8, 0x391c0cb3c5c95a63, 0x4ed8aa4ae3418acb, 0x5b9cca4f7763e373,
    0x682e6ff3d6b2b8a3, 0x748f82ee5defb2fc, 0x78a5636f43172f60, 0x84c87814a1f0ab72, 0x8cc702081a6439ec,
    0x90befffa23631e28, 0xa4506cebde82bde9, 0xbef9a3f7b2c67915, 0xc67178f2e372532b, 0xca273eceea26619c,
    0xd186b8c721c0c207, 0xeada7dd6cde0eb1e, 0xf57d4f7fee6ed178, 0x06f067aa72176fba, 0x0a637dc5a2c898a6,
    0x113f9804bef90dae, 0x1b710b35131c471b, 0x28db77f523047d84, 0x32caab7b40c72493, 0x3c9ebe0a15c9bebc,
    0x431d67c49c100d4c, 0x4cc5d4becb3e42b6, 0x597f299cfc657e2a, 0x5fcb6fab3ad6faec, 0x6c44198c4a475817]

/-- The first bits of the fractions of the square roots of the first eight primes. -/
def initial : List UInt64 :=
  [
    0x6a09e667f3bcc908, 0xbb67ae8584caa73b, 0x3c6ef372fe94f82b, 0xa54ff53a5f1d36f1, 0x510e527fade682d1,
    0x9b05688c2b3e6c1f, 0x1f83d9abfb41bd6b, 0x5be0cd19137e2179]

def rotate (x : UInt64) (n : UInt64) : UInt64 := (x >>> n) ||| (x <<< (64 - n))

/-- The word that follows sixteen words of the schedule. -/
def nextWord (ws : List UInt64) : UInt64 :=
  let w := fun i => ws.getD i 0
  let s0 := rotate (w 1) 1 ^^^ rotate (w 1) 8 ^^^ (w 1 >>> 7)
  let s1 := rotate (w 14) 19 ^^^ rotate (w 14) 61 ^^^ (w 14 >>> 6)
  w 0 + s0 + w 9 + s1

/-- The words that follow sixteen words, those themselves first. -/
def schedule : Nat → List UInt64 → List UInt64
  | 0, _ => []
  | n + 1, ws => ws.getD 0 0 :: schedule n (ws.tail ++ [nextWord ws])

/-- One round on the eight words of the state, with its constant and its word of the schedule. -/
def round (state : List UInt64) (kw : UInt64 × UInt64) : List UInt64 :=
  let x := fun i => state.getD i 0
  let s1 := rotate (x 4) 14 ^^^ rotate (x 4) 18 ^^^ rotate (x 4) 41
  let choice := (x 4 &&& x 5) ^^^ ((~~~ x 4) &&& x 6)
  let t1 := x 7 + s1 + choice + kw.1 + kw.2
  let s0 := rotate (x 0) 28 ^^^ rotate (x 0) 34 ^^^ rotate (x 0) 39
  let majority := (x 0 &&& x 1) ^^^ (x 0 &&& x 2) ^^^ (x 1 &&& x 2)
  (t1 + s0 + majority) :: x 0 :: x 1 :: x 2 :: (x 3 + t1) :: x 4 :: x 5 :: [x 6]

def octets (count n : Nat) : Octets := ((List.range count).map fun i => UInt8.ofNat (n / pow2 (8 * i) % 256)).reverse

def words : Nat → Octets → List UInt64
  | 0, _ => []
  | n + 1, bs => UInt64.ofNat ((bs.take 8).foldl (fun n b => 256 * n + b.toNat) 0) :: words n (bs.drop 8)

/-- The hash of a message that fits into one block of 128 octets. -/
def ofShort (message : Octets) : Octets :=
  let zeros := List.replicate (111 - message.length) (0 : UInt8)
  let block := message ++ [0x80] ++ zeros ++ octets 16 (8 * message.length)
  let state := (roundConstants.zip (schedule 80 (words 16 block))).foldl round initial
  (List.zipWith (· + ·) initial state).flatMap fun x => octets 8 x.toNat

end Sha512

/-! ## The curve -/

namespace Ed25519

def prime : Nat := pow2 255 - 19

/-- The bits of a number below 2^256, the lowest first. -/
def bits (n : Nat) : List Bool := (List.range 256).map fun i => n / pow2 i % 2 = 1

def power (base exponent : Nat) : Nat :=
  (bits exponent).foldr (fun bit x => if bit then x * x % prime * base % prime else x * x % prime) 1

def inverse (x : Nat) : Nat := power x (prime - 2)

def d : Nat := (prime - 121665) * inverse 121666 % prime

/-- The point with the coordinates `x / z` and `y / z`; `t` is `x * y / z`. -/
structure Point where
  x : Nat
  y : Nat
  z : Nat
  t : Nat

def Point.zero : Point := ⟨0, 1, 1, 0⟩

/-- The sum of two points; it holds for equal ones too. -/
def Point.add (p q : Point) : Point :=
  let a := (p.y + prime - p.x) * (q.y + prime - q.x) % prime
  let b := (p.y + p.x) * (q.y + q.x) % prime
  let c := 2 * p.t * q.t * d % prime
  let e := 2 * p.z * q.z % prime
  let f := b + prime - a
  let g := e + prime - c
  let h := e + c
  let k := b + a
  ⟨f * g % prime, h * k % prime, g * h % prime, f * k % prime⟩

def Point.multiple (p : Point) (n : Nat) : Point :=
  (bits n).foldr (fun bit q => if bit then (q.add q).add p else q.add q) .zero

def base : Point :=
  let x := 15112221349535400772501151409588531511454012693041857206046113283949847762202
  let y := 4 * inverse 5 % prime
  ⟨x, y, 1, x * y % prime⟩

/-- A point as octets: its `y`, the lowest first, with the parity of its `x` in the highest bit. -/
def Point.encoded (p : Point) : Octets :=
  let z := inverse p.z
  (Sha512.octets 32 (p.y * z % prime + pow2 255 * (p.x * z % prime % 2))).reverse

def secret (seed : Octets) : Nat :=
  let n := ((Sha512.ofShort seed).take 32).foldr (fun b n => 256 * n + b.toNat) 0
  pow2 254 + n % pow2 254 / 8 * 8

def publicKey (seed : Octets) : Octets := (base.multiple (secret seed)).encoded

end Ed25519

end ServiceHost.Tls
