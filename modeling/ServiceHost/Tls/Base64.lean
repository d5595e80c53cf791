/-
  ServiceHost.Tls.Base64 — base 64: six bits for each symbol.

  Blanks are skipped, missing padding and bits left over are let go. Padding counts in
  blocks of eight symbols: at most two padding symbols end the last block, and no block
  but the last has any.
-/

import ServiceHost.Power
import ServiceHost.Text.Octets

namespace ServiceHost.Tls.Base64

open ServiceHost.Text (Octets)

inductive Error where
  | invalidCharacter (byte : UInt8)
  | prematurePadding
  | trailingPadding
  deriving DecidableEq, Repr

def Error.message : Error → String
  | invalidCharacter b => "InvalidCharacter(" ++ toString b.toNat ++ ")"
  | prematurePadding => "PrematurePadding"
  | trailingPadding => "InvalidTrailingPadding"

def isBlank (b : UInt8) : Bool := b = 32 || (9 ≤ b && b ≤ 13)

def bits? (b : UInt8) : Option Nat :=
  if 65 ≤ b ∧ b ≤ 90 then some (b.toNat - 65)
  else if 97 ≤ b ∧ b ≤ 122 then some (b.toNat - 71)
  else if 48 ≤ b ∧ b ≤ 57 then some (b.toNat + 4)
  else if b = 43 then some 62
  else if b = 47 then some 63
  else none

def pack (symbols : List Nat) : Octets :=
  let n := symbols.foldl (fun n v => 64 * n + v) 0
  let spare := symbols.length * 6 % 8
  let size := symbols.length * 6 / 8
  (List.range size).map fun i => UInt8.ofNat (n / pow2 (spare + 8 * (size - 1 - i)) % 256)

/-- The bytes of a last block; `none` stands for padding. -/
def lastBlock (block : List (Option Nat)) : Except Error Octets :=
  let symbols := block.takeWhile Option.isSome
  let padding := block.drop symbols.length
  if padding.all Option.isNone ∧ padding.length ≤ 2 then .ok (pack (symbols.filterMap id)) else .error .trailingPadding

/-- Decodes what follows a block begun with `block`, last symbol first. -/
def decodeAfter (block : List (Option Nat)) : Octets → Except Error Octets
  | [] => lastBlock block.reverse
  | b :: bs =>
    if isBlank b then decodeAfter block bs
    else if b ≠ 61 ∧ (bits? b).isNone then .error (.invalidCharacter b)
    else if block.length < 8 then decodeAfter (bits? b :: block) bs
    else if block.any Option.isNone then .error .prematurePadding
    else (decodeAfter [bits? b] bs).map (pack (block.reverse.filterMap id) ++ ·)

def decode (bs : Octets) : Except Error Octets := decodeAfter [] bs

end ServiceHost.Tls.Base64
