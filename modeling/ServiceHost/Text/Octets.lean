/-
  ServiceHost.Text.Octets — texts as bytes: UTF-8, big-endian UTF-16, and hexadecimal.
-/

import ServiceHost.Text.Numeral

namespace ServiceHost.Text

abbrev Octets := List UInt8

def utf8 (s : String) : Octets := s.toUTF8.data.toList

def ofUtf8? (bs : Octets) : Option String := String.fromUTF8? bs.toByteArray

/--
  The code points of big-endian UTF-16 units, if every surrogate has its partner; a byte
  left over at the end is a unit of its own.
-/
def ofUtf16? : Octets → Option (List Char)
  | [] => some []
  | [a] => some [Char.ofNat a.toNat]
  | a :: b :: rest =>
    let unit := a.toNat * 256 + b.toNat
    if unit < 0xD800 ∨ 0xE000 ≤ unit then (ofUtf16? rest).map (Char.ofNat unit :: ·)
    else if 0xDC00 ≤ unit then none
    else
      match rest with
      | c :: d :: rest =>
        let low := c.toNat * 256 + d.toNat
        if 0xDC00 ≤ low ∧ low < 0xE000 then
          (ofUtf16? rest).map (Char.ofNat (0x10000 + (unit - 0xD800) * 1024 + (low - 0xDC00)) :: ·)
        else none
      | _ => none

def hexOctets (bs : Octets) : String := String.join (bs.map fun b => hex 2 b.toNat)

def ofHex? : List Char → Option Octets
  | [] => some []
  | [_] => none
  | a :: b :: rest => do
    let hi ← hexValue? a
    let lo ← hexValue? b
    let bs ← ofHex? rest
    return UInt8.ofNat (hi * 16 + lo) :: bs

end ServiceHost.Text
