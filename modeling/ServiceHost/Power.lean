/-
  ServiceHost.Power — powers of two and of ten, the bounds of words and the scales of
  decimals.
-/

namespace ServiceHost

def pow2 (k : Nat) : Nat := Nat.pow 2 k

def pow10 (k : Nat) : Nat := Nat.pow 10 k

theorem pow2_pos (k : Nat) : 0 < pow2 k := Nat.pow_pos (by decide)

end ServiceHost
