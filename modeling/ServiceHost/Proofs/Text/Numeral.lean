/-
  ServiceHost.Proofs.Text.Numeral — decimal numerals, read and written.

  A run of digits is read as the number that it denotes, and a number is written without
  a needless zero in front. A run at the front of a text ends where something else than a
  digit stands.
-/

import ServiceHost.Text.Numeral

namespace ServiceHost.Text

theorem toNat_of_isDigit {c : Char} (h : c.isDigit = true) : 48 ≤ c.toNat ∧ c.toNat ≤ 57 := by
  simpa [Char.isDigit, UInt32.le_iff_toNat_le] using h

theorem digit?_eq {c : Char} (h : c.isDigit = true) : digit? c = some (c.toNat - '0'.toNat) := if_pos h

theorem readDigits_eq {ds : List Char} (hne : ds ≠ []) (h : ∀ c ∈ ds, c.isDigit = true) :
    readDigits ds = some (Nat.ofDigitChars 10 ds 0) := by
  have hfold (init : Nat) (ds : List Char) (h : ∀ c ∈ ds, c.isDigit = true) :
      ds.foldlM (fun n c => (digit? c).map (10 * n + ·)) init = some (Nat.ofDigitChars 10 ds init) := by
    induction ds generalizing init with
    | nil => rfl
    | cons c ds ih =>
      rw [List.foldlM_cons, digit?_eq (h c List.mem_cons_self), Nat.ofDigitChars_cons]
      exact ih _ fun d hd => h d (List.mem_cons_of_mem _ hd)
  rw [readDigits, if_neg (by simpa using hne), hfold 0 ds h]

theorem readDigits_eq_none {ds : List Char} {c : Char} (hc : c ∈ ds) (hd : c.isDigit = false) :
    readDigits ds = none := by
  have hfold (init : Nat) (ds : List Char) (hc : c ∈ ds) :
      ds.foldlM (fun n c => (digit? c).map (10 * n + ·)) init = none := by
    induction ds generalizing init with
    | nil => cases hc
    | cons b ds ih =>
      rw [List.foldlM_cons]
      rcases List.mem_cons.1 hc with rfl | hc
      · rw [digit?, if_neg (by simp [hd])]
        rfl
      · cases (digit? b).map (10 * init + ·) with
        | none => rfl
        | some n => exact ih n hc
  rw [readDigits, if_neg (by rintro he; simp [List.isEmpty_iff.1 he] at hc), hfold 0 ds hc]

theorem isDigit_of_readDigits {ds : List Char} {n : Nat} (h : readDigits ds = some n) : ∀ c ∈ ds, c.isDigit = true := by
  intro c hc
  cases hd : c.isDigit with
  | true => rfl
  | false => exact absurd ((readDigits_eq_none hc hd).symm.trans h) nofun

theorem isDigit_toDigits {n : Nat} : ∀ c ∈ Nat.toDigits 10 n, c.isDigit = true :=
  fun _ hc => Nat.isDigit_of_mem_toDigits (by decide) (by decide) hc

theorem readDigits_toDigits (n : Nat) : readDigits (Nat.toDigits 10 n) = some n := by
  rw [readDigits_eq Nat.toDigits_ne_nil isDigit_toDigits, Nat.ofDigitChars_ten_toDigits]

theorem head?_toDigits {n : Nat} (hn : 0 < n) : (Nat.toDigits 10 n).head? ≠ some '0' := by
  induction n using Nat.strongRecOn with
  | ind n ih =>
    rw [Nat.toDigits_eq_if (by decide)]
    by_cases hlt : n < 10
    · rw [if_pos hlt, List.head?_cons, Ne, Option.some.injEq]
      intro hzero
      have hcode := congrArg Char.toNat hzero
      rw [Nat.toNat_digitChar_of_lt_ten hlt] at hcode
      change 48 + n = 48 at hcode
      omega
    · rw [if_neg hlt, List.head?_append, List.head?_eq_some_head Nat.toDigits_ne_nil, Option.some_or,
        ← List.head?_eq_some_head]
      exact ih (n / 10) (by omega) (by omega)

def LacksFirst (p : Char → Bool) (cs : List Char) : Prop := ∀ c, cs.head? = some c → p c = false

@[simp] theorem lacksFirst_cons {p : Char → Bool} {c : Char} {cs : List Char} :
    LacksFirst p (c :: cs) ↔ p c = false := by
  simp [LacksFirst]

theorem takeWhile_append_lacks {p : Char → Bool} {ds rest : List Char} (h : ∀ c ∈ ds, p c = true)
    (hrest : LacksFirst p rest) : (ds ++ rest).takeWhile p = ds := by
  rw [List.takeWhile_append_of_pos h]
  cases rest with
  | nil => simp
  | cons c rest => rw [List.takeWhile_cons_of_neg (by simp [hrest c rfl]), List.append_nil]

end ServiceHost.Text
