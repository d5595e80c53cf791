/-
  ServiceHost.Proofs.Text.Blank — texts without blanks at their ends.

  Trimming leaves a text as it is if and only if neither its first nor its last character is
  a blank (`trimChars_eq_self_iff`), so it does nothing to what it has trimmed. What it drops
  at the end is behind every character that is not a blank (`dropEndWhile_append_cons`).
  A text is what is left of it with blanks around that (`trimChars_eq_iff`).
-/

import Mathlib.Data.List.DropRight
import ServiceHost.Text.Blank

namespace ServiceHost.Text

variable {p : Char → Bool} {cs : List Char}

theorem dropEndWhile_eq_rdropWhile (p : Char → Bool) (cs : List Char) : dropEndWhile p cs = cs.rdropWhile p := rfl

theorem dropEndWhile_eq_self_iff : dropEndWhile p cs = cs ↔ ∀ c, cs.getLast? = some c → p c = false := by
  rw [dropEndWhile_eq_rdropWhile, List.rdropWhile_eq_self_iff]
  constructor
  · intro h c hc
    have hne : cs ≠ [] := by rintro rfl; simp at hc
    rw [List.getLast?_eq_some_getLast hne, Option.some.injEq] at hc
    simpa [hc] using h hne
  · intro h hne
    simpa using h _ (List.getLast?_eq_some_getLast hne)

theorem dropWhile_eq_self_iff_head? : cs.dropWhile p = cs ↔ ∀ c, cs.head? = some c → p c = false := by
  cases cs with
  | nil => simp
  | cons c cs => rw [List.dropWhile_eq_self_iff]; simp

theorem dropEndWhile_append_cons {c : Char} (hc : p c = false) (front rest : List Char) :
    dropEndWhile p (front ++ c :: rest) = front ++ c :: dropEndWhile p rest := by
  have hcs : (front ++ c :: rest).reverse = rest.reverse ++ c :: front.reverse := by simp
  rw [dropEndWhile, dropEndWhile, hcs, List.dropWhile_append]
  by_cases he : (rest.reverse.dropWhile p).isEmpty = true
  · rw [if_pos he, List.dropWhile_cons_of_neg (by simp [hc]), List.isEmpty_iff.1 he]
    simp
  · rw [if_neg he]
    simp

theorem head?_dropEndWhile {c : Char} (h : (dropEndWhile p cs).head? = some c) : cs.head? = some c := by
  obtain ⟨rest, hrest⟩ := List.rdropWhile_prefix p (l := cs)
  rw [← dropEndWhile_eq_rdropWhile] at hrest
  rw [← hrest, List.head?_append, h]
  rfl

theorem trimChars_eq_self_iff :
    trimChars cs = cs ↔
      (∀ c, cs.head? = some c → isBlank c = false) ∧ ∀ c, cs.getLast? = some c → isBlank c = false := by
  rw [← dropWhile_eq_self_iff_head?, ← dropEndWhile_eq_self_iff, trimChars]
  constructor
  · intro h
    have hfront : cs.dropWhile isBlank = cs := by
      refine (List.dropWhile_suffix isBlank).sublist.eq_of_length_le ?_
      calc cs.length = (dropEndWhile isBlank (cs.dropWhile isBlank)).length := by rw [h]
        _ ≤ (cs.dropWhile isBlank).length := (List.rdropWhile_prefix isBlank _).length_le
    rw [hfront] at h
    exact ⟨hfront, h⟩
  · rintro ⟨hfront, hback⟩
    rw [hfront, hback]

theorem trimChars_trimChars (cs : List Char) : trimChars (trimChars cs) = trimChars cs := by
  rw [trimChars_eq_self_iff]
  constructor
  · intro c hc
    refine dropWhile_eq_self_iff_head?.1 (List.dropWhile_idempotent isBlank cs) c ?_
    exact head?_dropEndWhile hc
  · exact dropEndWhile_eq_self_iff.1 (List.rdropWhile_idempotent isBlank _)

theorem trim_trim (s : String) : trim (trim s) = trim s := by
  rw [trim, trim, String.toList_ofList, trimChars_trimChars]

/-- A trimmed text that is cut has no blanks at its ends unless the cut is behind one. -/
theorem trimChars_take_eq_self_iff (h : trimChars cs = cs) (n : Nat) :
    trimChars (cs.take (n + 1)) = cs.take (n + 1) ↔ ∀ c, cs[n]? = some c → isBlank c = false := by
  obtain ⟨hfront, hback⟩ := trimChars_eq_self_iff.1 h
  rw [trimChars_eq_self_iff]
  have hhead : (cs.take (n + 1)).head? = cs.head? := by cases cs <;> rfl
  rw [hhead]
  by_cases hn : n < cs.length
  · have hlast : (cs.take (n + 1)).getLast? = cs[n]? := by
      rw [List.getLast?_eq_getElem?, List.length_take, Nat.min_eq_left hn, List.getElem?_take]
      simp
    rw [hlast]
    exact and_iff_right hfront
  · have hall : cs.take (n + 1) = cs := List.take_of_length_le (by omega)
    have hout : cs[n]? = none := List.getElem?_eq_none (by omega)
    rw [hall, hout]
    exact iff_of_true ⟨hfront, hback⟩ (by simp)

/-! ## Blanks around a text -/

/-- Nothing is left of a text without its blanks if and only if it has nothing else. -/
theorem trimChars_eq_nil_iff {cs : List Char} : trimChars cs = [] ↔ ∀ ch ∈ cs, isBlank ch = true := by
  have hdrop (cs : List Char) : cs.dropWhile isBlank = [] ↔ ∀ ch ∈ cs, isBlank ch = true := by
    induction cs with
    | nil => simp
    | cons c cs ih => cases hc : isBlank c <;> simp [hc, ih]
  rw [trimChars, dropEndWhile, List.reverse_eq_nil_iff, hdrop, ← hdrop cs]
  constructor
  · intro hall
    cases hrest : cs.dropWhile isBlank with
    | nil => rfl
    | cons c rest =>
      have hblank : isBlank c = true := hall c (by rw [hrest]; simp)
      have hhead := List.head?_dropWhile_not isBlank cs
      simp [hrest, hblank] at hhead
  · intro hnil
    rw [hnil]
    exact List.forall_mem_nil _

theorem dropEndWhile_append_of_pos {trail : List Char} (ht : ∀ c ∈ trail, p c = true) (cs : List Char) :
    dropEndWhile p (cs ++ trail) = dropEndWhile p cs := by
  rw [dropEndWhile, List.reverse_append, List.dropWhile_append_of_pos fun c hc => ht c (List.mem_reverse.1 hc)]
  rfl

theorem trimChars_padded {lead trail : List Char} (hl : ∀ c ∈ lead, isBlank c = true)
    (ht : ∀ c ∈ trail, isBlank c = true) (cs : List Char) : trimChars (lead ++ cs ++ trail) = trimChars cs := by
  rw [trimChars, trimChars, List.append_assoc, List.dropWhile_append_of_pos hl, List.dropWhile_append]
  split
  · next hnil =>
    rw [List.isEmpty_iff.1 hnil, List.dropWhile_eq_nil_iff.2 ht]
  · exact dropEndWhile_append_of_pos ht _

/-- What is left of a text has no blanks at its ends, and there are only blanks around it. -/
theorem trimChars_eq_iff {v : List Char} :
    trimChars cs = v ↔ trimChars v = v ∧ ∃ lead trail, cs = lead ++ v ++ trail ∧
      (∀ c ∈ lead, isBlank c = true) ∧ ∀ c ∈ trail, isBlank c = true := by
  constructor
  · rintro rfl
    refine ⟨trimChars_trimChars cs, cs.takeWhile isBlank, (cs.dropWhile isBlank).rtakeWhile isBlank, ?_,
      fun _ => List.mem_takeWhile_imp, fun _ => List.mem_rtakeWhile_imp⟩
    rw [trimChars, dropEndWhile_eq_rdropWhile, List.append_assoc, List.rdropWhile_append_rtakeWhile,
      List.takeWhile_append_dropWhile]
  · rintro ⟨hself, lead, trail, rfl, hlead, htrail⟩
    rw [trimChars_padded hlead htrail, hself]

end ServiceHost.Text
