/-
  ServiceHost.Proofs.Text.Cut — texts cut at a separator, and joined by it again.

  The parts of a text are the texts without the separator that, joined by it, are the text;
  there is no other way to write it so (`cutAll_eq_iff`). The first and the last separator
  are those with none before, or behind, them.
-/

import ServiceHost.Text.Cut

namespace ServiceHost.Text

variable {sep : Char} {cs a b w : List Char}

theorem cutFirst_eq_some_iff : cutFirst sep cs = some (a, b) ↔ cs = a ++ sep :: b ∧ sep ∉ a := by
  refine ⟨cutFirst_eq_some, ?_⟩
  rintro ⟨rfl, hsep⟩
  induction a with
  | nil => simp [cutFirst]
  | cons c a ih =>
    rw [List.mem_cons, not_or] at hsep
    simp [cutFirst, Ne.symm hsep.1, ih hsep.2]

theorem cutLast_eq_some_iff : cutLast sep cs = some (a, b) ↔ cs = a ++ sep :: b ∧ sep ∉ b := by
  rw [cutLast, Option.map_eq_some_iff]
  constructor
  · rintro ⟨⟨back, front⟩, hcut, hab⟩
    obtain ⟨rfl, rfl⟩ := Prod.mk.inj hab
    obtain ⟨hcs, hsep⟩ := cutFirst_eq_some_iff.1 hcut
    refine ⟨?_, by simpa using hsep⟩
    rw [← List.reverse_reverse cs, hcs]
    simp
  · rintro ⟨rfl, hsep⟩
    exact ⟨(b.reverse, a.reverse), cutFirst_eq_some_iff.2 ⟨by simp, by simpa using hsep⟩, by simp⟩

/-! ## Cut at every place -/

theorem cutAll_eq_splitOn (sep : Char) (cs : List Char) : cutAll sep cs = cs.splitOn sep := by
  induction cs with
  | nil => rfl
  | cons c cs ih =>
    rw [List.splitOn] at ih
    rw [cutAll, ih, List.splitOn, List.splitOnP_cons_eq_if_modifyHead]
    cases hcut : cs.splitOnP (· == sep) with
    | nil => exact absurd hcut (List.splitOnP_ne_nil _ _)
    | cons w ws => by_cases hc : c = sep <;> simp [hc]

theorem cutAll_ne_nil (sep : Char) (cs : List Char) : cutAll sep cs ≠ [] := by
  rw [cutAll_eq_splitOn]
  exact List.splitOn_ne_nil sep cs

theorem cutAll_of_notMem (h : sep ∉ w) : cutAll sep w = [w] := by
  rw [cutAll_eq_splitOn, List.splitOn_eq_singleton h]

theorem cutAll_append (h : sep ∉ w) (rest : List Char) :
    cutAll sep (w ++ sep :: rest) = w :: cutAll sep rest := by
  rw [cutAll_eq_splitOn, cutAll_eq_splitOn, List.splitOn_append_cons_self_of_not_mem h]

theorem notMem_of_mem_cutAll (h : w ∈ cutAll sep cs) : sep ∉ w := by
  induction cs generalizing w with
  | nil =>
    rw [cutAll, List.mem_singleton] at h
    simp [h]
  | cons c cs ih =>
    rw [cutAll] at h
    cases hcut : cutAll sep cs with
    | nil => exact absurd hcut (cutAll_ne_nil sep cs)
    | cons v vs =>
      rw [hcut] at h ih
      dsimp only at h
      split at h
      · rcases List.mem_cons.1 h with rfl | h
        · exact List.not_mem_nil
        · exact ih h
      · next hc =>
        rcases List.mem_cons.1 h with rfl | h
        · rw [List.mem_cons, not_or]
          exact ⟨Ne.symm hc, ih (.head _)⟩
        · exact ih (.tail _ h)

/-- The parts of a text are what, joined by the separator, makes the text, and nothing else is. -/
theorem cutAll_eq_iff {ws : List (List Char)} :
    cutAll sep cs = ws ↔ ws ≠ [] ∧ (∀ w ∈ ws, sep ∉ w) ∧ [sep].intercalate ws = cs := by
  constructor
  · rintro rfl
    refine ⟨cutAll_ne_nil sep cs, fun w hw => notMem_of_mem_cutAll hw, ?_⟩
    rw [cutAll_eq_splitOn, List.intercalate_splitOn]
  · rintro ⟨hne, hsep, rfl⟩
    rw [cutAll_eq_splitOn, List.splitOn_intercalate sep hsep hne]

theorem mem_cutAll (sep : Char) {c : Char} {cs : List Char} (h : c ∈ cs) : c = sep ∨ ∃ w ∈ cutAll sep cs, c ∈ w := by
  induction cs with
  | nil => cases h
  | cons d cs ih =>
    rw [cutAll]
    cases hcut : cutAll sep cs with
    | nil => exact absurd hcut (cutAll_ne_nil sep cs)
    | cons w ws =>
      rw [hcut] at ih
      dsimp only
      rcases List.mem_cons.1 h with rfl | h
      · by_cases hc : c = sep
        · exact .inl hc
        · rw [if_neg hc]
          exact .inr ⟨c :: w, List.mem_cons_self, List.mem_cons_self⟩
      · refine (ih h).imp_right fun hmem => ?_
        split
        · obtain ⟨v, hv, hcv⟩ := hmem
          exact ⟨v, List.mem_cons_of_mem _ hv, hcv⟩
        · obtain ⟨v, hv, hcv⟩ := hmem
          rcases List.mem_cons.1 hv with rfl | hv
          · exact ⟨d :: v, List.mem_cons_self, List.mem_cons_of_mem _ hcv⟩
          · exact ⟨v, List.mem_cons_of_mem _ hv, hcv⟩

end ServiceHost.Text
