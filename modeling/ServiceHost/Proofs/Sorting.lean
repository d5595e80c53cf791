/-
  ServiceHost.Proofs.Sorting — what a stable sort leaves as it was.

  The core library sorts stably. So what is in order already stays in its order
  (`filter_mergeSort`), and a list in the order of falling keys is known from its elements of
  each key (`eq_of_filter_eq`): lists that have the same elements of each key, in the same
  order, are sorted alike (`mergeSort_falling_eq`).
-/

namespace ServiceHost

variable {α : Type}

theorem filter_mergeSort {le : α → α → Bool} (htrans : ∀ a b c, le a b = true → le b c = true → le a c = true)
    (htotal : ∀ a b, (le a b || le b a) = true) {l : List α} {p : α → Bool}
    (hl : (l.filter p).Pairwise fun a b => le a b = true) : (l.mergeSort le).filter p = l.filter p := by
  have hsub : (l.filter p).Sublist ((l.mergeSort le).filter p) := by
    have hsorted := (List.sublist_mergeSort htrans htotal hl List.filter_sublist).filter p
    simpa only [List.filter_filter, Bool.and_self] using hsorted
  refine (hsub.eq_of_length ?_).symm
  rw [← List.countP_eq_length_filter, ← List.countP_eq_length_filter]
  exact ((List.mergeSort_perm l le).countP_eq p).symm

/-! ## Falling keys -/

variable {key : α → Nat}

theorem falling_trans (a b c : α) (hab : decide (key b ≤ key a) = true) (hbc : decide (key c ≤ key b) = true) :
    decide (key c ≤ key a) = true := by
  rw [decide_eq_true_eq] at hab hbc ⊢
  exact Nat.le_trans hbc hab

theorem falling_total (a b : α) : (decide (key b ≤ key a) || decide (key a ≤ key b)) = true := by
  rw [Bool.or_eq_true, decide_eq_true_eq, decide_eq_true_eq]
  exact Nat.le_total (key b) (key a)

theorem pairwise_mergeSort_falling (l : List α) :
    (l.mergeSort fun a b => decide (key b ≤ key a)).Pairwise fun a b => key b ≤ key a := by
  simpa only [decide_eq_true_eq] using List.pairwise_mergeSort falling_trans falling_total l

theorem filter_mergeSort_falling (l : List α) (n : Nat) :
    (l.mergeSort fun a b => decide (key b ≤ key a)).filter (key · = n) = l.filter (key · = n) := by
  refine filter_mergeSort falling_trans falling_total (List.pairwise_iff_forall_sublist.2 fun {a b} hab => ?_)
  have hkey (x : α) (hx : x ∈ [a, b]) : key x = n := by simpa using (List.mem_filter.1 (hab.subset hx)).2
  rw [hkey a (by simp), hkey b (by simp)]
  exact decide_eq_true (Nat.le_refl n)

theorem mem_of_filter_eq {l l' : List α} (h : ∀ n, l.filter (key · = n) = l'.filter (key · = n)) {x : α} (hx : x ∈ l) :
    x ∈ l' := by
  have hmem : x ∈ l.filter (key · = key x) := List.mem_filter.2 ⟨hx, by simp⟩
  rw [h (key x)] at hmem
  exact (List.mem_filter.1 hmem).1

/-- Two lists with the same elements of each key, both in the order of falling keys, are one list. -/
theorem eq_of_filter_eq {l l' : List α} (hl : l.Pairwise fun a b => key b ≤ key a)
    (hl' : l'.Pairwise fun a b => key b ≤ key a) (h : ∀ n, l.filter (key · = n) = l'.filter (key · = n)) : l = l' := by
  induction l generalizing l' with
  | nil =>
    cases l' with
    | nil => rfl
    | cons b l' => exact absurd (mem_of_filter_eq (fun n => (h n).symm) (.head l')) List.not_mem_nil
  | cons a l ih =>
    cases l' with
    | nil => exact absurd (mem_of_filter_eq h (.head l)) List.not_mem_nil
    | cons b l' =>
      -- each of the two first elements is in the other list, so their keys are the same
      have hba : key b ≤ key a := by
        rcases List.mem_cons.1 (mem_of_filter_eq (fun n => (h n).symm) (.head l')) with heq | hb
        · exact Nat.le_of_eq (congrArg key heq)
        · exact List.rel_of_pairwise_cons hl hb
      have hab : key a ≤ key b := by
        rcases List.mem_cons.1 (mem_of_filter_eq h (.head l)) with heq | ha
        · exact Nat.le_of_eq (congrArg key heq)
        · exact List.rel_of_pairwise_cons hl' ha
      have heq : a = b := by
        have hhead := congrArg List.head? (h (key a))
        simpa [List.filter_cons, Nat.le_antisymm hab hba] using hhead
      subst heq
      refine congrArg (a :: ·) (ih hl.of_cons hl'.of_cons fun n => ?_)
      have hn := h n
      rw [List.filter_cons, List.filter_cons] at hn
      split at hn
      · exact (List.cons.inj hn).2
      · exact hn

theorem mergeSort_falling_eq {l l' : List α} (h : ∀ n, l.filter (key · = n) = l'.filter (key · = n)) :
    (l.mergeSort fun a b => decide (key b ≤ key a)) = l'.mergeSort fun a b => decide (key b ≤ key a) := by
  refine eq_of_filter_eq (pairwise_mergeSort_falling l) (pairwise_mergeSort_falling l') fun n => ?_
  rw [filter_mergeSort_falling, filter_mergeSort_falling, h n]

end ServiceHost
