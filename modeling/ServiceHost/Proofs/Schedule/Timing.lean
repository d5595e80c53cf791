/-
  ServiceHost.Proofs.Schedule.Timing — when the bodies of a line start.

  A line is followed body by body (`Line.after`, `Line.nth`). Every body moves the next tick
  on by an interval at least, so the `k`-th comes no sooner than after `k` intervals
  (`due_after`). None starts before the last one has ended (`finish_le_nth`). One that is
  taken too late starts a new rhythm (`late_nth`). Bodies that fit into the interval keep
  the old one (`prompt_after`).

  What a line runs up to some moment are its bodies in this order, as many as start by then
  (`advance_after`).
-/

import ServiceHost.Schedule.Scheduler

namespace ServiceHost.Schedule.Line

variable (bodies : Nat → Body) (l : Line) {k m n now : Nat}

/-- The line once its next `k` bodies have started. -/
def after (l : Line) : Nat → Line
  | 0 => l
  | k + 1 => ((after l k).run (bodies (after l k).count)).2

/-- Its body after `k` others. -/
def nth (k : Nat) : Execution := ((l.after bodies k).run (bodies (l.after bodies k).count)).1

/-- Nothing starts on the line by `now`. -/
def Waits (now : Nat) (l : Line) : Prop := l.failed = true ∨ now < l.next

/-! ## One body -/

theorem due_add_le_following (interval due taken : Nat) : due + interval ≤ following interval due taken := by
  unfold following
  split
  · exact Nat.le_refl _
  · omega

/-- A tick taken too late is followed by a new rhythm. -/
theorem following_late {interval due taken : Nat} (h : due + tolerance < taken) :
    following interval due taken = taken + interval := by
  rw [following, if_neg (by omega)]

theorem due_le_next : l.due ≤ l.next := Nat.le_max_left ..

theorem free_le_next : l.free ≤ l.next := Nat.le_max_right ..

theorem Waits.earlier {l : Line} (h : l.Waits now) (hm : m ≤ now) : l.Waits m :=
  h.imp_right (Nat.lt_of_le_of_lt hm)

/-! ## Body by body -/

@[simp] theorem after_zero : l.after bodies 0 = l := rfl

theorem after_succ (k : Nat) :
    l.after bodies (k + 1) = ((l.after bodies k).run (bodies (l.after bodies k).count)).2 := rfl

theorem after_run (k : Nat) : (l.run (bodies l.count)).2.after bodies k = l.after bodies (k + 1) := by
  induction k with
  | zero => rfl
  | succ k ih => rw [after_succ, ih, ← after_succ]

theorem nth_run (k : Nat) : (l.run (bodies l.count)).2.nth bodies k = l.nth bodies (k + 1) := by
  rw [nth, after_run, nth]

@[simp] theorem interval_after (k : Nat) : (l.after bodies k).interval = l.interval := by
  induction k with
  | zero => rfl
  | succ k ih => exact ih

theorem count_after (k : Nat) : (l.after bodies k).count = l.count + k := by
  induction k with
  | zero => rfl
  | succ k ih =>
    show (l.after bodies k).count + 1 = l.count + (k + 1)
    omega

@[simp] theorem start_nth (k : Nat) : (l.nth bodies k).start = (l.after bodies k).next := rfl

theorem finish_nth (k : Nat) : (l.nth bodies k).finish = (l.after bodies (k + 1)).free := rfl

theorem fails_nth (k : Nat) : (l.nth bodies k).fails = (l.after bodies (k + 1)).failed := rfl

theorem due_after_succ (k : Nat) :
    (l.after bodies (k + 1)).due = following l.interval (l.after bodies k).due (l.after bodies k).next := by
  show following (l.after bodies k).interval _ _ = _
  rw [interval_after]

theorem free_after_succ (k : Nat) :
    (l.after bodies (k + 1)).free = (l.after bodies k).next + (bodies (l.count + k)).duration := by
  rw [← count_after]
  rfl

theorem failed_after_succ (k : Nat) : (l.after bodies (k + 1)).failed = (bodies (l.count + k)).fails := by
  rw [← count_after]
  rfl

theorem due_after (k : Nat) : l.due + k * l.interval ≤ (l.after bodies k).due := by
  induction k with
  | zero => simp
  | succ k ih =>
    have hstep : (l.after bodies k).due + l.interval ≤ (l.after bodies (k + 1)).due := by
      rw [due_after_succ]
      exact due_add_le_following ..
    rw [Nat.succ_mul]
    omega

theorem next_mono (h : m ≤ k) : (l.after bodies m).next ≤ (l.after bodies k).next := by
  induction h with
  | refl => exact Nat.le_refl _
  | step _ ih =>
    refine Nat.le_trans ih (Nat.le_trans ?_ (free_le_next _))
    rw [free_after_succ]
    exact Nat.le_add_right ..

theorem finish_le_nth (h : m < k) : (l.nth bodies m).finish ≤ (l.nth bodies k).start := by
  rw [finish_nth, start_nth]
  exact Nat.le_trans (free_le_next _) (next_mono bodies l h)

/-- A body that starts too late is followed by none for a whole interval. -/
theorem late_nth (h : (l.after bodies k).due + tolerance < (l.nth bodies k).start) :
    (l.nth bodies k).start + l.interval ≤ (l.nth bodies (k + 1)).start := by
  have hdue : (l.after bodies (k + 1)).due = (l.nth bodies k).start + l.interval := by
    rw [due_after_succ]
    exact following_late h
  rw [← hdue, start_nth]
  exact due_le_next _

/-- Bodies that fit into the interval keep the rhythm. -/
theorem prompt_after (hfree : l.free ≤ l.due) (hshort : ∀ i, (bodies i).duration ≤ l.interval) (k : Nat) :
    (l.after bodies k).due = l.due + k * l.interval ∧ (l.after bodies k).next = l.due + k * l.interval := by
  suffices h : (l.after bodies k).due = l.due + k * l.interval ∧ (l.after bodies k).free ≤ (l.after bodies k).due by
    refine ⟨h.1, ?_⟩
    rw [next, Nat.max_eq_left h.2, h.1]
  induction k with
  | zero => simpa using hfree
  | succ k ih =>
    obtain ⟨hdue, hfree⟩ := ih
    have hnext : (l.after bodies k).next = (l.after bodies k).due := Nat.max_eq_left hfree
    have hkept : (l.after bodies (k + 1)).due = (l.after bodies k).due + l.interval := by
      rw [due_after_succ, hnext, following, if_pos (Nat.le_add_right ..)]
    have hended : (l.after bodies (k + 1)).free ≤ (l.after bodies k).due + l.interval := by
      rw [free_after_succ, hnext]
      exact Nat.add_le_add_left (hshort _) _
    refine ⟨?_, by omega⟩
    rw [hkept, hdue, Nat.succ_mul, Nat.add_assoc]

/-- The ticks of a line, by the starts of its bodies: each follows from when the one before was taken. -/
theorem due_after_eq (k : Nat) :
    (l.after bodies k).due =
      ((List.range k).map (l.nth bodies)).foldl (fun due x => following l.interval due x.start) l.due := by
  induction k with
  | zero => rfl
  | succ k ih =>
    rw [List.range_succ, List.map_append, List.foldl_append, ← ih, due_after_succ]
    rfl

/-! ## Up to a moment -/

/-- Up to some moment a line runs its bodies in order, up to the first that does not start by then. -/
theorem advance_after (now : Nat) :
    ∃ n, l.advance bodies now = ((List.range n).map (l.nth bodies), l.after bodies n) ∧
      (∀ k < n, ¬ (l.after bodies k).Waits now) ∧ (l.after bodies n).Waits now := by
  fun_induction Line.advance bodies now l with
  | case1 l hwaits => exact ⟨0, rfl, fun k hk => absurd hk (Nat.not_lt_zero k), hwaits⟩
  | case2 l hruns ran rest ih =>
    obtain ⟨n, hrest, hstarted, hwaits⟩ := ih
    refine ⟨n + 1, ?_, fun k hk => ?_, ?_⟩
    · have hlater : (List.range n).map (ran.2.nth bodies) = (List.range n).map fun k => l.nth bodies (k + 1) :=
        List.map_congr_left fun k _ => nth_run bodies l k
      rw [show rest = _ from hrest, hlater, after_run, List.range_succ_eq_map, List.map_cons, List.map_map]
      rfl
    · cases k with
      | zero => exact hruns
      | succ k =>
        rw [← after_run]
        exact hstarted k (Nat.lt_of_succ_lt_succ hk)
    · rw [← after_run]
      exact hwaits

/-- Those are all bodies before the first that does not start by then. -/
theorem advance_eq (hstarted : ∀ k < n, ¬ (l.after bodies k).Waits now) (hwaits : (l.after bodies n).Waits now) :
    l.advance bodies now = ((List.range n).map (l.nth bodies), l.after bodies n) := by
  obtain ⟨m, heq, hbefore, hlast⟩ := advance_after bodies l now
  have hm : m = n := by
    rcases Nat.lt_trichotomy m n with h | h | h
    · exact absurd hlast (hstarted m h)
    · exact h
    · exact absurd hwaits (hbefore n h)
  rw [heq, hm]

end ServiceHost.Schedule.Line
