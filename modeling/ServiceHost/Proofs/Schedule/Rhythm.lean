/-
  ServiceHost.Proofs.Schedule.Rhythm — lines whose bodies take no time.

  Such a line never loses its rhythm: it ticks one interval after it was started, and at
  every interval after that, as often as the interval fits into the time since
  (`Line.advance_rhythm`). So what it has done by some moment depends on that moment alone,
  and not on when it was looked at before.
-/

import ServiceHost.Schedule.Scheduler

namespace ServiceHost.Schedule

namespace Line

variable {interval start now k m : Nat}

/-- The line started at `start` once it has ticked `k` times. -/
def rhythm (interval start : Nat) (h : 0 < interval) (k : Nat) : Line :=
  { interval, due := start + (k + 1) * interval, armedAt := start + k * interval, free := start + k * interval
    count := k, failed := k = 0 && endOfClock ≤ start + interval, interval_pos := h }

def beat (interval start k : Nat) : Execution :=
  ⟨start + (k + 1) * interval, start + (k + 1) * interval, false, start + k * interval⟩

theorem rhythm_zero (interval start : Nat) (h : 0 < interval) :
    rhythm interval start h 0 = Line.start interval start h := by
  simp [rhythm, Line.start]

/-- How often the line has ticked by some moment. -/
def beats (interval start now : Nat) : Nat := (now - start) / interval

theorem beats_self (interval start : Nat) : beats interval start start = 0 := by simp [beats]

theorem beats_mono (h : now ≤ m) : beats interval start now ≤ beats interval start m :=
  Nat.div_le_div_right (Nat.sub_le_sub_right h start)

theorem beats_max (interval start now m : Nat) :
    beats interval start (max now m) = max (beats interval start now) (beats interval start m) := by
  rcases Nat.le_total now m with h | h
  · rw [Nat.max_eq_right h, Nat.max_eq_right (beats_mono h)]
  · rw [Nat.max_eq_left h, Nat.max_eq_left (beats_mono h)]

theorem lt_due_iff (h : 0 < interval) : now < start + (k + 1) * interval ↔ beats interval start now ≤ k := by
  have hdue : 0 < (k + 1) * interval := Nat.mul_pos (Nat.succ_pos k) h
  rw [beats, ← Nat.lt_add_one_iff, Nat.div_lt_iff_lt_mul h]
  omega

variable {h : 0 < interval}

theorem next_rhythm : (rhythm interval start h k).next = start + (k + 1) * interval := by
  have hle : k * interval ≤ (k + 1) * interval := Nat.mul_le_mul_right interval (Nat.le_succ k)
  simp only [next, rhythm]
  omega

theorem run_rhythm (b : Body) (hb : b = {}) :
    (rhythm interval start h k).run b = (beat interval start k, rhythm interval start h (k + 1)) := by
  have hdue : following interval (start + (k + 1) * interval) (start + (k + 1) * interval) =
      start + (k + 1 + 1) * interval := by
    rw [following, if_pos (Nat.le_add_right ..), Nat.add_mul (k + 1) 1 interval, Nat.one_mul, Nat.add_assoc]
  rw [hb, run, next_rhythm]
  simp only [rhythm, beat, hdue, Nat.add_zero, Nat.succ_ne_zero, decide_false, Bool.false_and]

/-- The line waits if it has ticked as often as it should; one that the clock is too short for waits for ever. -/
theorem waits_rhythm (hnow : now < endOfClock) :
    ((rhythm interval start h k).failed = true ∨ now < (rhythm interval start h k).next) ↔
      beats interval start now ≤ k := by
  rw [next_rhythm, lt_due_iff h]
  refine ⟨fun hwaits => hwaits.elim (fun hfailed => ?_) id, .inr⟩
  simp only [rhythm, Bool.and_eq_true, decide_eq_true_eq] at hfailed
  obtain ⟨rfl, hend⟩ := hfailed
  exact (lt_due_iff h).1 (by omega)

theorem advance_rhythm (hnow : now < endOfClock) :
    (rhythm interval start h k).advance (fun _ => {}) now =
      ((List.range' k (beats interval start now - k)).map (beat interval start),
        rhythm interval start h (max k (beats interval start now))) := by
  generalize hn : beats interval start now - k = n
  induction n generalizing k with
  | zero =>
    have hle : beats interval start now ≤ k := Nat.sub_eq_zero_iff_le.1 hn
    rw [advance, if_pos ((waits_rhythm hnow).2 hle), Nat.max_eq_left hle]
    rfl
  | succ n ih =>
    have hlt : ¬ beats interval start now ≤ k := by omega
    rw [advance, if_neg (mt (waits_rhythm hnow).1 hlt), run_rhythm _ rfl]
    simp only
    rw [ih (by omega), List.range'_succ, List.map_cons]
    have hmax : max (k + 1) (beats interval start now) = max k (beats interval start now) := by omega
    rw [hmax]

/-! ## Moments -/

/-- When the ticks of a line come that is started at `start`: those after the first `i`, up to the `j`-th. -/
def moments (interval start i j : Nat) : List Nat := (List.range' i (j - i)).map fun k => start + (k + 1) * interval

variable {i j n : Nat}

@[simp] theorem moments_self (interval start i : Nat) : moments interval start i i = [] := by simp [moments]

@[simp] theorem length_moments (interval start i j : Nat) : (moments interval start i j).length = j - i := by
  simp [moments]

theorem moments_max (interval start i j : Nat) : moments interval start i (max i j) = moments interval start i j := by
  rw [moments, moments, show max i j - i = j - i by omega]

theorem moments_append (h : i ≤ j) (h' : j ≤ n) :
    moments interval start i j ++ moments interval start j n = moments interval start i n := by
  obtain ⟨a, rfl⟩ := Nat.exists_eq_add_of_le h
  obtain ⟨b, rfl⟩ := Nat.exists_eq_add_of_le h'
  simp only [moments, ← List.map_append, Nat.add_sub_cancel_left, Nat.add_assoc]
  rw [show i + (a + b) - (i + a) = b by omega, List.range'_append_1]

theorem moments_succ (h : i ≤ j) :
    moments interval start i (j + 1) = moments interval start i j ++ [start + (j + 1) * interval] := by
  rw [← moments_append h (Nat.le_add_right j 1)]
  simp [moments]

/-- As often as the interval fits into the time; if it fits exactly, the last may be missing. -/
def Fitting (time interval n : Nat) : Prop := n = time / interval ∨ interval ∣ time ∧ n + 1 = time / interval

theorem fitting_zero {time : Nat} : Fitting time 0 n ↔ n = 0 := by
  simp [Fitting]

theorem lt_of_mem_moments {x : Nat} (hx : x ∈ moments interval start i j) (hj : j < beats interval start now) :
    x < now := by
  simp only [moments, List.mem_map, List.mem_range'_1] at hx
  obtain ⟨k, hk, rfl⟩ := hx
  have hk' : k + 1 + 1 ≤ beats interval start now := by omega
  have hle : (k + 1 + 1) * interval ≤ now - start :=
    Nat.le_trans (Nat.mul_le_mul_right interval hk') (Nat.div_mul_le_self _ _)
  have hpos : 0 < interval := by
    rcases Nat.eq_zero_or_pos interval with rfl | h
    · simp [beats] at hj
    · exact h
  rw [Nat.add_mul (k + 1)] at hle
  omega

/-- Of all ticks up to now only the last can be now, so only that one is lost if what is due now is not all done. -/
theorem filter_moments {α : Type} {l : List α} {f : α → Nat} {p : α → Bool} (hi : i ≤ beats interval start now)
    (hl : l.map f = moments interval start i (beats interval start now)) (hp : ∀ a ∈ l, f a < now → p a = true) :
    ∃ n, Fitting (now - start) interval n ∧ i ≤ n ∧ (l.filter p).map f = moments interval start i n := by
  rcases Nat.eq_or_lt_of_le hi with heq | hlt
  · rw [← heq, moments_self, List.map_eq_nil_iff] at hl
    exact ⟨i, .inl heq, Nat.le_refl i, by rw [hl, moments_self]; rfl⟩
  obtain ⟨j, hj⟩ : ∃ j, beats interval start now = j + 1 := ⟨beats interval start now - 1, by omega⟩
  rw [hj, moments_succ (by omega), List.map_eq_append_iff] at hl
  obtain ⟨past, rest, rfl, hpast, hrest⟩ := hl
  obtain ⟨a, rfl, ha⟩ := List.map_eq_singleton_iff.1 hrest
  have hkept : past.filter p = past := List.filter_eq_self.2 fun x hx =>
    hp x (List.mem_append_left _ hx) (lt_of_mem_moments (hpast ▸ List.mem_map_of_mem hx) (by omega))
  rw [List.filter_append, hkept]
  cases hpa : p a with
  | true =>
    refine ⟨j + 1, .inl hj.symm, by omega, ?_⟩
    rw [moments_succ (by omega), List.filter_cons_of_pos hpa, List.map_append, hpast]
    simp [ha]
  | false =>
    refine ⟨j, .inr ⟨?_, hj.symm⟩, by omega, ?_⟩
    · have hnow : ¬ f a < now := fun hlt => Bool.noConfusion (hpa.symm.trans (hp a (by simp) hlt))
      have hle : (j + 1) * interval ≤ now - start := hj ▸ Nat.div_mul_le_self _ _
      rw [ha] at hnow
      exact ⟨j + 1, by rw [Nat.mul_comm]; omega⟩
    · rw [List.filter_cons_of_neg (by simp [hpa]), List.filter_nil, List.append_nil, hpast]

end Line

namespace Scheduler

variable {Job : Type} {ds : List (Accepted Job)} {start now m : Nat}

theorem accepted_pos (d : Accepted Job) : 0 < d.1.interval := d.2

/-- The tasks of a scheduler that was started at `start`, at the moment `now`. -/
def rhythm (ds : List (Accepted Job)) (start now : Nat) : Scheduler Job :=
  .running (ds.map fun d => ⟨d.1, .rhythm d.1.interval start (accepted_pos d) (Line.beats d.1.interval start now)⟩)

/-- The ticks of a task from one moment to another. -/
def beatsOf (d : Accepted Job) (start m now : Nat) : List Execution :=
  (List.range' (Line.beats d.1.interval start m)
    (Line.beats d.1.interval start now - Line.beats d.1.interval start m)).map (Line.beat d.1.interval start)

theorem beatsOf_start (d : Accepted Job) (start m now : Nat) :
    (beatsOf d start m now).map (·.start) =
      Line.moments d.1.interval start (Line.beats d.1.interval start m) (Line.beats d.1.interval start now) :=
  List.map_map

theorem rhythm_start (ds : List (Accepted Job)) (now : Nat) : running (ds.map (entry now)) = rhythm ds now now := by
  simp only [rhythm, Line.beats_self, Line.rhythm_zero]
  rfl

/-- Whatever the bodies are of, if they take no time every task ticks in its own rhythm. -/
theorem advance_rhythm (hnow : now < endOfClock) :
    (rhythm ds start m).advance (fun _ _ => {}) now =
      (ds.flatMap fun d => (beatsOf d start m now).map (d.1, ·), rhythm ds start (max m now)) := by
  simp only [advance, rhythm, List.map_map, List.flatMap_map, Function.comp_def, Line.advance_rhythm hnow,
    Line.beats_max, beatsOf]

end Scheduler

end ServiceHost.Schedule
