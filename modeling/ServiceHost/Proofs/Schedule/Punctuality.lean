/-
  ServiceHost.Proofs.Schedule.Punctuality — when the tasks of a scheduler run.

  A loop has run what its line runs alone, but for what is due at this very moment
  (`Loop.Tracks.alone`). So what is known of a lone line holds of every task, whatever the
  others do (`Loop.Timed`, `runs_timed`): no run comes too early, none overlaps another,
  one that comes too late is not caught up, and with short bodies all come in time.

  Where no loop can move, the scheduler's own account of its lines is exactly what they ran
  (`advance_still`).
-/

import ServiceHost.Proofs.Schedule.Loops

namespace ServiceHost.Schedule

variable {Job : Type}

/-! ## What a loop has run -/

namespace Loop

/-- When the tick of its `k`-th run was due, by when the runs before it started. -/
def dueOf (l : Loop Job) (k : Nat) : Nat :=
  (l.ran.take k).foldl (fun due x => Line.following l.interval due x.start) (l.since + l.interval)

def entry (l : Loop Job) : Entry Job :=
  { task := l.task.1
    line :=
      { interval := l.interval, due := l.due, armedAt := l.armedAt
        free := (l.ran.getLast?.map (·.finish)).getD l.since
        count := l.ran.length
        failed := (l.ran.getLast?.map (·.fails)).getD (endOfClock ≤ l.since + l.interval)
        interval_pos := l.interval_pos } }

end Loop

variable {body : Job → Nat → Body} {fired : Bool} {now horizon : Nat} {l : Loop Job}

/-- The runs of a task, up to the horizon. -/
structure Loop.Timed (body : Job → Nat → Body) (horizon : Nat) (l : Loop Job) : Prop where
  /-- A run starts no sooner than as many intervals after the start of the line. -/
  notBefore : ∀ k x, l.ran[k]? = some x → l.since + (k + 1) * l.interval ≤ x.start
  /-- Its bodies do not overlap. -/
  apart : l.ran.Pairwise fun x y => x.finish ≤ y.start
  /-- A run that starts too late is not caught up. -/
  noCatchUp : ∀ k x y, l.ran[k]? = some x → l.ran[k + 1]? = some y → l.dueOf k + tolerance < x.start →
    x.start + l.interval ≤ y.start
  /-- If all bodies fit into the interval, every run starts in time. -/
  inTime : (∀ i, (l.bodies body i).duration ≤ l.interval) → ∀ k x, l.ran[k]? = some x →
    x.start = l.since + (k + 1) * l.interval
  /-- Then none is missing either that was due before the horizon, up to a body that fails. -/
  complete : (∀ i, (l.bodies body i).duration ≤ l.interval) → ∀ k, (∀ i < k, (l.bodies body i).fails = false) →
    l.since + (k + 1) * l.interval < horizon → k < l.ran.length
  /-- It ran what its line runs alone, but for what is due at the horizon itself. -/
  alone : ∃ rest, (l.alone.advance (l.bodies body) horizon).1 = l.ran ++ rest ∧ ∀ x ∈ rest, x.start = horizon

theorem Loop.next_alone (hshort : ∀ i, (l.bodies body i).duration ≤ l.interval) (k : Nat) :
    (l.alone.after (l.bodies body) k).next = l.since + (k + 1) * l.interval := by
  have hnext := (Line.prompt_after (l.bodies body) l.alone (Nat.le_add_right ..) hshort k).2
  have hdue : l.alone.due = l.since + l.interval := rfl
  have hinterval : l.alone.interval = l.interval := rfl
  rw [hnext, hdue, hinterval, Nat.succ_mul]
  omega

namespace Loop.Tracks

variable {k : Nat} {x : Execution}

theorem getElem?_ran (h : l.Tracks body fired now horizon) (hx : l.ran[k]? = some x) :
    k < l.ran.length ∧ x = l.alone.nth (l.bodies body) k := by
  have hlt : k < l.ran.length := (List.getElem?_eq_some_iff.1 hx).1
  refine ⟨hlt, ?_⟩
  have hran := congrArg (·[k]?) h.ran
  simp only [hx, List.getElem?_map, List.getElem?_range hlt, Option.map_some, Option.some.injEq] at hran
  exact hran

theorem dueOf_eq (h : l.Tracks body fired now horizon) (hk : k ≤ l.ran.length) :
    l.dueOf k = (l.alone.after (l.bodies body) k).due := by
  have htake : l.ran.take k = (List.range k).map (l.alone.nth (l.bodies body)) := by
    rw [h.ran, ← List.map_take, List.take_range, Nat.min_eq_left hk]
  rw [dueOf, htake, Line.due_after_eq]
  rfl

/-- A line that could have run more by the horizon broke off. -/
theorem complete (h : l.Tracks body fired now horizon) (hclock : horizon < endOfClock)
    (hshort : ∀ i, (l.bodies body i).duration ≤ l.interval) (halive : ∀ i < k, (l.bodies body i).fails = false)
    (hdue : l.since + (k + 1) * l.interval < horizon) : k < l.ran.length := by
  refine Nat.lt_of_not_le fun hmissing => ?_
  have hle : (l.ran.length + 1) * l.interval ≤ (k + 1) * l.interval := Nat.mul_le_mul_right _ (by omega)
  rcases h.prompt with hfailed | hprompt
  · cases hn : l.ran.length with
    | zero =>
      -- its first tick lies past the end of the clock, so nothing of it was due
      rw [reached, hn] at hfailed
      have hend : endOfClock ≤ l.since + l.interval := of_decide_eq_true hfailed
      rw [hn, Nat.zero_add, Nat.one_mul] at hle
      omega
    | succ n =>
      rw [reached, hn, Line.failed_after_succ] at hfailed
      have hcount : l.alone.count + n = n := Nat.zero_add n
      rw [hcount, halive n (by omega)] at hfailed
      cases hfailed
  · rw [reached, next_alone hshort] at hprompt
    omega

/-- What a line would run alone, and its loop did not, is due at the horizon. -/
theorem alone (h : l.Tracks body fired now horizon) :
    ∃ rest, (l.alone.advance (l.bodies body) horizon).1 = l.ran ++ rest ∧ ∀ x ∈ rest, x.start = horizon := by
  obtain ⟨n, heq, hstarted, hwaits⟩ := Line.advance_after (l.bodies body) l.alone horizon
  have hle : l.ran.length ≤ n := Nat.le_of_not_lt fun hlt => h.started n hlt hwaits
  obtain ⟨m, rfl⟩ := Nat.exists_eq_add_of_le hle
  refine ⟨(List.range' l.ran.length m).map (l.alone.nth (l.bodies body)), ?_, fun x hx => ?_⟩
  · rw [heq, List.range_eq_range', ← List.range'_append_1, List.map_append, Nat.zero_add, ← List.range_eq_range',
      ← h.ran]
  · obtain ⟨k, hk, rfl⟩ := List.mem_map.1 hx
    rw [List.mem_range'_1] at hk
    have hnow : ¬ (l.reached body).Waits horizon := hstarted l.ran.length (by omega)
    have hlater : ¬ (l.alone.after (l.bodies body) k).Waits horizon := hstarted k (by omega)
    simp only [Line.Waits, not_or, Nat.not_lt] at hnow hlater
    refine Nat.le_antisymm hlater.2 ?_
    exact Nat.le_trans (h.prompt.resolve_left hnow.1) (Line.next_mono _ _ hk.1)

theorem timed (h : l.Tracks body fired now horizon) (hclock : horizon < endOfClock) : l.Timed body horizon where
  notBefore k x hx := by
    obtain ⟨-, rfl⟩ := h.getElem?_ran hx
    have hdue : l.since + l.interval + k * l.interval ≤ (l.alone.after (l.bodies body) k).due :=
      Line.due_after (l.bodies body) l.alone k
    have hnext : (l.alone.after (l.bodies body) k).due ≤ (l.alone.nth (l.bodies body) k).start := Line.due_le_next _
    rw [Nat.succ_mul]
    omega
  apart := by
    rw [h.ran, List.pairwise_map]
    exact List.pairwise_lt_range.imp fun hlt => Line.finish_le_nth _ _ hlt
  noCatchUp k x y hx hy hlate := by
    obtain ⟨hk, rfl⟩ := h.getElem?_ran hx
    obtain ⟨-, rfl⟩ := h.getElem?_ran hy
    rw [h.dueOf_eq (Nat.le_of_lt hk)] at hlate
    exact Line.late_nth _ _ hlate
  inTime hshort k x hx := by
    obtain ⟨-, rfl⟩ := h.getElem?_ran hx
    exact next_alone hshort k
  complete hshort k halive hdue := h.complete hclock hshort halive hdue
  alone := h.alone

theorem last (h : l.Tracks body fired now horizon) :
    (l.ran.getLast?.map (·.finish)).getD l.since = (l.reached body).free ∧
      (l.ran.getLast?.map (·.fails)).getD (decide (endOfClock ≤ l.since + l.interval)) = (l.reached body).failed := by
  have hran := h.ran
  rw [reached]
  cases hn : l.ran.length with
  | zero =>
    rw [List.eq_nil_of_length_eq_zero hn]
    exact ⟨rfl, rfl⟩
  | succ n =>
    rw [hn, List.range_succ, List.map_append] at hran
    have hlast : l.ran.getLast? = some (l.alone.nth (l.bodies body) n) := by
      rw [hran]
      exact List.getLast?_concat
    rw [hlast]
    exact ⟨Line.finish_nth .., Line.fails_nth ..⟩

theorem line_eq (h : l.Tracks body fired now horizon) : l.entry.line = l.reached body := by
  obtain ⟨hfree, hfailed⟩ := h.last
  have hinterval : (l.reached body).interval = l.interval := Line.interval_after ..
  simp only [entry, hfree, hfailed, h.due, h.armedAt]
  simp only [← l.count_reached body, ← hinterval]

/-- A loop that waits has run what its line runs alone, and its line is as that leaves it. -/
theorem advance_alone (h : l.Tracks body false now now) (hstill : l.canMove false now = false) :
    l.alone.advance (l.bodies body) now = (l.ran, l.entry.line) := by
  rw [Line.advance_eq _ _ h.started (h.waits hstill), ← h.ran, h.line_eq, reached]

end Loop.Tracks

/-! ## All loops -/

namespace World

variable {w : World Job}

/-- The scheduler with these lines as they were started. -/
def asStarted (w : World Job) : Scheduler Job := .running (w.loops.map fun l => Scheduler.entry l.since l.task)

def asIs (w : World Job) : Scheduler Job := .running (w.loops.map Loop.entry)

/-- Where no loop can move, the scheduler's account of its lines is what the loops ran. -/
theorem advance_still (h : w.Sound body) (hf : w.fired = false) (hstill : w.isStill = true) :
    w.asStarted.advance body w.now = (w.loops.flatMap fun l => l.ran.map (l.task.1, ·), w.asIs) := by
  have hlines : ∀ l ∈ w.loops, l.alone.advance (l.bodies body) w.now = (l.ran, l.entry.line) := by
    intro l hl
    have htracks := h.tracks l hl
    rw [horizon_eq hf, hf] at htracks
    have hwaits : l.canMove w.fired w.now = false := by
      simpa using List.all_eq_true.1 hstill l hl
    exact htracks.advance_alone (hf ▸ hwaits)
  have hmoved : ((w.loops.map fun l => Scheduler.entry l.since l.task).map fun e =>
      (e.task, e.line.advance (body e.task.job) w.now)) = w.loops.map fun l => (l.task.1, (l.ran, l.entry.line)) := by
    rw [List.map_map]
    exact List.map_congr_left fun l hl => congrArg (Prod.mk l.task.1) (hlines l hl)
  rw [asStarted, Scheduler.advance]
  simp only [hmoved, List.flatMap_map, List.map_map]
  rfl

/--
  Whatever the loops do among each other, and whenever the stop signal fires: every task
  that gets its line before has a loop since then, and its runs are timed by its own
  interval, start and bodies alone; once the signal has fired, none starts; the loops always
  come to rest, so that the clock can go on; and where they rest, the scheduler's account of
  its lines is what they ran.
-/
theorem runs_timed (body : Job → Nat → Body) {now : Nat} (hnow : now < endOfClock) (es : List (LoopEvent Job)) :
    let w₀ : World Job := { now, inTime := hnow }
    let w := w₀.run body es
    (∀ l ∈ w.loops, l.Timed body w.horizon) ∧
    (∀ before t after, es = before ++ .spawn t :: after → (w₀.run body before).fired = false →
      (t, (w₀.run body before).now) ∈ w.origins) ∧
    (∀ before after, es = before ++ after → (w₀.run body before).fired = true →
      w.runs = (w₀.run body before).runs) ∧
    (∃ turns : List Nat, (w.run body (turns.map .turn)).isStill = true) ∧
    (w.fired = false → w.isStill = true →
      w.asStarted.advance body w.now = (w.loops.flatMap fun l => l.ran.map (l.task.1, ·), w.asIs)) := by
  intro w₀ w
  have hw : w.Sound body := run_sound es ⟨Nat.le_refl _, List.forall_mem_nil _⟩
  have hsplit {before after : List (LoopEvent Job)} (hes : es = before ++ after) :
      w = (w₀.run body before).run body after := by
    show w₀.run body es = _
    rw [hes]
    exact List.foldl_append
  refine ⟨fun l hl => ?_, fun before t after hes hf => ?_, fun before after hes hf => ?_, settles body w,
    advance_still hw⟩
  · exact (hw.tracks l hl).timed (Nat.lt_of_le_of_lt hw.horizon_le w.inTime)
  · rw [hsplit hes]
    refine (run_origins after).subset ?_
    show _ ∈ ((w₀.run body before).step body (.spawn t)).origins
    rw [step_origins]
    simp [hf]
  · rw [hsplit hes]
    exact run_fired after hf

end World

namespace Crowd

def task (name : String) (interval job : Nat) (h : 0 < interval) : Accepted Nat := ⟨⟨name, interval, job⟩, h⟩

/-- One task is slower than its interval, one is in time, and one fails. -/
def work (job : Nat) (_ : Nat) : Body :=
  match job with
  | 0 => { duration := 10 }
  | 1 => { duration := 1 }
  | _ => { fails := true }

def opening : World Nat := { now := 0, inTime := by decide +kernel }

def turns : List (LoopEvent Nat) := [.turn 0, .turn 1, .turn 2, .turn 0, .turn 1, .turn 2]

/-- The signal fires when the task that is in time is due again, and before its turn. -/
def events : List (LoopEvent Nat) :=
  [.spawn (task "slow" 3 0 (by decide)), .spawn (task "quick" 2 1 (by decide)),
    .spawn (task "failing" 4 2 (by decide))] ++
    (List.replicate 15 (.pass :: turns)).flatten ++ .pass :: .fire :: turns

end Crowd

open Crowd in
theorem runs_timed_crowd :
    0 < endOfClock ∧ ∃ w, opening.run work events = w ∧ w.fired? = some 16 ∧
      w.runs.map (·.map (·.start)) = [[3, 13], [2, 4, 6, 8, 10, 12, 14], [4]] ∧
      ∀ l ∈ w.loops, l.Timed work 16 := by
  have hran : (opening.run work events).fired? = some 16 ∧
      (opening.run work events).runs.map (·.map (·.start)) = [[3, 13], [2, 4, 6, 8, 10, 12, 14], [4]] := by
    decide +kernel
  have htimed : ∀ l ∈ (opening.run work events).loops, l.Timed work (opening.run work events).horizon :=
    (World.runs_timed work opening.inTime events).1
  rw [World.horizon, hran.1] at htimed
  exact ⟨opening.inTime, _, rfl, hran.1, hran.2, htimed⟩

end ServiceHost.Schedule
