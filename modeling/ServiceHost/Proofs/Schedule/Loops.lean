/-
  ServiceHost.Proofs.Schedule.Loops — lines among each other, and the stop signal.

  Every task has a loop of its own. Between two bodies it waits for the stop signal and for
  its next tick at once, and looks at the signal first (`Loop.turn`). The loops take their
  turns in any order, tasks get their lines at any time, and the signal fires at any moment,
  before or after what else is due then. The clock stands still while a loop can move
  (`World.step`).

  A loop comes as far as its line does alone (`Loop.Tracks`), by any turn of its own, while
  time passes, and whatever other loops do (`turn_tracks`, `pass_tracks`, `step_sound`,
  `run_sound`). That goes on up to the moment the signal fires; of what is due at that very
  moment only that is run which came before the signal (`run_fired`). The loops always come
  to rest by their own turns, so that the clock can go on (`settles`).
-/

import Mathlib.Algebra.GroupWithZero.Nat
import ServiceHost.Proofs.Schedule.Timing

namespace ServiceHost.Schedule

variable {Job : Type}

/-! ## Loops -/

inductive Stage where
  /-- Between two bodies. -/
  | selecting
  | running (x : Execution)
  | ended

structure Loop (Job : Type) where
  task : Accepted Job
  /-- When it was started. -/
  since : Nat
  /-- When the next tick is due, and when it was set. -/
  due : Nat
  armedAt : Nat
  stage : Stage
  /-- The bodies that have started, in order. -/
  ran : List Execution := []

namespace Loop

def interval (l : Loop Job) : Nat := l.task.1.interval

theorem interval_pos (l : Loop Job) : 0 < l.interval := l.task.2

/-- A loop started at `now`. Its first tick can lie past the end of the clock; then it breaks off. -/
def start (t : Accepted Job) (now : Nat) : Loop Job :=
  { task := t, since := now, due := now + t.1.interval, armedAt := now
    stage := if endOfClock ≤ now + t.1.interval then .ended else .selecting }

variable (body : Job → Nat → Body)

def bodies (l : Loop Job) : Nat → Body := body l.task.1.job

def running (l : Loop Job) (now : Nat) (x : Execution) : Loop Job :=
  { l with
    due := Line.following l.interval l.due now, armedAt := now
    stage := .running x, ran := l.ran ++ [x] }

/-- The next turn of a loop. A loop that waits stays as it is. -/
def turn (fired : Bool) (now : Nat) (l : Loop Job) : Loop Job :=
  match l.stage with
  | .selecting =>
    -- the signal comes first: a tick that is due as well is left alone
    if fired then { l with stage := .ended }
    else if l.due ≤ now then
      let b := l.bodies body l.ran.length
      l.running now ⟨now, now + b.duration, b.fails, l.armedAt⟩
    else l
  | .running x => if x.finish ≤ now then { l with stage := if x.fails then .ended else .selecting } else l
  | .ended => l

/-- Whether its next turn does anything. -/
def canMove (fired : Bool) (now : Nat) (l : Loop Job) : Bool :=
  match l.stage with
  | .selecting => fired || l.due ≤ now
  | .running x => x.finish ≤ now
  | .ended => false

/-- Its line as it was when it was started. -/
def alone (l : Loop Job) : Line := Line.start l.interval l.since l.interval_pos

end Loop

/-! ## Loops among each other -/

inductive LoopEvent (Job : Type) where
  /-- A task gets its line. -/
  | spawn (t : Accepted Job)
  /-- The `i`-th loop takes its next turn. -/
  | turn (i : Nat)
  /-- The stop signal fires. -/
  | fire
  /-- The clock goes on. -/
  | pass

/-- The loops of a scheduler at some moment. -/
structure World (Job : Type) where
  now : Nat
  /-- When the stop signal fired. -/
  fired? : Option Nat := none
  loops : List (Loop Job) := []
  inTime : now < endOfClock

namespace World

def fired (w : World Job) : Bool := w.fired?.isSome

/-- What is due by then is due to be run: until the signal fires that is the present. -/
def horizon (w : World Job) : Nat := w.fired?.getD w.now

def isStill (w : World Job) : Bool := w.loops.all fun l => !l.canMove w.fired w.now

variable (body : Job → Nat → Body)

def step (w : World Job) : LoopEvent Job → World Job
  | .spawn t => if w.fired then w else { w with loops := w.loops ++ [.start t w.now] }
  | .turn i =>
    match w.loops[i]? with
    | some l => { w with loops := w.loops.set i (l.turn body w.fired w.now) }
    | none => w
  | .fire => { w with fired? := some w.horizon }
  | .pass => if h : w.isStill = true ∧ w.now + 1 < endOfClock then { w with now := w.now + 1, inTime := h.2 } else w

def run (w : World Job) (es : List (LoopEvent Job)) : World Job := es.foldl (step body) w

end World

/-! ## A loop and its line -/

variable {body : Job → Nat → Body} {fired : Bool} {now horizon : Nat} {l : Loop Job}

/-- The line alone, once it has run what the loop has. -/
def Loop.reached (body : Job → Nat → Body) (l : Loop Job) : Line := l.alone.after (l.bodies body) l.ran.length

def Stage.Fits (fired : Bool) (now : Nat) (line : Line) : Stage → Prop
  | .selecting => line.free ≤ now ∧ line.failed = false
  | .running x => x.finish = line.free ∧ x.fails = line.failed
  | .ended => line.failed = true ∨ fired = true

/-- The loop has come as far as its line does alone by the horizon; only what is due then can be missing. -/
structure Loop.Tracks (body : Job → Nat → Body) (fired : Bool) (now horizon : Nat) (l : Loop Job) : Prop where
  ran : l.ran = (List.range l.ran.length).map (l.alone.nth (l.bodies body))
  due : l.due = (l.reached body).due
  armedAt : l.armedAt = (l.reached body).armedAt
  stage : l.stage.Fits fired now (l.reached body)
  started : ∀ k < l.ran.length, ¬ (l.alone.after (l.bodies body) k).Waits horizon
  prompt : (l.reached body).failed = true ∨ horizon ≤ (l.reached body).next

theorem Loop.count_reached (body : Job → Nat → Body) (l : Loop Job) : (l.reached body).count = l.ran.length := by
  rw [reached, Line.count_after]
  exact Nat.zero_add _

theorem start_tracks (t : Accepted Job) (fired : Bool) (now : Nat) : (Loop.start t now).Tracks body fired now now := by
  refine ⟨rfl, rfl, rfl, ?_, fun k hk => absurd hk (Nat.not_lt_zero k), .inr ?_⟩
  · show Stage.Fits fired now (Line.start t.1.interval now t.2)
      (if endOfClock ≤ now + t.1.interval then .ended else .selecting)
    by_cases hend : endOfClock ≤ now + t.1.interval
    · rw [if_pos hend]
      exact .inl (decide_eq_true hend)
    · rw [if_neg hend]
      exact ⟨Nat.le_refl _, decide_eq_false hend⟩
  · have hdue : now ≤ (Line.start t.1.interval now t.2).due := Nat.le_add_right ..
    exact Nat.le_trans hdue (Line.due_le_next _)

theorem Loop.Tracks.withStage (h : l.Tracks body fired now horizon) {stage : Stage}
    (hfits : stage.Fits fired now (l.reached body)) : Loop.Tracks body fired now horizon { l with stage } :=
  ⟨h.ran, h.due, h.armedAt, hfits, h.started, h.prompt⟩

/-- A loop between two bodies whose tick is due is where its line starts the next one. -/
theorem Loop.Tracks.next_eq (h : l.Tracks body fired now now) (hstage : l.stage = .selecting) (hdue : l.due ≤ now) :
    (l.reached body).failed = false ∧ (l.reached body).next = now := by
  have hfits := h.stage
  rw [hstage] at hfits
  obtain ⟨hfree, halive⟩ := hfits
  refine ⟨halive, ?_⟩
  have hle : (l.reached body).next ≤ now := Nat.max_le.2 ⟨h.due ▸ hdue, hfree⟩
  rcases h.prompt with hfailed | hprompt
  · rw [halive] at hfailed
    cases hfailed
  · exact Nat.le_antisymm hle hprompt

theorem Loop.Tracks.starts (h : l.Tracks body fired now now) (hstage : l.stage = .selecting) (hdue : l.due ≤ now) :
    (l.running now (l.alone.nth (l.bodies body) l.ran.length)).Tracks body fired now now := by
  obtain ⟨halive, hnext⟩ := h.next_eq hstage hdue
  have hlength (x : Execution) : (l.running now x).ran.length = l.ran.length + 1 := List.length_append
  have hreached (x : Execution) :
      (l.running now x).reached body = l.alone.after (l.bodies body) (l.ran.length + 1) := by
    rw [Loop.reached, hlength]
    rfl
  refine ⟨?_, ?_, ?_, ?_, ?_, ?_⟩
  · rw [hlength, List.range_succ, List.map_append]
    exact congrArg (· ++ _) h.ran
  · rw [hreached, Line.due_after_succ, ← Loop.reached, hnext, ← h.due]
    rfl
  · rw [hreached]
    exact hnext.symm
  · rw [hreached]
    exact ⟨Line.finish_nth .., Line.fails_nth ..⟩
  · intro k hk
    rw [hlength] at hk
    rcases Nat.lt_succ_iff_lt_or_eq.1 hk with hk | rfl
    · exact h.started k hk
    · show ¬ (l.reached body).Waits now
      rw [Line.Waits, halive, hnext]
      simp
  · rw [hreached]
    refine .inr (Nat.le_trans (Nat.le_of_eq hnext.symm) ?_)
    exact Line.next_mono _ _ (Nat.le_succ _)

theorem turn_tracks (hpresent : fired = false → horizon = now) (h : l.Tracks body fired now horizon) :
    (l.turn body fired now).Tracks body fired now horizon := by
  have hfits := h.stage
  unfold Loop.turn
  cases hstage : l.stage with
  | ended => exact h
  | running x =>
    rw [hstage] at hfits
    obtain ⟨hfinish, hfails⟩ := hfits
    by_cases hended : x.finish ≤ now
    · simp only [hended, if_true]
      refine h.withStage ?_
      cases hx : x.fails with
      | true => exact .inl (hfails ▸ hx)
      | false => exact ⟨hfinish ▸ hended, hfails ▸ hx⟩
    · simp only [hended, if_false]
      exact h
  | selecting =>
    by_cases hf : fired = true
    · simp only [hf, if_true]
      exact hf ▸ h.withStage (.inr hf)
    · by_cases hdue : l.due ≤ now
      · obtain rfl := hpresent (Bool.eq_false_iff.2 hf)
        have hnth : (⟨horizon, horizon + (l.bodies body l.ran.length).duration, (l.bodies body l.ran.length).fails,
            l.armedAt⟩ : Execution) = l.alone.nth (l.bodies body) l.ran.length := by
          rw [Line.nth, Line.run, ← Loop.reached, (h.next_eq hstage hdue).2, Loop.count_reached, ← h.armedAt]
        simp only [if_neg hf, if_pos hdue, hnth]
        exact h.starts hstage hdue
      · simp only [if_neg hf, if_neg hdue]
        exact h

theorem Loop.Tracks.waits (h : l.Tracks body false now horizon) (hstill : l.canMove false now = false) :
    (l.reached body).Waits now := by
  have hfits := h.stage
  unfold Loop.canMove at hstill
  cases hstage : l.stage with
  | selecting =>
    simp only [hstage, Bool.false_or, decide_eq_false_iff_not] at hstill
    have hdue : (l.reached body).due ≤ (l.reached body).next := Line.due_le_next _
    rw [← h.due] at hdue
    exact .inr (by omega)
  | running x =>
    simp only [hstage, decide_eq_false_iff_not] at hstill
    rw [hstage] at hfits
    have hfree : (l.reached body).free ≤ (l.reached body).next := Line.free_le_next _
    rw [← hfits.1] at hfree
    exact .inr (by omega)
  | ended =>
    rw [hstage] at hfits
    exact .inl (hfits.resolve_right Bool.false_ne_true)

theorem Stage.Fits.later {line : Line} {stage : Stage} (h : stage.Fits fired now line) :
    stage.Fits fired (now + 1) line := by
  cases stage with
  | selecting => exact ⟨Nat.le_succ_of_le h.1, h.2⟩
  | running x => exact h
  | ended => exact h

theorem pass_tracks (h : l.Tracks body false now now) (hstill : l.canMove false now = false) :
    l.Tracks body false (now + 1) (now + 1) where
  ran := h.ran
  due := h.due
  armedAt := h.armedAt
  stage := h.stage.later
  started k hk hwaits := h.started k hk (hwaits.earlier (Nat.le_succ now))
  prompt := h.waits hstill

theorem pass_tracks_fired (h : l.Tracks body true now horizon) : l.Tracks body true (now + 1) horizon :=
  ⟨h.ran, h.due, h.armedAt, h.stage.later, h.started, h.prompt⟩

theorem fire_tracks (h : l.Tracks body fired now horizon) : l.Tracks body true now horizon := by
  have hfits := h.stage
  refine ⟨h.ran, h.due, h.armedAt, ?_, h.started, h.prompt⟩
  cases hstage : l.stage with
  | selecting | running x =>
    rw [hstage] at hfits
    exact hfits
  | ended => exact .inr rfl

/-! ## Step by step -/

namespace World

/-- Every loop has come as far as its line does alone. -/
structure Sound (body : Job → Nat → Body) (w : World Job) : Prop where
  horizon_le : w.horizon ≤ w.now
  tracks : ∀ l ∈ w.loops, l.Tracks body w.fired w.now w.horizon

variable {w : World Job}

theorem horizon_eq (h : w.fired = false) : w.horizon = w.now := by
  unfold fired at h
  unfold horizon
  cases hf : w.fired? with
  | some fired => simp [hf] at h
  | none => rfl

theorem spawn_sound (t : Accepted Job) (h : w.Sound body) : (w.step body (.spawn t)).Sound body := by
  simp only [step]
  by_cases hf : w.fired = true
  · rw [if_pos hf]
    exact h
  · rw [if_neg hf]
    refine ⟨h.horizon_le, fun l hl => ?_⟩
    rcases List.mem_append.1 hl with hl | hl
    · exact h.tracks l hl
    · rw [List.mem_singleton.1 hl]
      show Loop.Tracks body w.fired w.now w.horizon _
      rw [horizon_eq (Bool.eq_false_iff.2 hf)]
      exact start_tracks t w.fired w.now

theorem turn_sound (i : Nat) (h : w.Sound body) : (w.step body (.turn i)).Sound body := by
  simp only [step]
  split
  · rename_i l hi
    refine ⟨h.horizon_le, fun d hd => ?_⟩
    rcases List.mem_or_eq_of_mem_set hd with hd | rfl
    · exact h.tracks d hd
    · exact turn_tracks horizon_eq (h.tracks l (List.mem_of_getElem? hi))
  · exact h

theorem pass_sound (h : w.Sound body) : (w.step body .pass).Sound body := by
  simp only [step]
  by_cases hmoves : w.isStill = true ∧ w.now + 1 < endOfClock
  · rw [dif_pos hmoves]
    have hstill : ∀ l ∈ w.loops, l.canMove w.fired w.now = false := by
      simpa [isStill] using hmoves.1
    cases hf : w.fired? with
    | some fired =>
      have hfired : w.fired = true := by rw [World.fired, hf]; rfl
      have hhorizon : w.horizon = fired := by rw [World.horizon, hf]; rfl
      have hle := h.horizon_le
      refine ⟨?_, fun l hl => ?_⟩
      · show fired ≤ w.now + 1
        omega
      · have htracks := h.tracks l hl
        rw [hfired, hhorizon] at htracks
        exact pass_tracks_fired htracks
    | none =>
      have hfired : w.fired = false := by rw [World.fired, hf]; rfl
      refine ⟨Nat.le_refl _, fun l hl => ?_⟩
      have htracks := h.tracks l hl
      rw [horizon_eq hfired, hfired] at htracks
      exact pass_tracks htracks (hfired ▸ hstill l hl)
  · rw [dif_neg hmoves]
    exact h

theorem step_sound (e : LoopEvent Job) (h : w.Sound body) : (w.step body e).Sound body := by
  cases e with
  | spawn t => exact spawn_sound t h
  | turn i => exact turn_sound i h
  | fire => exact ⟨h.horizon_le, fun l hl => fire_tracks (h.tracks l hl)⟩
  | pass => exact pass_sound h

theorem run_sound (es : List (LoopEvent Job)) (h : w.Sound body) : (w.run body es).Sound body := by
  induction es generalizing w with
  | nil => exact h
  | cons e es ih => exact ih (step_sound e h)

/-- A loop that comes in another's place changes nothing that is told alike of both. -/
theorem map_set_eq {α : Type} (f : Loop Job → α) {loops : List (Loop Job)} {i : Nat} {l' : Loop Job}
    (hi : loops[i]? = some l) (h : f l' = f l) : (loops.set i l').map f = loops.map f := by
  obtain ⟨hlt, rfl⟩ := List.getElem?_eq_some_iff.1 hi
  rw [List.map_set, h, ← List.getElem_map f (h := by simpa using hlt)]
  exact List.set_getElem_self _

def runs (w : World Job) : List (List Execution) := w.loops.map (·.ran)

theorem ran_turn_fired (body : Job → Nat → Body) (now : Nat) (l : Loop Job) :
    (l.turn body true now).ran = l.ran := by
  unfold Loop.turn
  cases l.stage with
  | selecting => rfl
  | running x => dsimp only; split <;> rfl
  | ended => rfl

/-- Once the signal has fired, no body starts. -/
theorem step_fired (body : Job → Nat → Body) (e : LoopEvent Job) (h : w.fired = true) :
    (w.step body e).fired = true ∧ (w.step body e).runs = w.runs := by
  cases e with
  | spawn t =>
    rw [step, if_pos h]
    exact ⟨h, rfl⟩
  | fire => exact ⟨rfl, rfl⟩
  | pass =>
    simp only [step]
    split
    · exact ⟨h, rfl⟩
    · exact ⟨h, rfl⟩
  | turn i =>
    simp only [step]
    split
    · rename_i l hi
      refine ⟨h, map_set_eq (·.ran) hi ?_⟩
      rw [h]
      exact ran_turn_fired ..
    · exact ⟨h, rfl⟩

theorem run_fired (es : List (LoopEvent Job)) (h : w.fired = true) : (w.run body es).runs = w.runs := by
  induction es generalizing w with
  | nil => rfl
  | cons e es ih =>
    obtain ⟨hfired, hruns⟩ := step_fired body e h
    exact (ih hfired).trans hruns

/-- The tasks of the loops, with the moments at which these were started. -/
def origins (w : World Job) : List (Accepted Job × Nat) := w.loops.map fun l => (l.task, l.since)

theorem origin_turn (body : Job → Nat → Body) (fired : Bool) (now : Nat) (l : Loop Job) :
    ((l.turn body fired now).task, (l.turn body fired now).since) = (l.task, l.since) := by
  unfold Loop.turn
  split
  · split
    · rfl
    · split <;> rfl
  · split <;> rfl
  · rfl

/-- A task that gets its line before the signal has fired gets a loop; no loop goes away. -/
theorem step_origins (e : LoopEvent Job) :
    (w.step body e).origins = w.origins ++
      match e with
      | .spawn t => if w.fired then [] else [(t, w.now)]
      | _ => [] := by
  cases e with
  | spawn t =>
    simp only [step]
    split
    · exact (List.append_nil _).symm
    · exact List.map_append
  | turn i =>
    simp only [step]
    split
    · rename_i l hi
      rw [List.append_nil]
      exact map_set_eq (fun l => (l.task, l.since)) hi (origin_turn ..)
    · exact (List.append_nil _).symm
  | fire => exact (List.append_nil _).symm
  | pass =>
    simp only [step]
    split <;> exact (List.append_nil _).symm

theorem run_origins (es : List (LoopEvent Job)) : w.origins <+: (w.run body es).origins := by
  induction es generalizing w with
  | nil => exact List.prefix_rfl
  | cons e es ih =>
    refine List.IsPrefix.trans ?_ ih
    rw [step_origins]
    exact List.prefix_append ..

end World

/-! ## Coming to rest -/

/-- What is left for a loop to do at `now`: every body it starts moves its next tick on. -/
def Loop.weight (now : Nat) (l : Loop Job) : Nat :=
  match l.stage with
  | .selecting => 2 * (now + 1 - l.due) + 1
  | .running _ => 2 * (now + 1 - l.due) + 2
  | .ended => 0

theorem weight_turn (body : Job → Nat → Body) (h : l.canMove fired now = true) :
    (l.turn body fired now).weight now < l.weight now := by
  unfold Loop.canMove at h
  unfold Loop.turn
  cases hstage : l.stage with
  | ended => simp [hstage] at h
  | running x =>
    simp only [hstage, decide_eq_true_eq] at h
    simp only [if_pos h]
    unfold Loop.weight
    cases x.fails with
    | true => simp [hstage]
    | false => simp [hstage]
  | selecting =>
    by_cases hf : fired = true
    · simp [hf, Loop.weight, hstage]
    · have hdue : l.due ≤ now := by simpa [hstage, hf] using h
      have hlater : l.due < Line.following l.interval l.due now := Line.lt_following l.interval_pos _ _ hdue
      simp only [if_neg hf, if_pos hdue, Loop.weight, hstage, Loop.running]
      omega

namespace World

variable {w : World Job}

def weight (w : World Job) : Nat := (w.loops.map (·.weight w.now)).sum

/-- A turn of a loop that can move leaves less to do. -/
theorem weight_step (body : Job → Nat → Body) {i : Nat} (hi : w.loops[i]? = some l)
    (h : l.canMove w.fired w.now = true) :
    (w.step body (.turn i)).weight < w.weight := by
  obtain ⟨hlt, hl⟩ := List.getElem?_eq_some_iff.1 hi
  obtain ⟨before, after, hloops, -, hset⟩ : ∃ before after, w.loops = before ++ w.loops[i] :: after ∧
      before.length = i ∧ w.loops.set i (l.turn body w.fired w.now) = before ++ l.turn body w.fired w.now :: after :=
    List.exists_of_set hlt
  rw [hl] at hloops
  have hbefore : w.weight = (before.map (·.weight w.now)).sum +
      (l.weight w.now + (after.map (·.weight w.now)).sum) := by
    rw [weight, hloops, List.map_append, List.sum_append, List.map_cons, List.sum_cons]
  have hafter : (w.step body (.turn i)).weight = (before.map (·.weight w.now)).sum +
      ((l.turn body w.fired w.now).weight w.now + (after.map (·.weight w.now)).sum) := by
    simp only [step, hi]
    rw [weight, hset, List.map_append, List.sum_append, List.map_cons, List.sum_cons]
  have hless := weight_turn body h
  omega

/-- The loops come to rest by their own turns, so that the clock can go on. -/
theorem settles (body : Job → Nat → Body) (w : World Job) :
    ∃ turns : List Nat, (w.run body (turns.map .turn)).isStill = true := by
  by_cases hstill : w.isStill = true
  · exact ⟨[], hstill⟩
  · obtain ⟨l, hl, hmoves⟩ : ∃ l ∈ w.loops, l.canMove w.fired w.now = true := by
      simpa [isStill] using hstill
    obtain ⟨i, hi⟩ := List.getElem?_of_mem hl
    have hless := weight_step body hi hmoves
    obtain ⟨turns, hturns⟩ := settles body (w.step body (.turn i))
    exact ⟨i :: turns, hturns⟩
termination_by w.weight

end World

end ServiceHost.Schedule
