/-
  ServiceHost.Proofs.Schedule.Tasks — what becomes of the tasks a scheduler is given.

  A scheduler is given tasks, started and stopped, in any order and any number of times,
  while its lines run. Each of these is one turn under the scheduler's lock. A stop gives
  the lock back before it waits for the lines it took away, so whatever comes meanwhile
  finds a scheduler that is stopped already.

  No task is lost and none runs twice (`tasks_accounted`). What counts are the turns before
  the first stop: the tasks accepted in them wait, or have one line each once a start was
  among them, and the stop takes all of these lines away and sees each of them end.

  A scheduler is told by its mode and its tasks. Each turn moves both (`obey_mode`,
  `obey_tasks`), so a history does; the rest is read off from there.
-/

import ServiceHost.Schedule.Scheduler

namespace ServiceHost

def Effect.isLineEnd : Effect → Bool
  | .logged _ e =>
    e.area = .scheduler && (e.message = "Scheduled task stopped" || e.message = "Scheduled task ended abnormally")
  | _ => false

def Effect.lineEnds (es : List Effect) : List Effect := es.filter isLineEnd

@[simp] theorem Effect.lineEnds_append (es es' : List Effect) : lineEnds (es ++ es') = lineEnds es ++ lineEnds es' :=
  List.filter_append ..

namespace Schedule.Scheduler

variable {Job : Type}

/-! ## Turns -/

/-- What a scheduler is asked, and time. -/
inductive Turn (Job : Type) where
  | add (t : Task Job) (now : Nat)
  | start (now : Nat)
  | stop (now : Nat)
  /-- Lines run up to a moment. -/
  | wait (body : Job → Nat → Body) (now : Nat)

inductive Reply (Job : Type) where
  | added (refusal? : Option TaskError)
  | started
  /-- When the last line has ended. -/
  | stopped (ended : Nat)
  | waited (ran : List (Task Job × Execution))

namespace Turn

def isStart : Turn Job → Bool
  | start _ => true
  | _ => false

def isStop : Turn Job → Bool
  | stop _ => true
  | _ => false

def accepted? : Turn Job → Option (Task Job)
  | add t _ => if 0 < t.interval then some t else none
  | _ => none

theorem accepted?_start {t : Turn Job} (h : t.isStart = true) : t.accepted? = none := by
  cases t with
  | start now => rfl
  | _ => cases h

end Turn

def accepted (ts : List (Turn Job)) : List (Task Job) := ts.filterMap Turn.accepted?

/-- The turns before the first stop. -/
def unstopped (ts : List (Turn Job)) : List (Turn Job) := ts.takeWhile (!·.isStop)

variable (sinks : Sinks)

def obey (s : Scheduler Job) : Turn Job → Run (Scheduler Job × Reply Job)
  | .add t now =>
    match s.add t now sinks with
    | .ok ran => (·, .added none) <$> ran
    | .error e => pure (s, .added (some e))
  | .start now => (·, .started) <$> s.start now sinks
  | .stop now => (fun x => (x.1, .stopped x.2)) <$> s.stop now sinks
  | .wait body now => pure ((s.advance body now).2, .waited (s.advance body now).1)

/-- One turn after the other. Gives the replies in order. -/
def history (s : Scheduler Job) : List (Turn Job) → Run (Scheduler Job × List (Reply Job))
  | [] => pure (s, [])
  | t :: ts => do
    let (s, reply) ← s.obey sinks t
    let (s, replies) ← s.history ts
    return (s, reply :: replies)

/-- The lines that are there after a turn and were not there before: new ones come behind the others. -/
def gained (s s' : Scheduler Job) : List (Task Job) := (s'.lines.drop s.lines.length).map (·.task)

/-- The tasks of all lines ever made in some turns, in order. -/
def linesMade (s : Scheduler Job) : List (Turn Job) → List (Task Job)
  | [] => []
  | t :: ts => gained s (s.obey sinks t).value.1 ++ (s.obey sinks t).value.1.linesMade ts

/-! ## Mode and tasks -/

inductive Mode where
  | idle
  | running
  | stopped
  deriving DecidableEq, Repr

def mode : Scheduler Job → Mode
  | idle _ => .idle
  | running _ => .running
  | stopped => .stopped

/-- The tasks without a line. -/
def waiting : Scheduler Job → List (Task Job)
  | idle pending => pending.map (·.1)
  | _ => []

def tasks (s : Scheduler Job) : List (Task Job) := s.waiting ++ s.lines.map (·.task)

variable {sinks} {s : Scheduler Job}

theorem names_eq (s : Scheduler Job) : s.names = s.tasks.map (·.name) := by
  cases s <;> simp [names, tasks, waiting, lines]

theorem waiting_eq (s : Scheduler Job) : s.waiting = if s.mode = .idle then s.tasks else [] := by
  cases s <;> simp [tasks, waiting, lines, mode]

theorem lines_eq (s : Scheduler Job) : s.lines.map (·.task) = if s.mode = .running then s.tasks else [] := by
  cases s <;> simp [tasks, waiting, lines, mode]

theorem gained_eq (s s' : Scheduler Job) :
    gained s s' = (s'.lines.map (·.task)).drop (s.lines.map (·.task)).length := by
  rw [gained, List.map_drop, List.length_map]

theorem eq_stopped (h : s.mode = .stopped) : s = stopped := by
  cases s with
  | stopped => rfl
  | _ => cases h

/-! ## What a turn does -/

theorem obey_add_zero {t : Task Job} (ht : t.interval = 0) (s : Scheduler Job) (now : Nat) :
    s.obey sinks (.add t now) = ⟨(s, .added (some (.zeroInterval t.name))), []⟩ := by
  have hadd : s.add t now sinks = .error (.zeroInterval t.name) := by
    rw [add, dif_neg (by omega)]
  simp only [obey, hadd]
  rfl

/-- The mode after a turn. -/
def Mode.after (m : Mode) (t : Turn Job) : Mode :=
  if t.isStop then .stopped else if t.isStart ∧ m = .idle then .running else m

theorem obey_mode (s : Scheduler Job) (t : Turn Job) : (s.obey sinks t).value.1.mode = s.mode.after t := by
  cases t with
  | add t now =>
    by_cases ht : 0 < t.interval
    · simp only [obey, add, dif_pos ht]
      cases s <;> rfl
    · rw [obey_add_zero (by omega)]
      rfl
  | start now => cases s <;> rfl
  | stop now => cases s <;> rfl
  | wait body now => cases s <;> rfl

/-- A turn that is no stop adds the task it is given behind the others, unless the scheduler is stopped. -/
theorem obey_tasks (hs : s.mode ≠ .stopped) {t : Turn Job} (ht : t.isStop = false) :
    (s.obey sinks t).value.1.tasks = s.tasks ++ t.accepted?.toList := by
  cases t with
  | add t now =>
    by_cases hi : 0 < t.interval
    · simp only [obey, add, dif_pos hi, Turn.accepted?, if_pos hi]
      cases s with
      | idle pending => simp [tasks, waiting, lines]
      | running entries => simp [tasks, waiting, lines, entry]
      | stopped => exact absurd rfl hs
    · rw [obey_add_zero (by omega)]
      simp [Turn.accepted?, hi]
  | start now =>
    cases s with
    | idle pending =>
      simp [obey, start, tasks, waiting, lines, entry, Turn.accepted?, Function.comp_def]
    | running entries => simp [obey, start, Turn.accepted?]
    | stopped => exact absurd rfl hs
  | stop now => cases ht
  | wait body now =>
    cases s with
    | idle pending => simp [obey, advance, Turn.accepted?]
    | running entries => simp [obey, advance, tasks, waiting, lines, Turn.accepted?, Function.comp_def]
    | stopped => exact absurd rfl hs

/-- Lines are made when the scheduler starts, and for every task that is accepted while it runs. -/
theorem obey_gained (s : Scheduler Job) (t : Turn Job) :
    gained s (s.obey sinks t).value.1 =
      if t.isStop then []
      else match s.mode with
        | .idle => if t.isStart then s.tasks else []
        | .running => t.accepted?.toList
        | .stopped => [] := by
  rw [gained_eq, lines_eq, lines_eq, obey_mode, Mode.after]
  cases ht : t.isStop with
  | true => simp
  | false =>
    have htasks (hs : s.mode ≠ .stopped) : (s.obey sinks t).value.1.tasks = s.tasks ++ t.accepted?.toList :=
      obey_tasks hs ht
    cases hm : s.mode with
    | idle =>
      cases hs : t.isStart with
      | true => simp [htasks (by simp [hm]), Turn.accepted?_start hs]
      | false => simp
    | running => simp [htasks (by simp [hm])]
    | stopped => simp

/-- A stop sees every line end that it takes away. No other turn does. -/
theorem obey_lineEnds (s : Scheduler Job) (t : Turn Job) :
    Effect.lineEnds (s.obey sinks t).effects = if t.isStop then s.lines.map (endEvent sinks) else [] := by
  cases t with
  | add t now =>
    by_cases ht : 0 < t.interval
    · simp only [obey, add, dif_pos ht]
      cases s <;> rfl
    · rw [obey_add_zero (by omega)]
      rfl
  | start now =>
    cases s with
    | idle pending =>
      simp only [obey, start, Run.effects_map, Run.effects_bind, Run.effects_tellAll, Run.effects_log, Run.effects_pure,
        Effect.lineEnds_append]
      have hscheduling : Effect.lineEnds (pending.map fun t => .logged sinks.own (schedulingEvent t.1)) = [] :=
        List.filter_eq_nil_iff.2 fun e he => by
          obtain ⟨t, -, rfl⟩ := List.mem_map.1 he
          exact Bool.false_ne_true
      rw [hscheduling]
      rfl
    | running entries => rfl
    | stopped => rfl
  | wait body now => rfl
  | stop now =>
    have hends (entries : List (Entry Job)) :
        Effect.lineEnds (entries.map (endEvent sinks)) = entries.map (endEvent sinks) :=
      List.filter_eq_self.2 fun e he => by
        obtain ⟨x, -, rfl⟩ := List.mem_map.1 he
        unfold endEvent
        split <;> rfl
    cases s with
    | idle pending => rfl
    | stopped => rfl
    | running entries =>
      simp only [obey, stop, Run.effects_map, Run.effects_bind, Run.effects_tellAll, Run.effects_log, Run.effects_pure,
        Effect.lineEnds_append, hends]
      exact List.append_nil _

/-- A stop waits for the last body of every line. -/
theorem le_busyUntil (now : Nat) (entries : List (Entry Job)) :
    now ≤ busyUntil now entries ∧ ∀ e ∈ entries, e.line.free ≤ busyUntil now entries := by
  induction entries generalizing now with
  | nil => exact ⟨Nat.le_refl _, List.forall_mem_nil _⟩
  | cons e entries ih =>
    obtain ⟨hnow, hentries⟩ := ih (max now e.line.free)
    refine ⟨Nat.le_trans (Nat.le_max_left ..) hnow, List.forall_mem_cons.2 ⟨?_, hentries⟩⟩
    exact Nat.le_trans (Nat.le_max_right ..) hnow

theorem stop_waits (s : Scheduler Job) (now : Nat) :
    now ≤ (s.stop now sinks).value.2 ∧ ∀ e ∈ s.lines, e.line.free ≤ (s.stop now sinks).value.2 := by
  cases s with
  | idle pending => exact le_busyUntil now []
  | running entries => exact le_busyUntil now entries
  | stopped => exact ⟨Nat.le_refl _, List.forall_mem_nil _⟩

/-! ## What a history does -/

theorem history_cons (s : Scheduler Job) (t : Turn Job) (ts : List (Turn Job)) :
    (s.history sinks (t :: ts)).value.1 = ((s.obey sinks t).value.1.history sinks ts).value.1 ∧
      (s.history sinks (t :: ts)).effects =
        (s.obey sinks t).effects ++ ((s.obey sinks t).value.1.history sinks ts).effects :=
  ⟨rfl, congrArg _ (List.append_nil _)⟩

theorem history_mode (s : Scheduler Job) (ts : List (Turn Job)) :
    (s.history sinks ts).value.1.mode = ts.foldl Mode.after s.mode := by
  induction ts generalizing s with
  | nil => rfl
  | cons t ts ih => rw [(history_cons ..).1, ih, obey_mode, List.foldl_cons]

theorem foldl_after_stopped (ts : List (Turn Job)) : ts.foldl Mode.after .stopped = .stopped := by
  induction ts with
  | nil => rfl
  | cons t ts ih => simpa [Mode.after] using ih

theorem foldl_after_running (ts : List (Turn Job)) :
    ts.foldl Mode.after .running = if ts.any Turn.isStop then .stopped else .running := by
  induction ts with
  | nil => rfl
  | cons t ts ih =>
    cases ht : t.isStop with
    | true => simp [Mode.after, ht, foldl_after_stopped]
    | false => simpa [Mode.after, ht] using ih

theorem foldl_after_idle (ts : List (Turn Job)) :
    ts.foldl Mode.after .idle =
      if ts.any Turn.isStop then .stopped else if ts.any Turn.isStart then .running else .idle := by
  induction ts with
  | nil => rfl
  | cons t ts ih =>
    cases ht : t.isStop with
    | true => simp [Mode.after, ht, foldl_after_stopped]
    | false =>
      cases hs : t.isStart with
      | true => simp [Mode.after, ht, hs, foldl_after_running]
      | false => simpa [Mode.after, ht, hs] using ih

theorem accepted_cons (t : Turn Job) (ts : List (Turn Job)) : accepted (t :: ts) = t.accepted?.toList ++ accepted ts := by
  rw [accepted, List.filterMap_cons]
  cases t.accepted? <;> rfl

theorem unstopped_cons (t : Turn Job) (ts : List (Turn Job)) :
    unstopped (t :: ts) = if t.isStop then [] else t :: unstopped ts := by
  rw [unstopped, List.takeWhile_cons]
  cases t.isStop <;> rfl

theorem unstopped_any (ts : List (Turn Job)) : (unstopped ts).any Turn.isStop = false := by
  refine List.any_eq_false.2 fun t ht => ?_
  simpa using List.all_eq_true.1 (List.all_takeWhile (p := fun t : Turn Job => !t.isStop)) t ht

theorem history_tasks (hs : s.mode ≠ .stopped) {ts : List (Turn Job)} (ht : ts.any Turn.isStop = false) :
    (s.history sinks ts).value.1.tasks = s.tasks ++ accepted ts := by
  induction ts generalizing s with
  | nil => exact (List.append_nil _).symm
  | cons t ts ih =>
    rw [List.any_cons, Bool.or_eq_false_iff] at ht
    have hmode : (s.obey sinks t).value.1.mode ≠ .stopped := by
      rw [obey_mode, Mode.after, ht.1]
      simp only [Bool.false_eq_true, if_false]
      split
      · exact Mode.noConfusion
      · exact hs
    rw [(history_cons ..).1, ih hmode ht.2, obey_tasks hs ht.1, accepted_cons, List.append_assoc]

theorem linesMade_eq (s : Scheduler Job) (ts : List (Turn Job)) :
    s.linesMade sinks ts =
      match s.mode with
      | .idle => if (unstopped ts).any Turn.isStart then s.tasks ++ accepted (unstopped ts) else []
      | .running => accepted (unstopped ts)
      | .stopped => [] := by
  induction ts generalizing s with
  | nil => cases s <;> rfl
  | cons t ts ih =>
    rw [linesMade, ih, obey_gained, obey_mode, unstopped_cons]
    cases ht : t.isStop with
    | true => cases s.mode <;> simp [Mode.after, ht, accepted]
    | false =>
      cases hm : s.mode with
      | stopped => simp [Mode.after, ht]
      | running => simp [Mode.after, ht, accepted_cons]
      | idle =>
        have htasks : (s.obey sinks t).value.1.tasks = s.tasks ++ t.accepted?.toList :=
          obey_tasks (by simp [hm]) ht
        cases hs : t.isStart with
        | true =>
          simp [Mode.after, ht, hs, accepted_cons, Turn.accepted?_start hs]
        | false => simp [Mode.after, ht, hs, accepted_cons, htasks]

/-- The ends of lines that are seen in a history: those of the lines that there were at the first stop. -/
theorem history_lineEnds (s : Scheduler Job) (ts : List (Turn Job)) :
    Effect.lineEnds (s.history sinks ts).effects =
      if ts.any Turn.isStop then (s.history sinks (unstopped ts)).value.1.lines.map (endEvent sinks) else [] := by
  induction ts generalizing s with
  | nil => rfl
  | cons t ts ih =>
    rw [(history_cons ..).2, Effect.lineEnds_append, ih, obey_lineEnds, unstopped_cons, List.any_cons]
    cases ht : t.isStop with
    | false => simp [(history_cons ..).1]
    | true =>
      have hstopped : ((s.obey sinks t).value.1.history sinks (unstopped ts)).value.1 = stopped :=
        eq_stopped (by rw [history_mode, obey_mode, Mode.after, ht, if_pos rfl, foldl_after_stopped])
      rw [hstopped]
      simp [lines, history]

/-! ## Every task is accounted for -/

variable (sinks) in
/-- What became of the tasks that a new scheduler was given in some turns, and of the lines made for them. -/
structure Accounted (ts : List (Turn Job)) (ran : Run (Scheduler Job × List (Reply Job))) : Prop where
  /-- It is idle until it is started or stopped, runs from a start to a stop, and is stopped for good. -/
  mode : ran.value.1.mode =
    if ts.any Turn.isStop then .stopped else if ts.any Turn.isStart then .running else .idle
  /-- Until it is stopped it knows every task it accepted, in order. -/
  names : ts.any Turn.isStop = false → ran.value.1.names = (accepted ts).map (·.name)
  /-- While it is idle they all wait, and else none does. -/
  waiting : ran.value.1.waiting = if ran.value.1.mode = .idle then accepted ts else []
  /-- While it runs each has its line, and else none has. -/
  lines : ran.value.1.lines.map (·.task) = if ran.value.1.mode = .running then accepted ts else []
  /-- Of the lines ever made there is one for each task accepted before a stop, if a start came before it, and no other. -/
  made : linesMade sinks empty ts = if (unstopped ts).any Turn.isStart then accepted (unstopped ts) else []
  /-- They are the lines that the first stop takes away. -/
  taken : (empty.history sinks (unstopped ts)).value.1.lines.map (·.task) = linesMade sinks empty ts
  /-- It sees all of them end. Nothing else sees the end of a line. -/
  ended : Effect.lineEnds ran.effects =
    if ts.any Turn.isStop then (empty.history sinks (unstopped ts)).value.1.lines.map (endEvent sinks) else []
  /-- A stop lasts until the last body of every line there is has ended. -/
  waits : ∀ now, now ≤ (ran.value.1.stop now sinks).value.2 ∧
    ∀ e ∈ ran.value.1.lines, e.line.free ≤ (ran.value.1.stop now sinks).value.2
  /-- A second stop does nothing. -/
  spent : ts.any Turn.isStop = true → ∀ now, ran.value.1.stop now sinks = pure (ran.value.1, now)
  /-- A task that cannot be scheduled is refused, and nothing changes. -/
  refused : ∀ t now, t.interval = 0 →
    ran.value.1.obey sinks (.add t now) = ⟨(ran.value.1, .added (some (.zeroInterval t.name))), []⟩

variable (sinks) in
theorem new_mode (ts : List (Turn Job)) :
    (empty.history sinks ts).value.1.mode =
      if ts.any Turn.isStop then .stopped else if ts.any Turn.isStart then .running else .idle := by
  rw [history_mode]
  exact foldl_after_idle ts

theorem new_tasks {ts : List (Turn Job)} (hs : ts.any Turn.isStop = false) :
    (empty.history sinks ts).value.1.tasks = accepted ts :=
  history_tasks Mode.noConfusion hs

theorem not_stopped_of_mode {ts : List (Turn Job)} {m : Mode} (hm : (empty.history sinks ts).value.1.mode = m)
    (hne : m ≠ .stopped) : ts.any Turn.isStop = false := by
  rw [new_mode] at hm
  refine Bool.eq_false_iff.2 fun hs => hne ?_
  rw [← hm, if_pos hs]

/--
  A scheduler neither loses nor doubles a task. Whatever it is asked, in whatever order:
  until it is stopped it knows every task it accepted; each of them gets one line if the
  scheduler ever runs; and the first stop takes all lines away and sees each of them end.
-/
theorem tasks_accounted (sinks : Sinks) (ts : List (Turn Job)) :
    Accounted sinks ts (empty.history sinks ts) := by
  have hmade : linesMade sinks empty ts = if (unstopped ts).any Turn.isStart then accepted (unstopped ts) else [] :=
    linesMade_eq empty ts
  refine ⟨new_mode sinks ts, fun hs => ?_, ?_, ?_, hmade, ?_, history_lineEnds empty ts, stop_waits _,
    fun hs now => ?_, fun t now ht => obey_add_zero ht _ now⟩
  · rw [names_eq, new_tasks hs]
  · rw [waiting_eq]
    split
    · next hm => rw [new_tasks (not_stopped_of_mode hm Mode.noConfusion)]
    · rfl
  · rw [lines_eq]
    split
    · next hm => rw [new_tasks (not_stopped_of_mode hm Mode.noConfusion)]
    · rfl
  · rw [lines_eq, hmade, new_mode, unstopped_any, new_tasks (unstopped_any ts)]
    cases (unstopped ts).any Turn.isStart <;> rfl
  · have hstopped : (empty.history sinks ts).value.1 = stopped := eq_stopped (by rw [new_mode, if_pos hs])
    rw [hstopped]
    rfl

end Schedule.Scheduler

end ServiceHost
