/-
  ServiceHost.Proofs.Host.Barrier — stops that overlap.

  The first stop of a scheduler is a barrier: no body starts after it, and it lasts until
  every body that runs has ended. But it takes all lines away before it waits, and a stop
  that finds none has nothing to wait for: it returns at once. So a second stop is a barrier
  only if it does not come before the first one has returned; if it does, it returns while a
  body is running (`stops_overlap`). A host relies on such a stop before it closes its
  services, so it closes them then.

  A line is tracked by the end of its last body (`Tracked`): no body that ran ends later.
-/

import ServiceHost.Proofs.Host.Closing
import ServiceHost.Proofs.Host.Security
import ServiceHost.Status

namespace ServiceHost

namespace Schedule

/-! ## The end of the last body -/

/-- A line is free when its last body ends, and no body that ran ends later. -/
theorem Line.advance_free (bodies : Nat → Body) (now : Nat) (l : Line) :
    l.free ≤ (l.advance bodies now).2.free ∧
      (∀ x ∈ (l.advance bodies now).1, x.start ≤ now ∧ x.finish ≤ (l.advance bodies now).2.free) ∧
      ((l.advance bodies now).2.free = l.free ∨
        ∃ x ∈ (l.advance bodies now).1, x.finish = (l.advance bodies now).2.free) := by
  fun_induction Line.advance bodies now l with
  | case1 l hwaits => exact ⟨Nat.le_refl _, List.forall_mem_nil _, .inl rfl⟩
  | case2 l hruns ran rest ih =>
    obtain ⟨hfree, hran, hlast⟩ := ih
    have hnext : l.next ≤ now := Nat.le_of_not_lt fun h => hruns (.inr h)
    have hle : l.free ≤ ran.2.free := Nat.le_trans (Nat.le_max_right ..) (Nat.le_add_right ..)
    refine ⟨Nat.le_trans hle hfree, List.forall_mem_cons.2 ⟨⟨hnext, hfree⟩, hran⟩, .inr ?_⟩
    rcases hlast with hsame | ⟨x, hx, hfinish⟩
    · exact ⟨ran.1, .head _, hsame.symm⟩
    · exact ⟨x, .tail _ hx, hfinish⟩

namespace Scheduler

variable {Job : Type} {sinks : Sinks} {s : Scheduler Job} {m : Nat} {xs : List Execution}

def Turn.moment : Turn Job → Nat
  | add _ now | start now | stop now | wait _ now => now

def executed (replies : List (Reply Job)) : List Execution :=
  replies.flatMap fun
    | .waited ran => ran.map (·.2)
    | _ => []

/-- What ran up to a moment, in terms of the lines there are. -/
structure Tracked (m : Nat) (xs : List Execution) (s : Scheduler Job) : Prop where
  /-- Whatever ran started by then, and ends before some line is free. -/
  ran : ∀ x ∈ xs, x.start ≤ m ∧ ∃ e ∈ s.lines, x.finish ≤ e.line.free
  /-- A line that is not free then is not because of something that ran. -/
  busy : ∀ e ∈ s.lines, e.line.free ≤ m ∨ ∃ x ∈ xs, x.finish = e.line.free

theorem Tracked.of_lines {s' : Scheduler Job} (ht : Tracked m xs s) (hl : s'.lines = s.lines) : Tracked m xs s' :=
  ⟨hl ▸ ht.ran, hl ▸ ht.busy⟩

theorem Tracked.add_lines {s' : Scheduler Job} (ht : Tracked m xs s) (es : List (Entry Job))
    (hl : s'.lines = s.lines ++ es) (hes : ∀ e ∈ es, e.line.free ≤ m) : Tracked m xs s' where
  ran := fun x hx => by
    obtain ⟨hstart, e, he, hfinish⟩ := ht.ran x hx
    exact ⟨hstart, e, hl ▸ List.mem_append_left es he, hfinish⟩
  busy := fun e he => by
    rw [hl, List.mem_append] at he
    exact he.elim (ht.busy e) fun he => .inl (hes e he)

theorem advance_tracked (ht : Tracked m xs s) (body : Job → Nat → Body) {now : Nat} (hnow : now ≤ m) :
    Tracked m (xs ++ (s.advance body now).1.map (·.2)) (s.advance body now).2 := by
  cases s with
  | idle pending => simpa [advance] using ht
  | stopped => simpa [advance] using ht
  | running entries =>
    simp only [advance, List.map_map, List.map_flatMap, List.flatMap_map, Function.comp_def]
    constructor
    · intro x hx
      simp only [lines, List.mem_append, List.mem_flatMap, List.mem_map] at hx ⊢
      rcases hx with hx | ⟨e, he, y, hy, rfl⟩
      · obtain ⟨hstart, e, he, hfinish⟩ := ht.ran x hx
        obtain ⟨hfree, -, -⟩ := Line.advance_free (body e.task.job) now e.line
        exact ⟨hstart, _, ⟨e, he, rfl⟩, Nat.le_trans hfinish hfree⟩
      · obtain ⟨-, hran, -⟩ := Line.advance_free (body e.task.job) now e.line
        exact ⟨Nat.le_trans (hran y hy).1 hnow, _, ⟨e, he, rfl⟩, (hran y hy).2⟩
    · intro e' he'
      obtain ⟨e, he, rfl⟩ := List.mem_map.1 he'
      obtain ⟨-, -, hlast⟩ := Line.advance_free (body e.task.job) now e.line
      simp only [List.mem_append, List.mem_flatMap, List.mem_map]
      rcases hlast with hsame | ⟨y, hy, hfinish⟩
      · rw [hsame]
        rcases ht.busy e he with hle | ⟨x, hx, hfinish⟩
        · exact .inl hle
        · exact .inr ⟨x, .inl hx, hfinish⟩
      · exact .inr ⟨y, .inr ⟨e, he, y, hy, rfl⟩, hfinish⟩

theorem obey_tracked (ht : Tracked m xs s) {t : Turn Job} (hs : t.isStop = false) (hm : t.moment ≤ m) :
    Tracked m (xs ++ executed [(s.obey sinks t).value.2]) (s.obey sinks t).value.1 := by
  cases t with
  | stop now => cases hs
  | wait body now =>
    simp only [obey, Run.value_pure, executed, List.flatMap_cons, List.flatMap_nil, List.append_nil]
    exact advance_tracked ht body hm
  | start now =>
    have hnone : executed [(s.obey sinks (.start now)).value.2] = [] := rfl
    rw [hnone, List.append_nil]
    cases s with
    | idle pending =>
      refine ht.add_lines (pending.map (entry now)) rfl fun e he => ?_
      obtain ⟨t, -, rfl⟩ := List.mem_map.1 he
      exact hm
    | _ => exact ht
  | add t now =>
    by_cases hi : 0 < t.interval
    · have hnone : executed [(s.obey sinks (.add t now)).value.2] = [] := by
        simp only [obey, add, dif_pos hi]
        cases s <;> rfl
      rw [hnone, List.append_nil]
      simp only [obey, add, dif_pos hi]
      cases s with
      | running entries =>
        refine ht.add_lines [entry now ⟨t, hi⟩] rfl fun e he => ?_
        rw [List.mem_singleton.1 he]
        exact hm
      | idle pending => exact ht.of_lines rfl
      | stopped => exact ht
    · rw [obey_add_zero (by omega)]
      exact (List.append_nil xs).symm ▸ ht

variable (sinks)

theorem executed_cons (s : Scheduler Job) (t : Turn Job) (ts : List (Turn Job)) :
    executed (s.history sinks (t :: ts)).value.2 =
      executed [(s.obey sinks t).value.2] ++ executed ((s.obey sinks t).value.1.history sinks ts).value.2 := by
  change executed ((s.obey sinks t).value.2 :: ((s.obey sinks t).value.1.history sinks ts).value.2) = _
  simp only [executed, List.flatMap_cons, List.flatMap_nil, List.append_nil]

theorem history_tracked (ht : Tracked m xs s) {ts : List (Turn Job)} (hs : ts.any Turn.isStop = false)
    (hm : ∀ t ∈ ts, t.moment ≤ m) :
    Tracked m (xs ++ executed (s.history sinks ts).value.2) (s.history sinks ts).value.1 := by
  induction ts generalizing s xs with
  | nil => exact (List.append_nil xs).symm ▸ ht
  | cons t ts ih =>
    rw [List.any_cons, Bool.or_eq_false_iff] at hs
    obtain ⟨hmt, hmts⟩ := List.forall_mem_cons.1 hm
    rw [executed_cons, (history_cons ..).1, ← List.append_assoc]
    exact ih (obey_tracked ht hs.1 hmt) hs.2 hmts

/-- On a stopped scheduler nothing runs. -/
theorem executed_stopped (ts : List (Turn Job)) : executed ((stopped : Scheduler Job).history sinks ts).value.2 = [] := by
  induction ts with
  | nil => rfl
  | cons t ts ih =>
    have hstays : ((stopped : Scheduler Job).obey sinks t).value.1 = stopped := by
      refine eq_stopped ?_
      rw [obey_mode]
      simp [Mode.after, mode]
    rw [executed_cons, hstays, ih]
    cases t with
    | add t now =>
      simp only [obey, add]
      split <;> rfl
    | _ => rfl

/-! ## Stops that overlap -/

theorem busyUntil_cases (now : Nat) (entries : List (Entry Job)) :
    busyUntil now entries = now ∨ ∃ e ∈ entries, busyUntil now entries = e.line.free := by
  induction entries generalizing now with
  | nil => exact .inl rfl
  | cons e entries ih =>
    rcases ih (max now e.line.free) with hnow | ⟨e', he', hfree⟩
    · rcases Nat.le_total now e.line.free with hle | hle
      · exact .inr ⟨e, .head _, hnow.trans (Nat.max_eq_right hle)⟩
      · exact .inl (hnow.trans (Nat.max_eq_left hle))
    · exact .inr ⟨e', .tail _ he', hfree⟩

/--
  What the stops of a scheduler come to: the first of them, at `now` after the turns
  `before`, and any that comes once it was asked for that and for `later`.
-/
structure Overlap (before later : List (Turn Job)) (now ended : Nat) (ran : Run (Scheduler Job × List (Reply Job))) :
    Prop where
  /-- The first one tells when it has ended, -/
  first : ((empty.history sinks before).value.1.obey sinks (.stop now)).value.2 = .stopped ended
  waits : now ≤ ended
  /-- and everything that ever runs started before it and is over by then. -/
  barrier : ∀ x ∈ executed ran.value.2, x.start ≤ now ∧ x.finish ≤ ended
  /-- Any other returns at once: -/
  at_once : ∀ now', ran.value.1.stop now' sinks = pure (ran.value.1, now')
  /-- while something runs, if it comes before the first has ended, and only then. -/
  early : ∀ now', now ≤ now' → ((∃ x ∈ executed ran.value.2, x.start ≤ now' ∧ now' < x.finish) ↔ now' < ended)

theorem history_append (s : Scheduler Job) (ts : List (Turn Job)) (now : Nat) (later : List (Turn Job)) :
    (s.history sinks (ts ++ .stop now :: later)).value.1 = stopped ∧
      executed (s.history sinks (ts ++ .stop now :: later)).value.2 = executed (s.history sinks ts).value.2 := by
  constructor
  · refine eq_stopped ?_
    rw [history_mode, List.foldl_append, List.foldl_cons]
    exact foldl_after_stopped later
  · induction ts generalizing s with
    | nil =>
      have hstopped : (s.obey sinks (.stop now)).value.1 = stopped := congrArg (·.1) (Host.value_stop s now sinks)
      rw [List.nil_append, executed_cons, hstopped, executed_stopped]
      rfl
    | cons t ts ih => rw [List.cons_append, executed_cons, ih, executed_cons]

/-- The first stop is a barrier; one that comes before it has ended is none. -/
theorem overlap {before : List (Turn Job)} (hb : before.any Turn.isStop = false) {now : Nat}
    (hm : ∀ t ∈ before, t.moment ≤ now) (later : List (Turn Job)) :
    Overlap sinks before later now (busyUntil now (empty.history sinks before).value.1.lines)
      (empty.history sinks (before ++ .stop now :: later)) := by
  obtain ⟨hstopped, hexecuted⟩ := history_append sinks (empty : Scheduler Job) before now later
  have hempty : Tracked now [] (empty : Scheduler Job) := ⟨List.forall_mem_nil _, List.forall_mem_nil _⟩
  have htracked := history_tracked sinks hempty hb hm
  rw [List.nil_append] at htracked
  obtain ⟨hnow, hlines⟩ := le_busyUntil now (empty.history sinks before).value.1.lines
  have hbarrier : ∀ x ∈ executed (empty.history sinks before).value.2,
      x.start ≤ now ∧ x.finish ≤ busyUntil now (empty.history sinks before).value.1.lines := by
    intro x hx
    obtain ⟨hstart, e, he, hfinish⟩ := htracked.ran x hx
    exact ⟨hstart, Nat.le_trans hfinish (hlines e he)⟩
  refine ⟨?_, hnow, hexecuted ▸ hbarrier, fun now' => ?_, fun now' hnow' => ?_⟩
  · exact congrArg (fun x : Scheduler Job × Nat => Reply.stopped x.2) (Host.value_stop _ now sinks)
  · rw [hstopped]
    rfl
  · rw [hexecuted]
    constructor
    · rintro ⟨x, hx, -, hlt⟩
      exact Nat.lt_of_lt_of_le hlt (hbarrier x hx).2
    · intro hlt
      rcases busyUntil_cases now (empty.history sinks before).value.1.lines with hidle | ⟨e, he, hfree⟩
      · omega
      · rcases htracked.busy e he with hle | ⟨x, hx, hfinish⟩
        · omega
        · exact ⟨x, hx, Nat.le_trans (hbarrier x hx).1 hnow', by omega⟩

end Scheduler

end Schedule

namespace Host

open Schedule (Scheduler)
open Schedule.Scheduler (Turn Overlap)

/--
  The first stop of a scheduler is a barrier for what runs on it, and a stop that overlaps
  it is none: it returns at once, and while something runs if the first has not ended yet.
  So a host whose scheduler is being stopped over its head waits for its listener only, and
  then closes its services.
-/
theorem stops_overlap (sinks : Schedule.Sinks) {before : List (Turn Duty)} (hb : before.any Turn.isStop = false)
    {now : Nat} (hm : ∀ t ∈ before, t.moment ≤ now) (later : List (Turn Duty)) :
    ∃ ended, Overlap sinks before later now ended (Scheduler.empty.history sinks (before ++ .stop now :: later)) ∧
      ∀ h : Host, h.scheduler = (Scheduler.empty.history sinks (before ++ .stop now :: later)).value.1 →
        h.settings.drains → h.phase ≠ .stopped → ∀ env arrivals,
          (h.stopAmid env arrivals).value.2 = (env.now + h.drainMillis env, .stopped) ∧
            Effect.closings (h.stopAmid env arrivals).effects =
              (h.closingList env arrivals).map fun s => (s.name, s.serial) := by
  refine ⟨_, Scheduler.overlap sinks hb hm later, fun h hh hd hp env arrivals => ?_⟩
  refine ⟨?_, closings_first env arrivals hd hp⟩
  have hend : h.stopEnd env = env.now + h.drainMillis env := by
    rw [stopEnd, hh, (Scheduler.history_append ..).1]
    rfl
  rw [stopAmid_open env arrivals hd hp, (concludeAmid_ends ..).1, hend]

/-- A task whose body takes twice as long as its interval, and its first run. -/
def slowTurns : List (Turn Duty) :=
  [.add ⟨"slow", 1000, .heartbeat⟩ 0, .start 0, .wait (fun _ _ => ⟨2000, false⟩) 1100]

/-- A stop at that time lasts for two seconds. -/
theorem stops_overlap_slow :
    slowTurns.any Turn.isStop = false ∧ (∀ t ∈ slowTurns, t.moment ≤ 1100) ∧
      ∃ ended, Overlap sinks slowTurns [] 1100 ended (Scheduler.empty.history sinks (slowTurns ++ [.stop 1100])) := by
  have hstop : slowTurns.any Turn.isStop = false := rfl
  have hmoment : ∀ t ∈ slowTurns, t.moment ≤ 1100 := by
    simp [slowTurns, Turn.moment]
  obtain ⟨ended, hoverlap, -⟩ := stops_overlap sinks hstop hmoment []
  exact ⟨hstop, hmoment, ended, hoverlap⟩

/-- A hub with a service that came up, and whose scheduler was given the slow task. -/
def slowHub : Host :=
  (made plainHub {}).after
    ([.command (.add (Status.service 0)), .command (.start vacant noArrivals)] ++ slowTurns.map Act.schedule)

/--
  The first stop waits until the body has ended. A second one does not, while the body
  runs. The same goes for a hub: it would wait before it closes its service, but not if its
  scheduler is being stopped already.
-/
theorem second_stop_early :
    Scheduler.executed (Scheduler.empty.history sinks slowTurns).value.2 = [⟨1000, 3000, false, 0⟩] ∧
      ((Scheduler.empty.history sinks slowTurns).value.1.stop 1100 sinks).value.2 = 3000 ∧
      (((Scheduler.empty.history sinks slowTurns).value.1.stop 1100 sinks).value.1.stop 1200 sinks).value.2 = 1200 ∧
      (slowHub.stop (vacantAt 1200)).value.2 = (3000, .stopped) ∧
      ((slowHub.act (.schedule (.stop 1100))).stop (vacantAt 1200)).value.2 = (1200, .stopped) ∧
      Effect.closings ((slowHub.act (.schedule (.stop 1100))).stop (vacantAt 1200)).effects = [("status", 0)] := by
  decide +kernel

end Host

end ServiceHost
