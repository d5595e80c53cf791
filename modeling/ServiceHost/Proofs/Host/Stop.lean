/-
  ServiceHost.Proofs.Host.Stop — the ends a stop can come to.

  A host that is stopped stays as it is. Any other is wound down, and unless the time to
  wait for its connections is out of range, which only its settings decide, its services
  are closed and the stop is announced. Services can be added while that happens; with
  nothing added meanwhile this is the stop itself (`stopAmid_none`).

  Winding down lasts until the background tasks and the line of the listener are over. A
  line that is told to end and has not come to its end in time is cut off
  (`Settings.lineEnd`); however it ends, its address is released.
-/

import ServiceHost.Proofs.Host.Start

namespace ServiceHost.Host

variable {h : Host} {env : Surroundings} {arrivals : Arrivals}

/-! ## A stop with arrivals -/

/-- The end of a stop: services are closed, and it is announced. -/
def concludeAmid (h : Host) (env : Surroundings) (now : Nat) (arrivals : Arrivals) :
    Run (Host × Nat × StopOutcome) := do
  let h ← h.addServices (arrivals .beforeClosing)
  closeServices (h.registry.listed env.order)
  let h ← h.addServices (arrivals .beforeEnd)
  h.audit (h.lifecycleEvent AuditEvent.serviceStopped (h.stopMessage now))
  return (h, now, .stopped)

def stopAmid (h : Host) (env : Surroundings) (arrivals : Arrivals) : Run (Host × Nat × StopOutcome) :=
  match h.phase with
  | .stopped => do
    Run.log .injected .debug .shutdown "Already stopped" []
    return (h, env.now, .already)
  | _ => do
    let (h, now, drained) ← h.windDown env
    if drained then h.concludeAmid env now arrivals else return (h, now, .broken)

/-- With nothing added meanwhile it is the stop itself. -/
theorem stopAmid_none (h : Host) (env : Surroundings) : h.stopAmid env noArrivals = h.stop env := by
  have hnone : ∀ h : Host, h.addServices [] = pure h := fun _ => rfl
  simp only [stopAmid, concludeAmid, noArrivals, hnone, pure_bind]
  rfl

/-! ## The line of the listener -/

/-- Whether the time to wait for open connections is in range. -/
def Settings.drains (s : Settings) : Prop := s.config.http.shutdownGraceSecs + drainSlackSecs ≤ maxSpanSecs

instance (s : Settings) : Decidable s.drains := inferInstanceAs (Decidable (_ ≤ _))

/-- The longest that a stop waits for a line, in milliseconds. -/
def Settings.drainLimit (s : Settings) : Nat := (s.config.http.shutdownGraceSecs + 1) * 1000

/-- When and how a line is over that a stop tells to end and waits for: by itself, or cut off at the limit. -/
def Settings.lineEnd (s : Settings) : Net.Parting → Nat × Net.Ending
  | .ends millis => if millis ≤ s.drainLimit then (millis, .regular) else (s.drainLimit, .cutOff)
  | .fails millis error => if millis ≤ s.drainLimit then (millis, .failed error) else (s.drainLimit, .cutOff)
  | .stays => (s.drainLimit, .cutOff)

theorem within_drainLimit (s : Settings) (parting : Net.Parting) :
    parting.within ((s.config.http.shutdownGraceSecs + drainSlackSecs) * 1000) = s.lineEnd parting := by
  cases parting with
  | stays => rfl
  | ends millis | fails millis =>
    simp only [Net.Parting.within, Net.Parting.ending?, Option.filter_some, decide_eq_true_eq, Settings.lineEnd]
    unfold Settings.drainLimit drainSlackSecs
    split <;> rfl

/-- How long a stop waits for a listener: not at all if its line is over, or the time is out of range. -/
def Settings.drainMillis (s : Settings) (l : Net.Listener) (parting : Net.Parting) : Nat :=
  if s.drains ∧ l.ending? = none then (s.lineEnd parting).1 else 0

/-- What a stop releases: the address of the listener, unless its line is over before, or goes on. -/
def Settings.releases (s : Settings) (l : Net.Listener) (parting : Net.Parting) : List Effect :=
  if l.ending? = none ∧ (s.drains ∨ parting.ending?.isSome) then l.bound?.toList.map .released else []

theorem news_finish (l : Net.Listener) (ending : Net.Ending) :
    Effect.news (l.finish ending).effects = l.bound?.toList.map .released := by
  unfold Net.Listener.finish
  cases l.bound? <;> by_cases he : ending = .regular <;> simp only [he] <;> rfl

theorem drain_ends (s : Settings) (l : Net.Listener) (parting : Net.Parting) :
    (drain l parting s.config.http.shutdownGraceSecs).value.isSome = decide s.drains ∧
      (drain l parting s.config.http.shutdownGraceSecs).value.getD 0 = s.drainMillis l parting ∧
      Effect.news (drain l parting s.config.http.shutdownGraceSecs).effects = s.releases l parting := by
  unfold drain Settings.drainMillis Settings.releases
  by_cases hd : s.drains
  · have hfits : s.config.http.shutdownGraceSecs + drainSlackSecs ≤ maxSpanSecs := hd
    have hquiet (ending? : Option Net.Ending) : Effect.news (ending?.toList.map fun ending =>
        .logged .injected (drainEvent s.config.http.shutdownGraceSecs ending)) = [] := by
      cases ending? with
      | none => rfl
      | some ending => cases ending <;> rfl
    simp only [if_pos hfits, Net.Listener.await, within_drainLimit, Run.value_bind, Run.effects_bind, Run.value_pure,
      Run.effects_pure, Run.effects_tellAll, Effect.news_append, hquiet, List.append_nil]
    cases hl : l.ending? with
    | some ending => simp [hd, Effect.news]
    | none => simp [hd, news_finish]
  · have hover : ¬ s.config.http.shutdownGraceSecs + drainSlackSecs ≤ maxSpanSecs := hd
    simp only [if_neg hover, Net.Listener.abandon, Run.value_bind, Run.effects_bind, Run.value_pure, Run.effects_pure,
      List.append_nil]
    cases hl : l.ending? with
    | some ending => simp [hd, Effect.news]
    | none =>
      cases hp : parting.ending? with
      | none => simp [hd, Effect.news]
      | some ended => simp [hd, news_finish]

/-! ## Winding down -/

theorem news_close (r : Tls.Reloader) : Effect.news (r.close reloaderSinks).effects = [] := by
  cases ho : r.isClosed with
  | false => exact (Tls.Reloader.close_disarms reloaderSinks ho).1
  | true =>
    have hp : r.poller? = none := by
      cases hp : r.poller? with
      | none => rfl
      | some line => simp [Tls.Reloader.isClosed, hp] at ho
    simp only [Tls.Reloader.close, hp, Run.effects_pure]
    rfl

/-- The host once it is wound down. -/
def wound (h : Host) : Host := { h with scheduler := .stopped, phase := .stopped }

def drainMillis (h : Host) (env : Surroundings) : Nat :=
  h.phase.resources.2.elim 0 fun l => h.settings.drainMillis l env.parting

/-- When the last background task has ended, and then the line of the listener. -/
def stopEnd (h : Host) (env : Surroundings) : Nat :=
  Schedule.Scheduler.busyUntil env.now h.scheduler.lines + h.drainMillis env

def releases (h : Host) (env : Surroundings) : List Effect :=
  h.phase.resources.2.elim [] fun l => h.settings.releases l env.parting

theorem value_stop {Job : Type} (s : Schedule.Scheduler Job) (now : Nat) (sinks : Schedule.Sinks) :
    (s.stop now sinks).value = (.stopped, Schedule.Scheduler.busyUntil now s.lines) := by
  cases s <;> rfl

/-- Whether there are connections to wait for, and the time for that is out of range. -/
def overdrawn (h : Host) : Bool := h.phase.resources.2.isSome && !decide h.settings.drains

/-- Winding a host down leaves it without tasks, reloader and listener; that an address is released is all its news. -/
theorem windDown_ends (h : Host) (env : Surroundings) :
    (h.windDown env).value = (h.wound, h.stopEnd env, !h.overdrawn) ∧
      Effect.news (h.windDown env).effects = h.releases env := by
  have hremarks : Effect.Remarks .injected (h.scheduler.stop env.now sinks).effects :=
    Schedule.Scheduler.stop_remarks ..
  have hstop := hremarks.quiet.news
  have hvalue := value_stop h.scheduler env.now sinks
  unfold windDown overdrawn stopEnd drainMillis releases
  cases h.phase with
  | new | stopped =>
    simp only [Phase.resources, pure_bind, Run.effects_bind, Run.effects_pure, List.append_nil, hstop, Run.value_bind,
      Run.value_pure, hvalue]
    exact ⟨rfl, rfl⟩
  | started serving =>
    obtain ⟨hdrained, hmillis, hdrain⟩ := drain_ends h.settings serving.listener env.parting
    cases hr : serving.reloader? with
    | none =>
      simp only [Phase.resources, hr, Run.value_bind, Run.effects_bind, Run.value_pure, Run.effects_pure,
        Effect.news_append, hstop, hdrain, hdrained, hvalue, hmillis, Option.isSome_some, Bool.true_and,
        Bool.not_not, Option.elim_some, List.append_nil, List.nil_append]
      exact ⟨rfl, trivial⟩
    | some r =>
      simp only [Phase.resources, hr, Run.value_bind, Run.effects_bind, Run.value_pure, Run.effects_pure,
        Effect.news_append, news_close, hstop, hdrain, hdrained, hvalue, hmillis, Option.isSome_some,
        Bool.true_and, Bool.not_not, Option.elim_some, List.append_nil, List.nil_append]
      exact ⟨rfl, trivial⟩

/-- Whether or not its connections end in time, a host that is wound down is stopped. -/
theorem windDown_host (h : Host) (env : Surroundings) : (h.windDown env).value.1 = h.wound :=
  congrArg Prod.fst (windDown_ends h env).1

theorem windDown_ok (env : Surroundings) (hd : h.settings.drains) :
    (h.windDown env).value = (h.wound, h.stopEnd env, true) := by
  rw [(windDown_ends h env).1, overdrawn, decide_eq_true hd, Bool.not_true, Bool.and_false, Bool.not_false]

/-! ## The ends of a stop -/

def stoppedEvent (h : Host) (now : Nat) : AuditEvent :=
  h.lifecycleEvent AuditEvent.serviceStopped (h.stopMessage now)

/-- The services that a stop closes: those there are when it comes to it, in the order in which it gets them. -/
def closingList (h : Host) (env : Surroundings) (arrivals : Arrivals) : List Service :=
  (h.withServices (arrivals .beforeClosing)).registry.listed env.order

/-- What is told of the end of a stop: its services are closed, then it is announced. -/
def stopNews (h : Host) (env : Surroundings) (now : Nat) (arrivals : Arrivals) : List Effect :=
  (h.closingList env arrivals).map (fun s => .closed s.name s.serial) ++ [h.settings.announcement (h.stoppedEvent now)]

theorem concludeAmid_ends (h : Host) (env : Surroundings) (now : Nat) (arrivals : Arrivals) :
    (h.concludeAmid env now arrivals).value =
        (h.withServices (arrivals .beforeClosing ++ arrivals .beforeEnd), now, .stopped) ∧
      Effect.news (h.concludeAmid env now arrivals).effects = h.stopNews env now arrivals := by
  obtain ⟨hv₁, hq₁⟩ := addServices_eq h (arrivals .beforeClosing)
  obtain ⟨hv₂, hq₂⟩ := addServices_eq (h.withServices (arrivals .beforeClosing)) (arrivals .beforeEnd)
  constructor
  · simp only [concludeAmid, Run.value_bind, Run.value_pure, hv₁, hv₂, withServices_append]
  · simp only [concludeAmid, Run.effects_bind, Run.effects_pure, Effect.news_append, hv₁, hv₂, hq₁.news, hq₂.news,
      effects_closeServices, news_closing, withServices_append, (audit_marks ..).1]
    rfl

/-- A host that is not stopped yet is wound down, and its stop comes to an end. -/
theorem stopAmid_open (env : Surroundings) (arrivals : Arrivals) (hd : h.settings.drains) (hp : h.phase ≠ .stopped) :
    h.stopAmid env arrivals =
      ⟨(h.wound.concludeAmid env (h.stopEnd env) arrivals).value,
        (h.windDown env).effects ++ (h.wound.concludeAmid env (h.stopEnd env) arrivals).effects⟩ := by
  have hv := windDown_ok env hd
  unfold stopAmid
  split
  · next hs => exact absurd hs hp
  · change Run.mk _ _ = _
    simp only [hv]
    rfl

theorem news_stopAmid (env : Surroundings) (arrivals : Arrivals) (hd : h.settings.drains) (hp : h.phase ≠ .stopped) :
    Effect.news (h.stopAmid env arrivals).effects = h.releases env ++ h.stopNews env (h.stopEnd env) arrivals := by
  rw [stopAmid_open env arrivals hd hp, Effect.news_append, (windDown_ends h env).2, (concludeAmid_ends ..).2]
  rfl

theorem releases_marks (h : Host) (env : Surroundings) :
    Effect.announcements (h.releases env) = [] ∧ Effect.closings (h.releases env) = [] := by
  unfold releases
  cases h.phase.resources.2 with
  | none => exact ⟨rfl, rfl⟩
  | some l =>
    simp only [Option.elim_some, Settings.releases]
    split
    · cases l.bound? <;> exact ⟨rfl, rfl⟩
    · exact ⟨rfl, rfl⟩

theorem announcements_stopNews (h : Host) (env : Surroundings) (now : Nat) (arrivals : Arrivals) :
    Effect.announcements (h.stopNews env now arrivals) = [h.settings.announcement (h.stoppedEvent now)] := by
  have hclosed : Effect.announcements ((h.closingList env arrivals).map fun s => .closed s.name s.serial) = [] :=
    List.filter_eq_nil_iff.2 fun e he => by
      obtain ⟨s, -, rfl⟩ := List.mem_map.1 he
      simp [Effect.isAnnouncement]
  rw [stopNews, Effect.announcements_append, hclosed, (announcement_marks ..).1, List.nil_append]

variable (h arrivals) in
/-- The host was stopped; it keeps its services and those that came meanwhile, and what its start set. -/
structure Ended (ran : Run (Host × Nat × StopOutcome)) : Prop where
  value : ∃ now' scheduler, ran.value =
    ({ h with scheduler, phase := .stopped }.withServices (arrivals .beforeClosing ++ arrivals .beforeEnd), now',
      .stopped)
  announced : ∃ now', Effect.announcements ran.effects = [h.settings.announcement (h.stoppedEvent now')]

theorem stopAmid_stopped (env : Surroundings) (arrivals : Arrivals) (hp : h.phase = .stopped) :
    (h.stopAmid env arrivals).value = (h, env.now, .already) ∧
      Effect.announcements (h.stopAmid env arrivals).effects = [] := by
  simp only [stopAmid, hp]
  exact ⟨rfl, rfl⟩

/-- However it comes out, a stop winds down a host that is not stopped yet. -/
theorem stopAmid_wound (env : Surroundings) (arrivals : Arrivals) (hp : h.phase ≠ .stopped) :
    ∃ ss, (h.stopAmid env arrivals).value.1 = h.wound.withServices ss ∧ (arrivals = noArrivals → ss = []) := by
  unfold stopAmid
  split
  · next hs => exact absurd hs hp
  · simp only [Run.value_bind, windDown_host]
    split
    · refine ⟨_, congrArg Prod.fst (concludeAmid_ends ..).1, fun hno => ?_⟩
      rw [hno]
      rfl
    · exact ⟨[], rfl, fun _ => rfl⟩

theorem stopAmid_host (h : Host) (env : Surroundings) (arrivals : Arrivals) :
    (h.stopAmid env arrivals).value.1 = h ∨
      ∃ ss, (h.stopAmid env arrivals).value.1 = h.wound.withServices ss ∧ (arrivals = noArrivals → ss = []) := by
  by_cases hp : h.phase = .stopped
  · exact .inl (congrArg Prod.fst (stopAmid_stopped env arrivals hp).1)
  · exact .inr (stopAmid_wound env arrivals hp)

theorem stopAmid_phase (h : Host) (env : Surroundings) (arrivals : Arrivals) :
    (h.stopAmid env arrivals).value.1.phase = .stopped := by
  by_cases hp : h.phase = .stopped
  · rw [(stopAmid_stopped env arrivals hp).1]
    exact hp
  · obtain ⟨ss, hvalue, -⟩ := stopAmid_wound env arrivals hp
    rw [hvalue]
    rfl

theorem stopAmid_ended (env : Surroundings) (arrivals : Arrivals) (hd : h.settings.drains) (hp : h.phase ≠ .stopped) :
    Ended h arrivals (h.stopAmid env arrivals) := by
  refine ⟨⟨h.stopEnd env, .stopped, ?_⟩, h.stopEnd env, ?_⟩
  · rw [stopAmid_open env arrivals hd hp]
    exact (concludeAmid_ends h.wound env ..).1
  · rw [← Effect.announcements_news, news_stopAmid env arrivals hd hp, Effect.announcements_append,
      (releases_marks h env).1, announcements_stopNews, List.nil_append]

end ServiceHost.Host
