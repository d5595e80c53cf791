/-
  ServiceHost.Proofs.Host.Grace — the one grace period with which a stop breaks off.

  A stop gives open connections the grace period and a second more. For the greatest
  number of seconds there is, and for no other, that is out of range (`drains_iff`).
  Neither validation nor the start looks at the grace period, so a host with that one
  comes up like any other. Its stop winds it down and breaks off there. The host counts as
  stopped then, so no service is closed and no stop announced, by this stop or by anything
  after it; with any other grace period the stop runs to its end (`stop_by_grace`).
-/

import ServiceHost.Proofs.Host.Closing

namespace ServiceHost

/-! ## Who looks at the grace period -/

def Config.HostConfig.withGrace (c : Config.HostConfig) (secs : Nat) : Config.HostConfig :=
  { c with http := { c.http with shutdownGraceSecs := secs } }

namespace Host

def Settings.withGrace (s : Settings) (secs : Nat) : Settings := { s with config := s.config.withGrace secs }

variable {s : Settings} {h : Host} {serving : Serving}

theorem fault?_withGrace (s : Settings) (secs : Nat) (r : Registry) (env : Surroundings) (stage : StartStage) :
    stage.fault? (s.withGrace secs) r env = stage.fault? s r env := by
  cases stage <;> rfl

theorem start_withGrace (s : Settings) (secs : Nat) (r : Registry) (env : Surroundings) :
    ((made (s.withGrace secs) r).start env).value.2 = ((made s r).start env).value.2 := by
  have houtcome (s : Settings) : ((made s r).start env).value.2 = verdict s r env := start_outcome env rfl rfl
  have hfaults := funext (fault?_withGrace s secs r env)
  rw [houtcome, houtcome, verdict, verdict, StartStage.first?, StartStage.first?, hfaults]

/-- The second that is added is too much for the greatest grace period alone. -/
theorem drains_iff (hg : s.config.http.shutdownGraceSecs ≤ maxSpanSecs) :
    s.drains ↔ s.config.http.shutdownGraceSecs ≠ maxSpanSecs := by
  unfold Settings.drains drainSlackSecs
  omega

/-! ## A stop that breaks off -/

theorem stopAmid_overdrawn (env : Surroundings) (arrivals : Arrivals) (ho : h.overdrawn = true) :
    (h.stopAmid env arrivals).value = (h.wound, h.stopEnd env, .broken) ∧
      Effect.news (h.stopAmid env arrivals).effects = h.releases env := by
  obtain ⟨hvalue, hnews⟩ := windDown_ends h env
  rw [ho, Bool.not_true] at hvalue
  unfold stopAmid
  split
  · next hs => simp [overdrawn, hs, Phase.resources] at ho
  · simp only [Run.value_bind, Run.effects_bind, hvalue, Effect.news_append, hnews]
    exact ⟨rfl, List.append_nil _⟩

theorem overdrawn_iff (hup : h.phase = .started serving) : h.overdrawn = true ↔ ¬ h.settings.drains := by
  simp [overdrawn, hup, Phase.resources]

/-- What comes of the stop of a started host, and of everything after it. -/
structure StopsByGrace (h : Host) (env : Surroundings) (arrivals : Arrivals) (after : List Command) : Prop where
  /-- Validation finds the same problems whatever the grace period is. -/
  unchecked : ∀ secs, (h.settings.config.withGrace secs).problems = h.settings.config.problems
  /-- A new host of these settings comes up or not whatever the grace period is. -/
  unhindered : ∀ secs r env,
    ((made (h.settings.withGrace secs) r).start env).value.2 = ((made h.settings r).start env).value.2
  /-- After the stop the host counts as stopped, so there is no second one. -/
  ended : (h.stopAmid env arrivals).value.1.phase = .stopped
  /-- With any grace period but the greatest, every service is closed and the stop is announced. -/
  whole : h.settings.config.http.shutdownGraceSecs ≠ maxSpanSecs →
    (h.stopAmid env arrivals).value.2.2 = .stopped ∧
      Effect.closings (h.stopAmid env arrivals).effects =
        (h.closingList env arrivals).map (fun a => (a.name, a.serial)) ∧
      Effect.announcements (h.stopAmid env arrivals).effects =
        [h.settings.announcement (h.stoppedEvent (h.stopEnd env))]
  /-- With the greatest it breaks off. Then no service is ever closed, and nothing ever announced. -/
  broken : h.settings.config.http.shutdownGraceSecs = maxSpanSecs →
    (h.stopAmid env arrivals).value.2.2 = .broken ∧
      Effect.closings (h.history (.stop env arrivals :: after)).effects = [] ∧
      Effect.announcements (h.history (.stop env arrivals :: after)).effects = []

/--
  The stop of a host that came up closes every service and is announced, unless the grace
  period is the greatest number of seconds there is. That one is as valid as any other, and
  with it the stop breaks off.
-/
theorem stop_by_grace (hup : h.phase = .started serving) (hg : h.settings.config.http.shutdownGraceSecs ≤ maxSpanSecs)
    (env : Surroundings) (arrivals : Arrivals) (after : List Command) : StopsByGrace h env arrivals after := by
  have hp : h.phase ≠ .stopped := by simp [hup]
  constructor
  case unchecked => exact fun secs => rfl
  case unhindered => exact start_withGrace h.settings
  case ended => exact stopAmid_phase h env arrivals
  case whole =>
    intro hne
    have hd := (drains_iff hg).2 hne
    obtain ⟨⟨now', scheduler, hvalue⟩, -⟩ := stopAmid_ended env arrivals hd hp
    refine ⟨by rw [hvalue], closings_first env arrivals hd hp, ?_⟩
    rw [← Effect.announcements_news, news_stopAmid env arrivals hd hp, Effect.announcements_append,
      (releases_marks h env).1, announcements_stopNews, List.nil_append]
  case broken =>
    intro heq
    have hd : ¬ h.settings.drains := fun hd => (drains_iff hg).1 hd heq
    obtain ⟨hvalue, hnews⟩ := stopAmid_overdrawn env arrivals ((overdrawn_iff hup).2 hd)
    have hall : Effect.news (h.history (.stop env arrivals :: after)).effects = h.releases env := by
      rw [history_cons, Effect.news_append, (history_stopped (obey_stop ..) after).2.1, List.append_nil, obey,
        Run.effects_map]
      exact hnews
    obtain ⟨hannounced, hclosed⟩ := releases_marks h env
    refine ⟨by rw [hvalue], ?_, ?_⟩
    · rw [← Effect.closings_news, hall, hclosed]
    · rw [← Effect.announcements_news, hall, hannounced]

/-! ## A hub that never ends -/

/-- A hub with the greatest grace period, of which somebody hears if it breaks down. -/
def patientHub : Settings := { plainHub.withGrace maxSpanSecs with fatalHandler := true }

def hubData : Service := { name := "data", serial := 1 }

/-- The hub with a service, once it has come up. -/
def patientHubUp : Host := ((made patientHub {}).history [.add hubData, .start crowded noArrivals]).value.1

/-- Its stop, another stop and another start. -/
theorem stop_by_grace_hub :
    ∃ serving, patientHubUp.phase = .started serving ∧
      patientHubUp.settings.config.http.shutdownGraceSecs ≤ maxSpanSecs ∧
      StopsByGrace patientHubUp (vacantAt 5) noArrivals [.stop (vacantAt 6) noArrivals, .start vacant noArrivals] :=
  ⟨_, rfl, Nat.le_refl _, stop_by_grace rfl (Nat.le_refl _) (vacantAt 5) noArrivals _⟩

/-- Its settings are valid and it has come up, but its stop breaks off: its service is not closed, no stop announced. -/
theorem stop_breaks_off :
    patientHub.config.IsValid ∧ patientHubUp.phase.stand = .started ∧ patientHubUp.registry.names = ["data"] ∧
      (patientHubUp.stop (vacantAt 5)).value.2.2 = .broken ∧
      Effect.closings (patientHubUp.stop (vacantAt 5)).effects = [] ∧
      Effect.announcements (patientHubUp.stop (vacantAt 5)).effects = [] :=
  ⟨by decide, rfl, rfl, rfl, rfl, rfl⟩

end Host

end ServiceHost
