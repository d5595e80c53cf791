/-
  ServiceHost.Proofs.Host.Order — what holds of a host all its life.

  Its services stand in the order of their names, the reloader it serves with is open, its
  scheduler is not stopped before it is, and its listener is as it was launched (`Orderly`).
  Time changes neither the services, the pipeline nor the listener, nor whether the reloader
  or the scheduler has ended (`Steady`), and every command keeps the host orderly
  (`history_orderly`). So a stop always finds what it has to end.
-/

import ServiceHost.Proofs.Host.Life

namespace ServiceHost

/-! ## Reloaders stay open -/

namespace Tls.Reloader

variable {keys : KeyProvider} {r : Reloader} {fs : Files} {now : Nat} {sink : Log.Sink}

theorem reload_closed {ran : Run Reloader} (hr : r.reload keys fs now sink = .ok ran) :
    ran.value.isClosed = r.isClosed := by
  obtain ⟨pair, stamps, -, rfl⟩ := reload_ok hr
  rfl

theorem poll_closed (keys : KeyProvider) (r : Reloader) (fs : Files) (now : Nat) (sink : Log.Sink) :
    (r.poll keys fs now sink).value.isClosed = r.isClosed := by
  rcases poll_cases keys r fs now sink with hp | ⟨e, hp⟩ | ⟨pair, stamps, -, hp⟩ <;> rw [hp] <;> rfl

theorem ticks_closed (r : Reloader) (now : Nat) : (r.ticks now).2.isClosed = r.isClosed := by
  unfold ticks
  cases hp : r.poller? with
  | none => rfl
  | some line => simp [isClosed, hp]

end Tls.Reloader

namespace Host

theorem publishExpiry_closed (publisher : Publisher) (env : Surroundings) (now : Nat) (r : Tls.Reloader) :
    (publishExpiry publisher env now r).value.isClosed = r.isClosed := by
  simp only [publishExpiry, Run.value_bind, Run.value_pure, reread]
  cases hr : r.reload env.keys env.files now .injected with
  | error e => rfl
  | ok ran => exact Tls.Reloader.reload_closed hr

theorem publishFirst_closed (publisher : Publisher) (env : Surroundings) (r? : Option Tls.Reloader) :
    (publishFirst publisher env r?).value.map (·.isClosed) = r?.map (·.isClosed) := by
  cases r? with
  | none => rfl
  | some r => exact congrArg some (publishExpiry_closed ..)

/-- Publishing the expiry reads the reloader that a start armed again, but leaves it open. -/
theorem CameUp.alike {h : Host} {env : Surroundings} {arrivals : Arrivals} {ran : Run (Host × Except StartFailure Unit)}
    {p : Prepared} {serving : Serving} {ss : List Service} (hu : CameUp h env arrivals ran p serving ss) :
    serving.reloader?.map (·.isClosed) = p.reloader?.map (·.isClosed) := by
  rw [hu.reloader, publishFirst_closed]

section

variable {r? r?' : Option Tls.Reloader} (halike : r?'.map (·.isClosed) = r?.map (·.isClosed))

include halike

theorem open_of_alike (hopen : ∀ r, r? = some r → r.isClosed = false) : ∀ r, r?' = some r → r.isClosed = false := by
  intro r hr
  rw [hr] at halike
  obtain ⟨r', hr', heq⟩ := Option.map_eq_some_iff.1 halike.symm
  exact heq.symm.trans (hopen r' hr')

theorem length_of_alike : r?'.toList.length = r?.toList.length := by
  have hsome := congrArg Option.isSome halike
  cases r? <;> cases r?' <;> simp at hsome ⊢

end

/-! ## Schedulers go on -/

theorem addDuty_running {s : Schedule.Scheduler Duty} (t : Schedule.Task Duty) (now : Nat) (complaint : String)
    (hs : s ≠ .stopped) : (addDuty s t now complaint).value ≠ .stopped := by
  unfold addDuty Schedule.Scheduler.add
  by_cases ht : 0 < t.interval
  · rw [dif_pos ht]
    cases s with
    | stopped => exact absurd rfl hs
    | _ => simp
  · rw [dif_neg ht]
    exact hs

theorem startTasks_running {h : Host} (tls? : Option PreparedTls) (now : Nat) (hs : h.scheduler ≠ .stopped) :
    (h.startTasks tls? now).value ≠ .stopped := by
  have hexpiry : (addExpiry h.scheduler tls? now).value ≠ .stopped := by
    unfold addExpiry
    cases tls? with
    | none => exact hs
    | some t => exact addDuty_running _ _ _ hs
  have hheartbeat : (addHeartbeat (addExpiry h.scheduler tls? now).value h.settings.config.http.heartbeatSecs now).value
      ≠ .stopped := by
    unfold addHeartbeat
    split
    · exact addDuty_running _ _ _ hexpiry
    · exact hexpiry
  simp only [startTasks, Run.value_bind]
  generalize (addHeartbeat (addExpiry h.scheduler tls? now).value h.settings.config.http.heartbeatSecs now).value = s
    at hheartbeat
  cases s with
  | stopped => exact absurd rfl hheartbeat
  | _ => simp [Schedule.Scheduler.start]

/-! ## Time passes -/

variable {h h' h'' : Host}

def Phase.pipeline? : Phase → Option Http.Pipeline
  | .started serving => some serving.pipeline
  | _ => none

/-- The same services, pipeline and listener, and neither reloader nor scheduler has ended meanwhile. -/
structure Steady (h h' : Host) : Prop where
  registry : h'.registry = h.registry
  pipeline : h'.phase.pipeline? = h.phase.pipeline?
  listener : h'.phase.resources.2 = h.phase.resources.2
  reloader : h'.phase.resources.1.map (·.isClosed) = h.phase.resources.1.map (·.isClosed)
  scheduler : h'.scheduler = .stopped → h.scheduler = .stopped

theorem Steady.refl (h : Host) : Steady h h := ⟨rfl, rfl, rfl, rfl, id⟩

theorem Steady.trans (hs : Steady h h') (hs' : Steady h' h'') : Steady h h'' where
  registry := hs'.registry.trans hs.registry
  pipeline := hs'.pipeline.trans hs.pipeline
  listener := hs'.listener.trans hs.listener
  reloader := hs'.reloader.trans hs.reloader
  scheduler := hs.scheduler ∘ hs'.scheduler

theorem overReloader_steady {f : Tls.Reloader → Run Tls.Reloader} (h : Host)
    (hf : ∀ r, (f r).value.isClosed = r.isClosed) : Steady h (h.overReloader f).value := by
  rcases overReloader_cases h f with heq | ⟨serving, r, hp, hr, heq⟩
  · rw [heq]
    exact .refl h
  · rw [heq]
    exact ⟨rfl, by rw [hp]; rfl, by rw [hp]; rfl, by simp [hp, hr, Phase.resources, hf r], id⟩

theorem attend_steady (env : Surroundings) (h : Host) (a : Appointment) : Steady h (attend env h a).value := by
  unfold attend
  cases a.errand with
  | poll => exact overReloader_steady h fun r => Tls.Reloader.poll_closed ..
  | orphanPoll i =>
    simp only [overOrphan]
    split
    · exact ⟨rfl, rfl, rfl, rfl, id⟩
    · exact .refl h
  | task t =>
    simp only [Run.value_bind, perform]
    cases t.job with
    | certExpiry => exact overReloader_steady h fun r => publishExpiry_closed ..
    | heartbeat => exact .refl h

theorem attendAll_steady (env : Surroundings) (h : Host) (as : List Appointment) :
    Steady h (as.foldlM (attend env) h).value := by
  induction as generalizing h with
  | nil => exact .refl h
  | cons a as ih => exact (attend_steady env h a).trans (ih (attend env h a).value)

theorem appointments_steady (h : Host) (now : Nat) : Steady h (h.appointments now).2 := by
  have hpolls : Steady h (h.pollerTicks now).2 := by
    rcases pollerTicks_cases h now with heq | ⟨serving, r, hp, hr, heq⟩
    · rw [heq]
      exact .refl h
    · rw [heq]
      exact ⟨rfl, by rw [hp]; rfl, by rw [hp]; rfl, by simp [hp, hr, Phase.resources, Tls.Reloader.ticks_closed], id⟩
  have horphans (h : Host) : Steady h (h.orphanTicks now).2 := ⟨rfl, rfl, rfl, rfl, id⟩
  have htasks (h : Host) : Steady h (h.taskTicks now).2 := by
    refine ⟨rfl, rfl, rfl, rfl, fun hs => ?_⟩
    cases hs' : h.scheduler with
    | stopped => rfl
    | _ => simp [taskTicks, Schedule.Scheduler.advance, hs'] at hs
  exact hpolls.trans ((horphans _).trans (htasks _))

theorem advance_steady (h : Host) (env : Surroundings) : Steady h (h.advance env).value :=
  (appointments_steady h env.now).trans (attendAll_steady env _ _)

/-! ## Orderly hosts -/

structure Orderly (h : Host) : Prop where
  sorted : h.registry.Sorted
  /-- The reloader in use is open. -/
  serving : ∀ r, h.phase.resources.1 = some r → r.isClosed = false
  scheduling : h.phase.stand ≠ .stopped → h.scheduler ≠ .stopped
  /-- The listener is as it was launched, and the host knows the address it is bound to. -/
  listening : ∀ l, h.phase.resources.2 = some l → l.Launched ∧ h.localAddr? = l.bound?
  unbound : h.phase.stand = .new → h.localAddr? = none

variable {s : Settings} {told : List AuditEvent} {n : Nat} {down : Bool}

theorem made_orderly (s : Settings) : Orderly (made s {}) where
  sorted := List.Pairwise.nil
  serving _ hr := nomatch hr
  scheduling _ := by simp [made, Schedule.Scheduler.empty]
  listening _ hl := nomatch hl
  unbound _ := rfl

theorem sorted_withServices (h : Host) (ss : List Service) (hs : h.registry.Sorted) :
    (h.withServices ss).registry.Sorted := hs.foldl_put ss

theorem Orderly.withServices (ho : Orderly h) (ss : List Service) : Orderly (h.withServices ss) where
  sorted := sorted_withServices h ss ho.sorted
  serving := ho.serving
  scheduling := ho.scheduling
  listening := ho.listening
  unbound := ho.unbound

theorem CameUp.listening {ran : Run (Host × Except StartFailure Unit)} {env : Surroundings} {arrivals : Arrivals}
    {p : Prepared} {serving : Serving} {ss : List Service} (hu : CameUp h env arrivals ran p serving ss)
    (hl : h.localAddr? = none) :
    serving.listener.Launched ∧ (h.up env p serving ss).localAddr? = serving.listener.bound? := by
  rw [hu.listener]
  refine ⟨rfl, ?_⟩
  rw [up, hl, Option.none_or]
  rfl

theorem start_orderly (env : Surroundings) (arrivals : Arrivals) (ha : h.arming? = none) (ho : Orderly h) :
    Orderly (h.startAmid env arrivals).value.1 := by
  by_cases hp : h.phase.stand = .new
  · rcases startAmid_cases env arrivals (stand_new hp) ha with ⟨e, ss, hf⟩ | ⟨o, ss, hb⟩ | ⟨p, serving, hu⟩
    · rw [hf.value]
      exact ho.withServices ss
    · rw [hb.value]
      exact { ho.withServices ss with }
    · rw [hu.value]
      constructor
      case sorted => exact sorted_withServices h _ ho.sorted
      case serving => exact open_of_alike hu.alike fun r hr => hu.fits.reloader_open hr
      case scheduling => exact fun _ => startTasks_running p.tls? env.now (ho.scheduling (by simp [hp]))
      case listening =>
        rintro l ⟨⟩
        exact hu.listening (ho.unbound hp)
      case unbound => exact nofun
  · rw [startAmid_over env arrivals hp]
    exact ho

theorem stop_orderly (env : Surroundings) (arrivals : Arrivals) (hd : h.settings.drains) (ho : Orderly h) :
    Orderly (h.stopAmid env arrivals).value.1 := by
  by_cases hp : h.phase.stand = .stopped
  · rw [(stopAmid_stopped env arrivals (stand_stopped hp)).1]
    exact ho
  · rw [stopAmid_open env arrivals hd fun hs => hp (congrArg Phase.stand hs), (concludeAmid_ends ..).1]
    exact ⟨sorted_withServices h.wound _ ho.sorted, nofun, fun hne => absurd rfl hne, nofun, nofun⟩

/-- Every command keeps a host orderly. -/
theorem obey_orderly (hd : s.drains) (hl : Life s h told n down) (ho : Orderly h) (c : Command) :
    Orderly (h.obey c).value.1 := by
  cases c with
  | start env arrivals => exact start_orderly env arrivals hl.arming ho
  | stop env arrivals => exact stop_orderly env arrivals (hl.settings ▸ hd) ho
  | add service =>
    simp only [obey, Run.value_map, value_addService]
    exact ho.withServices [service]
  | wait env =>
    obtain ⟨hregistry, -, hlistener, hreloader, hscheduler⟩ := advance_steady h env
    obtain ⟨hk, -⟩ := advance_kept h env
    simp only [obey, Run.value_map]
    constructor
    case sorted => exact hregistry ▸ ho.sorted
    case serving => exact open_of_alike hreloader ho.serving
    case scheduling => exact fun hne hs => ho.scheduling (hk.stand ▸ hne) (hscheduler hs)
    case listening =>
      rw [hlistener, hk.localAddr]
      exact ho.listening
    case unbound =>
      rw [hk.stand, hk.localAddr]
      exact ho.unbound

theorem history_orderly (hd : s.drains) (hl : Life s h told n down) (ho : Orderly h) (cs : List Command) :
    Orderly (h.history cs).value.1 := by
  induction cs generalizing h told n down with
  | nil => exact ho
  | cons c cs ih =>
    obtain ⟨more, hc⟩ := obey_life hd hl c
    rw [history_cons]
    exact ih hc.life (obey_orderly hd hl ho c)

end Host

end ServiceHost
