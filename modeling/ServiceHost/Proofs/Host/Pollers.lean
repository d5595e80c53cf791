/-
  ServiceHost.Proofs.Host.Pollers — which keypair pollers are armed, and who holds them.

  A start arms a poller before the pipeline is built. If it fails it closes it again, and if
  it comes up it hands it to the host, whose stop closes it. A start that breaks off while
  routes are registered does neither. So whatever a host is asked, the armed pollers are the
  one that it holds while it is up, and one of every start that broke off (`Tally`). They
  are as they should be (`Tended`) if and only if no start broke off or there is no keypair
  to serve (`pollers_accounted`).
-/

import ServiceHost.Proofs.Host.Order
import ServiceHost.Proofs.Http.Dispatch
import ServiceHost.Proofs.Tls.Rotation

namespace ServiceHost.Host

open Effect (armings disarmings Quiet)

variable {s : Settings} {h h' : Host} {env : Surroundings} {arrivals : Arrivals}

/-! ## Starts that break off -/

/-- A start that broke off while routes were registered. -/
def Reply.isBroken : Reply → Bool
  | started (.error (.broken _)) => true
  | _ => false

def breaks (replies : List Reply) : Nat := replies.countP Reply.isBroken

theorem breaks_cons (reply : Reply) (replies : List Reply) :
    breaks (reply :: replies) = breaks [reply] + breaks replies :=
  @List.countP_append _ _ [reply] replies

variable (h env arrivals) in
/-- A new host that has come as far as the pipeline, with routes that cannot all be claimed. -/
structure BreaksOff : Prop where
  new : h.phase = .new
  faultless : StartStage.first? StartStage.early h.settings (h.registryAmid arrivals) env = none
  unclaimable : ¬ Http.Claimable (Http.routesOf (h.registryAmid arrivals).snapshot)

/-- The fault to break off is that of routes that cannot be claimed, if no stage before has one. -/
theorem fault_iff_breaksOff (hn : h.phase = .new) (ha : h.arming? = none) :
    (∃ o, StartStage.first? StartStage.all h.settings (h.registryAmid arrivals) env = some (.broken o)) ↔
      BreaksOff h env arrivals := by
  rcases prepare_cases (h := h) (h.registryAmid arrivals) env ha with ⟨e, hf, -⟩ | ⟨p, hf, hfits, -⟩
  · have hoff : ¬ BreaksOff h env arrivals := by
      intro hoff
      cases hf.symm.trans hoff.faultless
    refine iff_of_false ?_ hoff
    rw [StartStage.first?] at hf
    rw [StartStage.first?, StartStage.all, List.findSome?_append, hf]
    rintro ⟨o, ho⟩
    cases ho
  have hlistening (o : Option Tls.Reloader) :
      StartStage.fault? h.settings (h.registryAmid arrivals) env .listening ≠ some (.broken o) := by
    simp only [StartStage.fault?]
    split <;> simp
  have hoff : BreaksOff h env arrivals ↔
      Http.Pipeline.build (h.settings.pipeline p) ((h.registryAmid arrivals).listed env.order) .injected =
        .error .routes := by
    rw [Http.Pipeline.build_error_routes, Http.claimable_routesOf_perm (Registry.listed_perm ..)]
    exact ⟨fun hb => hb.unclaimable, fun hr => ⟨hn, hf, hr⟩⟩
  rw [first_all hf, hoff]
  rcases build_cases h.settings (r := h.registryAmid arrivals) hfits with ⟨e, hp, hb⟩ | ⟨hp, hb⟩ | ⟨ran, hp, hb⟩
  · rw [hp, hb]
    refine iff_of_false ?_ (by simp)
    rintro ⟨o, ho⟩
    cases ho
  · rw [hp, hb]
    exact iff_of_true ⟨_, Option.some_or⟩ rfl
  · rw [hp, hb, Option.none_or]
    refine iff_of_false ?_ (by simp)
    rintro ⟨o, ho⟩
    exact hlistening o ho

/-- That is when a start breaks off, and only then. -/
theorem breaks_off_iff (ha : h.arming? = none) :
    (∃ o, (h.startAmid env arrivals).value.2 = .error (.broken o)) ↔ BreaksOff h env arrivals := by
  by_cases hp : h.phase.stand = .new
  · have hn := stand_new hp
    rw [← fault_iff_breaksOff hn ha]
    rcases startAmid_cases env arrivals hn ha with ⟨e, ss, hf⟩ | ⟨o, ss, hb⟩ | ⟨p, serving, hu⟩
    · rw [hf.value, hf.fault]
      simp
    · exact iff_of_true ⟨o, by rw [hb.value]⟩ ⟨o, hb.fault⟩
    · rw [hu.value, hu.faultless]
      simp
  · rw [startAmid_over env arrivals hp]
    constructor
    · rintro ⟨o, ho⟩
      cases ho
    · intro hoff
      exact absurd (congrArg Phase.stand hoff.new) hp

/-! ## Time passes -/

theorem overOrphan_closed {f : Tls.Reloader → Run Tls.Reloader} (h : Host) (i : Nat)
    (hf : ∀ r, (f r).value.isClosed = r.isClosed) :
    (h.overOrphan i f).value.orphans.map (·.isClosed) = h.orphans.map (·.isClosed) := by
  unfold overOrphan
  split
  · next r hr =>
    simp only [Run.value_bind, Run.value_pure, List.map_set, hf]
    obtain ⟨hi, rfl⟩ := List.getElem?_eq_some_iff.1 hr
    rw [← List.getElem_map (f := fun r : Tls.Reloader => r.isClosed) (h := by simpa using hi), List.set_getElem_self]
  · rfl

theorem overReloader_orphans (h : Host) (f : Tls.Reloader → Run Tls.Reloader) :
    (h.overReloader f).value.orphans = h.orphans := by
  rcases overReloader_cases h f with heq | ⟨serving, r, -, -, heq⟩ <;> rw [heq] <;> rfl

/-- While time passes the reloaders nobody holds stay as they are: armed, or closed. -/
theorem advance_orphans (h : Host) (env : Surroundings) :
    (h.advance env).value.orphans.map (·.isClosed) = h.orphans.map (·.isClosed) := by
  have hattend (h : Host) (a : Appointment) :
      (attend env h a).value.orphans.map (·.isClosed) = h.orphans.map (·.isClosed) := by
    unfold attend
    cases a.errand with
    | poll => rw [overReloader_orphans]
    | orphanPoll i => exact overOrphan_closed h i fun r => Tls.Reloader.poll_closed ..
    | task t =>
      simp only [Run.value_bind, perform]
      cases t.job with
      | certExpiry => rw [overReloader_orphans]
      | heartbeat => rfl
  have hall (as : List Appointment) (h : Host) :
      (as.foldlM (attend env) h).value.orphans.map (·.isClosed) = h.orphans.map (·.isClosed) := by
    induction as generalizing h with
    | nil => rfl
    | cons a as ih => exact (ih (attend env h a).value).trans (hattend h a)
  have hpolls : (h.pollerTicks env.now).2.orphans = h.orphans := by
    rcases pollerTicks_cases h env.now with heq | ⟨serving, r, -, -, heq⟩ <;> rw [heq]
  have hticks : (h.appointments env.now).2.orphans.map (·.isClosed) = h.orphans.map (·.isClosed) := by
    simp only [appointments, taskTicks, orphanTicks, hpolls, List.map_map]
    exact List.map_congr_left fun r _ => Tls.Reloader.ticks_closed r env.now
  exact (hall _ _).trans hticks

/-! ## Stops -/

theorem closing_pollers (ss : List Service) :
    armings (ss.flatMap closing) = 0 ∧ disarmings (ss.flatMap closing) = 0 := by
  induction ss with
  | nil => exact ⟨rfl, rfl⟩
  | cons s ss ih =>
    rw [List.flatMap_cons, Effect.armings_append, Effect.disarmings_append, ih.1, ih.2, closing]
    cases s.closeError? <;> exact ⟨rfl, rfl⟩

theorem concludeAmid_pollers (h : Host) (env : Surroundings) (now : Nat) (arrivals : Arrivals) :
    armings (h.concludeAmid env now arrivals).effects = 0 ∧
      disarmings (h.concludeAmid env now arrivals).effects = 0 := by
  obtain ⟨-, hq⟩ := addServices_eq h (arrivals .beforeClosing)
  obtain ⟨-, hq'⟩ := addServices_eq (h.addServices (arrivals .beforeClosing)).value (arrivals .beforeEnd)
  simp only [concludeAmid, Run.effects_bind, Run.effects_pure, Effect.armings_append, Effect.disarmings_append,
    effects_closeServices, hq.armings, hq.disarmings, hq'.armings, hq'.disarmings, (closing_pollers _).1,
    (closing_pollers _).2, (audit_marks ..).2.1, (audit_marks ..).2.2]
  exact ⟨rfl, rfl⟩

theorem finish_pollers (l : Net.Listener) (ending : Net.Ending) :
    armings (l.finish ending).effects = 0 ∧ disarmings (l.finish ending).effects = 0 := by
  unfold Net.Listener.finish
  cases l.bound? <;> by_cases he : ending = .regular <;> simp only [he] <;> exact ⟨rfl, rfl⟩

theorem drain_pollers (l : Net.Listener) (parting : Net.Parting) (graceSecs : Nat) :
    armings (drain l parting graceSecs).effects = 0 ∧ disarmings (drain l parting graceSecs).effects = 0 := by
  have hquiet (ending? : Option Net.Ending) :
      Quiet (ending?.toList.map fun ending => .logged .injected (drainEvent graceSecs ending)) := by
    cases ending? with
    | none => exact Effect.quiet_nil
    | some ending => cases ending <;> exact Effect.quiet_cons.2 ⟨rfl, Effect.quiet_nil⟩
  have hfinish (ending : Net.Ending) := finish_pollers l ending
  unfold drain
  split
  · simp only [Net.Listener.await, Run.effects_bind, Run.effects_pure, Run.effects_tellAll, List.append_nil,
      Effect.armings_append, Effect.disarmings_append, (hquiet _).armings, (hquiet _).disarmings, Nat.add_zero]
    split
    · exact ⟨rfl, rfl⟩
    · simpa only [Run.effects_bind, Run.effects_pure, List.append_nil] using hfinish _
  · simp only [Net.Listener.abandon, Run.effects_bind, Run.effects_pure, List.append_nil]
    split
    · exact hfinish _
    · exact ⟨rfl, rfl⟩

theorem windDown_pollers (env : Surroundings) (ho : ∀ r, h.phase.resources.1 = some r → r.isClosed = false) :
    armings (h.windDown env).effects = 0 ∧
      disarmings (h.windDown env).effects = h.phase.resources.1.toList.length := by
  have hstop : Quiet (h.scheduler.stop env.now sinks).effects := (Schedule.Scheduler.stop_remarks _ _ .injected).quiet
  unfold windDown
  cases hp : h.phase with
  | started serving =>
    have hdrain := drain_pollers serving.listener env.parting h.settings.config.http.shutdownGraceSecs
    cases hr : serving.reloader? with
    | none =>
      simp [Phase.resources, hr, hstop.armings, hstop.disarmings, hdrain]
    | some r =>
      obtain ⟨-, hup, hdown⟩ := Tls.Reloader.close_disarms reloaderSinks (ho r (by rw [hp]; exact hr))
      simp [Phase.resources, hr, hstop.armings, hstop.disarmings, hdrain, hup, hdown]
  | _ => simp [Phase.resources, hstop.armings, hstop.disarmings]

/-- Once a host is wound down no poller comes or goes. -/
theorem stopAmid_pollers (env : Surroundings) (arrivals : Arrivals) (hp : h.phase ≠ .stopped) :
    armings (h.stopAmid env arrivals).effects = armings (h.windDown env).effects ∧
      disarmings (h.stopAmid env arrivals).effects = disarmings (h.windDown env).effects := by
  unfold stopAmid
  split
  · next hs => exact absurd hs hp
  · simp only [Run.effects_bind, Effect.armings_append, Effect.disarmings_append]
    split
    · obtain ⟨hup, hdown⟩ := concludeAmid_pollers (h.windDown env).value.1 env (h.windDown env).value.2.1 arrivals
      rw [hup, hdown]
      exact ⟨rfl, rfl⟩
    · exact ⟨rfl, rfl⟩

/-! ## The pollers of a host -/

variable (s) in
/-- The invariant: of `es` the pollers still armed are the one held and those of the `n` starts that broke off. -/
structure Tally (h : Host) (es : List Effect) (n : Nat) : Prop where
  settings : h.settings = s
  arming : h.arming? = none
  held : ∀ r, h.phase.resources.1 = some r → r.isClosed = false
  orphans : ∀ r ∈ h.orphans, r.isClosed = false
  lost : h.orphans.length = if s.tls?.isSome then n else 0
  pollers : armings es = disarmings es + h.phase.resources.1.toList.length + h.orphans.length

variable {es : List Effect} {n : Nat}

theorem made_tally (s : Settings) (r : Registry) : Tally s (made s r) [] 0 where
  settings := rfl
  arming := rfl
  held _ hr := by cases hr
  orphans := List.forall_mem_nil _
  lost := (ite_self 0).symm
  pollers := rfl

/-- What neither arms nor closes a poller, nor changes who holds one, keeps the tally. -/
theorem Tally.quiet {es' : List Effect} (ht : Tally s h es n) (hk : Kept h h')
    (hres : h'.phase.resources.1.map (·.isClosed) = h.phase.resources.1.map (·.isClosed))
    (horphans : h'.orphans.map (·.isClosed) = h.orphans.map (·.isClosed)) (hq : Quiet es') :
    Tally s h' (es ++ es') n := by
  have hlength : h'.orphans.length = h.orphans.length := by simpa using congrArg List.length horphans
  refine ⟨hk.settings.trans ht.settings, hk.arming.trans ht.arming, open_of_alike hres ht.held, ?_, ?_, ?_⟩
  · intro r hr
    have hmem : r.isClosed ∈ h.orphans.map (·.isClosed) := horphans ▸ List.mem_map_of_mem hr
    obtain ⟨r', hr', heq⟩ := List.mem_map.1 hmem
    exact heq.symm.trans (ht.orphans r' hr')
  · rw [hlength]
    exact ht.lost
  · rw [Effect.armings_append, Effect.disarmings_append, hq.armings, hq.disarmings, hlength, length_of_alike hres]
    have hp := ht.pollers
    omega

/-- With a keypair to serve a start arms one poller, and none without. -/
theorem Prepared.Fits.one {p : Prepared} (hp : p.Fits s env) :
    p.reloader?.toList.length = if s.tls?.isSome then 1 else 0 := by
  unfold Prepared.reloader?
  rcases hp.cases with ⟨hs, ht⟩ | ⟨t, x, hs, ht, -⟩ <;> rw [hs, ht] <;> rfl

section

variable {ran : Run (Host × Except StartFailure Unit)} {ss : List Service}

theorem Failed.tally {e : StartError} (hf : Failed h env arrivals ran e ss) (ht : Tally s h es n) :
    Tally s ran.value.1 (es ++ ran.effects) n := by
  have hp := ht.pollers
  rw [hf.value]
  refine ⟨ht.settings, ht.arming, ht.held, ht.orphans, ht.lost, ?_⟩
  rw [Effect.armings_append, Effect.disarmings_append, hf.pollers]
  simp only [withServices]
  omega

theorem Broke.tally {o : Option Tls.Reloader} (hb : Broke h env arrivals ran o ss) (ht : Tally s h es n) :
    Tally s ran.value.1 (es ++ ran.effects) (n + 1) := by
  have hp := ht.pollers
  have hlost := ht.lost
  obtain ⟨p, hfits, rfl⟩ := hb.prepared
  have hone := hfits.one
  rw [ht.settings] at hone
  have hopen : ∀ r ∈ p.reloader?.toList, r.isClosed = false := by
    intro r hr
    exact hfits.reloader_open (Option.mem_toList.1 hr)
  rw [hb.value]
  refine ⟨ht.settings, ht.arming, ht.held, List.forall_mem_append.2 ⟨ht.orphans, hopen⟩, ?_, ?_⟩
  · show (h.orphans ++ p.reloader?.toList).length = if s.tls?.isSome then n + 1 else 0
    rw [List.length_append, hone, hlost]
    split <;> rfl
  · rw [Effect.armings_append, Effect.disarmings_append, hb.pollers]
    simp only [withServices, List.length_append]
    omega

theorem CameUp.tally {p : Prepared} {serving : Serving} (hu : CameUp h env arrivals ran p serving ss)
    (hn : h.phase = .new) (ht : Tally s h es n) : Tally s ran.value.1 (es ++ ran.effects) n := by
  have hp := ht.pollers
  have hnone : h.phase.resources.1 = none := by
    rw [hn]
    rfl
  rw [hnone, Option.toList_none, List.length_nil] at hp
  have hopen := open_of_alike hu.alike fun r hr => hu.fits.reloader_open hr
  have hlength := length_of_alike hu.alike
  rw [hu.value]
  refine ⟨ht.settings, ht.arming, hopen, ht.orphans, ht.lost, ?_⟩
  rw [Effect.armings_append, Effect.disarmings_append, hu.pollers, ← hlength]
  simp only [up, withServices, Phase.resources]
  omega

end

theorem start_tally (env : Surroundings) (arrivals : Arrivals) (ht : Tally s h es n) :
    Tally s (h.obey (.start env arrivals)).value.1 (es ++ (h.obey (.start env arrivals)).effects)
      (n + breaks [(h.obey (.start env arrivals)).value.2]) := by
  simp only [obey, Run.value_map, Run.effects_map]
  by_cases hn : h.phase.stand = .new
  · rcases startAmid_cases env arrivals (stand_new hn) ht.arming with ⟨e, ss, hf⟩ | ⟨o, ss, hb⟩ | ⟨p, serving, hu⟩
    · rw [show (h.startAmid env arrivals).value.2 = _ from congrArg Prod.snd hf.value]
      exact hf.tally ht
    · rw [show (h.startAmid env arrivals).value.2 = _ from congrArg Prod.snd hb.value]
      exact hb.tally ht
    · rw [show (h.startAmid env arrivals).value.2 = _ from congrArg Prod.snd hu.value]
      exact hu.tally (stand_new hn) ht
  · rw [startAmid_over env arrivals hn, List.append_nil]
    exact ht

theorem stop_tally (env : Surroundings) (arrivals : Arrivals) (ht : Tally s h es n) :
    Tally s (h.obey (.stop env arrivals)).value.1 (es ++ (h.obey (.stop env arrivals)).effects) n := by
  simp only [obey, Run.value_map, Run.effects_map]
  by_cases hp : h.phase = .stopped
  · rw [(stopAmid_stopped env arrivals hp).1]
    refine ht.quiet (.refl h) rfl rfl ?_
    simp only [stopAmid, hp]
    simp
  · obtain ⟨ss, hvalue, -⟩ := stopAmid_wound env arrivals hp
    obtain ⟨hup, hdown⟩ := stopAmid_pollers env arrivals hp
    obtain ⟨hup', hdown'⟩ := windDown_pollers env ht.held
    rw [hvalue]
    have hnone : ∀ r, (h.wound.withServices ss).phase.resources.1 = some r → r.isClosed = false := by
      intro r hr
      cases hr
    refine ⟨ht.settings, ht.arming, hnone, ht.orphans, ht.lost, ?_⟩
    have hpollers := ht.pollers
    have hnothing : (h.wound.withServices ss).phase.resources.1.toList.length = 0 := rfl
    have hsame : (h.wound.withServices ss).orphans = h.orphans := rfl
    rw [Effect.armings_append, Effect.disarmings_append, hup, hdown, hup', hdown', hnothing, hsame]
    omega

/-- Every command keeps the tally; a start that breaks off adds to those lost. -/
theorem obey_tally (ht : Tally s h es n) (c : Command) :
    Tally s (h.obey c).value.1 (es ++ (h.obey c).effects) (n + breaks [(h.obey c).value.2]) := by
  cases c with
  | start env arrivals => exact start_tally env arrivals ht
  | stop env arrivals => exact stop_tally env arrivals ht
  | add service =>
    have hquiet := addService_quiet h service
    simp only [obey, Run.value_map, Run.effects_map]
    refine ht.quiet (.addService h service) ?_ ?_ hquiet <;> rw [value_addService]
  | wait env =>
    obtain ⟨hk, hquiet⟩ := advance_kept h env
    simp only [obey, Run.value_map, Run.effects_map]
    exact ht.quiet hk (advance_steady h env).reloader (advance_orphans h env) hquiet

theorem history_tally (ht : Tally s h es n) (cs : List Command) :
    Tally s (h.history cs).value.1 (es ++ (h.history cs).effects) (n + breaks (h.history cs).value.2) := by
  induction cs generalizing h es n with
  | nil =>
    rw [history, Run.effects_pure, List.append_nil]
    exact ht
  | cons c cs ih =>
    rw [history_cons, ← List.append_assoc, breaks_cons, ← Nat.add_assoc]
    exact ih (obey_tally ht c)

/-! ## How many are armed, and by whom -/

/-- At most one poller is armed, and it is the one that a started host holds. -/
structure Tended (h : Host) : Prop where
  one : h.armed.length ≤ 1
  held : ∀ r ∈ h.armed, ∃ serving, h.phase = .started serving ∧ serving.reloader? = some r
  unused : h.phase.stand ≠ .started → h.armed = []

theorem Tally.armed (ht : Tally s h es n) : h.armed = h.phase.resources.1.toList ++ h.orphans := by
  have hopen : ∀ r ∈ h.phase.resources.1.toList ++ h.orphans, (!r.isClosed) = true := by
    refine List.forall_mem_append.2 ⟨fun r hr => ?_, fun r hr => ?_⟩
    · rw [ht.held r (Option.mem_toList.1 hr)]
      rfl
    · rw [ht.orphans r hr]
      rfl
  rw [← List.filter_eq_self.2 hopen, Host.armed, ht.arming, Option.toList_none, List.append_nil]
  cases h.phase <;> rfl

theorem Tally.tended_iff (ht : Tally s h es n) : Tended h ↔ h.orphans = [] := by
  have harmed := ht.armed
  constructor
  · intro hd
    cases ho : h.orphans with
    | nil => rfl
    | cons r rs =>
      -- an orphan that is armed would be the one held, and then there would be two
      obtain ⟨serving, hp, hr⟩ := hd.held r (by rw [harmed, ho]; simp)
      have hone := hd.one
      rw [harmed, ho, hp] at hone
      simp only [Phase.resources, hr, Option.toList_some, List.length_append, List.length_cons, List.length_nil] at hone
      omega
  · intro ho
    rw [ho, List.append_nil] at harmed
    cases hp : h.phase with
    | started serving =>
      rw [hp] at harmed
      change h.armed = serving.reloader?.toList at harmed
      refine ⟨?_, fun r hr => ⟨serving, hp, Option.mem_toList.1 (harmed ▸ hr)⟩, fun hne => absurd rfl (hp ▸ hne)⟩
      rw [harmed]
      cases serving.reloader? <;> simp
    | _ =>
      rw [hp] at harmed
      have hnil : h.armed = [] := harmed
      exact ⟨by simp [hnil], by simp [hnil], fun _ => hnil⟩

variable (s) in
/-- What is true of the pollers of a host after a history, however its commands came out. -/
structure Accounted (ran : Run (Host × List Reply)) : Prop where
  /-- Armed are the poller that the host holds while it is up, and those of starts that broke off. -/
  armed : ran.value.1.armed = ran.value.1.phase.resources.1.toList ++ ran.value.1.orphans
  /-- Each start that broke off left one, if there is a keypair to serve. -/
  lost : ran.value.1.orphans.length = if s.tls?.isSome then breaks ran.value.2 else 0
  /-- All others were closed. -/
  closed : armings ran.effects = disarmings ran.effects + ran.value.1.armed.length
  tended : Tended ran.value.1 ↔ s.tls? = none ∨ breaks ran.value.2 = 0
  /-- The next start breaks off if it comes to routes that cannot all be claimed. -/
  next : ∀ env arrivals, (∃ o, (ran.value.1.startAmid env arrivals).value.2 = .error (.broken o)) ↔
    BreaksOff ran.value.1 env arrivals

/--
  Whatever a host is asked, in whatever order: all pollers that were armed are closed, but
  for the one it holds while it is up and those of the starts that broke off while routes
  were registered. So there is at most one, held by the started host, exactly if none broke
  off or there is no keypair to serve.
-/
theorem pollers_accounted (s : Settings) (r : Registry) (cs : List Command) : Accounted s ((made s r).history cs) := by
  have ht := history_tally (made_tally s r) cs
  rw [List.nil_append, Nat.zero_add] at ht
  refine ⟨ht.armed, ht.lost, ?_, ?_, fun env arrivals => breaks_off_iff ht.arming⟩
  · rw [ht.armed, List.length_append, ← Nat.add_assoc]
    exact ht.pollers
  · rw [ht.tended_iff, ← List.length_eq_zero_iff, ht.lost]
    cases s.tls? <;> simp

namespace Clash

def service (name : String) : Service :=
  { name, routes := [⟨"/v1/data", .only "GET", { answer := fun _ => pure { status := 200 } }⟩] }

def hub : Settings :=
  { config := { tls := some { certFile := "cert", keyFile := "key" } }, role := "hub", contextId := "id-1" }

def machine : Surroundings := { vacant with files := Tls.SlowReload.files }

/-- Two services with one route between them, and two starts. -/
def commands : List Command :=
  [.add (service "data"), .add (service "echo"), .start machine noArrivals, .start machine noArrivals]

end Clash

open Clash in
/-- Two starts break off and leave a poller each to a host that is as new, and is no better off for a stop. -/
theorem clash_untended :
    hub.tls?.isSome = true ∧
      ((made hub {}).history commands).value.1.phase.stand = .new ∧
      ((made hub {}).history commands).value.1.armed.length = 2 ∧
      ((made hub {}).history (commands ++ [.stop (vacantAt 5) noArrivals])).value.1.phase.stand = .stopped ∧
      ((made hub {}).history (commands ++ [.stop (vacantAt 5) noArrivals])).value.1.armed.length = 2 := by
  decide +kernel

end ServiceHost.Host
