/-
  ServiceHost.Proofs.Host.Closing — a stop is complete, and there is one.

  The first stop of a host closes the reloader it serves with, stops its scheduler, drains
  its listener, closes every service there is by then and announces itself, in this order
  and each once (`stopping`). The line of the listener comes to its end, breaks down or is
  cut off; its address is released however that is, before any service is closed. What
  closing a service reports is logged for that service and changes nothing else. Every
  later stop finds the host stopped and says so, and nothing but a stop releases an address
  or closes services (`stops_once`).
-/

import ServiceHost.Proofs.Host.Order

namespace ServiceHost

/-! ## What a stop does -/

def Effect.isCloseFailure : Effect → Bool
  | logged _ e => e.area = .shutdown && e.message = "Service close failed"
  | _ => false

namespace Host

def reloaderClosing (h : Host) : List Effect :=
  match h.phase.resources.1 with
  | some r =>
    (r.poller?.map (Tls.Reloader.pollerEnd reloaderSinks)).toList ++
      [.logged .injected ⟨.info, .reloader, "Keypair reloader closed", [("cert", .bare r.certPath)]⟩]
  | none => []

def schedulerStopping (h : Host) : List Effect :=
  h.scheduler.lines.map (Schedule.Scheduler.endEvent sinks) ++
    [.logged .injected ⟨.info, .scheduler, "Scheduler stopped", []⟩]

/-- The line of the listener comes to its end, in one of three ways; one that never came up is over. -/
def listenerDraining (h : Host) (env : Surroundings) : List Effect :=
  match h.phase.resources.2 with
  | none => []
  | some l =>
    match l.bound?, (h.settings.lineEnd env.parting).2 with
    | none, _ => [.logged .injected ⟨.info, .shutdown, "Listener drained", []⟩]
    | some addr, .regular =>
      [.released addr,
        .logged .injected
          ⟨.info, .startup, "Listener stopped", [("address", .bare l.addr.text), ("mode", .text l.mode.text)]⟩,
        .logged .injected ⟨.info, .shutdown, "Listener drained", []⟩]
    | some addr, .failed error =>
      [.released addr,
        .logged .injected ⟨.error, .shutdown, "Listener line ended abnormally", [("error", .bare error)]⟩]
    | some addr, .cutOff =>
      [.released addr,
        .logged .injected
          ⟨.warn, .shutdown, "Listener drain timed out", [("grace_secs", .nat h.settings.config.http.shutdownGraceSecs)]⟩]

/-- All that a stop does, with what is logged of services added meanwhile. -/
def stopping (h : Host) (env : Surroundings) (arrivals : Arrivals) : List Effect :=
  h.reloaderClosing ++ h.schedulerStopping ++ h.listenerDraining env ++
    (h.addServices (arrivals .beforeClosing)).effects ++ (h.closingList env arrivals).flatMap closing ++
    ((h.withServices (arrivals .beforeClosing)).addServices (arrivals .beforeEnd)).effects ++
    [h.settings.announcement (h.stoppedEvent (h.stopEnd env))]

def alreadyStopped : Effect := .logged .injected ⟨.debug, .shutdown, "Already stopped", []⟩

variable {s : Settings} {h h' : Host}

theorem effects_close {r : Tls.Reloader} (hr : r.isClosed = false) :
    (r.close reloaderSinks).effects =
      (r.poller?.map (Tls.Reloader.pollerEnd reloaderSinks)).toList ++
        [.logged .injected ⟨.info, .reloader, "Keypair reloader closed", [("cert", .bare r.certPath)]⟩] := by
  cases hp : r.poller? with
  | none => simp [Tls.Reloader.isClosed, hp] at hr
  | some line =>
    simp only [Tls.Reloader.close, hp]
    rfl

theorem effects_stop {scheduler : Schedule.Scheduler Duty} (now : Nat) (hs : scheduler ≠ .stopped) :
    (scheduler.stop now sinks).effects =
      scheduler.lines.map (Schedule.Scheduler.endEvent sinks) ++
        [.logged .injected ⟨.info, .scheduler, "Scheduler stopped", []⟩] := by
  cases scheduler with
  | stopped => exact absurd rfl hs
  | _ => rfl

theorem effects_drain {l : Net.Listener} (env : Surroundings) (hd : h.settings.drains)
    (hl : h.phase.resources.2 = some l) (hlaunched : l.Launched) :
    (drain l env.parting h.settings.config.http.shutdownGraceSecs).effects = h.listenerDraining env := by
  unfold Settings.drains at hd
  unfold Net.Listener.Launched at hlaunched
  simp only [drain, if_pos hd, Net.Listener.await, within_drainLimit, listenerDraining, hl]
  cases hb : l.bound? with
  | none =>
    rw [hb] at hlaunched
    simp [hlaunched, drainEvent]
  | some addr =>
    rw [hb] at hlaunched
    cases he : (h.settings.lineEnd env.parting).2 <;>
      simp [hlaunched, Net.Listener.finish, hb, drainEvent, Net.Listener.fields]

theorem effects_windDown (env : Surroundings) (hd : h.settings.drains) (ho : Orderly h) (hp : h.phase ≠ .stopped) :
    (h.windDown env).effects = h.reloaderClosing ++ h.schedulerStopping ++ h.listenerDraining env := by
  have hstop := effects_stop env.now (ho.scheduling fun hs => hp (stand_stopped hs))
  simp only [windDown, reloaderClosing, schedulerStopping]
  cases hphase : h.phase with
  | stopped => exact absurd hphase hp
  | new =>
    simp only [listenerDraining, hphase, Phase.resources, pure_bind, Run.effects_bind, Run.effects_pure,
      List.append_nil, hstop, List.nil_append]
  | started serving =>
    have hl : h.phase.resources.2 = some serving.listener := by rw [hphase]; rfl
    have hdrain := effects_drain env hd hl (ho.listening _ hl).1
    cases hr : serving.reloader? with
    | none =>
      simp only [Phase.resources, hr, Run.effects_bind, Run.effects_pure, List.append_nil, hstop, hdrain,
        List.nil_append, List.append_assoc]
    | some r =>
      -- a closed reloader would be passed over in silence
      have hopen : r.isClosed = false := ho.serving r (by rw [hphase]; exact hr)
      simp only [Phase.resources, hr, Run.effects_bind, Run.effects_pure, List.append_nil, hstop, hdrain,
        effects_close hopen, List.append_assoc]

def adding (name : String) (replaces late : Bool) : List Effect :=
  (if replaces then
    [.logged .ambient (Registry.replacedEvent name),
      .logged .injected ⟨.debug, .host, "Service replaced", [("service", .bare name)]⟩]
  else []) ++
  if late then
    [.logged .injected
      ⟨.warn, .host, "Service added after start; it will not receive requests", [("service", .bare name)]⟩]
  else []

theorem effects_addService (h : Host) (service : Service) :
    (h.addService service).effects =
      adding service.name (h.registry.get? service.name).isSome h.localAddr?.isSome := by
  simp only [addService, adding, Registry.add, Run.effects_bind]
  cases (h.registry.get? service.name).isSome <;> cases h.localAddr?.isSome <;> rfl

/-- What is logged of added services depends on the names there are, and on whether there is a listener. -/
theorem effects_addServices_congr {ss ss' : List Service}
    (hr : ∀ name, (h'.registry.get? name).isSome = (h.registry.get? name).isSome)
    (hl : h'.localAddr? = h.localAddr?) (hn : ss'.map (·.name) = ss.map (·.name)) :
    (h'.addServices ss').effects = (h.addServices ss).effects := by
  induction ss generalizing h h' ss' with
  | nil =>
    cases List.map_eq_nil_iff.1 hn
    rfl
  | cons service ss ih =>
    obtain ⟨service', ss', rfl, hname, hnames⟩ := List.map_eq_cons_iff.1 hn
    have hname : service'.name = service.name := hname
    have hfirst : (h'.addService service').effects = (h.addService service).effects := by
      rw [effects_addService, effects_addService, hname, hr, hl]
    have hrest : ((h'.addService service').value.addServices ss').effects =
        ((h.addService service).value.addServices ss).effects := by
      rw [value_addService, value_addService]
      refine ih (fun name => ?_) hl hnames
      by_cases he : name = service.name
      · rw [he, Registry.get?_put_self, ← hname, Registry.get?_put_self, Option.isSome_some, Option.isSome_some]
      · rw [Registry.get?_put_of_ne _ he, Registry.get?_put_of_ne _ (hname ▸ he), hr]
    change (h'.addService service').effects ++ _ = (h.addService service).effects ++ _
    rw [hfirst]
    exact congrArg _ hrest

/-- The first stop of an orderly host. -/
theorem stopAmid_first (env : Surroundings) (arrivals : Arrivals) (hd : h.settings.drains) (ho : Orderly h)
    (hp : h.phase ≠ .stopped) :
    h.stopAmid env arrivals =
      ⟨(h.wound.withServices (arrivals .beforeClosing ++ arrivals .beforeEnd), h.stopEnd env, .stopped),
        h.stopping env arrivals⟩ := by
  -- winding down changes neither the names there are nor the address, so the same is logged of arrivals
  have hfirst : (h.wound.addServices (arrivals .beforeClosing)).effects =
      (h.addServices (arrivals .beforeClosing)).effects := effects_addServices_congr (fun _ => rfl) rfl rfl
  have hsecond : ((h.wound.withServices (arrivals .beforeClosing)).addServices (arrivals .beforeEnd)).effects =
      ((h.withServices (arrivals .beforeClosing)).addServices (arrivals .beforeEnd)).effects :=
    effects_addServices_congr (fun _ => rfl) rfl rfl
  rw [stopAmid_open env arrivals hd hp, (concludeAmid_ends ..).1, effects_windDown env hd ho hp]
  refine congrArg (Run.mk _) ?_
  simp only [concludeAmid, Run.effects_bind, Run.effects_pure, (addServices_eq ..).1, hfirst, hsecond,
    effects_closeServices, effects_audit, stopping, List.append_nil, List.append_assoc]
  rfl

theorem obey_stop (h : Host) (env : Surroundings) (arrivals : Arrivals) :
    (h.obey (.stop env arrivals)).value.1.phase = .stopped := by
  simp only [obey, Run.value_map]
  exact stopAmid_phase h env arrivals

/-! ## What closing reports does not matter -/

end Host

/-- A service that reports something else when it is closed. -/
def Service.reporting (results : Service → Option CloseError) (s : Service) : Service :=
  { s with closeError? := results s }

def Registry.reporting (r : Registry) (results : Service → Option CloseError) : Registry :=
  ⟨r.services.map (·.reporting results)⟩

theorem Registry.get?_reporting (r : Registry) (results : Service → Option CloseError) (name : String) :
    (r.reporting results).get? name = (r.get? name).map (·.reporting results) :=
  r.get?_map (f := Service.reporting results) (fun _ => rfl) name

theorem Registry.put_reporting (r : Registry) (results : Service → Option CloseError) (s : Service) :
    (r.reporting results).put (s.reporting results) = (r.put s).reporting results :=
  congrArg Registry.mk (insert_map (f := Service.reporting results) (fun _ => rfl) s r.services)

namespace Host

variable {s : Settings} {h h' : Host}

/-- The host with services that report something else when they are closed. -/
def reporting (h : Host) (results : Service → Option CloseError) : Host :=
  { h with registry := h.registry.reporting results }

def Arrivals.reporting (arrivals : Arrivals) (results : Service → Option CloseError) : Arrivals :=
  fun m => (arrivals m).map (·.reporting results)

theorem withServices_reporting (h : Host) (results : Service → Option CloseError) (ss : List Service) :
    (h.reporting results).withServices (ss.map (·.reporting results)) = (h.withServices ss).reporting results := by
  induction ss generalizing h with
  | nil => rfl
  | cons service ss ih =>
    have hput : (h.reporting results).withServices [service.reporting results] =
        (h.withServices [service]).reporting results := by
      simp only [withServices, reporting, List.foldl_cons, List.foldl_nil, Registry.put_reporting]
    have hrest := ih (h.withServices [service])
    rw [← hput] at hrest
    simpa only [withServices_append, List.singleton_append, List.map_cons] using hrest

theorem closingList_reporting (h : Host) (results : Service → Option CloseError) (env : Surroundings)
    (arrivals : Arrivals) :
    (h.reporting results).closingList env (arrivals.reporting results) =
      (h.closingList env arrivals).map (·.reporting results) := by
  rw [closingList, Arrivals.reporting, withServices_reporting]
  exact Registry.Order.arrange_map (f := Service.reporting results) (fun _ => rfl) env.order _

theorem effects_addServices_reporting (h : Host) (results : Service → Option CloseError) (ss : List Service) :
    ((h.reporting results).addServices (ss.map (·.reporting results))).effects = (h.addServices ss).effects := by
  refine effects_addServices_congr (fun name => ?_) rfl ?_
  · simp only [reporting, Registry.get?_reporting, Option.isSome_map]
  · rw [List.map_map]
    rfl

theorem closing_reporting (results : Service → Option CloseError) (ss : List Service) :
    ((ss.map (·.reporting results)).flatMap closing).filter (!·.isCloseFailure) =
      (ss.flatMap closing).filter (!·.isCloseFailure) := by
  induction ss with
  | nil => rfl
  | cons service ss ih =>
    have hfirst : (closing (service.reporting results)).filter (!·.isCloseFailure) =
        (closing service).filter (!·.isCloseFailure) := by
      simp only [closing, Service.reporting]
      cases results service <;> cases service.closeError? <;> rfl
    rw [List.map_cons, List.flatMap_cons, List.flatMap_cons, List.filter_append, List.filter_append, hfirst, ih]

/-- What a stop does differs by what closing reports in the lines about that alone. -/
theorem stopping_reporting (h : Host) (results : Service → Option CloseError) (env : Surroundings)
    (arrivals : Arrivals) :
    ((h.reporting results).stopping env (arrivals.reporting results)).filter (!·.isCloseFailure) =
      (h.stopping env arrivals).filter (!·.isCloseFailure) := by
  have hfirst := effects_addServices_reporting h results (arrivals .beforeClosing)
  have hsecond := effects_addServices_reporting (h.withServices (arrivals .beforeClosing)) results (arrivals .beforeEnd)
  rw [← withServices_reporting] at hsecond
  simp only [stopping, List.filter_append, closingList_reporting, closing_reporting]
  simp only [Arrivals.reporting, hfirst, hsecond]
  rfl

theorem Orderly.reporting (ho : Orderly h) (results : Service → Option CloseError) :
    Orderly (h.reporting results) where
  sorted := by
    have hnames : (h.reporting results).registry.names = h.registry.names := List.map_map
    rw [Registry.Sorted, hnames]
    exact ho.sorted
  serving := ho.serving
  scheduling := ho.scheduling
  listening := ho.listening
  unbound := ho.unbound

theorem stopAmid_reporting (results : Service → Option CloseError) (env : Surroundings) (arrivals : Arrivals)
    (hd : h.settings.drains) (ho : Orderly h) (hp : h.phase ≠ .stopped) :
    let reported := (h.reporting results).stopAmid env (arrivals.reporting results)
    reported.value.2 = (h.stopAmid env arrivals).value.2 ∧
      reported.effects.filter (!·.isCloseFailure) =
        (h.stopAmid env arrivals).effects.filter (!·.isCloseFailure) := by
  intro reported
  have hreported : reported = _ :=
    stopAmid_first (h := h.reporting results) env (arrivals.reporting results) hd (ho.reporting results) hp
  rw [hreported, stopAmid_first env arrivals hd ho hp]
  exact ⟨rfl, stopping_reporting h results env arrivals⟩

/-! ## Before the first stop, and after it -/

variable {told : List AuditEvent} {n : Nat} {down : Bool}

/-- Nothing but a stop releases an address or closes services. -/
theorem obey_holds (hl : Life s h told n down) {c : Command} (hc : c.isStop = false) :
    Effect.releases (h.obey c).effects = [] ∧ Effect.closings (h.obey c).effects = [] := by
  have hquiet {es : List Effect} (hq : Effect.news es = []) : Effect.releases es = [] ∧ Effect.closings es = [] :=
    ⟨Effect.releases_of_news hq, Effect.closings_of_news hq⟩
  cases c with
  | stop env arrivals => cases hc
  | add service =>
    simp only [obey, Run.effects_map]
    exact hquiet (addService_quiet h service).news
  | wait env =>
    simp only [obey, Run.effects_map]
    exact hquiet (advance_kept h env).2.news
  | start env arrivals =>
    simp only [obey, Run.effects_map]
    by_cases hp : h.phase.stand = .new
    · rcases startAmid_cases env arrivals (stand_new hp) hl.arming with ⟨e, ss, hf⟩ | ⟨o, ss, hb⟩ | ⟨p, serving, hu⟩
      · exact hquiet hf.news
      · exact hquiet hb.news
      · rw [← Effect.releases_news, ← Effect.closings_news, hu.news]
        unfold escalated Settings.announcement
        split <;> split <;> exact ⟨rfl, rfl⟩
    · rw [startAmid_over env arrivals hp]
      exact hquiet rfl

theorem history_holds (hd : s.drains) (hl : Life s h told n down) {cs : List Command}
    (hc : cs.any Command.isStop = false) :
    Effect.releases (h.history cs).effects = [] ∧ Effect.closings (h.history cs).effects = [] := by
  induction cs generalizing h told n down with
  | nil => exact ⟨rfl, rfl⟩
  | cons c cs ih =>
    simp only [List.any_cons, Bool.or_eq_false_iff] at hc
    obtain ⟨more, hnext⟩ := obey_life hd hl c
    obtain ⟨hreleases, hclosings⟩ := obey_holds hl hc.1
    obtain ⟨hreleases', hclosings'⟩ := ih hnext.life hc.2
    rw [history_cons, Effect.releases_append, Effect.closings_append, hreleases, hreleases', hclosings, hclosings']
    exact ⟨rfl, rfl⟩

theorem Course.up {st : Stand} (hc : Course s st told n false) : st ≠ .stopped := by
  rintro rfl
  cases hc

theorem obey_stopped (hp : h.phase = .stopped) (c : Command) :
    (h.obey c).value.1.phase = .stopped ∧ Effect.news (h.obey c).effects = [] ∧
      (c.isStop = true → (h.obey c).effects = [alreadyStopped]) := by
  cases c with
  | stop env arrivals =>
    simp only [obey, Run.value_map, Run.effects_map, stopAmid, hp]
    exact ⟨hp, rfl, fun _ => rfl⟩
  | start env arrivals =>
    simp only [obey, Run.value_map, Run.effects_map]
    rw [startAmid_over env arrivals (by simp [hp, Phase.stand])]
    exact ⟨hp, rfl, fun hc => absurd hc Bool.false_ne_true⟩
  | add service =>
    simp only [obey, Run.value_map, Run.effects_map, value_addService]
    exact ⟨hp, (addService_quiet h service).news, fun hc => absurd hc Bool.false_ne_true⟩
  | wait env =>
    obtain ⟨hk, hq⟩ := advance_kept h env
    simp only [obey, Run.value_map, Run.effects_map]
    refine ⟨stand_stopped (hk.stand.trans ?_), hq.news, fun hc => absurd hc Bool.false_ne_true⟩
    rw [hp]
    rfl

def stopEffects (h : Host) : List Command → List Effect
  | [] => []
  | c :: cs => (if c.isStop then (h.obey c).effects else []) ++ (h.obey c).value.1.stopEffects cs

theorem history_stopped (hp : h.phase = .stopped) (cs : List Command) :
    (h.history cs).value.1.phase = .stopped ∧ Effect.news (h.history cs).effects = [] ∧
      h.stopEffects cs = List.replicate (cs.countP Command.isStop) alreadyStopped := by
  induction cs generalizing h with
  | nil => exact ⟨hp, rfl, rfl⟩
  | cons c cs ih =>
    obtain ⟨hstopped, hquiet, hstop⟩ := obey_stopped hp c
    obtain ⟨hstopped', hquiet', hstops⟩ := ih hstopped
    rw [history_cons]
    refine ⟨hstopped', ?_, ?_⟩
    · rw [Effect.news_append, hquiet, hquiet', List.nil_append]
    · rw [stopEffects, hstops, List.countP_cons]
      cases hc : c.isStop with
      | false => simp
      | true => simp [hstop hc, List.replicate_succ]

theorem stopEffects_append {cs : List Command} (hc : cs.any Command.isStop = false) (cs' : List Command) :
    h.stopEffects (cs ++ cs') = (h.history cs).value.1.stopEffects cs' := by
  induction cs generalizing h with
  | nil => rfl
  | cons c cs ih =>
    simp only [List.any_cons, Bool.or_eq_false_iff] at hc
    rw [List.cons_append, stopEffects, hc.1, history_cons]
    exact ih hc.2

/-! ## One stop -/

theorem unstopped (hd : s.drains) {before : List Command} (hb : before.any Command.isStop = false) :
    let h := ((made s {}).history before).value.1
    h.settings.drains ∧ Orderly h ∧ h.phase ≠ .stopped := by
  obtain ⟨told, hlife, -, -⟩ := history_life hd (made_life s {}) before
  rw [hb, Bool.or_false] at hlife
  refine ⟨by rwa [hlife.settings], history_orderly hd (made_life s {}) (made_orderly s) before, fun hs => ?_⟩
  exact hlife.course.up (congrArg Phase.stand hs)

theorem closings_first (env : Surroundings) (arrivals : Arrivals) (hd : h.settings.drains) (hp : h.phase ≠ .stopped) :
    Effect.closings (h.stopAmid env arrivals).effects =
      (h.closingList env arrivals).map fun a => (a.name, a.serial) := by
  have hannounced (e : AuditEvent) : Effect.closings [h.settings.announcement e] = [] := by
    unfold Settings.announcement
    split <;> rfl
  rw [← Effect.closings_news, news_stopAmid env arrivals hd hp, stopNews, Effect.closings_append,
    Effect.closings_append, (releases_marks h env).2, hannounced, List.append_nil, List.nil_append, Effect.closings,
    List.filterMap_map]
  exact congrFun List.filterMap_eq_map _

theorem releases_first (env : Surroundings) (arrivals : Arrivals) (hd : h.settings.drains) (ho : Orderly h)
    (hp : h.phase ≠ .stopped) : Effect.releases (h.stopAmid env arrivals).effects = h.localAddr?.toList := by
  have hclosed (ss : List Service) : Effect.releases (ss.map fun a => .closed a.name a.serial) = [] :=
    List.filterMap_eq_nil_iff.2 fun e he => by
      obtain ⟨service, -, rfl⟩ := List.mem_map.1 he
      rfl
  have hannounced (e : AuditEvent) : Effect.releases [h.settings.announcement e] = [] := by
    unfold Settings.announcement
    split <;> rfl
  rw [← Effect.releases_news, news_stopAmid env arrivals hd hp, stopNews, Effect.releases_append,
    Effect.releases_append, hclosed, hannounced, List.append_nil, List.append_nil, releases]
  cases hphase : h.phase with
  | stopped => exact absurd hphase hp
  | new =>
    rw [ho.unbound (by rw [hphase]; rfl)]
    rfl
  | started serving =>
    obtain ⟨hlaunched, haddr⟩ := ho.listening serving.listener (by rw [hphase]; rfl)
    unfold Net.Listener.Launched at hlaunched
    change Effect.releases (h.settings.releases serving.listener env.parting) = _
    rw [Settings.releases, haddr, hlaunched]
    cases serving.listener.bound? with
    | none => rfl
    | some addr =>
      rw [if_pos ⟨rfl, .inl hd⟩]
      rfl

/-- All that is released and closed in the life of a host its first stop releases and closes. -/
theorem marks_life (hd : s.drains) {before : List Command} (hb : before.any Command.isStop = false)
    (env : Surroundings) (arrivals : Arrivals) (after : List Command) :
    let h := ((made s {}).history before).value.1
    let life := (made s {}).history (before ++ .stop env arrivals :: after)
    Effect.releases life.effects = h.localAddr?.toList ∧
      Effect.closings life.effects = (h.closingList env arrivals).map fun a => (a.name, a.serial) := by
  intro h life
  obtain ⟨hdrains, ho, hp⟩ := unstopped hd hb
  obtain ⟨-, heffects⟩ := history_append (made s {}) before (.stop env arrivals :: after)
  obtain ⟨-, hquiet, -⟩ := history_stopped (obey_stop ((made s {}).history before).value.1 env arrivals) after
  obtain ⟨hreleases, hclosings⟩ := history_holds hd (made_life s {}) hb
  rw [show life.effects = _ from heffects, history_cons]
  simp only [Effect.releases_append, Effect.closings_append, Effect.releases_of_news hquiet,
    Effect.closings_of_news hquiet, hreleases, hclosings, List.nil_append, List.append_nil]
  simp only [obey, Run.effects_map]
  exact ⟨releases_first env arrivals hdrains ho hp, closings_first env arrivals hdrains hp⟩

variable (s) in
/-- What is true of the stops of a host, the first of which comes after `before`. -/
structure StoppedOnce (before : List Command) (env : Surroundings) (arrivals : Arrivals) (after : List Command)
    (h : Host) : Prop where
  /-- All stops together do what the first does, but for saying that the host is stopped. -/
  effects : (made s {}).stopEffects (before ++ .stop env arrivals :: after) =
    h.stopping env arrivals ++ List.replicate (after.countP Command.isStop) alreadyStopped
  /-- The first is over once the background tasks and the line of the listener are. -/
  outcome : (h.stopAmid env arrivals).value.2 = (h.stopEnd env, .stopped)
  /-- The address the host listens on is released, and no other ever. -/
  released : Effect.releases ((made s {}).history (before ++ .stop env arrivals :: after)).effects =
    h.localAddr?.toList
  /-- Every service there is then is closed, in some order, and no other ever. -/
  closed : Effect.closings ((made s {}).history (before ++ .stop env arrivals :: after)).effects =
    (h.closingList env arrivals).map fun a => (a.name, a.serial)
  complete : (h.closingList env arrivals).Perm (h.withServices (arrivals .beforeClosing)).registry.snapshot
  /-- No two of them have one name, so each is closed once. -/
  distinct : ((h.closingList env arrivals).map (·.name)).Nodup
  /-- What closing reports makes no difference to the stop but in the lines that report it. -/
  heedless : ∀ results : Service → Option CloseError,
    let reported := (h.reporting results).stopAmid env (arrivals.reporting results)
    reported.value.2 = (h.stopAmid env arrivals).value.2 ∧
      reported.effects.filter (!·.isCloseFailure) =
        (h.stopAmid env arrivals).effects.filter (!·.isCloseFailure)
  /-- Whatever comes after, one more stop changes nothing. -/
  spent : ∀ (env' : Surroundings) (arrivals' : Arrivals),
    let ended := ((made s {}).history (before ++ .stop env arrivals :: after)).value.1
    ended.stopAmid env' arrivals' = ⟨(ended, env'.now, .already), [alreadyStopped]⟩

/--
  A host is stopped once and completely. Whatever it is asked, in whatever order, if the
  time to wait for its connections is in range, and whatever becomes of the line of its
  listener: the first stop closes the reloader in use, stops the scheduler, drains the
  listener so that its address is released, closes every service registered by then once,
  and is announced last; no other stop does anything.
-/
theorem stops_once (s : Settings) (hd : s.drains) (before : List Command) (hb : before.any Command.isStop = false)
    (env : Surroundings) (arrivals : Arrivals) (after : List Command) :
    StoppedOnce s before env arrivals after ((made s {}).history before).value.1 := by
  obtain ⟨hdrains, ho, hp⟩ := unstopped hd hb
  have hfirst := stopAmid_first env arrivals hdrains ho hp
  obtain ⟨hstopped, -, hstops⟩ := history_stopped (obey_stop _ env arrivals) after
  constructor
  case effects =>
    rw [stopEffects_append hb, stopEffects, hstops]
    simp only [Command.isStop, if_true, obey, Run.effects_map, hfirst]
  case outcome => rw [hfirst]
  case released => exact (marks_life hd hb env arrivals after).1
  case closed => exact (marks_life hd hb env arrivals after).2
  case complete => exact Registry.listed_perm ..
  case distinct => exact (ho.withServices (arrivals .beforeClosing)).sorted.nodup_listed env.order
  case heedless => exact fun results => stopAmid_reporting results env arrivals hdrains ho hp
  case spent =>
    intro env' arrivals' ended
    have hphase : ended.phase = .stopped := by
      rw [show ended = _ from (history_append ..).1, history_cons]
      exact hstopped
    simp only [stopAmid, hphase]
    rfl

def brokenData : Service := { name := "data", serial := 1, closeError? := some (.close "disk gone") }

/-- The hub while connections stay open, with its services in another order. -/
def busy : Surroundings :=
  { vacantAt 5 with parting := .stays, order := fun name => if name = "data" then 1 else 0 }

/-- Three stops, the first while one of two services fails to close, and connections have to be cut off. -/
theorem stops_once_hub :
    plainHub.drains ∧
      StoppedOnce plainHub [.add brokenData, .add { name := "echo" }, .start vacant noArrivals] busy noArrivals
        [.stop (vacantAt 6) noArrivals, .stop (vacantAt 7) noArrivals]
        ((made plainHub {}).history [.add brokenData, .add { name := "echo" }, .start vacant noArrivals]).value.1 := by
  have hd : plainHub.drains := by
    unfold Settings.drains
    decide
  exact ⟨hd, stops_once plainHub hd _ rfl busy noArrivals _⟩

end Host

end ServiceHost
