/-
  ServiceHost.Proofs.Host.Telling — what the parts of a start and of a stop do besides their work.

  Almost all of them only log, and to the host's own logger (`Effect.Logs`). So whatever is
  to be known of each of their effects, if it holds of such events, it holds of the stages
  (`Stage.Tells`) and of a stop (`stopAmid_tells`). The exceptions are the listener, which
  can report a fatal error and releases its address, the pipeline, whose authorizer is the
  embedder's, the services, which are closed, and audit events.
-/

import ServiceHost.Proofs.Host.Life

namespace ServiceHost

open Effect (Logs)

/-! ## The parts of a start -/

namespace Tls

variable {keys : KeyProvider} {fs : Files} {sink : Log.Sink}

theorem Reloader.arm_logs {cert key : String} {interval now : Nat} {ran : Run Reloader}
    (hr : arm keys fs cert key interval now sink = .ok ran) : Logs sink ran.effects := by
  obtain ⟨-, fields, he⟩ := arm_tells hr
  simp [he]

theorem Reloader.close_logs (r : Reloader) (sink : Log.Sink) : Logs sink (r.close ⟨sink, sink⟩).effects := by
  unfold close pollerEnd
  split
  · exact Effect.logs_nil
  · split <;> simp

end Tls

/-! ## Stages -/

namespace Stage

variable {α β ε : Type} {s : Host.Settings} {p : Effect → Bool} {x : Stage α} {f : α → Stage β}

/-- On a host with these settings the part leaves them, and each of its effects is as `p` says. -/
def Tells (p : Effect → Bool) (s : Host.Settings) (x : Stage α) : Prop :=
  ∀ h : Host, h.settings = s → (x.exec h).effects.all p = true ∧ (x.exec h).value.2.settings = s

theorem tells_pure (a : α) : (pure a : Stage α).Tells p s := fun _ hs => ⟨rfl, hs⟩

theorem tells_throw (e : StartFailure) : (throw e : Stage α).Tells p s := fun _ hs => ⟨rfl, hs⟩

theorem tells_modify {g : Host → Host} (hg : ∀ h, (g h).settings = h.settings) :
    (modify g : Stage Unit).Tells p s :=
  fun h hs => ⟨rfl, (hg h).trans hs⟩

theorem tells_liftRun {ran : Run α} (hr : ran.effects.all p = true) : (liftM ran : Stage α).Tells p s := by
  intro h hs
  rw [exec_liftRun]
  exact ⟨hr, hs⟩

theorem tells_lift {y : StateT Host Run α}
    (hy : ∀ h, h.settings = s → (y h).effects.all p = true ∧ (y h).value.2.settings = s) :
    (liftM y : Stage α).Tells p s := by
  intro h hs
  rw [exec_lift]
  exact hy h hs

theorem tells_get {f : Host → Stage β} (hf : ∀ h, h.settings = s → (f h).Tells p s) :
    ((get : Stage Host) >>= f).Tells p s :=
  fun h hs => hf h hs h hs

theorem Tells.bind (hx : x.Tells p s) (hf : ∀ a, (f a).Tells p s) : (x >>= f).Tells p s := by
  intro h hs
  obtain ⟨htold, hsettings⟩ := hx h hs
  cases hv : (x.exec h).value with
  | mk outcome h' =>
    rw [hv] at hsettings
    cases outcome with
    | error e =>
      rw [exec_bind_error hv]
      exact ⟨htold, hsettings⟩
    | ok a =>
      obtain ⟨htold', hsettings'⟩ := hf a h' hsettings
      rw [exec_bind_ok hv, List.all_append, htold, htold']
      exact ⟨rfl, hsettings'⟩

theorem tells_ofExcept {wrap : ε → StartError} {y : Except ε (Run α)}
    (hy : ∀ ran, y = .ok ran → ran.effects.all p = true) : (ofExcept wrap y).Tells p s := by
  cases y with
  | error e => exact tells_throw _
  | ok ran => exact tells_liftRun (hy ran rfl)

end Stage

namespace Host

open Stage

variable {s : Settings} {p : Effect → Bool}

section

/-! What holds of events for the host's own logger holds of the stages. -/
variable (hp : ∀ e, p (.logged .injected e) = true)
include hp

theorem closeReloader_tells (r? : Option Tls.Reloader) : (liftM (closeReloader r?) : Stage Unit).Tells p s := by
  refine tells_lift fun h hs => ?_
  cases r? with
  | none => exact ⟨rfl, hs⟩
  | some r =>
    have he : (closeReloader (some r) h).effects = (r.close reloaderSinks).effects :=
      (List.append_nil _).trans (List.append_nil _)
    rw [he]
    exact ⟨(r.close_logs .injected).all hp, hs⟩

theorem secure_tells (t : Config.TlsConfig) (env : Surroundings) : (secure t env).Tells p s := by
  refine (tells_ofExcept fun ran hr => (Tls.Reloader.arm_logs hr).all hp).bind fun reloader => ?_
  have hkept : (modify fun h => { h with arming? := some reloader } : Stage Unit).Tells p s := tells_modify fun _ => rfl
  refine hkept.bind fun _ => ?_
  split
  · exact (closeReloader_tells hp _).bind fun _ => tells_throw _
  · next ran hm =>
    refine (tells_liftRun ((Tls.Serving.make_remarks hm).logs.all hp)).bind fun serving => ?_
    exact (tells_liftRun (by simp [hp])).bind fun _ => tells_pure _

theorem prepare_tells (env : Surroundings) : (prepare env).Tells p s := by
  refine tells_get fun h _ => ?_
  have hvalidate : (validate h.settings.config).Tells p s := by
    unfold validate
    split
    · exact tells_pure _
    · exact tells_throw _
  have hresolve : (resolve h.settings.config.http env).Tells p s := by
    refine tells_ofExcept fun ran hr => ?_
    cases ha : env.resolve h.settings.config.http.bindAddr with
    | error e => simp [ha, Except.map] at hr
    | ok addr =>
      simp only [ha, Except.map, Except.ok.injEq] at hr
      subst hr
      rfl
  have hprofiler : (prepareProfiler h.settings.config.http env).Tells p s := by
    unfold prepareProfiler
    split
    · exact (tells_ofExcept fun ran hr => (Http.Profiler.start_remarks hr).logs.all hp).bind fun _ => tells_pure _
    · exact tells_pure _
  have htls : (prepareTls h.settings.tls? env).Tells p s := by
    unfold prepareTls
    split
    · exact (secure_tells hp _ env).bind fun _ => tells_pure _
    · exact tells_pure _
  exact hvalidate.bind fun _ => hresolve.bind fun _ => hprofiler.bind fun _ => htls.bind fun _ => tells_pure _

theorem buildPipeline_tells {env : Surroundings} {prepared : Prepared}
    (hb : ∀ r ran, Http.Pipeline.build (s.pipeline prepared) r .injected = .ok ran → ran.effects.all p = true) :
    (buildPipeline env prepared).Tells p s := by
  refine tells_get fun h hs => ?_
  split
  · next ran hran => exact tells_liftRun (hb _ ran (hs ▸ hran))
  · exact tells_throw _
  · exact (closeReloader_tells hp _).bind fun _ => tells_throw _

theorem listen_tells (hf : ∀ e, p (.failed e) = true) (env : Surroundings) (prepared : Prepared) :
    (listen env prepared).Tells p s := by
  refine tells_get fun h _ => ?_
  have hlaunch :
      (Net.Listener.launch env.bind prepared.addr prepared.mode h.settings.fatalHandler).effects.all p = true := by
    unfold Net.Listener.launch Net.Listener.escalate
    cases env.bind prepared.addr with
    | ok bound => simp [hp]
    | error e => cases e <;> cases h.settings.fatalHandler <;> simp [hp, hf]
  have hsettle (l : Net.Listener) : (settle prepared h.settings.fatalHandler l).Tells p s := by
    unfold settle
    split
    · exact tells_modify fun _ => rfl
    · split
      · exact tells_liftRun (by simp [hp])
      · exact (closeReloader_tells hp _).bind fun _ => tells_throw _
  exact (tells_liftRun hlaunch).bind fun l => (hsettle l).bind fun _ => tells_pure _

theorem audit_tells (ha : ∀ e, p (.audited e) = true) (h : Host) (e : AuditEvent) :
    (h.audit e).effects.all p = true := by
  rw [effects_audit, Settings.announcement]
  split <;> simp [hp, ha]

end

/-! ## A stop -/

section

variable (hp : ∀ e, p (.logged .injected e) = true) (hr : ∀ addr, p (.released addr) = true)
include hp hr

theorem drain_tells (l : Net.Listener) (parting : Net.Parting) (graceSecs : Nat) :
    (drain l parting graceSecs).effects.all p = true := by
  have hfinish (ending : Net.Ending) : (l.finish ending).effects.all p = true := by
    unfold Net.Listener.finish
    cases l.bound? <;> by_cases he : ending = .regular <;> simp [he, hp, hr]
  unfold drain
  split
  · have hawait (limit : Nat) : (l.await parting limit).effects.all p = true := by
      unfold Net.Listener.await
      split
      · rfl
      · simp [hfinish]
    simp [hawait, hp]
  · have habandon : (l.abandon parting).effects.all p = true := by
      unfold Net.Listener.abandon
      split
      · exact hfinish _
      · rfl
    simp [habandon]

theorem windDown_tells (h : Host) (env : Surroundings) : (h.windDown env).effects.all p = true := by
  have hstop : (h.scheduler.stop env.now sinks).effects.all p = true :=
    (Schedule.Scheduler.stop_remarks h.scheduler env.now .injected).logs.all hp
  unfold windDown
  cases h.phase with
  | started serving =>
    have hdrain := drain_tells hp hr serving.listener env.parting h.settings.config.http.shutdownGraceSecs
    cases hl : serving.reloader? with
    | none => simp [Phase.resources, hl, hstop, hdrain]
    | some r =>
      have hclose : (r.close reloaderSinks).effects.all p = true := (r.close_logs .injected).all hp
      simp [Phase.resources, hl, hstop, hdrain, hclose]
  | _ => simp [Phase.resources, hstop]

/-- A stop, which also closes services and is audited, and what comes of services that are added meanwhile. -/
theorem stopAmid_tells (ha : ∀ e, p (.audited e) = true) (hc : ∀ name serial, p (.closed name serial) = true)
    (h : Host) (env : Surroundings) {arrivals : Arrivals}
    (hadded : ∀ (h : Host) (moment : Moment), (h.addServices (arrivals moment)).effects.all p = true) :
    (h.stopAmid env arrivals).effects.all p = true := by
  have hclosing (ss : List Service) : (closeServices ss).effects.all p = true := by
    rw [effects_closeServices, List.all_flatMap]
    refine List.all_eq_true.2 fun service _ => ?_
    unfold closing
    cases service.closeError? <;> simp [hp, hc]
  unfold stopAmid
  split
  · simp [hp]
  · simp only [Run.effects_bind, List.all_append, Bool.and_eq_true]
    refine ⟨windDown_tells hp hr h env, ?_⟩
    split
    · simp only [concludeAmid, Run.effects_bind, Run.effects_pure, List.append_nil, List.all_append, Bool.and_eq_true]
      exact ⟨hadded .., hclosing _, hadded .., audit_tells hp ha ..⟩
    · rfl

end

end Host

end ServiceHost
