/-
  ServiceHost.Proofs.Host.Beginning — what a start publishes.

  A part of a start leaves the settings, and if it is well it has published something
  (`Stage.Publishes`). All parts but the last publish nothing, and the last does what the
  certificate's task will do: it reads the pair again and publishes it. So a host that came
  up serves the pair its files hold, and has published that and nothing else (`Begun`).
-/

import ServiceHost.Proofs.Host.Publications

namespace ServiceHost

open Effect (publishing Unpublished)

/-! ## The parts of a start -/

namespace Stage

variable {α β : Type} {s : Host.Settings} {x : Stage α} {f : α → Stage β} {es es' : List Effect}

/-- On a host with these settings the part leaves them, and if it is well it has published `es`. -/
def Publishes (s : Host.Settings) (x : Stage α) (es : List Effect) : Prop :=
  ∀ h : Host, h.settings = s → (x.exec h).value.2.settings = s ∧
    ∀ a, (x.exec h).value.1 = .ok a → publishing (x.exec h).effects = es

theorem publishes_pure (a : α) : (pure a : Stage α).Publishes s [] := fun _ hs => ⟨hs, fun _ _ => rfl⟩

theorem publishes_lift {y : StateT Host Run α}
    (hy : ∀ h, h.settings = s → (y h).value.2.settings = s ∧ publishing (y h).effects = es) :
    (liftM y : Stage α).Publishes s es := by
  intro h hs
  obtain ⟨hsettings, hpublished⟩ := hy h hs
  rw [exec_lift]
  exact ⟨hsettings, fun _ _ => hpublished⟩

theorem Publishes.bind (hx : x.Publishes s es) (hf : ∀ a, (f a).Publishes s es') :
    (x >>= f).Publishes s (es ++ es') := by
  intro h hs
  obtain ⟨hsettings, hpublished⟩ := hx h hs
  cases hv : (x.exec h).value with
  | mk outcome h' =>
    rw [hv] at hsettings hpublished
    cases outcome with
    | error e =>
      rw [exec_bind_error hv]
      exact ⟨hsettings, fun _ hb => nomatch hb⟩
    | ok a =>
      obtain ⟨hsettings', hpublished'⟩ := hf a h' hsettings
      rw [exec_bind_ok hv]
      refine ⟨hsettings', fun b hb => ?_⟩
      rw [Effect.publishing_append, hpublished a rfl, hpublished' b hb]

/-- What comes after a part that publishes nothing publishes all there is. -/
theorem Publishes.before (hx : x.Publishes s []) (hf : ∀ a, (f a).Publishes s es) : (x >>= f).Publishes s es :=
  hx.bind hf

theorem Tells.publishes (hx : x.Tells (fun e => !e.isPublication) s) : x.Publishes s [] := by
  intro h hs
  obtain ⟨htold, hsettings⟩ := hx h hs
  exact ⟨hsettings, fun _ _ => Effect.unpublished_all.2 htold⟩

end Stage

namespace Host

open Stage

variable {s : Settings} {h : Host} {env : Surroundings} {arrivals : Arrivals}

theorem prepare_publishes (env : Surroundings) : (prepare env).Publishes s [] :=
  (prepare_tells Effect.unpublished_logged env).publishes

theorem buildPipeline_publishes (env : Surroundings) (p : Prepared) : (buildPipeline env p).Publishes s [] := by
  refine (buildPipeline_tells Effect.unpublished_logged fun _ _ hb => ?_).publishes
  exact Effect.unpublished_all.1 (Http.Pipeline.build_unpublished hb)

theorem listen_publishes (env : Surroundings) (p : Prepared) : (listen env p).Publishes s [] :=
  (listen_tells Effect.unpublished_logged (fun _ => rfl) env p).publishes

/-- The last stage publishes what is published first. -/
theorem commence_publishes (env : Surroundings) (p : Prepared) :
    (liftM (commence env p) : Stage (Option Tls.Reloader)).Publishes s
      (publishing (publishFirst s.publisher env p.reloader?).effects) := by
  refine publishes_lift fun h hs => ?_
  rw [commence_eq, hs]
  refine ⟨hs, ?_⟩
  simp only [Effect.publishing_append]
  rw [show publishing (h.startTasks p.tls? env.now).effects = [] from (startTasks_remarks ..).logs.unpublished,
    show publishing (h.audit (h.startedEvent p)).effects = [] from audit_unpublished .., List.append_nil, List.append_nil]

theorem receive_publishes (ss : List Service) : (liftM (receive ss) : Stage Unit).Publishes s [] := by
  refine publishes_lift fun h hs => ?_
  simp only [receive, Run.value_map, Run.effects_map]
  rw [(addServices_eq h ss).1]
  exact ⟨hs, addServices_unpublished h ss⟩

/-! ## A start -/

/-- The stages of a start after the preparation, and what arrives between them. -/
def launchPrepared (env : Surroundings) (arrivals : Arrivals) (p : Prepared) : Stage Serving := do
  receive (arrivals .beforePipeline)
  let pipeline ← buildPipeline env p
  receive (arrivals .beforeListening)
  let listener ← listen env p
  receive (arrivals .beforeTasks)
  let reloader? ← commence env p
  receive (arrivals .beforeEnd)
  return ⟨pipeline, listener, reloader?⟩

theorem launchAmid_eq (env : Surroundings) (arrivals : Arrivals) :
    launchAmid env arrivals = prepare env >>= launchPrepared env arrivals := rfl

theorem launchPrepared_publishes (env : Surroundings) (arrivals : Arrivals) (p : Prepared) :
    (launchPrepared env arrivals p).Publishes s (publishing (publishFirst s.publisher env p.reloader?).effects) := by
  rw [← List.append_nil (publishing (publishFirst s.publisher env p.reloader?).effects)]
  exact (receive_publishes _).before fun _ => (buildPipeline_publishes env p).before fun _ =>
    (receive_publishes _).before fun _ => (listen_publishes env p).before fun _ => (receive_publishes _).before fun _ =>
      (commence_publishes env p).bind fun _ => (receive_publishes _).before fun _ => publishes_pure _

theorem startAmid_new (env : Surroundings) (arrivals : Arrivals) (hn : h.phase = .new) :
    (h.startAmid env arrivals).value.2 = ((launchAmid env arrivals).exec h).value.1.map (fun _ => ()) ∧
      (h.startAmid env arrivals).effects = ((launchAmid env arrivals).exec h).effects := by
  rw [startAmid, hn]
  simp only [Run.value_bind, Run.effects_bind, Run.value_pure, Run.effects_pure, List.append_nil, and_self]

/-- A start that comes up publishes what is published first, of the reloader it prepared. -/
theorem CameUp.publishing_effects {p : Prepared} {serving : Serving} {ss : List Service} (hn : h.phase = .new)
    (ha : h.arming? = none) (hu : CameUp h env arrivals (h.startAmid env arrivals) p serving ss) :
    publishing (h.startAmid env arrivals).effects =
      publishing (publishFirst h.settings.publisher env p.reloader?).effects := by
  obtain ⟨hvalue, heffects⟩ := startAmid_new env arrivals hn
  obtain ⟨a, hok⟩ : ∃ a, ((launchAmid env arrivals).exec h).value.1 = .ok a := by
    have hup := hvalue.symm.trans (congrArg Prod.snd hu.value)
    cases hx : ((launchAmid env arrivals).exec h).value.1 with
    | ok a => exact ⟨a, rfl⟩
    | error e => simp [hx, Except.map] at hup
  rw [heffects]
  rw [launchAmid_eq] at hok ⊢
  rcases prepare_cases (h := h) (h.registryAmid arrivals) env ha with ⟨e, -, hy⟩ | ⟨p', -, hfits, hy⟩
  · rw [exec_bind_error hy.value] at hok
    cases hok
  · cases hu.fits.unique hfits
    rw [exec_bind_ok hy.value] at hok ⊢
    have hprepared : publishing ((prepare env).exec h).effects = [] :=
      (prepare_publishes env h rfl).2 p (congrArg Prod.fst hy.value)
    rw [Effect.publishing_append, hprepared, List.nil_append]
    exact (launchPrepared_publishes env arrivals p (h.holding p.reloader?) rfl).2 a hok

/-- The reloader of a start holds the pair that its files hold. -/
theorem armedFor_pair {t : Config.TlsConfig} {r : Tls.Reloader} (hr : armedFor t env = .ok r) :
    r.certPath = t.certFile ∧ r.keyPath = t.keyFile ∧
      Tls.Keypair.load env.keys env.files t.certFile t.keyFile = .ok r.pair := by
  obtain ⟨ran, ha, rfl⟩ := armedFor_ok hr
  obtain ⟨hi, stamps, pair, hl, rfl⟩ := Tls.Reloader.arm_ok ha
  exact ⟨rfl, rfl, hl⟩

variable (s) (env) in
/-- A host came up. It serves the pair its files hold, if it is told to, and published that and nothing else. -/
structure Begun (ran : Run (Host × Except StartFailure Unit)) : Prop where
  stand : ran.value.1.phase.stand = .started
  files : ran.value.1.keypairFiles? = s.keypairFiles?
  stored : (s.stored? env).isSome = s.tls?.isSome
  pair : ran.value.1.pair? = s.stored? env
  published : publishing ran.effects = (s.stored? env).elim [] (pairTold s.publisher (env.calendar env.now))

variable {p : Prepared} {serving : Serving} {ss : List Service}

/-- Without settings for a pair nothing is armed, so there is nothing to publish. -/
theorem CameUp.begun_plain (hn : h.phase = .new) (ha : h.arming? = none)
    (hu : CameUp h env arrivals (h.startAmid env arrivals) p serving ss) (htls : h.settings.tls? = none)
    (hnone : p.reloader? = none) : Begun h.settings env (h.startAmid env arrivals) := by
  have hvalue := congrArg (·.1) hu.value
  have hstored := Settings.stored?_none htls env
  have hserving : serving.reloader? = none := by rw [hu.reloader, hnone]; rfl
  refine ⟨?_, ?_, ?_, ?_, ?_⟩
  · rw [hvalue]
    rfl
  · rw [hvalue, keypairFiles?, up, Phase.resources, hserving, Settings.keypairFiles?_none htls, Option.map_none]
  · rw [hstored, htls]
    rfl
  · rw [hvalue, pair?, up, Phase.resources, hserving, hstored, Option.map_none]
  · rw [hu.publishing_effects hn ha, hnone, hstored]
    rfl

/-- The pair that was armed is read again for the first publication: its files hold the same. -/
theorem CameUp.begun_secured (hn : h.phase = .new) (ha : h.arming? = none)
    (hu : CameUp h env arrivals (h.startAmid env arrivals) p serving ss) {t : Config.TlsConfig} {r : Tls.Reloader}
    (htls : h.settings.tls? = some t) (hsome : p.reloader? = some r) (hr : armedFor t env = .ok r) :
    Begun h.settings env (h.startAmid env arrivals) := by
  have hvalue := congrArg (·.1) hu.value
  obtain ⟨hcert, hkey, hload⟩ := armedFor_pair hr
  have hstored : h.settings.stored? env = some r.pair := by
    rw [Settings.stored?_some htls, hload]
    rfl
  have hreread : rereadPair env r = r.pair := by
    rw [rereadPair, hcert, hkey, hload]
    rfl
  obtain ⟨hreread', htold⟩ := publishExpiry_told h.settings.publisher env env.now r
  obtain ⟨hpair, hfollows, -⟩ := reread_follows env env.now r
  rw [hreread] at hpair htold
  have hserving : serving.reloader? = some (reread env env.now r).value := by
    rw [hu.reloader, hsome, publishFirst, Run.value_map, hreread']
  refine ⟨?_, ?_, ?_, ?_, ?_⟩
  · rw [hvalue]
    rfl
  · rw [hvalue, keypairFiles?, up, Phase.resources, hserving, Settings.keypairFiles?_some htls, Option.map_some,
      hfollows.certPath, hfollows.keyPath, hcert, hkey]
  · rw [hstored, htls]
    rfl
  · rw [hvalue, pair?, up, Phase.resources, hserving, hstored, Option.map_some, hpair]
  · rw [hu.publishing_effects hn ha, hsome, hstored, publishFirst, Run.effects_map]
    exact htold

theorem CameUp.begun (hn : h.phase = .new) (ha : h.arming? = none)
    (hu : CameUp h env arrivals (h.startAmid env arrivals) p serving ss) :
    Begun h.settings env (h.startAmid env arrivals) := by
  rcases hu.fits.cases with ⟨htls, hterms⟩ | ⟨t, x, htls, hterms, hx⟩
  · exact hu.begun_plain hn ha htls (by rw [Prepared.reloader?, hterms, Option.map_none])
  · exact hu.begun_secured hn ha htls (by rw [Prepared.reloader?, hterms, Option.map_some])
      (Prepared.Fits.secured_ok hx).1

end Host

end ServiceHost
