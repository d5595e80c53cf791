/-
  ServiceHost.Proofs.Host.Start — the ends a start can come to.

  A start is not alone: services can be added while it is under way, before each of its
  stages and before its end. It fails with the fault of the first stage that has one and
  leaves the host as it was, but for those services; or it breaks off while routes are
  registered; or it comes up, with everything the stages made. With nothing added meanwhile
  this is the start itself (`startAmid_none`).
-/

import ServiceHost.Proofs.Host.Stages

namespace ServiceHost.Host

open Stage

/-! ## Services that arrive meanwhile -/

/-- When services can be added while a start or a stop is under way. -/
inductive Moment where
  | beforePipeline
  | beforeListening
  | beforeTasks
  | beforeClosing
  | beforeEnd
  deriving DecidableEq, Repr

/-- The services added while a start or a stop is under way. -/
abbrev Arrivals := Moment → List Service

/-- Nobody adds a service meanwhile. -/
def noArrivals : Arrivals := fun _ => []

/-- Everything added while a start comes up, after its pipeline was built. -/
def Arrivals.late (arrivals : Arrivals) : List Service :=
  arrivals .beforeListening ++ arrivals .beforeTasks ++ arrivals .beforeEnd

def Arrivals.uponStart (arrivals : Arrivals) : List Service := arrivals .beforePipeline ++ arrivals.late

def addServices (h : Host) (ss : List Service) : Run Host := ss.foldlM addService h

def receive (ss : List Service) : StateT Host Run Unit := fun h => (fun h => ((), h)) <$> h.addServices ss

def withServices (h : Host) (ss : List Service) : Host := { h with registry := ss.foldl Registry.put h.registry }

theorem withServices_append (h : Host) (ss ss' : List Service) :
    (h.withServices ss).withServices ss' = h.withServices (ss ++ ss') := by
  simp only [withServices, List.foldl_append]

theorem addServices_eq (h : Host) (ss : List Service) :
    (h.addServices ss).value = h.withServices ss ∧ Effect.Quiet (h.addServices ss).effects := by
  induction ss generalizing h with
  | nil => exact ⟨rfl, Effect.quiet_nil⟩
  | cons s ss ih =>
    obtain ⟨hv, hq⟩ := ih (h.addService s).value
    simp only [addServices, List.foldlM_cons, Run.value_bind, Run.effects_bind] at hv hq ⊢
    refine ⟨?_, Effect.quiet_append.2 ⟨addService_quiet h s, hq⟩⟩
    rw [hv, value_addService]
    rfl

theorem yields_receive (h : Host) (ss : List Service) :
    (liftM (receive ss) : Stage Unit).Yields h (.ok ()) (h.withServices ss) [] := by
  obtain ⟨hv, hq⟩ := addServices_eq h ss
  have hexec : (liftM (receive ss) : Stage Unit).exec h =
      ⟨(.ok (), h.withServices ss), (h.addServices ss).effects⟩ := by
    rw [exec_lift, ← hv]
    simp only [receive, Run.value_map, Run.effects_map]
  exact .of_quiet hexec hq rfl

/-! ## A start with arrivals -/

/-- The stages of a start, and what arrives between them. -/
def launchAmid (env : Surroundings) (arrivals : Arrivals) : Stage Serving := do
  let prepared ← prepare env
  receive (arrivals .beforePipeline)
  let pipeline ← buildPipeline env prepared
  receive (arrivals .beforeListening)
  let listener ← listen env prepared
  receive (arrivals .beforeTasks)
  let reloader? ← commence env prepared
  receive (arrivals .beforeEnd)
  return ⟨pipeline, listener, reloader?⟩

def startAmid (h : Host) (env : Surroundings) (arrivals : Arrivals) : Run (Host × Except StartFailure Unit) :=
  match h.phase with
  | .new => do
    let (outcome, h) ← (launchAmid env arrivals).exec h
    return (h.afterLaunch outcome, outcome.map fun _ => ())
  | _ => pure (h, .error (.error .alreadyStarted))

theorem launchAmid_none (env : Surroundings) : launchAmid env noArrivals = launch env := by
  have hnone : (liftM (receive []) : Stage Unit) = pure () := rfl
  simp only [launchAmid, noArrivals, launch, hnone, pure_bind]

/-- With nothing added meanwhile it is the start itself. -/
theorem startAmid_none (h : Host) (env : Surroundings) : h.startAmid env noArrivals = h.start env := by
  rw [startAmid, launchAmid_none]
  rfl

/-! ## The ends of a start -/

variable {h : Host} {env : Surroundings} {arrivals : Arrivals}

/-- The registry that the pipeline of a start is built from. -/
def registryAmid (h : Host) (arrivals : Arrivals) : Registry := (h.withServices (arrivals .beforePipeline)).registry

def up (h : Host) (env : Surroundings) (p : Prepared) (serving : Serving) (ss : List Service) : Host :=
  { h.withServices ss with
    scheduler := (h.startTasks p.tls? env.now).value
    phase := .started serving
    clientAuth? := h.clientAuth?.or (some p.clientAuth)
    localAddr? := h.localAddr?.or (env.bind p.addr).toOption }

variable (h env arrivals) in
/-- The start failed with the first fault, and left the host as it was but for the services `ss`. -/
structure Failed (ran : Run (Host × Except StartFailure Unit)) (e : StartError) (ss : List Service) : Prop where
  value : ran.value = (h.withServices ss, .error (.error e))
  fault : StartStage.first? StartStage.all h.settings (h.registryAmid arrivals) env = some (.error e)
  news : Effect.news ran.effects = []
  pollers : Effect.armings ran.effects = Effect.disarmings ran.effects
  arrived : arrivals = noArrivals → ss = []

variable (h env arrivals) in
/-- The start broke off while routes were registered, and nobody holds the reloader it had armed. -/
structure Broke (ran : Run (Host × Except StartFailure Unit)) (orphan? : Option Tls.Reloader) (ss : List Service) :
    Prop where
  value : ran.value =
    ({ h.withServices ss with orphans := h.orphans ++ orphan?.toList }, .error (.broken orphan?))
  fault : StartStage.first? StartStage.all h.settings (h.registryAmid arrivals) env = some (.broken orphan?)
  prepared : ∃ p : Prepared, p.Fits h.settings env ∧ orphan? = p.reloader?
  news : Effect.news ran.effects = []
  pollers : Effect.armings ran.effects = Effect.disarmings ran.effects + orphan?.toList.length
  arrived : arrivals = noArrivals → ss = []

variable (h env arrivals) in
/-- The start came up: no stage had a fault, and the host holds what they made. -/
structure CameUp (ran : Run (Host × Except StartFailure Unit)) (p : Prepared) (serving : Serving) (ss : List Service) :
    Prop where
  value : ran.value = (h.up env p serving ss, .ok ())
  faultless : StartStage.first? StartStage.all h.settings (h.registryAmid arrivals) env = none
  fits : p.Fits h.settings env
  pipeline : ∃ es, Http.Pipeline.build (h.settings.pipeline p) ((h.registryAmid arrivals).listed env.order) .injected =
    .ok ⟨serving.pipeline, es⟩
  listener : serving.listener = p.listener env
  reloader : serving.reloader? = (publishFirst h.settings.publisher env p.reloader?).value
  news : Effect.news ran.effects = escalated h.settings env p.addr ++ [h.settings.announcement (h.startedEvent p)]
  pollers : Effect.armings ran.effects = Effect.disarmings ran.effects + p.reloader?.toList.length
  arrived : arrivals = noArrivals → ss = []

theorem announcements_escalated (s : Settings) (env : Surroundings) (addr : Net.SocketAddr) :
    Effect.announcements (escalated s env addr) = [] := by
  unfold escalated
  split <;> rfl

theorem announcement_marks (s : Settings) (e : AuditEvent) :
    Effect.announcements [s.announcement e] = [s.announcement e] ∧ Effect.fatals [s.announcement e] = [] := by
  unfold Settings.announcement
  split <;> exact ⟨rfl, rfl⟩

theorem CameUp.announced {ran : Run (Host × Except StartFailure Unit)} {p : Prepared} {serving : Serving}
    {ss : List Service} (hu : CameUp h env arrivals ran p serving ss) :
    Effect.announcements ran.effects = [h.settings.announcement (h.startedEvent p)] := by
  rw [← Effect.announcements_news, hu.news, Effect.announcements_append, announcements_escalated,
    (announcement_marks ..).1, List.nil_append]

theorem CameUp.fatals {ran : Run (Host × Except StartFailure Unit)} {p : Prepared} {serving : Serving}
    {ss : List Service} (hu : CameUp h env arrivals ran p serving ss) :
    Effect.fatals ran.effects = Effect.fatals (escalated h.settings env p.addr) := by
  rw [← Effect.fatals_news, hu.news, Effect.fatals_append, (announcement_marks ..).2, List.append_nil]

theorem startAmid_eq {r : Except StartFailure Serving} {h' : Host} {ns : List Effect} (hn : h.phase = .new)
    (hy : (launchAmid env arrivals).Yields h r h' ns) :
    h.startAmid env arrivals =
      ⟨(h'.afterLaunch r, r.map fun _ => ()), ((launchAmid env arrivals).exec h).effects⟩ := by
  rw [startAmid, hn]
  simp only
  rw [hy.value_eq]
  exact congrArg (Run.mk _) (List.append_nil _)

theorem Failed.of_yields {e : StartError} {ss : List Service} (hn : h.phase = .new) (ha : h.arming? = none)
    (hf : StartStage.first? StartStage.all h.settings (h.registryAmid arrivals) env = some (.error e))
    (hy : (launchAmid env arrivals).Yields h (.error (.error e)) (h.withServices ss) [])
    (hs : arrivals = noArrivals → ss = []) : Failed h env arrivals (h.startAmid env arrivals) e ss := by
  rw [startAmid_eq hn hy]
  have hp := hy.pollers
  simp only [withServices, ha, Option.toList_none, List.length_nil, Nat.add_zero] at hp
  exact ⟨rfl, hf, hy.news, hp, hs⟩

theorem Broke.of_yields {p : Prepared} {ss : List Service} (hn : h.phase = .new) (ha : h.arming? = none)
    (hf : StartStage.first? StartStage.all h.settings (h.registryAmid arrivals) env = some (.broken p.reloader?))
    (hfits : p.Fits h.settings env)
    (hy : (launchAmid env arrivals).Yields h (.error (.broken p.reloader?)) ((h.holding p.reloader?).withServices ss) [])
    (hs : arrivals = noArrivals → ss = []) : Broke h env arrivals (h.startAmid env arrivals) p.reloader? ss := by
  rw [startAmid_eq hn hy]
  have hp := hy.pollers
  simp only [holding, withServices, ha, Option.toList_none, List.length_nil, Nat.add_zero] at hp
  refine ⟨?_, hf, ⟨p, hfits, rfl⟩, hy.news, hp, hs⟩
  simp only [afterLaunch, holding, withServices, Except.map, ha]

/-- The first fault of all stages, once the early ones have none. -/
theorem first_all {s : Settings} {r : Registry} (hf : StartStage.first? StartStage.early s r env = none) :
    StartStage.first? StartStage.all s r env =
      (StartStage.fault? s r env .pipeline).or (StartStage.fault? s r env .listening) := by
  rw [StartStage.first?] at hf
  rw [StartStage.first?, StartStage.all, List.findSome?_append, hf, Option.none_or]
  simp only [List.findSome?]
  cases StartStage.fault? s r env .pipeline <;> cases StartStage.fault? s r env .listening <;> rfl

/-- Giving the reloader back leaves nothing of a start but the services added meanwhile. -/
theorem withServices_holding_none (ha : h.arming? = none) (r? : Option Tls.Reloader) (ss : List Service) :
    ((h.holding r?).withServices ss).holding none = h.withServices ss := by
  simp only [withServices, holding, ← ha]

theorem up_eq (ha : h.arming? = none) (env : Surroundings) (p : Prepared) (serving : Serving) (a b c d : List Service) :
    (((((((h.holding p.reloader?).withServices a).withServices b).listening env p.addr).withServices c).commenced env
      p).withServices d).afterLaunch (.ok serving) = h.up env p serving (a ++ b ++ c ++ d) := by
  simp only [afterLaunch, withServices, commenced, listening, holding, up, List.foldl_append, ← ha]
  rfl

variable (h env arrivals) in
/-- The host after the last stage of a start, and after everything that arrived meanwhile. -/
def afterStages (p : Prepared) : Host :=
  ((((((h.holding p.reloader?).withServices (arrivals .beforePipeline)).withServices
    (arrivals .beforeListening)).listening env p.addr).withServices (arrivals .beforeTasks)).commenced env
      p).withServices (arrivals .beforeEnd)

theorem CameUp.of_yields {p : Prepared} {pipeline : Http.Pipeline} {es : List Effect} (hn : h.phase = .new)
    (ha : h.arming? = none) (hf : StartStage.first? StartStage.all h.settings (h.registryAmid arrivals) env = none)
    (hfits : p.Fits h.settings env)
    (hbuild : Http.Pipeline.build (h.settings.pipeline p) ((h.registryAmid arrivals).listed env.order) .injected =
      .ok ⟨pipeline, es⟩)
    (hy : (launchAmid env arrivals).Yields h
      (.ok ⟨pipeline, p.listener env, (publishFirst h.settings.publisher env p.reloader?).value⟩)
      (h.afterStages env arrivals p)
      (escalated h.settings env p.addr ++ [h.settings.announcement (h.startedEvent p)])) :
    CameUp h env arrivals (h.startAmid env arrivals) p
      ⟨pipeline, p.listener env, (publishFirst h.settings.publisher env p.reloader?).value⟩
      arrivals.uponStart := by
  rw [startAmid_eq hn hy]
  constructor
  · have hup := up_eq ha env p ⟨pipeline, p.listener env, (publishFirst h.settings.publisher env p.reloader?).value⟩
      (arrivals .beforePipeline) (arrivals .beforeListening) (arrivals .beforeTasks) (arrivals .beforeEnd)
    rw [List.append_assoc, List.append_assoc, ← List.append_assoc (arrivals .beforeListening)] at hup
    exact congrArg (·, _) hup
  · exact hf
  · exact hfits
  · exact ⟨es, hbuild⟩
  · rfl
  · rfl
  · exact hy.news
  · have hp := hy.pollers
    simp only [afterStages, commenced, listening, withServices, holding, ha, Option.toList_none, List.length_nil,
      Nat.add_zero] at hp
    exact hp
  · intro hno
    rw [hno]
    rfl

/-- Every start of a new host comes to one of three ends. -/
theorem startAmid_cases (env : Surroundings) (arrivals : Arrivals) (hn : h.phase = .new) (ha : h.arming? = none) :
    (∃ e ss, Failed h env arrivals (h.startAmid env arrivals) e ss) ∨
      (∃ o ss, Broke h env arrivals (h.startAmid env arrivals) o ss) ∨
      ∃ p serving, CameUp h env arrivals (h.startAmid env arrivals) p serving arrivals.uponStart := by
  rcases prepare_cases (h := h) (h.registryAmid arrivals) env ha with ⟨e, hf, hy⟩ | ⟨p, hf, hfits, hy⟩
  · refine .inl ⟨e, [], .of_yields hn ha ?_ hy.ends fun _ => rfl⟩
    rw [StartStage.first?] at hf
    rw [StartStage.first?, StartStage.all, List.findSome?_append, hf]
    rfl
  have hall := first_all hf
  let h₁ := (h.holding p.reloader?).withServices (arrivals .beforePipeline)
  have hy₁ := yields_receive (h.holding p.reloader?) (arrivals .beforePipeline)
  rcases buildPipeline_cases (h := h₁) hfits rfl with ⟨e, hf₁, hb⟩ | ⟨hf₁, hb⟩ | ⟨ran, hf₁, hbuild, hb⟩
  · have hfault : StartStage.fault? h.settings (h.registryAmid arrivals) env .pipeline = some (.error e) := hf₁
    refine .inl ⟨e, arrivals .beforePipeline, .of_yields hn ha ?_ ?_ ?_⟩
    · rw [hall, hfault, Option.some_or]
    · rw [← withServices_holding_none ha p.reloader?]
      exact hy.bind (hy₁.bind hb.ends)
    · intro hno
      rw [hno, noArrivals]
  · have hfault : StartStage.fault? h.settings (h.registryAmid arrivals) env .pipeline =
        some (.broken p.reloader?) := hf₁
    refine .inr (.inl ⟨p.reloader?, arrivals .beforePipeline, .of_yields hn ha ?_ hfits ?_ ?_⟩)
    · rw [hall, hfault, Option.some_or]
    · exact hy.bind (hy₁.bind hb.ends)
    · intro hno
      rw [hno, noArrivals]
  have hfault : StartStage.fault? h.settings (h.registryAmid arrivals) env .pipeline = none := hf₁
  let h₂ := h₁.withServices (arrivals .beforeListening)
  have hy₂ := yields_receive h₁ (arrivals .beforeListening)
  rcases listen_cases (h := h₂) hfits rfl (h.registryAmid arrivals) with ⟨e, hf₂, hl⟩ | ⟨hf₂, hl⟩
  · refine .inl ⟨e, arrivals .beforePipeline ++ arrivals .beforeListening, .of_yields hn ha ?_ ?_ ?_⟩
    · rw [hall, hfault, Option.none_or]
      exact hf₂
    · rw [← withServices_holding_none ha p.reloader?, ← withServices_append]
      exact hy.bind (hy₁.bind (hb.bind (hy₂.bind hl.ends)))
    · intro hno
      rw [hno, noArrivals, noArrivals, List.nil_append]
  let h₃ := h₂.listening env p.addr
  have hy₃ := yields_receive h₃ (arrivals .beforeTasks)
  have hc := yields_commence env p (h₃.withServices (arrivals .beforeTasks))
  have hy₄ := yields_receive ((h₃.withServices (arrivals .beforeTasks)).commenced env p) (arrivals .beforeEnd)
  refine .inr (.inr ⟨p, _, .of_yields hn ha ?_ hfits hbuild ?_⟩)
  · rw [hall, hfault, Option.none_or]
    exact hf₂
  · exact hy.bind (hy₁.bind (hb.bind (hy₂.bind (hl.bind (hy₃.bind (hc.bind (hy₄.bind (yields_pure _ _))))))))

theorem start_cases (env : Surroundings) (hn : h.phase = .new) (ha : h.arming? = none) :
    (∃ e, Failed h env noArrivals (h.start env) e []) ∨ (∃ o, Broke h env noArrivals (h.start env) o []) ∨
      ∃ p serving, CameUp h env noArrivals (h.start env) p serving [] := by
  have hcases := startAmid_cases env noArrivals hn ha
  rw [startAmid_none] at hcases
  rcases hcases with ⟨e, ss, he⟩ | ⟨o, ss, ho⟩ | ⟨p, serving, hu⟩
  · exact .inl ⟨e, he.arrived rfl ▸ he⟩
  · exact .inr (.inl ⟨o, ho.arrived rfl ▸ ho⟩)
  · exact .inr (.inr ⟨p, serving, hu.arrived rfl ▸ hu⟩)

theorem start_of_error {e : StartError} (hn : h.phase = .new) (ha : h.arming? = none)
    (hf : StartStage.first? StartStage.all h.settings h.registry env = some (.error e)) :
    Failed h env noArrivals (h.start env) e [] := by
  rcases start_cases env hn ha with ⟨e', he⟩ | ⟨o, ho⟩ | ⟨p, serving, hu⟩
  · have := hf.symm.trans he.fault
    cases this
    exact he
  · cases hf.symm.trans ho.fault
  · cases hf.symm.trans hu.faultless

theorem start_of_broken {o : Option Tls.Reloader} (hn : h.phase = .new) (ha : h.arming? = none)
    (hf : StartStage.first? StartStage.all h.settings h.registry env = some (.broken o)) :
    Broke h env noArrivals (h.start env) o [] := by
  rcases start_cases env hn ha with ⟨e, he⟩ | ⟨o', ho⟩ | ⟨p, serving, hu⟩
  · cases hf.symm.trans he.fault
  · have := hf.symm.trans ho.fault
    cases this
    exact ho
  · cases hf.symm.trans hu.faultless

theorem start_of_none (hn : h.phase = .new) (ha : h.arming? = none)
    (hf : StartStage.first? StartStage.all h.settings h.registry env = none) :
    ∃ p serving, CameUp h env noArrivals (h.start env) p serving [] := by
  rcases start_cases env hn ha with ⟨e, he⟩ | ⟨o, ho⟩ | hu
  · cases hf.symm.trans he.fault
  · cases hf.symm.trans ho.fault
  · exact hu

/-- How a start comes out: with the fault of the first stage that has one. -/
def verdict (s : Settings) (r : Registry) (env : Surroundings) : Except StartFailure Unit :=
  match StartStage.first? StartStage.all s r env with
  | some f => .error f
  | none => .ok ()

theorem start_outcome (env : Surroundings) (hn : h.phase = .new) (ha : h.arming? = none) :
    (h.start env).value.2 = verdict h.settings h.registry env := by
  unfold verdict
  cases hf : StartStage.first? StartStage.all h.settings h.registry env with
  | none =>
    obtain ⟨p, serving, hu⟩ := start_of_none hn ha hf
    rw [hu.value]
  | some f =>
    cases f with
    | error e => rw [(start_of_error hn ha hf).value]
    | broken o => rw [(start_of_broken hn ha hf).value]

theorem faultless_of_ok (hn : h.phase = .new) (ha : h.arming? = none) (ho : (h.start env).value.2 = .ok ()) :
    StartStage.first? StartStage.all h.settings h.registry env = none := by
  rw [start_outcome env hn ha, verdict] at ho
  split at ho
  · cases ho
  · next hf => exact hf

end ServiceHost.Host
