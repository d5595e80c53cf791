/-
  ServiceHost.Proofs.Http.Transparency — metrics and the profile change nothing but
  themselves.

  Two runs are alike through a view of effects if they give one value, and the view shows
  the same of what they did, in the same order (`Run.Alike`). Layers hand this on: what
  they make of two endpoints that are alike is alike. So it is enough to look at the place
  of the metrics. There a profiler adds its records, or warnings about those it could not
  hand over, and all that is measured adds times. Seen without these a pipeline does the
  same with a profiler and without one, and seen without any metrics it does the same as
  if it had no such layer (`Pipeline.serveAll_transparent`).

  Authorization may be any collaborator that knows what stands behind it by its answers
  alone (`Authorizer.Blind`); one that decides by a policy is (`Authorizer.Follows.blind`).
-/

import ServiceHost.Proofs.Http.Accounting

namespace ServiceHost

/-! ## Views -/

/-- A metric without the time that was measured. -/
def Metrics.Metric.untimed (m : Metrics.Metric) : Metrics.Metric :=
  if m.name = Metrics.requestSeconds then { m with value := .zero false } else m

namespace Effect

/-- What is to see of an effect beside the profile: no records, nothing the profiler logs, and no measured times. -/
def besideProfile? : Effect → Option Effect
  | profiled _ => none
  | logged sink e => if e.area = .profiler then none else some (.logged sink e)
  | measured m => some (.measured m.untimed)
  | e => some e

/-- What is to see of an effect beside all that is recorded of requests. -/
def besideMetrics? : Effect → Option Effect
  | measured _ => none
  | e => besideProfile? e

theorem handlers_besideProfile (es : List Effect) : handlers (es.filterMap besideProfile?) = handlers es := by
  rw [handlers, handlers, List.filterMap_filterMap]
  congr 1
  funext e
  cases e with
  | logged sink e => by_cases h : e.area = .profiler <;> simp [besideProfile?, h]
  | _ => rfl

theorem requestLines_besideProfile (es : List Effect) :
    requestLines (es.filterMap besideProfile?) = requestLines es := by
  rw [requestLines, requestLines, events, events, List.filter_filterMap, List.filter_filterMap,
    List.filterMap_filterMap]
  congr 1
  funext e
  cases e with
  | logged sink e => by_cases h : e.area = .profiler <;> simp [besideProfile?, h, Option.filter]
  | _ => rfl

theorem metrics_besideProfile (es : List Effect) :
    metrics (es.filterMap besideProfile?) = (metrics es).map Metrics.Metric.untimed := by
  rw [metrics, metrics, List.filterMap_filterMap, List.map_filterMap]
  congr 1
  funext e
  cases e with
  | logged sink e => by_cases h : e.area = .profiler <;> simp [besideProfile?, h]
  | _ => rfl

end Effect

/-! ## Runs that are alike -/

namespace Run

variable {α β : Type} {view : Effect → Option Effect}

/-- One value, and effects that look the same through a view. -/
structure Alike (view : Effect → Option Effect) (x y : Run α) : Prop where
  value : x.value = y.value
  effects : x.effects.filterMap view = y.effects.filterMap view

theorem Alike.refl (x : Run α) : x.Alike view x := ⟨rfl, rfl⟩

theorem Alike.bind {x y : Run α} {f g : α → Run β} (hx : x.Alike view y) (hf : ∀ a, (f a).Alike view (g a)) :
    (x >>= f).Alike view (y >>= g) := by
  constructor
  · rw [value_bind, value_bind, hx.value, (hf _).value]
  · rw [effects_bind, effects_bind, List.filterMap_append, List.filterMap_append, hx.effects, hx.value,
      (hf _).effects]

theorem Alike.mapM {f g : α → Run β} {xs : List α} (h : ∀ x ∈ xs, (f x).Alike view (g x)) :
    (xs.mapM f).Alike view (xs.mapM g) := by
  induction xs with
  | nil => exact .refl _
  | cons x xs ih =>
    have hrest := ih fun x' hx' => h x' (.tail _ hx')
    rw [List.mapM_cons, List.mapM_cons]
    exact (h x (.head _)).bind fun _ => hrest.bind fun _ => .refl _

end Run

/-! ## Layers -/

/-- A layer that tells what stands behind it by its answers alone: what it makes of endpoints that are alike is alike. -/
def Layer.Blind (l : Layer) : Prop :=
  ∀ (view : Effect → Option Effect) (next next' : Endpoint), (∀ call, (next call).Alike view (next' call)) →
    ∀ call, (l next call).Alike view (l next' call)

theorem Layer.Blind.id : Layer.Blind id := fun _ _ _ hn => hn

theorem Layer.Blind.comp {l l' : Layer} (h : l.Blind) (h' : l'.Blind) : Layer.Blind (l ∘ l') :=
  fun view next next' hn => h view _ _ (h' view next next' hn)

namespace Http

variable {c : PipelineSettings} {policy : Policy} {services : List Service} {sink : Log.Sink}

namespace Layers

theorem context_blind (read : CertificateReader) (mapper : IdentityMapper) : Layer.Blind (context read mapper) :=
  fun _ _ _ hn _ => (Run.Alike.refl _).bind fun _ => (hn _).bind fun _ => .refl _

theorem requestLog_blind (role : String) : Layer.Blind (requestLog role) :=
  fun _ _ _ hn call => (hn call).bind fun _ => .refl _

/-- Nothing of a record is to see beside the profile, whatever becomes of it. -/
theorem keepRecord_unseen (profiler? : Option Profiler) (m : Measurement) (call : Call) (response : Response) :
    (keepRecord profiler? m call response).effects.filterMap Effect.besideProfile? = [] := by
  unfold keepRecord
  cases profiler? with
  | none => rfl
  | some p =>
    dsimp only
    split
    · cases m with
      | mk date elapsedNanos draw fate => cases fate <;> rfl
    · rfl

theorem ofRequest_untimed (method : String) (status nanos nanos' : Nat) :
    (Metrics.ofRequest method status nanos).map Metrics.Metric.untimed =
      (Metrics.ofRequest method status nanos').map Metrics.Metric.untimed := by
  simp [Metrics.ofRequest, Metrics.Metric.untimed, Metrics.requestsTotal, Metrics.requestSeconds]

/-- Seen beside the profile, neither the profiler nor the measurements make a difference. -/
theorem metered_alike (profiler? profiler?' : Option Profiler) (measure measure' : Call → Measurement) (next : Endpoint)
    (call : Call) :
    (metered profiler? measure next call).Alike Effect.besideProfile? (metered profiler?' measure' next call) := by
  have hmetrics (ms : List Metrics.Metric) :
      (ms.map Effect.measured).filterMap Effect.besideProfile? = (ms.map Metrics.Metric.untimed).map .measured := by
    rw [List.filterMap_map, List.map_map, ← List.filterMap_eq_map]
    rfl
  refine ⟨rfl, ?_⟩
  rw [effects_metered, effects_metered]
  simp only [List.filterMap_append, keepRecord_unseen, hmetrics]
  rw [ofRequest_untimed]

/-- Seen beside all metrics, the layer makes no difference. -/
theorem metered_unseen (profiler? : Option Profiler) (measure : Call → Measurement) (next : Endpoint) (call : Call) :
    (metered profiler? measure next call).Alike Effect.besideMetrics? (next call) := by
  have hmetrics (ms : List Metrics.Metric) : (ms.map Effect.measured).filterMap Effect.besideMetrics? = [] := by
    rw [List.filterMap_map]
    exact List.filterMap_eq_nil_iff.2 fun _ _ => rfl
  have hkept (response : Response) :
      (keepRecord profiler? (measure call) call response).effects.filterMap Effect.besideMetrics? = [] := by
    refine List.filterMap_eq_nil_iff.2 fun e he => ?_
    have hunseen := List.filterMap_eq_nil_iff.1 (keepRecord_unseen profiler? (measure call) call response) e he
    cases e with
    | measured m => rfl
    | _ => exact hunseen
  refine ⟨rfl, ?_⟩
  rw [effects_metered, List.filterMap_append, List.filterMap_append, hmetrics, hkept, List.append_nil, List.append_nil]

end Layers

/-- A collaborator whose layer is blind. -/
def Authorizer.Blind (z : Authorizer) : Prop :=
  ∀ {rules role sink ran}, z.layer rules (some role) sink = .ok ran → Layer.Blind ran.value

theorem Authorizer.Follows.blind {z : Authorizer} (hz : z.Follows policy) : z.Blind := by
  intro rules role sink ran h view next next' hn call
  rw [hz h, hz h]
  split
  · exact .refl _
  · exact hn call

theorem build_blind {p : Run Pipeline} (hz : c.authorizer.Blind) (hb : Pipeline.build c services sink = .ok p) :
    Layer.Blind p.value.guard := by
  obtain ⟨-, -, hopen, hguard⟩ := build_ok hb
  by_cases hforce : c.rules? = none ∨ c.clientAuth = false
  · rw [hopen hforce]
    exact .id
  · rw [not_or, Bool.not_eq_false] at hforce
    obtain ⟨rules, hrules⟩ := Option.ne_none_iff_exists'.1 hforce.1
    obtain ⟨layer, hl, hlayer⟩ := hguard rules hrules hforce.2
    rw [hlayer]
    exact hz hl

/-! ## Pipelines with something else at the place of the metrics -/

def PipelineSettings.unprofiled (c : PipelineSettings) : PipelineSettings := { c with profiler? := none }

namespace Pipeline

variable (p : Pipeline)

def unprofiled : Pipeline := { p with settings := p.settings.unprofiled }

/-- The answer to a call, with some layer at the place of the metrics. -/
def serveWith (registry : Registry) (meter : Layer) : Endpoint :=
  p.table.serve (p.layersWith registry meter) Layers.unclaimed

/-- The answers to a sequence of requests, each with the registry as it is by then, and with its own layer. -/
def serveAllWith (meter : Nat → Layer) (requests : List (Registry × Call)) : Run (List Response) :=
  requests.zipIdx.mapM fun r => p.serveWith r.1.1 (meter r.2) r.1.2

/-- The metrics layer for each of a sequence of requests, by what is measured of it and becomes of its record. -/
def metering (measure : Nat → Call → Measurement) (i : Nat) : Layer :=
  Layers.metered p.settings.profiler? (measure i)

theorem serveAll_eq (requests : List (Registry × Call)) :
    p.serveAll requests = p.serveAllWith (p.metering fun _ => Layers.measured) requests := by
  have hindexed := List.mapM_map (f := Prod.fst) (g := fun r : Registry × Call => p.serve r.1 r.2)
    (l := requests.zipIdx)
  rw [List.zipIdx_map_fst] at hindexed
  exact hindexed

variable {p}

theorem serveWith_alike {view : Effect → Option Effect} (hg : Layer.Blind p.guard) {meter meter' : Layer}
    (hm : ∀ next call, (meter next call).Alike view (meter' next call)) (registry : Registry) (call : Call) :
    (p.serveWith registry meter call).Alike view (p.serveWith registry meter' call) := by
  have hlayers : Layer.Blind (Layers.context p.settings.readCertificate p.settings.mapper ∘
      Layers.requestLog p.settings.role ∘ p.guard) :=
    (Layers.context_blind _ _).comp ((Layers.requestLog_blind _).comp hg)
  exact Run.Alike.bind (hlayers view _ _ (hm _) call) fun _ => .refl _

theorem serveAllWith_alike {view : Effect → Option Effect} (hg : Layer.Blind p.guard) {meter meter' : Nat → Layer}
    (hm : ∀ i next call, (meter i next call).Alike view (meter' i next call)) (requests : List (Registry × Call)) :
    (p.serveAllWith meter requests).Alike view (p.serveAllWith meter' requests) :=
  Run.Alike.mapM fun r _ => serveWith_alike hg (hm r.2) r.1.1 r.1.2

end Pipeline

/-- Leaving the profiler out makes the same pipeline without it, or fails alike. -/
theorem build_unprofiled (c : PipelineSettings) (services : List Service) (sink : Log.Sink) :
    Pipeline.build c.unprofiled services sink =
      (Pipeline.build c services sink).map fun p => ⟨p.value.unprofiled, p.effects⟩ := by
  unfold Pipeline.build PipelineSettings.unprofiled
  cases Table.ofServices services with
  | none => rfl
  | some table =>
    dsimp only
    split
    · split <;> rfl
    · rfl

/-! ## Metrics and profiles are transparent -/

/--
  What a run of requests has in common with a profiler and without one. Each run measures
  on its own, and what becomes of the records may be anything each time.
-/
structure Pipeline.Transparent (p : Pipeline) (requests : List (Registry × Call))
    (measure measure' : Nat → Call → Measurement) : Prop where
  answers : (p.serveAllWith (p.metering measure) requests).value =
    (p.unprofiled.serveAllWith (p.unprofiled.metering measure') requests).value
  handlers : Effect.handlers (p.serveAllWith (p.metering measure) requests).effects =
    Effect.handlers (p.unprofiled.serveAllWith (p.unprofiled.metering measure') requests).effects
  lines : Effect.requestLines (p.serveAllWith (p.metering measure) requests).effects =
    Effect.requestLines (p.unprofiled.serveAllWith (p.unprofiled.metering measure') requests).effects
  metrics : (Effect.metrics (p.serveAllWith (p.metering measure) requests).effects).map Metrics.Metric.untimed =
    (Effect.metrics (p.unprofiled.serveAllWith (p.unprofiled.metering measure') requests).effects).map
      Metrics.Metric.untimed
  /-- All other effects are the same as well. -/
  others : (p.serveAllWith (p.metering measure) requests).effects.filterMap Effect.besideProfile? =
    (p.unprofiled.serveAllWith (p.unprofiled.metering measure') requests).effects.filterMap Effect.besideProfile?
  /-- Without any layer for metrics the answers are these too. -/
  bare : (p.serveAllWith (p.metering measure) requests).value = (p.serveAllWith (fun _ => id) requests).value
  /-- The pipeline as it runs is one of these. -/
  running : p.serveAll requests = p.serveAllWith (p.metering fun _ => Layers.measured) requests

/-- A profiler changes nothing of what a pipeline does but its profile, and the metrics change no answer. -/
theorem Pipeline.serveAll_transparent (hz : c.authorizer.Blind) (services : List Service) (sink : Log.Sink) :
    Pipeline.build c.unprofiled services sink =
        (Pipeline.build c services sink).map (fun p => ⟨p.value.unprofiled, p.effects⟩) ∧
      ∀ p, Pipeline.build c services sink = .ok p →
        ∀ requests measure measure', p.value.Transparent requests measure measure' := by
  refine ⟨build_unprofiled c services sink, fun p hb requests measure measure' => ?_⟩
  have hg := build_blind hz hb
  -- The two pipelines differ in their metrics layers alone.
  have hplain : p.value.unprofiled.serveAllWith (p.value.unprofiled.metering measure') requests =
      p.value.serveAllWith (p.value.unprofiled.metering measure') requests := rfl
  have halike : (p.value.serveAllWith (p.value.metering measure) requests).Alike Effect.besideProfile?
      (p.value.unprofiled.serveAllWith (p.value.unprofiled.metering measure') requests) := by
    rw [hplain]
    exact serveAllWith_alike hg (fun i => Layers.metered_alike _ _ (measure i) (measure' i)) requests
  have hbare : (p.value.serveAllWith (p.value.metering measure) requests).Alike Effect.besideMetrics?
      (p.value.serveAllWith (fun _ => id) requests) :=
    serveAllWith_alike hg (fun i => Layers.metered_unseen _ (measure i)) requests
  constructor
  case answers => exact halike.value
  case handlers => rw [← Effect.handlers_besideProfile, halike.effects, Effect.handlers_besideProfile]
  case lines => rw [← Effect.requestLines_besideProfile, halike.effects, Effect.requestLines_besideProfile]
  case metrics => rw [← Effect.metrics_besideProfile, halike.effects, Effect.metrics_besideProfile]
  case others => exact halike.effects
  case bare => exact hbare.value
  case running => exact serveAll_eq p.value requests

/-- Every request takes a second, and nobody writes the profile. -/
def unheardSecond : Nat → Call → Measurement := fun _ _ => ⟨"2024-01-01", 1000000000, .zero false, .unheard⟩

/-- The administrator gets an answer, with a profile and without. -/
theorem serveAll_transparent_unheard :
    ∃ p, Pipeline.build profiledHost [echoService] .injected = .ok p ∧
      p.value.Transparent mixedRequests unheardSecond (fun _ => Layers.measured) ∧
        Effect.handlers (p.value.unprofiled.serveAll mixedRequests).effects = ["echo"] ∧
        (p.value.unprofiled.serveAll mixedRequests).value.map (·.status) = [403, 200, 403] := by
  have hb : Pipeline.build profiledHost [echoService] .injected = .ok ⟨_, _⟩ := rfl
  obtain ⟨-, h⟩ := Pipeline.serveAll_transparent (c := profiledHost) Authorizer.byRules_follows.blind [echoService]
    .injected
  refine ⟨_, hb, h _ hb _ _ _, ?_, ?_⟩ <;> decide +kernel

end Http

end ServiceHost
