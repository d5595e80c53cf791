/-
  ServiceHost.Proofs.Log.Sinks — where the parts of a host log.

  Most parts are told where their events go, and log nowhere else (`Effect.To`). Handlers
  and layers are told by the call (`Endpoint.LogsAsTold`, `Layer.LogsAsTold`), and every
  layer of a pipeline hands the call on as it is in that. Only the outermost one logs
  before it has told anyone: what it cannot read of a client's certificate goes to the
  logger that is current just then (`Pipeline.serve_ambient`).
-/

import ServiceHost.Proofs.Host.Marks
import ServiceHost.Proofs.Http.Authorization
import ServiceHost.Status

namespace ServiceHost

/-! ## What the current logger hears -/

namespace Effect

@[simp] theorem eventsTo_append (sink : Log.Sink) (es es' : List Effect) :
    eventsTo sink (es ++ es') = eventsTo sink es ++ eventsTo sink es' := List.filterMap_append ..

theorem To.ambient {es : List Effect} (h : To .injected es) : eventsTo .ambient es = [] := by
  refine List.filterMap_eq_nil_iff.2 fun e he => ?_
  have hfor := to_iff.1 h e he
  cases e with
  | logged s ev =>
    have hs : s = .injected := of_decide_eq_true hfor
    rw [hs]
    rfl
  | _ => rfl

end Effect

open Effect (To)

/-! ## Endpoints and layers -/

def Endpoint.LogsAsTold (f : Endpoint) : Prop := ∀ call, To call.sink (f call).effects

/-- What stands in front of an endpoint that logs where the call says does so too. -/
def Layer.LogsAsTold (l : Layer) : Prop := ∀ next, Endpoint.LogsAsTold next → Endpoint.LogsAsTold (l next)

/-- Every handler of the service logs where the call says. -/
def Service.LogsAsTold (s : Service) : Prop := ∀ r ∈ s.routes, Endpoint.LogsAsTold r.handler.answer

theorem Endpoint.logs_pure (f : Call → Http.Response) : Endpoint.LogsAsTold fun call => pure (f call) :=
  fun _ => Effect.to_nil

theorem Status.service_logs (serial : Nat) : (Status.service serial).LogsAsTold := by
  have hasking {answer : HostView → Endpoint} (ha : ∀ h, Endpoint.LogsAsTold (answer h)) :
      Endpoint.LogsAsTold (Status.asking answer).answer := by
    intro call
    simp only [Status.asking]
    split
    · exact ha _ call
    · exact Effect.to_nil
  have hnodes (h : HostView) : Endpoint.LogsAsTold (Status.nodes h) := by
    intro call
    unfold Status.nodes
    split <;> simp
  intro r hr
  simp only [Status.service, Status.routes, List.mem_cons, List.not_mem_nil, or_false] at hr
  rcases hr with rfl | rfl | rfl
  · exact hasking fun _ => Endpoint.logs_pure _
  · exact hasking fun _ => Endpoint.logs_pure _
  · exact hasking hnodes

namespace Http

/-! ## Routes -/

def PathEntry.targets (e : PathEntry) : List Target := e.methods.map (·.2) ++ e.any?.toList

def Table.targets (t : Table) : List Target := t.entries.flatMap PathEntry.targets

theorem PathEntry.targets_add {e e' : PathEntry} {methods : Methods} {t : Target} (he : e.add methods t = some e') :
    ∀ x ∈ e'.targets, x = t ∨ x ∈ e.targets := by
  intro x hx
  cases methods with
  | any =>
    simp only [add] at he
    split at he
    · cases he
    · cases he
      simp only [targets, Option.toList_some, List.mem_append, List.mem_singleton] at hx ⊢
      rcases hx with hx | hx
      · exact .inr (.inl hx)
      · exact .inl hx
  | only m =>
    simp only [add] at he
    split at he
    · cases he
    · cases he
      simp only [targets, List.map_append, List.map_cons, List.map_nil, List.mem_append, List.mem_singleton] at hx ⊢
      rcases hx with (hx | hx) | hx
      · exact .inr (.inl hx)
      · exact .inl hx
      · exact .inr (.inr hx)

theorem PathEntry.choose_mem {e : PathEntry} {method : String} {x : Target} (hx : e.choose? method = some x) :
    x ∈ e.targets := by
  have htarget {m : String} (hm : e.target? m = some x) : x ∈ e.targets := by
    obtain ⟨pair, hpair, rfl⟩ := Option.map_eq_some_iff.1 hm
    exact List.mem_append_left _ (List.mem_map_of_mem (List.mem_of_find?_eq_some hpair))
  have hany (hm : e.any? = some x) : x ∈ e.targets := List.mem_append_right _ (Option.mem_toList.2 hm)
  unfold choose? at hx
  cases hm : e.target? method with
  | some y =>
    rw [hm] at hx
    cases hx
    exact htarget hm
  | none =>
    rw [hm] at hx
    change ((if method = "HEAD" then e.target? "GET" else none).orElse fun _ => e.any?) = some x at hx
    split at hx
    · cases hg : e.target? "GET" with
      | some y =>
        rw [hg] at hx
        cases hx
        exact htarget hg
      | none =>
        rw [hg] at hx
        exact hany hx
    · exact hany hx

theorem Table.targets_add {t t' : Table} {service : String} {r : Route} (ht : t.add service r = some t') :
    ∀ x ∈ t'.targets, x = ⟨service, r.handler⟩ ∨ x ∈ t.targets := by
  intro x hx
  unfold add at ht
  split at ht
  · cases ht
  split at ht
  · obtain ⟨e, he, rfl⟩ := Option.map_eq_some_iff.1 ht
    simp only [targets, List.flatMap_append, List.flatMap_cons, List.flatMap_nil, List.append_nil, List.mem_append]
      at hx ⊢
    rcases hx with hx | hx
    · exact .inr hx
    · refine (PathEntry.targets_add he x hx).imp_right fun hx => ?_
      simp [PathEntry.targets] at hx
  · next e hfound =>
    obtain ⟨e', he, rfl⟩ := Option.map_eq_some_iff.1 ht
    simp only [targets, List.mem_flatMap, List.mem_map] at hx ⊢
    obtain ⟨entry, ⟨old, hold, rfl⟩, hx⟩ := hx
    split at hx
    · refine (PathEntry.targets_add he x hx).imp_right fun hx => ?_
      exact ⟨e, List.mem_of_find?_eq_some hfound, hx⟩
    · exact .inr ⟨old, hold, hx⟩

theorem Table.targets_ofServices {ss : List Service} {t : Table} (ht : Table.ofServices ss = some t) :
    ∀ x ∈ t.targets, ∃ s ∈ ss, ∃ r ∈ s.routes, x = ⟨s.name, r.handler⟩ := by
  have hfold (rs : List (String × Route)) (t₀ t : Table) (ht : rs.foldlM (fun t r => t.add r.1 r.2) t₀ = some t) :
      ∀ x ∈ t.targets, x ∈ t₀.targets ∨ ∃ r ∈ rs, x = ⟨r.1, r.2.handler⟩ := by
    induction rs generalizing t₀ with
    | nil =>
      cases ht
      exact fun x hx => .inl hx
    | cons r rs ih =>
      intro x hx
      rw [List.foldlM_cons] at ht
      obtain ⟨t₁, ht₁, ht⟩ := Option.bind_eq_some_iff.1 ht
      rcases ih t₁ ht x hx with hx | ⟨r', hr', hx⟩
      · rcases Table.targets_add ht₁ x hx with hx | hx
        · exact .inr ⟨r, .head _, hx⟩
        · exact .inl hx
      · exact .inr ⟨r', .tail _ hr', hx⟩
  intro x hx
  rcases hfold _ _ t ht x hx with hx | ⟨r, hr, hx⟩
  · cases hx
  · obtain ⟨s, hs, hr⟩ := List.mem_flatMap.1 hr
    obtain ⟨route, hroute, rfl⟩ := List.mem_map.1 hr
    exact ⟨s, hs, route, hroute, hx⟩

/-! ## Handlers and layers -/

variable {sink : Log.Sink}

theorem endpoint_logs {h : Handler} (hh : Endpoint.LogsAsTold h.answer) (service : String) :
    Endpoint.LogsAsTold (h.endpoint service) := by
  intro call
  unfold Handler.endpoint
  split
  · exact Effect.to_nil
  · exact Effect.to_cons.2 ⟨rfl, hh call⟩

theorem Table.endpoint_logs {t : Table} {fallback : Endpoint} (ht : ∀ x ∈ t.targets, Endpoint.LogsAsTold x.handler.answer)
    (hf : Endpoint.LogsAsTold fallback) (r : Request) : Endpoint.LogsAsTold (t.endpoint fallback r).1 := by
  unfold endpoint
  split
  · exact hf
  · next e he =>
    split
    · next x hx =>
      have hmem : x ∈ t.targets := List.mem_flatMap.2 ⟨e, List.mem_of_find?_eq_some he, PathEntry.choose_mem hx⟩
      exact Http.endpoint_logs (ht x hmem) x.service
    · exact Endpoint.logs_pure _

namespace Layers

theorem requestLog_logs (role : String) : Layer.LogsAsTold (requestLog role) := by
  intro next hn call
  simp [requestLog, hn call]

theorem enforce_logs (rules : Authz.RuleSet) (role : Call → String) : Layer.LogsAsTold (enforce rules role) := by
  intro next hn call
  unfold enforce
  split
  · exact hn call
  · simp [refuse]

theorem metrics_logs (profiler? : Option Profiler) : Layer.LogsAsTold (metrics profiler?) := by
  intro next hn call
  have hmeasured (ms : List Metrics.Metric) : To call.sink (ms.map .measured) := by
    refine Effect.to_iff.2 fun e he => ?_
    obtain ⟨m, -, rfl⟩ := List.mem_map.1 he
    rfl
  have hkept (response : Response) : To call.sink (keepRecord profiler? (measured call) call response).effects := by
    unfold keepRecord
    cases profiler? with
    | none => exact Effect.to_nil
    | some p =>
      dsimp only
      split
      · exact Effect.to_cons.2 ⟨rfl, Effect.to_nil⟩
      · exact Effect.to_nil
  rw [metrics, effects_metered, Effect.to_append, Effect.to_append]
  exact ⟨hn call, hmeasured _, hkept _⟩

theorem gate_logs (registry : Registry) : Layer.LogsAsTold (Readiness.gate registry) := by
  intro next hn call
  unfold Readiness.gate
  split
  · unfold Readiness.verdict
    split <;> simp
  · exact hn call

theorem limit_logs (bytes : Option Nat) : Layer.LogsAsTold (limit bytes) := by
  intro next hn call
  unfold limit
  cases bytes with
  | none => exact hn call
  | some n => exact hn { call with bodyLimit := n }

def unreadableEvent : Log.Event := ⟨.debug, .context, "Unparsable client certificate", []⟩

/-- Whether a request comes with a certificate that cannot be read. -/
def unreadable (read : CertificateReader) (r : Request) : Bool := r.leaf?.any fun der => (read der).isNone

theorem identify_ambient (read : CertificateReader) (mapper : IdentityMapper) (r : Request) :
    Effect.eventsTo .ambient (identify read mapper r).effects = if unreadable read r then [unreadableEvent] else [] := by
  unfold identify unreadable
  cases r.leaf? with
  | none => rfl
  | some der => cases hd : read der <;> simp [hd, Effect.eventsTo, unreadableEvent]

theorem context_ambient {next : Endpoint} (hn : Endpoint.LogsAsTold next) (read : CertificateReader)
    (mapper : IdentityMapper) (call : Call) :
    Effect.eventsTo .ambient (context read mapper next call).effects =
      if unreadable read call.request then [unreadableEvent] else [] := by
  have hbehind (call : Call) : Effect.eventsTo .ambient (next { call with sink := .injected }).effects = [] :=
    Effect.To.ambient (hn { call with sink := .injected })
  simp only [context, Run.effects_bind, Run.effects_pure, List.append_nil, Effect.eventsTo_append, identify_ambient]
  rw [hbehind { call with context? := some ⟨_, _⟩ }, List.append_nil]

end Layers

/-! ## Pipelines -/

/-- The collaborator logs where it is told, and its layer where the call says. -/
structure Authorizer.LogsAsTold (a : Authorizer) : Prop where
  setup : ∀ {rules role? sink ran}, a.layer rules role? sink = .ok ran → To sink ran.effects
  layer : ∀ {rules role? sink ran}, a.layer rules role? sink = .ok ran → Layer.LogsAsTold ran.value

theorem Authorizer.byRules_logs : Authorizer.byRules.LogsAsTold where
  setup := by
    intro rules role? sink ran hl
    unfold byRules Layers.authorization at hl
    cases role? with
    | none => cases hl
    | some role =>
      cases hl
      simp
  layer := by
    intro rules role? sink ran hl
    unfold byRules Layers.authorization at hl
    cases role? with
    | none => cases hl
    | some role =>
      cases hl
      exact Layers.enforce_logs rules role

/-- The handlers and the guard of a pipeline log where the call says. -/
structure Pipeline.LogsAsTold (p : Pipeline) : Prop where
  handlers : ∀ x ∈ p.table.targets, Endpoint.LogsAsTold x.handler.answer
  guard : Layer.LogsAsTold p.guard

theorem Pipeline.build_to {c : PipelineSettings} {services : List Service} {p : Run Pipeline}
    (hc : c.authorizer.LogsAsTold) (hb : build c services sink = .ok p) : To sink p.effects := by
  refine Effect.to_iff.2 fun e he => ?_
  rcases build_told hb e he with ⟨event, rfl, -⟩ | ⟨rules, role?, layer, hl, he⟩
  · exact decide_eq_true rfl
  · exact Effect.to_iff.1 (hc.setup hl) e he

/-- They do if the services and the authorizer do. -/
theorem Pipeline.build_logs {c : PipelineSettings} {services : List Service} {p : Run Pipeline}
    (hc : c.authorizer.LogsAsTold) (hs : ∀ s ∈ services, s.LogsAsTold) (hb : build c services sink = .ok p) :
    p.value.LogsAsTold := by
  obtain ⟨ht, -, hu, hg⟩ := build_ok hb
  constructor
  · intro x hx
    obtain ⟨s, hsm, r, hr, rfl⟩ := Table.targets_ofServices ht x hx
    exact hs s hsm r hr
  · by_cases hforce : c.rules? = none ∨ c.clientAuth = false
    · rw [hu hforce]
      exact fun next hn => hn
    · rw [not_or, Bool.not_eq_false] at hforce
      obtain ⟨rules, hrules⟩ := Option.ne_none_iff_exists'.1 hforce.1
      obtain ⟨layer, hl, hlayer⟩ := hg rules hrules hforce.2
      rw [hlayer]
      exact hc.layer hl

/-- The current logger hears of a call only if its certificate cannot be read. -/
theorem Pipeline.serve_ambient {p : Pipeline} (hp : p.LogsAsTold) (registry : Registry) (call : Call) :
    Effect.eventsTo .ambient (p.serve registry call).effects =
      if Layers.unreadable p.settings.readCertificate call.request then [Layers.unreadableEvent] else [] := by
  have hunclaimed : Endpoint.LogsAsTold Layers.unclaimed := Endpoint.logs_pure _
  have hendpoint := Table.endpoint_logs hp.handlers hunclaimed call.request
  rw [serve, effects_serve]
  refine Layers.context_ambient ?_ _ _ _
  exact Layers.requestLog_logs _ _ (hp.guard _ (Layers.metrics_logs _ _ (Layers.gate_logs _ _ (Layers.limit_logs _ _
    hendpoint))))

end Http

end ServiceHost
