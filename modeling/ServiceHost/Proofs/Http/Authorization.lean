/-
  ServiceHost.Proofs.Http.Authorization — what authorization does to a pipeline.

  A guarded pipeline answers a call that the rules allow as the pipeline without
  authorization does, and refuses any other before the layers behind the guard run. The
  role asked about is that of the identity which the context layer gave to the same call,
  and the path is the one the routes are found by. The context layer and the request log
  stand in front of the guard: a refusal leaves its line there, and nothing else but the
  event of the refusal.
-/

import ServiceHost.Http.Pipeline

namespace ServiceHost.Http

variable (c : PipelineSettings)

/-- The settings of the pipeline without authorization. -/
def PipelineSettings.unguarded : PipelineSettings := { c with rules? := none }

def PipelineSettings.caller (call : Call) : Identity :=
  (Layers.identify c.readCertificate c.mapper call.request).value

/-- A call as the layers behind the context layer see it. -/
def PipelineSettings.named (call : Call) : Call :=
  { call with
    context? := some ⟨(Context.incomingId? call.request).getD call.occasion.freshId, c.caller call⟩
    sink := .injected }

def Pipeline.opened (p : Pipeline) : Pipeline := { p with guard := id }

def forbidden (path role : String) : ApiError :=
  .forbidden ("role '" ++ role ++ "' is not allowed to access " ++ path)

def PipelineSettings.refusedEvent (call : Call) : Log.Event :=
  ⟨.warn, .authorization, "Request not authorized",
    [("path", .bare call.request.uri.path), ("role", .bare (c.caller call).role),
     ("correlation_id", .text (c.named call).correlationId)]⟩

def PipelineSettings.refusedLine (call : Call) : Log.Event :=
  Layers.logLine c.role (c.named call) (forbidden call.request.uri.path (c.caller call).role).response

/-- What comes of a call through the layers up to the guard if that refuses it. -/
def PipelineSettings.refusal : Endpoint :=
  Layers.context c.readCertificate c.mapper
    (Layers.requestLog c.role (Layers.refuse fun call => Context.roleOf call.context?))

/-! ## The layers around the guard -/

theorem identify_effects (read : CertificateReader) (mapper : IdentityMapper) (r : Request) :
    (Layers.identify read mapper r).effects = [] ∨
      (Layers.identify read mapper r).effects =
        [.logged .ambient ⟨.debug, .context, "Unparsable client certificate", []⟩] := by
  unfold Layers.identify
  split
  · exact .inl rfl
  · split
    · exact .inl rfl
    · exact .inr rfl

/-- The context layer names the caller, and does nothing to the answer but set the id. -/
theorem context_eq (next : Endpoint) (call : Call) :
    Layers.context c.readCertificate c.mapper next call =
      let id := (Context.incomingId? call.request).getD call.occasion.freshId
      let response := (next (c.named call)).value
      ⟨if (Text.utf8 id).all isTextByte then response.setHeader Context.header id else response,
        (Layers.identify c.readCertificate c.mapper call.request).effects ++ (next (c.named call)).effects⟩ := by
  simp only [Layers.context, bind, Run.bind, pure, Run.pure, List.append_nil]
  rfl

/-- Two pipelines differ at a call only if what they do behind the context layer does. -/
theorem context_congr {next next' : Endpoint} {call : Call} (h : next (c.named call) = next' (c.named call)) :
    Layers.context c.readCertificate c.mapper next call = Layers.context c.readCertificate c.mapper next' call := by
  rw [context_eq, context_eq, h]

theorem requestLog_congr {role : String} {next next' : Endpoint} {call : Call} (h : next call = next' call) :
    Layers.requestLog role next call = Layers.requestLog role next' call := by
  simp only [Layers.requestLog, h]

theorem layers_guarded {p : Pipeline} {rules : Authz.RuleSet}
    (hg : p.guard = Layers.enforce rules fun call => Context.roleOf call.context?) (registry : Registry)
    (inner : Endpoint) (call : Call) :
    p.layers registry inner call =
      if rules.allows call.request.uri.path (p.settings.caller call).role then
        p.opened.layers registry inner call
      else p.settings.refusal call := by
  simp only [Pipeline.layers, Pipeline.layersWith, Pipeline.opened, hg, Function.comp_apply, id]
  split
  · next ha =>
    refine context_congr _ (requestLog_congr ?_)
    exact if_pos ha
  · next ha =>
    refine context_congr _ (requestLog_congr ?_)
    exact if_neg ha

/-! ## Refusals -/

theorem refusal_status (call : Call) : (c.refusal call).value.status = 403 := by
  simp only [PipelineSettings.refusal, context_eq]
  split <;> rfl

theorem refusal_body (call : Call) :
    (c.refusal call).value.body = (forbidden call.request.uri.path (c.caller call).role).toDocument.toJson := by
  simp only [PipelineSettings.refusal, context_eq]
  split <;> rfl

theorem refusal_effects (call : Call) :
    (c.refusal call).effects =
      (Layers.identify c.readCertificate c.mapper call.request).effects ++
        [.logged .injected (c.refusedEvent call), .logged .injected (c.refusedLine call)] := by
  rw [PipelineSettings.refusal, context_eq]
  rfl

/-- A refusal leaves one line in the request log, and nothing that a layer behind the guard does. -/
theorem refusal_quiet (call : Call) :
    Effect.handlers (c.refusal call).effects = [] ∧ Effect.metrics (c.refusal call).effects = [] ∧
      Effect.profile (c.refusal call).effects = [] ∧
      Effect.requestLines (c.refusal call).effects = [c.refusedLine call] := by
  have hl : (c.refusedLine call).area = .requests := rfl
  rw [refusal_effects]
  rcases identify_effects c.readCertificate c.mapper call.request with h | h <;>
    simp [h, hl, Effect.handlers, Effect.metrics, Effect.profile, Effect.requestLines, Effect.events,
      PipelineSettings.refusedEvent]

/-! ## Dispatch -/

theorem withAllowed_eq (allowed : Option (List String)) (r : Response) :
    (Table.withAllowed allowed r).status = r.status ∧ (Table.withAllowed allowed r).body = r.body := by
  unfold Table.withAllowed
  split <;> exact ⟨rfl, rfl⟩

theorem status_stripped (r : Response) (method : String) : (r.stripped method).status = r.status := by
  unfold Response.stripped
  split <;> rfl

theorem body_stripped (r : Response) (method : String) :
    (r.stripped method).body = if method = "HEAD" ∨ (method = "CONNECT" ∧ r.isSuccess) then "" else r.body := by
  unfold Response.stripped
  split <;> rfl

theorem Response.isSuccess_congr {r r' : Response} (h : r.status = r'.status) : r.isSuccess = r'.isSuccess := by
  simp only [isSuccess, h]

theorem effects_serve (t : Table) (layers : Layer) (fallback : Endpoint) (call : Call) :
    (t.serve layers fallback call).effects = (layers (t.endpoint fallback call.request).1 call).effects :=
  List.append_nil _

theorem status_serve (t : Table) (layers : Layer) (fallback : Endpoint) (call : Call) :
    (t.serve layers fallback call).value.status = (layers (t.endpoint fallback call.request).1 call).value.status := by
  simp only [Table.serve, Run.value_bind, Run.value_pure, status_stripped, withAllowed_eq]

theorem body_serve (t : Table) (layers : Layer) (fallback : Endpoint) (call : Call) :
    let response := (layers (t.endpoint fallback call.request).1 call).value
    (t.serve layers fallback call).value.body =
      if call.request.method = "HEAD" ∨ (call.request.method = "CONNECT" ∧ response.isSuccess) then ""
      else response.body := by
  simp only [Table.serve, Run.value_bind, Run.value_pure, body_stripped]
  rw [(withAllowed_eq _ _).2, Response.isSuccess_congr (withAllowed_eq _ _).1]

/-- Layers that agree at a call whatever stands behind them give it the same answer. -/
theorem serve_congr (t : Table) {layers layers' : Layer} (fallback : Endpoint) {call : Call}
    (h : ∀ inner, layers inner call = layers' inner call) :
    t.serve layers fallback call = t.serve layers' fallback call := by
  simp only [Table.serve, h]

/-- How a refused call comes out: answered with 403, seen by nothing behind the guard, and in the request log once. -/
structure PipelineSettings.Refused (call : Call) (ran : Run Response) : Prop where
  status : ran.value.status = 403
  body : ran.value.body =
    if call.request.method = "HEAD" then ""
    else
      (Document.table
        [("code", .text "forbidden"),
         ("message", .text ("role '" ++ (c.caller call).role ++ "' is not allowed to access " ++
            call.request.uri.path))]).toJson
  effects : ran.effects =
    (Layers.identify c.readCertificate c.mapper call.request).effects ++
      [.logged .injected (c.refusedEvent call), .logged .injected (c.refusedLine call)]
  unhandled : Effect.handlers ran.effects = []
  unmetered : Effect.metrics ran.effects = []
  unprofiled : Effect.profile ran.effects = []
  recorded : Effect.requestLines ran.effects = [c.refusedLine call]
  recordedAs : ("status", .nat 403) ∈ (c.refusedLine call).fields

/-- A call is refused if its layers refuse it whatever stands behind them. -/
theorem serve_refused {t : Table} {layers : Layer} (fallback : Endpoint) {call : Call}
    (h : ∀ inner, layers inner call = c.refusal call) : c.Refused call (t.serve layers fallback call) := by
  have he : (t.serve layers fallback call).effects = (c.refusal call).effects := by rw [effects_serve, h]
  obtain ⟨hh, hm, hp, hq⟩ := refusal_quiet c call
  constructor
  · rw [status_serve, h, refusal_status]
  · have hfailed : (c.refusal call).value.isSuccess = false := by simp [Response.isSuccess, refusal_status]
    rw [body_serve, h, hfailed, refusal_body]
    simp only [Bool.false_eq_true, and_false, or_false]
    rfl
  · rw [he, refusal_effects]
  · rw [he, hh]
  · rw [he, hm]
  · rw [he, hp]
  · rw [he, hq]
  · exact .tail _ (.tail _ (.tail _ (.head _)))

/-! ## Building -/

variable {c} {services : List Service} {sink : Log.Sink}

/-- What a pipeline is built of: the routes of the services, behind a guard only if one is in force. -/
theorem build_ok {p : Run Pipeline} (hb : Pipeline.build c services sink = .ok p) :
    Table.ofServices services = some p.value.table ∧ p.value.settings = c ∧
      (c.rules? = none ∨ c.clientAuth = false → p.value.guard = id) ∧
      ∀ rules, c.rules? = some rules → c.clientAuth = true →
        ∃ layer, c.authorizer.layer rules (some fun call => Context.roleOf call.context?) sink = .ok layer ∧
          p.value.guard = layer.value := by
  unfold Pipeline.build at hb
  cases ht : Table.ofServices services with
  | none => simp [ht] at hb
  | some table =>
    simp only [ht] at hb
    split at hb
    · next rules hr hc =>
      split at hb
      · cases hb
      · next layer hl =>
        cases hb
        refine ⟨rfl, rfl, fun h => ?_, fun rules' hr' _ => ⟨layer, ?_, rfl⟩⟩
        · rcases h with h | h
          · simp [hr] at h
          · simp [hc] at h
        · rw [← hl, Option.some.inj (hr'.symm.trans hr)]
    · next hn =>
      cases hb
      exact ⟨rfl, rfl, fun _ => rfl, fun rules hr hc => absurd hc (hn rules hr)⟩

/-- What building a pipeline tells is of the pipeline itself, or what its authorizer tells. -/
theorem build_told {p : Run Pipeline} (hb : Pipeline.build c services sink = .ok p) :
    ∀ e ∈ p.effects, (∃ event : Log.Event, e = .logged sink event ∧ event.area = .pipeline) ∨
      ∃ rules role? layer, c.authorizer.layer rules role? sink = .ok layer ∧ e ∈ layer.effects := by
  intro e he
  unfold Pipeline.build at hb
  cases ht : Table.ofServices services with
  | none => simp [ht] at hb
  | some table =>
    simp only [ht] at hb
    split at hb
    · split at hb
      · cases hb
      · next layer hl =>
        cases hb
        simp only [Run.effects_bind, Run.effects_log, Run.effects_pure, List.append_nil, List.mem_append,
          List.mem_singleton] at he
        rcases he with (rfl | rfl) | he
        · exact .inl ⟨_, rfl, rfl⟩
        · exact .inl ⟨_, rfl, rfl⟩
        · exact .inr ⟨_, _, layer, hl, he⟩
    · cases hb
      simp only [Run.effects_bind, Run.effects_log, Run.effects_pure, List.append_nil, List.mem_append,
        List.mem_singleton] at he
      rcases he with rfl | rfl <;> exact .inl ⟨_, rfl, rfl⟩

theorem build_unguarded (c : PipelineSettings) (sink : Log.Sink) {table : Table}
    (ht : Table.ofServices services = some table) :
    ∃ plain, Pipeline.build c.unguarded services sink = .ok plain ∧ plain.value = ⟨table, id, c.unguarded⟩ := by
  simp only [Pipeline.build, ht, PipelineSettings.unguarded]
  exact ⟨_, rfl, rfl⟩

/-! ## Authorization cannot be bypassed -/

/--
  Of the same services a pipeline can be built with and without authorization. If no guard
  is in force the two answer alike, and under a guard they answer alike what its rules
  allow the caller. It refuses the rest whatever stands behind it, so that no handler,
  gate, meter or fallback runs.
-/
theorem serve_guarded {p : Run Pipeline} (hz : c.authorizer = .byRules)
    (hb : Pipeline.build c services sink = .ok p) :
    ∃ plain, Pipeline.build c.unguarded services sink = .ok plain ∧ ∀ (registry : Registry) (call : Call),
      (c.rules? = none ∨ c.clientAuth = false → p.value.serve registry call = plain.value.serve registry call) ∧
      ∀ rules, c.rules? = some rules → c.clientAuth = true →
        (rules.allows call.request.uri.path (c.caller call).role = true →
          p.value.serve registry call = plain.value.serve registry call) ∧
        (rules.allows call.request.uri.path (c.caller call).role = false →
          (∀ registry' inner, p.value.layers registry' inner call = c.refusal call) ∧
          c.Refused call (p.value.serve registry call)) := by
  obtain ⟨ht, hs, hu, hg⟩ := build_ok hb
  obtain ⟨plain, hp, hv⟩ := build_unguarded c sink ht
  have hopen : ∀ registry, p.value.opened.layers registry = plain.value.layers registry := by
    intro registry
    rw [hv, Pipeline.opened, hs]
    rfl
  have htable : plain.value.table = p.value.table := by rw [hv]
  refine ⟨plain, hp, fun registry call => ⟨fun h => ?_, fun rules hr hc => ?_⟩⟩
  · rw [Pipeline.serve, Pipeline.serve, htable]
    refine serve_congr _ _ fun inner => ?_
    rw [← hopen, Pipeline.opened, ← hu h]
  obtain ⟨layer, hl, hlg⟩ := hg rules hr hc
  have he : p.value.guard = Layers.enforce rules fun call => Context.roleOf call.context? := by
    rw [hz] at hl
    cases hl
    exact hlg
  have hlayers := layers_guarded he
  rw [hs] at hlayers
  refine ⟨fun ha => ?_, fun ha => ?_⟩
  · rw [Pipeline.serve, Pipeline.serve, htable]
    refine serve_congr _ _ fun inner => ?_
    rw [hlayers, if_pos ha, hopen]
  · have hin : ∀ registry' inner, p.value.layers registry' inner call = c.refusal call := by
      intro registry' inner
      rw [hlayers, if_neg (by simp [ha])]
    exact ⟨hin, serve_refused c Layers.unclaimed (hin registry)⟩

def adminsOnly : PipelineSettings :=
  { role := "hub", rules? := some ⟨[⟨"/v1/echo", .roles ["admin"]⟩]⟩, clientAuth := true
    readCertificate := fun _ => none }

def echoService : Service := { name := "echo", routes := [⟨"/v1/echo", .any, .echo⟩] }

def guestCall : Call :=
  { request := { method := "POST", uri := ⟨"/v1/echo", some "/v1/echo"⟩, body := "hi" }
    occasion := { freshId := "id-1" } }

theorem serve_guarded_guest :
    ∃ p, Pipeline.build adminsOnly [echoService] .injected = .ok p ∧
      adminsOnly.Refused guestCall (p.value.serve {} guestCall) := by
  have hb : Pipeline.build adminsOnly [echoService] .injected = .ok ⟨_, _⟩ := rfl
  obtain ⟨plain, -, h⟩ := serve_guarded rfl hb
  obtain ⟨-, hg⟩ := h {} guestCall
  obtain ⟨-, hrefused⟩ := hg _ rfl rfl
  exact ⟨_, hb, (hrefused (by decide)).2⟩

end ServiceHost.Http
