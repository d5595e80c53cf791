/-
  ServiceHost.Proofs.Http.Trace — what a request leaves behind, layer by layer.

  Whatever comes of a request, its trace has three parts in order: what cannot be read of
  the client's certificate, the reply, and one line of the request log. The reply is that
  of authorization if it denies the call. If not, it is the answer of the readiness gate,
  of a handler or of the table itself, with the records of it behind
  (`Pipeline.serve_effects`). All of them see the same call, the one the context layer
  named.

  Authorization here is any collaborator that decides: it answers a call itself, or leaves
  it as it is to what stands behind (`Authorizer.Follows`). The one that goes by the rules
  is such a collaborator (`Authorizer.byRules_follows`).
-/

import ServiceHost.Proofs.Http.Authorization

namespace ServiceHost.Http

/-! ## Authorization that decides -/

/-- The role of a caller, as it is known behind the context layer. -/
def callerRole (call : Call) : String := Context.roleOf call.context?

/-- Which calls are denied under some rules, and what comes of those. -/
structure Policy where
  denies : Authz.RuleSet → (Call → String) → Call → Bool
  denial : Authz.RuleSet → (Call → String) → Endpoint
  /-- A denial is logged in the name of authorization, and does nothing else. -/
  notes : ∀ {rules role call}, ∀ e ∈ (denial rules role call).effects, e.area? = some .authorization

/-- The rules decide by the path and the role of the caller. -/
def Policy.byRules : Policy where
  denies rules role call := !rules.allows call.request.uri.path (role call)
  denial _ role := Layers.refuse role
  notes := by
    intro rules role call e he
    simp only [Layers.refuse, Run.effects_bind, Run.effects_log, Run.effects_pure, List.append_nil,
      List.mem_singleton] at he
    rw [he]
    rfl

/-- A collaborator that decides by a policy: what it does not deny it leaves as it is to what stands behind. -/
def Authorizer.Follows (z : Authorizer) (policy : Policy) : Prop :=
  ∀ {rules role sink ran}, z.layer rules (some role) sink = .ok ran → ∀ next call,
    ran.value next call = if policy.denies rules role call then policy.denial rules role call else next call

theorem Authorizer.byRules_follows : Authorizer.byRules.Follows .byRules := by
  intro rules role sink ran h next call
  cases h
  change (if rules.allows call.request.uri.path (role call) then next call else Layers.refuse role call) = _
  cases h : rules.allows call.request.uri.path (role call) <;> simp [Policy.byRules, h]

variable (c : PipelineSettings) (policy : Policy)

/-- Whether authorization denies a call: only if clients must present a certificate, and rules are set. -/
def PipelineSettings.denies (call : Call) : Bool :=
  match c.rules?, c.clientAuth with
  | some rules, true => policy.denies rules callerRole (c.named call)
  | _, _ => false

def PipelineSettings.denial (call : Call) : Run Response :=
  policy.denial (c.rules?.getD ⟨[]⟩) callerRole (c.named call)

/-! ## Replies -/

def PipelineSettings.handed (call : Call) : Call :=
  match c.bodyLimit? with
  | some n => { c.named call with bodyLimit := n }
  | none => c.named call

/-- The records of an answer: its metrics, and a profile if it is sampled. -/
def PipelineSettings.records (call : Call) (response : Response) : List Effect :=
  (Metrics.ofRequest call.request.method response.status call.occasion.elapsedNanos).map .measured ++
    if c.profiler?.any (·.samples call.occasion.draw) then [.profiled (Layers.profileRecord (c.named call) response)]
    else []

namespace Pipeline

variable (p : Pipeline) (registry : Registry) (call : Call)

/-- The answer to a call that authorization lets through. -/
def answer : Run Response :=
  if call.request.uri.path = Readiness.path then Readiness.verdict registry registry .injected
  else (p.table.endpoint Layers.unclaimed call.request).1 (p.settings.handed call)

def reply : Run Response :=
  if p.settings.denies policy call then p.settings.denial policy call
  else
    let answer := p.answer registry call
    ⟨answer.value, answer.effects ++ p.settings.records call answer.value⟩

def line : Log.Event := Layers.logLine p.settings.role (p.settings.named call) (p.reply policy registry call).value

end Pipeline

/-! ## From the outside in -/

variable {c policy} {services : List Service} {sink : Log.Sink}

@[simp] theorem request_named (call : Call) : (c.named call).request = call.request := rfl

@[simp] theorem request_handed (call : Call) : (c.handed call).request = call.request := by
  unfold PipelineSettings.handed
  split <;> rfl

@[simp] theorem context_handed (call : Call) : (c.handed call).context? = (c.named call).context? := by
  unfold PipelineSettings.handed
  split <;> rfl

theorem guard_eq {p : Run Pipeline} (hz : c.authorizer.Follows policy) (hb : Pipeline.build c services sink = .ok p)
    (next : Endpoint) (call : Call) :
    p.value.guard next (c.named call) =
      if c.denies policy call then c.denial policy call else next (c.named call) := by
  obtain ⟨-, -, hopen, hguard⟩ := build_ok hb
  unfold PipelineSettings.denies PipelineSettings.denial
  split
  · next rules hr hc =>
    obtain ⟨layer, hlayer, hg⟩ := hguard rules hr hc
    rw [hg, hz hlayer, hr]
    rfl
  · next hn =>
    have hnone : c.rules? = none ∨ c.clientAuth = false := by
      cases hr : c.rules? with
      | none => exact .inl rfl
      | some rules => exact .inr (Bool.eq_false_iff.2 fun hc => hn rules hr hc)
    rw [hopen hnone]
    rfl

theorem keepRecord_measured (call : Call) (response : Response) :
    (Layers.keepRecord c.profiler? (Layers.measured (c.named call)) (c.named call) response).effects =
      if c.profiler?.any (·.samples call.occasion.draw) then [.profiled (Layers.profileRecord (c.named call) response)]
      else [] := by
  unfold Layers.keepRecord
  cases c.profiler? with
  | none => rfl
  | some profiler =>
    change (if profiler.samples call.occasion.draw = true then _ else _ : Run Unit).effects = _
    rw [Option.any_some]
    split <;> rfl

theorem metrics_eq (next : Endpoint) (call : Call) :
    Layers.metrics c.profiler? next (c.named call) =
      ⟨(next (c.named call)).value,
        (next (c.named call)).effects ++ c.records call (next (c.named call)).value⟩ := by
  have heffects := Layers.effects_metered c.profiler? Layers.measured next (c.named call)
  rw [keepRecord_measured] at heffects
  exact congrArg (Run.mk (next (c.named call)).value) heffects

theorem gate_eq (p : Pipeline) (registry : Registry) (call : Call) :
    Readiness.gate registry (Layers.limit p.settings.bodyLimit? (p.table.endpoint Layers.unclaimed call.request).1)
      (p.settings.named call) = p.answer registry call := by
  unfold Readiness.gate Pipeline.answer
  by_cases h : call.request.uri.path = Readiness.path
  · rw [if_pos h, request_named, if_pos h]
    rfl
  · rw [if_neg h, request_named, if_neg h]
    unfold Layers.limit PipelineSettings.handed
    cases p.settings.bodyLimit? <;> rfl

theorem behind_eq {p : Run Pipeline} (hz : c.authorizer.Follows policy) (hb : Pipeline.build c services sink = .ok p)
    (registry : Registry) (call : Call) :
    Layers.requestLog c.role
        (p.value.guard (Layers.metrics c.profiler? (Readiness.gate registry
          (Layers.limit c.bodyLimit? (p.value.table.endpoint Layers.unclaimed call.request).1)))) (c.named call) =
      ⟨(p.value.reply policy registry call).value,
        (p.value.reply policy registry call).effects ++ [.logged .injected (p.value.line policy registry call)]⟩ := by
  have hs : p.value.settings = c := (build_ok hb).2.1
  have hreply : p.value.guard (Layers.metrics c.profiler? (Readiness.gate registry
      (Layers.limit c.bodyLimit? (p.value.table.endpoint Layers.unclaimed call.request).1))) (c.named call) =
      p.value.reply policy registry call := by
    rw [guard_eq hz hb, metrics_eq, Pipeline.reply, hs]
    split
    · rfl
    · have hgate := gate_eq p.value registry call
      rw [hs] at hgate
      rw [hgate]
  unfold Layers.requestLog
  rw [hreply, Pipeline.line, hs]
  simp only [bind, Run.bind, pure, Run.pure, Run.tell, List.append_nil]
  rfl

theorem layers_eq {p : Run Pipeline} (hz : c.authorizer.Follows policy) (hb : Pipeline.build c services sink = .ok p)
    (registry : Registry) (call : Call) :
    p.value.layers registry (p.value.table.endpoint Layers.unclaimed call.request).1 call =
      let id := (c.named call).correlationId
      let response := (p.value.reply policy registry call).value
      ⟨if (Text.utf8 id).all isTextByte then response.setHeader Context.header id else response,
        (Layers.identify c.readCertificate c.mapper call.request).effects ++
          ((p.value.reply policy registry call).effects ++
            [.logged .injected (p.value.line policy registry call)])⟩ := by
  have hs : p.value.settings = c := (build_ok hb).2.1
  simp only [Pipeline.layers, Pipeline.layersWith, Function.comp_apply, hs]
  rw [context_eq, behind_eq hz hb]
  rfl

/-- The trace of a request. -/
theorem Pipeline.serve_effects {p : Run Pipeline} (hz : c.authorizer.Follows policy)
    (hb : Pipeline.build c services sink = .ok p) (registry : Registry) (call : Call) :
    (p.value.serve registry call).effects =
      (Layers.identify c.readCertificate c.mapper call.request).effects ++
        ((p.value.reply policy registry call).effects ++
          [.logged .injected (p.value.line policy registry call)]) := by
  rw [Pipeline.serve, effects_serve, layers_eq hz hb]

theorem Pipeline.serve_status {p : Run Pipeline} (hz : c.authorizer.Follows policy)
    (hb : Pipeline.build c services sink = .ok p) (registry : Registry) (call : Call) :
    (p.value.serve registry call).value.status = (p.value.reply policy registry call).value.status := by
  rw [Pipeline.serve, status_serve, layers_eq hz hb]
  dsimp only
  split <;> rfl

theorem Pipeline.serve_body {p : Run Pipeline} (hz : c.authorizer.Follows policy)
    (hb : Pipeline.build c services sink = .ok p) (registry : Registry) (call : Call) :
    (p.value.serve registry call).value.body =
      if call.request.method = "HEAD" ∨
          (call.request.method = "CONNECT" ∧ (p.value.reply policy registry call).value.isSuccess) then ""
      else (p.value.reply policy registry call).value.body := by
  rw [Pipeline.serve, body_serve, layers_eq hz hb]
  dsimp only
  split <;> rfl

end ServiceHost.Http
