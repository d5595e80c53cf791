/-
  ServiceHost.Proofs.Http.Accounting — requests, lines, counters and profiles add up.

  Three parts of a pipeline record requests, and each stands at another depth. The request
  log sees every request. The metrics and the profile see those that authorization does not
  deny, whoever answers them: a handler, the readiness gate or the table itself. So over
  any run of requests the lines of the log are as many as the requests, and the counts,
  samples and profiles as many as the requests not denied (`Pipeline.serveAll_accounted`).

  A handler may do any of this on its own account as well. What is said here is said of the
  rest: of the effects of a run without those of its handlers' answers (`Pipeline.tally`).
-/

import ServiceHost.Proofs.Http.Trace
import ServiceHost.Tls.Base64
import ServiceHost.Tls.Certificate

namespace ServiceHost

/-! ## What is counted -/

namespace Effect

def isLine (message : String) : Effect → Bool
  | logged _ e => e.area = .requests && e.message = message
  | _ => false

def measures (name : String) : Effect → Bool
  | measured m => m.name = name
  | _ => false

def increments (name : String) : Effect → Bool
  | measured m => m.name = name && m.action = .increment && m.value = .one
  | _ => false

def incrementsAt (name : String) (labels : List (String × String)) : Effect → Bool
  | measured m => m = ⟨name, labels, .increment, .one⟩
  | _ => false

def records (name : String) : Effect → Bool
  | measured m => m.name = name && m.action = .record
  | _ => false

def isProfiled : Effect → Bool
  | profiled _ => true
  | _ => false

def isHandled : Effect → Bool
  | handled _ => true
  | _ => false

/-- Of all events only lines of the request log are counted. -/
def Counting (q : Effect → Bool) : Prop := ∀ sink e, e.area ≠ .requests → q (.logged sink e) = false

theorem isLine_counting (message : String) : Counting (isLine message) := by
  intro sink e he
  simp [isLine, he]

theorem Counting.countP_eq_zero {q : Effect → Bool} (hq : Counting q) {es : List Effect} (area : Log.Area)
    (h : ∀ e ∈ es, e.area? = some area) (harea : area ≠ .requests) : es.countP q = 0 := by
  refine List.countP_eq_zero.2 fun e he => ?_
  have he := h e he
  cases e with
  | logged sink event =>
    cases he
    simp [hq sink event harea]
  | _ => cases he

end Effect

namespace Run

variable {α β : Type}

theorem effects_mapM (f : α → Run β) (xs : List α) : (xs.mapM f).effects = xs.flatMap fun x => (f x).effects := by
  induction xs with
  | nil => rfl
  | cons x xs ih =>
    rw [List.mapM_cons, effects_bind, effects_bind, effects_pure, List.append_nil, ih, List.flatMap_cons]

end Run

/-- Whether the handler refuses a body because it is over the limit. -/
def Handler.refuses (h : Handler) (call : Call) : Bool :=
  h.readsBody && call.bodyLimit < call.request.body.utf8ByteSize

theorem Handler.effects_endpoint (h : Handler) (service : String) (call : Call) :
    (h.endpoint service call).effects =
      if h.refuses call then [] else .handled service :: (h.answer call).effects := by
  unfold endpoint
  change (if h.refuses call = true then _ else _ : Run Http.Response).effects = _
  split <;> rfl

namespace Http

/-! ## Who takes a call -/

def Table.target? (t : Table) (r : Request) : Option Target := (t.find? r.uri.path).bind (·.choose? r.method)

theorem Table.endpoint_target {t : Table} {r : Request} {x : Target} (h : t.target? r = some x) (fallback : Endpoint) :
    (t.endpoint fallback r).1 = x.handler.endpoint x.service := by
  obtain ⟨e, he, hx⟩ := Option.bind_eq_some_iff.1 h
  simp only [endpoint, he, hx]

theorem Table.endpoint_untaken {t : Table} {r : Request} (h : t.target? r = none) (call : Call) :
    ((t.endpoint Layers.unclaimed r).1 call).effects = [] := by
  unfold endpoint
  split
  · rfl
  · next e he =>
    rw [target?, he, Option.bind_some] at h
    rw [h]
    rfl

namespace Pipeline

variable (p : Pipeline) (policy : Policy)

/-- The route whose handler runs for a call, if one does. -/
def taker? (call : Call) : Option Target :=
  if p.settings.denies policy call ∨ call.request.uri.path = Readiness.path then none
  else (p.table.target? call.request).filter fun t => !t.handler.refuses (p.settings.handed call)

/-- What the handler of a call does on its own account. -/
def asides (call : Call) : List Effect :=
  match p.taker? policy call with
  | some t => (t.handler.answer (p.settings.handed call)).effects
  | none => []

/-- What the pipeline itself does for a call, as far as it is counted. -/
def account (registry : Registry) (call : Call) : List Effect :=
  (p.taker? policy call).toList.map (fun t => .handled t.service) ++
    ((if p.settings.denies policy call then [] else p.settings.records call (p.reply policy registry call).value) ++
      [.logged .injected (p.line policy registry call)])

/-- The answers to a sequence of requests, each with the registry as it is by then. -/
def serveAll (requests : List (Registry × Call)) : Run (List Response) := requests.mapM fun r => p.serve r.1 r.2

/-- How many effects of a kind a run of requests has, without those of its handlers' answers. -/
def tally (requests : List (Registry × Call)) (q : Effect → Bool) : Int :=
  (p.serveAll requests).effects.countP q - (requests.flatMap fun r => p.asides policy r.2).countP q

def admitted (requests : List (Registry × Call)) : Nat := requests.countP fun r => !p.settings.denies policy r.2

end Pipeline

/-! ## One request -/

variable {c : PipelineSettings} {policy : Policy} {services : List Service} {sink : Log.Sink} {q : Effect → Bool}
  {p : Pipeline}

theorem Pipeline.countP_answer (hq : Effect.Counting q) {call : Call} (hd : p.settings.denies policy call = false)
    (registry : Registry) :
    (p.answer registry call).effects.countP q =
      (p.asides policy call).countP q +
        ((p.taker? policy call).toList.map fun t => Effect.handled t.service).countP q := by
  unfold answer asides taker?
  by_cases hpath : call.request.uri.path = Readiness.path
  · rw [if_pos hpath, if_pos (.inr hpath)]
    refine hq.countP_eq_zero .readiness (fun e he => ?_) (by decide)
    unfold Readiness.verdict at he
    split at he
    · cases he
    · cases List.mem_singleton.1 he
      rfl
  rw [if_neg hpath, if_neg (by simp [hd, hpath])]
  cases ht : p.table.target? call.request with
  | none =>
    rw [Table.endpoint_untaken ht]
    rfl
  | some t =>
    rw [Table.endpoint_target ht, Handler.effects_endpoint]
    cases hr : t.handler.refuses (p.settings.handed call) with
    | true => simp [Option.filter, hr]
    | false => simp [Option.filter, hr, List.countP_cons]

/-- What is counted of a request: what its handler does on its own account, and what the pipeline does. -/
theorem Pipeline.countP_serve {p : Run Pipeline} (hz : c.authorizer.Follows policy)
    (hb : Pipeline.build c services sink = .ok p) (hq : Effect.Counting q) (registry : Registry) (call : Call) :
    (p.value.serve registry call).effects.countP q =
      (p.value.asides policy call).countP q + (p.value.account policy registry call).countP q := by
  have hidentify : (Layers.identify c.readCertificate c.mapper call.request).effects.countP q = 0 := by
    refine hq.countP_eq_zero .context (fun e he => ?_) (by decide)
    rcases identify_effects c.readCertificate c.mapper call.request with h | h <;> rw [h] at he
    · cases he
    · cases List.mem_singleton.1 he
      rfl
  rw [Pipeline.serve_effects hz hb, List.countP_append, hidentify, Nat.zero_add, List.countP_append, account,
    List.countP_append, List.countP_append]
  cases hd : p.value.settings.denies policy call with
  | true =>
    have hnone : p.value.taker? policy call = none := if_pos (.inl hd)
    have hdenial : (p.value.reply policy registry call).effects.countP q = 0 := by
      rw [reply, if_pos hd]
      exact hq.countP_eq_zero .authorization policy.notes (by decide)
    rw [hdenial, asides, hnone]
    simp
  | false =>
    have hreply : (p.value.reply policy registry call).effects.countP q =
        (p.value.answer registry call).effects.countP q +
          (p.value.settings.records call (p.value.reply policy registry call).value).countP q := by
      rw [reply, hd]
      exact List.countP_append ..
    rw [hreply, countP_answer hq hd]
    simp only [Bool.false_eq_true, if_false]
    omega

/-! ## A run of requests -/

/-- What one request counts for each time, a run counts for all its requests together. -/
theorem Pipeline.tally_eq {p : Run Pipeline} (hz : c.authorizer.Follows policy)
    (hb : Pipeline.build c services sink = .ok p) (hq : Effect.Counting q) {hit : Registry × Call → Bool}
    {requests : List (Registry × Call)}
    (h : ∀ r ∈ requests, (p.value.account policy r.1 r.2).countP q = if hit r then 1 else 0) :
    p.value.tally policy requests q = requests.countP hit := by
  have hrun : (p.value.serveAll requests).effects.countP q =
      (requests.flatMap fun r => p.value.asides policy r.2).countP q + requests.countP hit := by
    rw [serveAll, Run.effects_mapM]
    induction requests with
    | nil => rfl
    | cons r requests ih =>
      have hfirst := h r (.head _)
      have hrest := ih fun r' hr' => h r' (.tail _ hr')
      rw [List.flatMap_cons, List.flatMap_cons, List.countP_append, List.countP_append, List.countP_cons,
        countP_serve hz hb hq, hfirst, hrest]
      omega
  rw [tally, hrun]
  omega

/-! ## What each request counts for -/

theorem natText_inj {m n : Nat} (h : toString m = toString n) : m = n := by
  have hdigits := congrArg String.toList h
  rw [Nat.toString_eq_ofList_toDigits, Nat.toString_eq_ofList_toDigits, String.toList_ofList, String.toList_ofList]
    at hdigits
  have hvalue := congrArg (Nat.ofDigitChars 10 · 0) hdigits
  simpa only [Nat.ofDigitChars_toDigits (by decide : 1 < 10) (by decide : 10 ≤ 10)] using hvalue

theorem labels_inj {m m' : String} {s s' : Nat} :
    [("method", m), ("status", toString s)] = [("method", m'), ("status", toString s')] ↔ m = m' ∧ s = s' := by
  simp only [List.cons.injEq, Prod.mk.injEq, true_and, and_true]
  exact and_congr_right fun _ => ⟨natText_inj, congrArg toString⟩

theorem ofRequest_incrementsAt (method m : String) (status s nanos : Nat) :
    (Metrics.ofRequest method status nanos).countP
        (fun x => Effect.incrementsAt Metrics.requestsTotal [("method", m), ("status", toString s)] (.measured x)) =
      if method = m && status = s then 1 else 0 := by
  have hsample : Metrics.requestSeconds ≠ Metrics.requestsTotal := by decide
  simp only [Metrics.ofRequest, List.countP_cons, List.countP_nil, Effect.incrementsAt, Metrics.Metric.mk.injEq,
    labels_inj, hsample, true_and, and_true, false_and, decide_false, Bool.false_eq_true, if_false, Nat.zero_add,
    Nat.add_zero, decide_eq_true_eq, Bool.and_eq_true]

theorem Response.isServerError_congr {r r' : Response} (h : r.status = r'.status) :
    r.isServerError = r'.isServerError := by
  simp only [isServerError, h]

theorem Pipeline.countP_account (hh : ∀ service, q (.handled service) = false) (registry : Registry) (call : Call) :
    (p.account policy registry call).countP q =
      (if p.settings.denies policy call then 0
        else (p.settings.records call (p.reply policy registry call).value).countP q) +
        if q (.logged .injected (p.line policy registry call)) then 1 else 0 := by
  have hmarks : ((p.taker? policy call).toList.map fun t => Effect.handled t.service).countP q = 0 := by
    refine List.countP_eq_zero.2 fun e he => ?_
    obtain ⟨t, -, rfl⟩ := List.mem_map.1 he
    simp [hh]
  rw [account, List.countP_append, hmarks, Nat.zero_add, List.countP_append, List.countP_singleton]
  congr 1
  split <;> rfl

/-- What is counted of the records of an answer: its two metrics, and its profile if it is sampled. -/
theorem countP_records (call : Call) (response : Response) :
    (c.records call response).countP q =
      (Metrics.ofRequest call.request.method response.status call.occasion.elapsedNanos).countP
          (fun m => q (.measured m)) +
        if c.profiler?.any (·.samples call.occasion.draw) && q (.profiled (Layers.profileRecord (c.named call) response))
        then 1 else 0 := by
  rw [PipelineSettings.records, List.countP_append, List.countP_map]
  congr 1
  cases c.profiler?.any (·.samples call.occasion.draw) <;> simp [List.countP_singleton]

theorem message_inj (a b : Bool) :
    (if a then "Request failed" else "Request served") = (if b then "Request failed" else "Request served") ↔ a = b := by
  cases a <;> cases b <;> decide

theorem Pipeline.account_isLine {p : Run Pipeline} (hz : c.authorizer.Follows policy)
    (hb : Pipeline.build c services sink = .ok p) (registry : Registry) (call : Call) (failed : Bool) :
    (p.value.account policy registry call).countP
        (Effect.isLine (if failed then "Request failed" else "Request served")) =
      if (p.value.serve registry call).value.isServerError == failed then 1 else 0 := by
  have hstatus := Response.isServerError_congr (Pipeline.serve_status hz hb registry call)
  have hnone : ∀ response, (p.value.settings.records call response).countP
      (Effect.isLine (if failed then "Request failed" else "Request served")) = 0 := by
    intro response
    simp [countP_records, Metrics.ofRequest, Effect.isLine]
  rw [countP_account (fun _ => rfl), hnone, ite_self, Nat.zero_add, hstatus]
  simp only [Effect.isLine, line, Layers.logLine, decide_true, Bool.true_and, decide_eq_true_eq, beq_iff_eq,
    message_inj]

/-- What is recorded of a request that is not denied counts for it, and denied requests count for nothing. -/
theorem Pipeline.account_recorded (hl : ∀ sink e, q (.logged sink e) = false)
    (hh : ∀ service, q (.handled service) = false) {registry : Registry} {call : Call} {hit : Bool}
    (h : (p.settings.records call (p.reply policy registry call).value).countP q = if hit then 1 else 0) :
    (p.account policy registry call).countP q = if !p.settings.denies policy call && hit then 1 else 0 := by
  rw [countP_account hh, hl, h]
  cases p.settings.denies policy call <;> simp

/-- At most one handler runs, that of the route that takes the call. -/
theorem Pipeline.account_isHandled (registry : Registry) (call : Call) :
    (p.account policy registry call).countP Effect.isHandled ≤ 1 := by
  have hrest : ((if p.settings.denies policy call then []
      else p.settings.records call (p.reply policy registry call).value) ++
      [Effect.logged .injected (p.line policy registry call)]).countP Effect.isHandled = 0 := by
    rw [List.countP_append]
    cases p.settings.denies policy call <;> simp [countP_records, Metrics.ofRequest, Effect.isHandled]
  rw [account, List.countP_append, hrest, Nat.add_zero]
  refine Nat.le_trans List.countP_le_length ?_
  cases p.taker? policy call <;> simp

/-! ## The accounts of a run -/

section Runs

variable {p : Run Pipeline} (hz : c.authorizer.Follows policy) (hb : Pipeline.build c services sink = .ok p)
  (requests : List (Registry × Call))

include hz hb

theorem Pipeline.tally_isLine (failed : Bool) :
    p.value.tally policy requests (Effect.isLine (if failed then "Request failed" else "Request served")) =
      requests.countP fun r => (p.value.serve r.1 r.2).value.isServerError == failed :=
  tally_eq hz hb (Effect.isLine_counting _) fun r _ => account_isLine hz hb r.1 r.2 failed

theorem Pipeline.tally_recorded (hl : ∀ sink e, q (.logged sink e) = false)
    (hh : ∀ service, q (.handled service) = false) {hit : Registry × Call → Bool}
    (h : ∀ r, (p.value.settings.records r.2 (p.value.reply policy r.1 r.2).value).countP q = if hit r then 1 else 0) :
    p.value.tally policy requests q = requests.countP fun r => !p.value.settings.denies policy r.2 && hit r :=
  tally_eq hz hb (fun sink e _ => hl sink e) fun r _ => account_recorded hl hh (h r)

/-- What is recorded once of any answer is recorded of all requests that are not denied. -/
theorem Pipeline.tally_admitted (hl : ∀ sink e, q (.logged sink e) = false)
    (hh : ∀ service, q (.handled service) = false)
    (h : ∀ call response, (p.value.settings.records call response).countP q = 1) :
    p.value.tally policy requests q = p.value.admitted policy requests := by
  have hall : p.value.tally policy requests q =
      requests.countP fun r => !p.value.settings.denies policy r.2 && true :=
    tally_recorded hz hb requests hl hh fun r => h r.2 _
  simp only [Bool.and_true] at hall
  exact hall

end Runs

/-- What the effects of a run of requests add up to. -/
structure Pipeline.Accounted (p : Pipeline) (policy : Policy) (requests : List (Registry × Call)) : Prop where
  lines : p.tally policy requests (Effect.isLine "Request served") +
    p.tally policy requests (Effect.isLine "Request failed") = requests.length
  failures : p.tally policy requests (Effect.isLine "Request failed") =
    requests.countP fun r => (p.serve r.1 r.2).value.isServerError
  /-- Every request ends with its line, which tells whether the server failed. -/
  line : ∀ r ∈ requests, ∃ e, (p.serve r.1 r.2).effects.getLast? = some (.logged .injected e) ∧
    e.area = .requests ∧
    e.message = if (p.serve r.1 r.2).value.isServerError then "Request failed" else "Request served"
  /-- All that happens to the counter of requests is that it grows by one for each request that is not denied. -/
  counted : p.tally policy requests (Effect.measures Metrics.requestsTotal) = p.admitted policy requests ∧
    p.tally policy requests (Effect.increments Metrics.requestsTotal) = p.admitted policy requests
  labelled : ∀ method status,
    p.tally policy requests
        (Effect.incrementsAt Metrics.requestsTotal [("method", method), ("status", toString status)]) =
      requests.countP fun r => !p.settings.denies policy r.2 &&
        (r.2.request.method = method && (p.serve r.1 r.2).value.status = status)
  sampled : p.tally policy requests (Effect.records Metrics.requestSeconds) = p.admitted policy requests
  profiled : ∀ profiler, p.settings.profiler? = some profiler → Decimal.Binary64.le .one profiler.rate = true →
    p.tally policy requests Effect.isProfiled = p.admitted policy requests
  /-- At most one handler runs for a request. -/
  handled : ∀ r ∈ requests,
    (p.serve r.1 r.2).effects.countP Effect.isHandled ≤ 1 + (p.asides policy r.2).countP Effect.isHandled

/-- Over any run of requests the request log, the metrics, the profile and the handlers run agree with the requests. -/
theorem Pipeline.serveAll_accounted {p : Run Pipeline} (hz : c.authorizer.Follows policy)
    (hb : Pipeline.build c services sink = .ok p) (requests : List (Registry × Call)) :
    p.value.Accounted policy requests := by
  constructor
  case lines =>
    have hserved := tally_isLine hz hb requests false
    have hfailed := tally_isLine hz hb requests true
    have hsplit := List.length_eq_countP_add_countP (l := requests)
      fun r : Registry × Call => (p.value.serve r.1 r.2).value.isServerError
    simp only [Bool.false_eq_true, if_false, if_true, beq_false, beq_true] at hserved hfailed
    simp only [Bool.not_eq_true, Bool.decide_eq_false] at hsplit
    omega
  case failures =>
    simpa using tally_isLine hz hb requests true
  case line =>
    intro r _
    refine ⟨p.value.line policy r.1 r.2, ?_, rfl, ?_⟩
    · rw [serve_effects hz hb, ← List.append_assoc, List.getLast?_concat]
    · rw [Response.isServerError_congr (serve_status hz hb r.1 r.2)]
      rfl
  case counted =>
    constructor <;> refine tally_admitted hz hb requests (fun _ _ => rfl) (fun _ => rfl) fun call response => ?_
    · simp [countP_records, Metrics.ofRequest, Effect.measures, Metrics.requestsTotal, Metrics.requestSeconds]
    · simp [countP_records, Metrics.ofRequest, Effect.increments, Metrics.requestsTotal, Metrics.requestSeconds]
  case labelled =>
    intro method status
    refine tally_recorded hz hb requests (fun _ _ => rfl) (fun _ => rfl) fun r => ?_
    rw [serve_status hz hb, countP_records, ofRequest_incrementsAt]
    simp only [Effect.incrementsAt, Bool.and_false, Bool.false_eq_true, if_false, Nat.add_zero]
  case sampled =>
    refine tally_admitted hz hb requests (fun _ _ => rfl) (fun _ => rfl) fun call response => ?_
    simp [countP_records, Metrics.ofRequest, Effect.records, Metrics.requestsTotal, Metrics.requestSeconds]
  case profiled =>
    intro profiler hp hrate
    refine tally_admitted hz hb requests (fun _ _ => rfl) (fun _ => rfl) fun call response => ?_
    simp [countP_records, Metrics.ofRequest, Effect.isProfiled, hp, Profiler.samples, hrate]
  case handled =>
    intro r _
    rw [countP_serve hz hb (fun _ _ _ => rfl), Nat.add_comm]
    exact Nat.add_le_add_right (account_isHandled ..) _

def readinessCall : Call :=
  { request := { uri := ⟨Readiness.path, some Readiness.path⟩ }, occasion := { freshId := "id-2" } }

/-- A host that reads certificates and takes every request into its profile. -/
def profiledHost : PipelineSettings :=
  { adminsOnly with
    readCertificate := Tls.Certificate.read?
    profiler? := some ⟨"/profiles/requests-1.jsonl", .one⟩ }

/-- A client certificate of the subject CN=ann, OU=admin. -/
def adminCertificate : Text.Octets :=
  (Tls.Base64.decode
    (["MIIBAzCBtqADAgECAgEHMAUGAytlcDAeMQwwCgYDVQQDDANhbm4xDjAMBgNVBAsM",
      "BWFkbWluMCAXDTI2MTEyMDEwMDUxN1oYDzIxMjYxMDI3MTAwNTE3WjAeMQwwCgYD",
      "VQQDDANhbm4xDjAMBgNVBAsMBWFkbWluMCowBQYDK2VwAyEAUdSiBTJDb6CHPc8z",
      "fqVA7Ueh/qB4sikXVOZxapAcVu+jFzAVMBMGA1UdJQQMMAoGCCsGAQUFBwMCMAUG",
      "AytlcANBAOogsrhc7UQZZXIb+7kACUyfbFNk1Zk1o+uX4dkqyONT6DLk/fdoMBvU",
      "wVN/l6N1EU/MZQalKKjjIfoLR0n7mAU="].flatMap Text.utf8)).toOption.getD []

def adminCall : Call := { guestCall with request := { guestCall.request with chain? := some [adminCertificate] } }

def mixedRequests : List (Registry × Call) := [({}, guestCall), ({}, adminCall), ({}, readinessCall)]

theorem serveAll_accounted_mixed :
    ∃ p, Pipeline.build profiledHost [echoService] .injected = .ok p ∧
      p.value.Accounted .byRules mixedRequests ∧ p.value.tally .byRules mixedRequests Effect.isProfiled = 1 ∧
        (p.value.serve {} adminCall).value.status = 200 ∧
        (p.value.serve {} adminCall).effects.countP Effect.isHandled = 1 := by
  have hb : Pipeline.build profiledHost [echoService] .injected = .ok ⟨_, _⟩ := rfl
  have h := Pipeline.serveAll_accounted Authorizer.byRules_follows hb mixedRequests
  refine ⟨_, hb, h, (h.profiled _ rfl (by decide +kernel)).trans ?_, ?_, ?_⟩ <;> decide +kernel

end Http

end ServiceHost
