/-
  ServiceHost.Proofs.Http.Availability — the reserved path tells how ready the services
  are, and nothing else depends on it.

  The routes are those of the services a pipeline was built of. The gate in front of them
  looks at the services there are when it is asked, after any number of additions,
  replacements and reports (`Registry.Change`). What a name stands for by then is the
  service added last under it, as ready as it reported last (`Registry.standing`). The
  answer goes by these: 200 if all of them are ready, and else the names of the others, in
  order (`Pipeline.serve_availability`). On any other path neither the pipeline nor its
  answer depends on what a service reports.
-/

import ServiceHost.Proofs.Http.Trace

namespace ServiceHost

/-! ## What happens to services -/

def Service.asReady (s : Service) : Service := { s with ready := true }

namespace Registry

inductive Change where
  /-- A service is added, in place of another of its name. -/
  | add (s : Service)
  /-- Some services report that they are ready, or that they are not. -/
  | report (who : Service → Bool) (ready : Bool)

def change (r : Registry) : Change → Registry
  | .add s => (r.add s).value.1
  | .report who ready => r.setReady who ready

def after (cs : List Change) : Registry := cs.foldl change {}

def Change.standing (name : String) (s? : Option Service) : Change → Option Service
  | .add s => if s.name = name then some s else s?
  | .report who ready => s?.map fun s => if who s then { s with ready } else s

/-- The service added last under a name, as ready as it reported last. -/
def standing (cs : List Change) (name : String) : Option Service := cs.foldl (Change.standing name) none

theorem name_reported (who : Service → Bool) (ready : Bool) (s : Service) :
    (if who s then { s with ready } else s).name = s.name := by
  split <;> rfl

theorem get?_change (r : Registry) (c : Change) (name : String) :
    (r.change c).get? name = c.standing name (r.get? name) := by
  cases c with
  | add s =>
    by_cases h : s.name = name
    · subst h
      simp [change, add, Change.standing]
    · simp [change, add, Change.standing, h, get?_put_of_ne r (Ne.symm h)]
  | report who ready => exact r.get?_map (name_reported who ready) name

theorem get?_after (cs : List Change) (name : String) : (after cs).get? name = standing cs name := by
  have hfold (r : Registry) : (cs.foldl change r).get? name = cs.foldl (Change.standing name) (r.get? name) := by
    induction cs generalizing r with
    | nil => rfl
    | cons c cs ih => rw [List.foldl_cons, List.foldl_cons, ih, get?_change]
  exact hfold {}

theorem Sorted.change {r : Registry} (h : r.Sorted) (c : Change) : (r.change c).Sorted := by
  cases c with
  | add s => exact h.put s
  | report who ready =>
    rw [Sorted, Registry.change, setReady, names_map (name_reported who ready)]
    exact h

theorem sorted_after (cs : List Change) : (after cs).Sorted := by
  have hfold (r : Registry) (h : r.Sorted) : (cs.foldl Registry.change r).Sorted := by
    induction cs generalizing r with
    | nil => exact h
    | cons c cs ih => exact ih _ (h.change c)
  exact hfold {} List.Pairwise.nil

/-! ## Judging and listing -/

variable {r : Registry}

theorem Sorted.pending (h : r.Sorted) : r.pending.Pairwise (· < ·) :=
  List.Pairwise.sublist (List.filter_sublist.map _) h

theorem Sorted.mem_pending (h : r.Sorted) (name : String) :
    name ∈ r.pending ↔ ∃ s, r.get? name = some s ∧ s.ready = false := by
  simp only [Registry.pending, List.mem_map, List.mem_filter, Bool.not_eq_true']
  constructor
  · rintro ⟨s, ⟨hs, hready⟩, rfl⟩
    exact ⟨s, h.get?_of_mem hs, hready⟩
  · rintro ⟨s, hs, hready⟩
    obtain ⟨hmem, hname⟩ := mem_of_get? hs
    exact ⟨s, ⟨hmem, hready⟩, hname⟩

theorem isReady_iff : r.isReady = true ↔ r.pending = [] := by
  simp [isReady, Registry.pending, List.filter_eq_nil_iff]

theorem Sorted.isReady (h : r.Sorted) : r.isReady = true ↔ ∀ name s, r.get? name = some s → s.ready = true := by
  rw [Registry.isReady, List.all_eq_true]
  constructor
  · intro hall name s hs
    exact hall s (mem_of_get? hs).1
  · intro hall s hs
    exact hall s.name s (h.get?_of_mem hs)

theorem pairwise_mergeSort_le (names : List String) :
    (names.mergeSort fun a b => decide (a ≤ b)).Pairwise (· ≤ ·) := by
  have hle := @List.pairwise_mergeSort _ (fun a b : String => decide (a ≤ b))
    (fun a b c hab hbc => decide_eq_true (String.le_trans (of_decide_eq_true hab) (of_decide_eq_true hbc)))
    (fun a b => by simpa using String.le_total a b) names
  exact hle.imp fun h => of_decide_eq_true h

theorem mergeSort_of_perm {names order : List String} (hnames : names.Pairwise (· < ·)) (hp : order.Perm names) :
    order.mergeSort (fun a b => decide (a ≤ b)) = names := by
  have hordered : names.Pairwise (· ≤ ·) :=
    hnames.imp fun {a b} hlt => (String.le_total a b).resolve_right (String.not_le.2 hlt)
  exact List.Perm.eq_of_pairwise (fun _ _ _ _ => String.le_antisymm) (pairwise_mergeSort_le order) hordered
    ((List.mergeSort_perm order _).trans hp)

/-- Judging and listing agree, and neither depends on the order in which the services are looked at. -/
structure Agreeing (r : Registry) : Prop where
  agree : r.isReady = true ↔ r.pending = []
  judged : ∀ order : List Service, order.Perm r.snapshot → order.all (·.ready) = r.isReady
  listed : ∀ order : List Service, order.Perm r.snapshot →
    ((order.filter fun s => !s.ready).map (·.name)).mergeSort (fun a b => decide (a ≤ b)) = r.pending

theorem Sorted.agreeing (h : r.Sorted) : r.Agreeing where
  agree := isReady_iff
  judged _ hp := hp.all_eq
  listed _ hp := mergeSort_of_perm h.pending ((hp.filter _).map _)

/-! ## Services apart from what they report -/

/-- The service that a change adds, apart from its readiness. -/
def Change.added? : Change → Option Service
  | .add s => some s.asReady
  | .report .. => none

/-- Apart from their readiness, the services after some changes are those that were added. -/
theorem after_asReady (cs : List Change) :
    (after cs).snapshot.map Service.asReady = ((cs.filterMap Change.added?).foldl put {}).snapshot := by
  have hfold (r r' : Registry) (h : r.services.map Service.asReady = r'.services) :
      (cs.foldl change r).services.map Service.asReady = ((cs.filterMap Change.added?).foldl put r').services := by
    induction cs generalizing r r' with
    | nil => exact h
    | cons c cs ih =>
      cases c with
      | add s =>
        refine ih _ (r'.put s.asReady) ?_
        rw [put, ← h]
        exact (insert_map (f := Service.asReady) (fun _ => rfl) s r.services).symm
      | report who ready =>
        refine ih _ r' ?_
        have hsame (s : Service) : (if who s then { s with ready } else s).asReady = s.asReady := by
          split <;> rfl
        simp only [change, setReady, List.map_map]
        rw [← h]
        exact List.map_congr_left fun s _ => hsame s
  exact hfold {} {} rfl

end Registry

namespace Http

open Registry (Change)

variable {c : PipelineSettings} {policy : Policy} {services services' : List Service} {sink : Log.Sink}

/-- A pipeline knows of its services nothing but their names and routes. -/
theorem build_asReady (c : PipelineSettings) (services : List Service) (sink : Log.Sink) :
    Pipeline.build c (services.map Service.asReady) sink = Pipeline.build c services sink := by
  have ht : Table.ofServices (services.map Service.asReady) = Table.ofServices services := by
    rw [Table.ofServices, List.flatMap_map]
    rfl
  unfold Pipeline.build
  rw [ht, List.length_map]

/-! ## On the reserved path -/

theorem verdict_value (registry : Registry) (sink : Log.Sink) :
    (Readiness.verdict registry registry sink).value =
      if registry.isReady then .json 200 Readiness.readyBody
      else .json 503 (Readiness.pendingBody registry.pending) := by
  unfold Readiness.verdict
  split <;> rfl

theorem verdict_handlers (registry : Registry) (sink : Log.Sink) :
    Effect.handlers (Readiness.verdict registry registry sink).effects = [] := by
  unfold Readiness.verdict
  split <;> rfl

theorem records_handlers (c : PipelineSettings) (call : Call) (response : Response) :
    Effect.handlers (c.records call response) = [] := by
  refine List.filterMap_eq_nil_iff.2 fun e he => ?_
  unfold PipelineSettings.records at he
  rcases List.mem_append.1 he with he | he
  · obtain ⟨m, -, rfl⟩ := List.mem_map.1 he
    rfl
  · split at he
    · cases List.mem_singleton.1 he
      rfl
    · cases he

/-- How ready the services are after some changes, in answer to a method. -/
structure Readiness.Tells (changes : List Change) (method : String) (ran : Run Response) : Prop where
  ready : ran.value.status = 200 ↔ ∀ name s, Registry.standing changes name = some s → s.ready = true
  readyBody : ran.value.status = 200 → ran.value.body =
    if method = "HEAD" ∨ method = "CONNECT" then "" else (Document.table [("status", .text "ready")]).toJson
  /-- The names of those that are not ready, each once and in order. -/
  pending : ran.value.status ≠ 200 → ran.value.status = 503 ∧ ∃ names : List String,
    names.Pairwise (· < ·) ∧
      (∀ name, name ∈ names ↔ ∃ s, Registry.standing changes name = some s ∧ s.ready = false) ∧
      ran.value.body = if method = "HEAD" then ""
        else (Document.table [("pending", .texts names), ("status", .text "not_ready")]).toJson
  unhandled : Effect.handlers ran.effects = []

theorem reply_reserved {p : Pipeline} (registry : Registry) {call : Call} (hd : p.settings.denies policy call = false)
    (hpath : call.request.uri.path = Readiness.path) :
    (p.reply policy registry call).value = (Readiness.verdict registry registry .injected).value ∧
      Effect.handlers (p.reply policy registry call).effects = [] := by
  have hanswer : p.answer registry call = Readiness.verdict registry registry .injected := if_pos hpath
  rw [Pipeline.reply, if_neg (by simp [hd]), hanswer]
  refine ⟨rfl, ?_⟩
  rw [Effect.handlers, List.filterMap_append]
  exact List.append_eq_nil_iff.2 ⟨verdict_handlers registry .injected, records_handlers ..⟩

theorem Pipeline.serve_reserved {p : Run Pipeline} (hz : c.authorizer.Follows policy)
    (hb : Pipeline.build c services sink = .ok p) (changes : List Change) {call : Call}
    (hd : p.value.settings.denies policy call = false) (hpath : call.request.uri.path = Readiness.path) :
    Readiness.Tells changes call.request.method (p.value.serve (Registry.after changes) call) := by
  have hsorted := Registry.sorted_after changes
  have hiff := hsorted.isReady
  simp only [Registry.get?_after] at hiff
  have hstatus := serve_status hz hb (Registry.after changes) call
  have hbody := serve_body hz hb (Registry.after changes) call
  obtain ⟨hreply, hquiet⟩ := reply_reserved (Registry.after changes) hd hpath
  rw [hreply, verdict_value] at hstatus hbody
  have hunhandled : Effect.handlers (p.value.serve (Registry.after changes) call).effects = [] := by
    have hidentify : Effect.handlers (Layers.identify c.readCertificate c.mapper call.request).effects = [] := by
      rcases identify_effects c.readCertificate c.mapper call.request with h | h <;> rw [h] <;> rfl
    rw [serve_effects hz hb, Effect.handlers, List.filterMap_append, List.filterMap_append]
    exact List.append_eq_nil_iff.2 ⟨hidentify, List.append_eq_nil_iff.2 ⟨hquiet, rfl⟩⟩
  cases hready : (Registry.after changes).isReady with
  | true =>
    rw [hready, if_pos rfl] at hstatus hbody
    have hsuccess : (Response.json 200 Readiness.readyBody).isSuccess = true := rfl
    simp only [hsuccess, and_true] at hbody
    exact ⟨⟨fun _ => hiff.1 hready, fun _ => hstatus⟩, fun _ => hbody, fun h => absurd hstatus h, hunhandled⟩
  | false =>
    rw [hready, if_neg Bool.false_ne_true] at hstatus hbody
    have hsuccess : (Response.json 503 (Readiness.pendingBody (Registry.after changes).pending)).isSuccess = false := rfl
    simp only [hsuccess, Bool.false_eq_true, and_false, or_false] at hbody
    have hne : (p.value.serve (Registry.after changes) call).value.status ≠ 200 := by
      rw [hstatus]
      exact Nat.ne_of_gt (by decide : 200 < 503)
    have hmem := hsorted.mem_pending
    simp only [Registry.get?_after] at hmem
    refine ⟨⟨fun h => absurd h hne, fun h => ?_⟩, fun h => absurd h hne,
      fun _ => ⟨hstatus, _, hsorted.pending, hmem, hbody⟩, hunhandled⟩
    rw [hiff.2 h] at hready
    cases hready

/-! ## On any other path -/

theorem reply_elsewhere (p : Pipeline) (policy : Policy) (registry registry' : Registry) {call : Call}
    (hpath : call.request.uri.path ≠ Readiness.path) : p.reply policy registry call = p.reply policy registry' call := by
  have hanswer : p.answer registry call = p.answer registry' call := by
    rw [Pipeline.answer, Pipeline.answer, if_neg hpath, if_neg hpath]
  rw [Pipeline.reply, Pipeline.reply, hanswer]

/-- The answer does not depend on the registry. -/
theorem Pipeline.serve_elsewhere {p : Run Pipeline} (hz : c.authorizer.Follows policy)
    (hb : Pipeline.build c services sink = .ok p) (registry registry' : Registry) {call : Call}
    (hpath : call.request.uri.path ≠ Readiness.path) : p.value.serve registry call = p.value.serve registry' call := by
  have hlayers : p.value.layers registry (p.value.table.endpoint Layers.unclaimed call.request).1 call =
      p.value.layers registry' (p.value.table.endpoint Layers.unclaimed call.request).1 call := by
    rw [layers_eq hz hb, layers_eq hz hb, Pipeline.line, Pipeline.line,
      reply_elsewhere p.value policy registry registry' hpath]
  simp only [Pipeline.serve, Table.serve, hlayers]

/-! ## Availability -/

/-- How a pipeline goes by the readiness of services, those it was built of after some changes and those that come later. -/
structure Pipeline.Availability (c : PipelineSettings) (policy : Policy) (sink : Log.Sink) (before : List Change)
    (p : Run Pipeline) : Prop where
  /-- On the reserved path a call that is let through is told of the services there are by then. -/
  reserved : ∀ (later : List Change) (call : Call), p.value.settings.denies policy call = false →
    call.request.uri.path = Readiness.path →
    Readiness.Tells (before ++ later) call.request.method (p.value.serve (Registry.after (before ++ later)) call)
  judged : ∀ later : List Change, (Registry.after (before ++ later)).Agreeing
  empty : ({} : Registry).isReady = true ∧ ({} : Registry).pending = []
  /-- If the same services had been added, but had reported anything else, it would be the same pipeline. -/
  rebuilt : ∀ before' : List Change, before'.filterMap Change.added? = before.filterMap Change.added? →
    Pipeline.build c (Registry.after before').snapshot sink = .ok p
  /-- Whatever services there are by then and whatever they report, it gives the same answers on other paths. -/
  elsewhere : ∀ (registry registry' : Registry) (call : Call), call.request.uri.path ≠ Readiness.path →
    p.value.serve registry call = p.value.serve registry' call

/-- The reserved path tells exactly how ready the services are, and nothing else depends on that. -/
theorem Pipeline.serve_availability (hz : c.authorizer.Follows policy) {before : List Change} {p : Run Pipeline}
    (hb : Pipeline.build c (Registry.after before).snapshot sink = .ok p) :
    Pipeline.Availability c policy sink before p := by
  constructor
  case reserved => exact fun later call hd hpath => serve_reserved hz hb (before ++ later) hd hpath
  case judged => exact fun later => (Registry.sorted_after _).agreeing
  case empty => exact ⟨rfl, rfl⟩
  case rebuilt =>
    intro before' hsame
    rw [← hb, ← build_asReady, ← build_asReady c (Registry.after before).snapshot, Registry.after_asReady,
      Registry.after_asReady, hsame]
  case elsewhere => exact fun registry registry' call hpath => serve_elsewhere hz hb registry registry' hpath

/-- A host that is open to everyone. -/
def openHub : PipelineSettings := { role := "hub", readCertificate := fun _ => none }

/-- A service that answers on the reserved path itself, and is not ready. -/
def usurper : Service := { name := "status", ready := false, routes := [⟨Readiness.path, .any, .text 200 "fine"⟩] }

/-- The service becomes ready, and another one comes that is not. -/
def upheaval : List Change := [.report (fun s => s.name = "status") true, .add { name := "data", ready := false }]

def reservedPut : Call :=
  { request := { method := "PUT", uri := ⟨Readiness.path, none⟩ }, occasion := { freshId := "id-3" } }

theorem serve_availability_usurped :
    ∃ p, Pipeline.build openHub (Registry.after [.add usurper]).snapshot .injected = .ok p ∧
      Pipeline.Availability openHub .byRules .injected [.add usurper] p ∧
      Readiness.Tells ([.add usurper] ++ upheaval) "PUT"
        (p.value.serve (Registry.after ([.add usurper] ++ upheaval)) reservedPut) := by
  have hb : Pipeline.build openHub (Registry.after [.add usurper]).snapshot .injected = .ok ⟨_, _⟩ := rfl
  have h := Pipeline.serve_availability Authorizer.byRules_follows hb
  exact ⟨_, hb, h, h.reserved upheaval reservedPut rfl rfl⟩

end Http

end ServiceHost
