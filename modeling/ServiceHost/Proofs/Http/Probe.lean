/-
  ServiceHost.Proofs.Http.Probe — the reserved path is asked while services change.

  The gate judges from one snapshot of the services and lists those that are not ready
  from another one, and asks every service when it comes to it. Here these are steps
  (`Progress.next`), and services are added and report between any two of them. A service
  that was replaced after a snapshot is still asked. Turns in a row, with changes only
  before the second snapshot, come to the verdict that the gate gives on the registries
  before and after them (`Probe.run_verdict`).

  A service that was not ready when the gate judged can be ready when the gate lists. So a
  refusal names those that are not ready when they are asked the second time, and such a
  service is always named if nothing happens to it from then on (`refusal_accounted`). If
  all have become ready meanwhile, it names nobody (`nobody_named`).
-/

import ServiceHost.Proofs.Http.Availability

namespace ServiceHost

open Registry (Change)

namespace Registry

/-- What a change makes of a service, whoever holds it. -/
def Change.onService : Change → Service → Service
  | .add _, s => s
  | .report who ready, s => if who s then { s with ready } else s

/-- A change leaves a service as it is, and in its place. -/
def Change.Spares (s : Service) : Change → Prop
  | .add t => t.name ≠ s.name
  | .report who ready => who s = true → ready = s.ready

variable {s t : Service} {c : Change}

theorem name_onService (c : Change) (s : Service) : (c.onService s).name = s.name := by
  cases c with
  | add t => rfl
  | report who ready => exact name_reported who ready s

theorem Change.Spares.onService (h : c.Spares s) : c.onService s = s := by
  cases c with
  | add t => rfl
  | report who ready =>
    by_cases hs : who s = true
    · obtain rfl := h hs
      exact if_pos hs
    · exact if_neg hs

theorem mem_insert_of_mem {ts : List Service} (hs : s ∈ ts) (hne : t.name ≠ s.name) : s ∈ insert t ts := by
  induction ts with
  | nil => cases hs
  | cons u us ih =>
    rw [insert]
    split
    · next hu =>
      rcases List.mem_cons.1 hs with rfl | hs
      · exact absurd hu hne
      · exact List.mem_cons_of_mem _ hs
    · split
      · exact List.mem_cons_of_mem _ hs
      · rcases List.mem_cons.1 hs with rfl | hs
        · exact List.mem_cons_self
        · exact List.mem_cons_of_mem _ (ih hs)

theorem Change.Spares.mem_change {r : Registry} (h : c.Spares s) (hs : s ∈ r.snapshot) :
    s ∈ (r.change c).snapshot := by
  cases c with
  | add t => exact mem_insert_of_mem hs h
  | report who ready => exact List.mem_map.2 ⟨s, hs, h.onService⟩

end Registry

namespace Http.Readiness

/-! ## The gate in steps -/

/-- An order in which the services of a snapshot come. -/
structure Order where
  arrange : List Service → List Service
  perm : ∀ ss, (arrange ss).Perm ss

inductive Progress where
  | begun
  /-- These services of the first snapshot are still to be asked, those before them were ready. -/
  | judging (left : List Service)
  /-- One was not ready. -/
  | refused
  /-- These services of the second snapshot are still to be asked, these names were not ready. -/
  | listing (left : List Service) (found : List String)
  | answered (pending? : Option (List String))

/-- The gate with the registry that it looks at. -/
structure Probe where
  registry : Registry
  progress : Progress := .begun

inductive Event where
  /-- The gate goes on; a snapshot taken in this step comes in this order. -/
  | turn (order : Order)
  | change (c : Change)

/-- Whether the gate is still to take its second snapshot. -/
def Progress.isEarly : Progress → Bool
  | begun | judging _ | refused => true
  | listing .. | answered _ => false

def Progress.changed (c : Change) : Progress → Progress
  | judging left => judging (left.map c.onService)
  | listing left found => listing (left.map c.onService) found
  | progress => progress

def inOrder (names : List String) : List String := names.mergeSort fun a b => decide (a ≤ b)

def Progress.next (registry : Registry) (order : Order) : Progress → Progress
  | begun => judging (order.arrange registry.snapshot)
  | judging [] => answered none
  | judging (s :: left) => if s.ready then judging left else refused
  | refused => listing (order.arrange registry.snapshot) []
  | listing [] found => answered (some (inOrder found))
  | listing (s :: left) found => listing left (if s.ready then found else found ++ [s.name])
  | answered pending? => answered pending?

namespace Probe

def step (p : Probe) : Event → Probe
  | .turn order => { p with progress := p.progress.next p.registry order }
  | .change c => ⟨p.registry.change c, p.progress.changed c⟩

def run (p : Probe) (es : List Event) : Probe := es.foldl step p

def turns (p : Probe) : List Event → List Probe
  | [] => []
  | .turn order :: es => p :: (p.step (.turn order)).turns es
  | .change c :: es => (p.step (.change c)).turns es

/-- The service that is asked in the next turn whether all are ready. -/
def judged? (p : Probe) : Option Service :=
  match p.progress with
  | .judging (s :: _) => some s
  | _ => none

/-- The service that is asked in the next turn whether it is to be listed. -/
def listed? (p : Probe) : Option Service :=
  match p.progress with
  | .listing (s :: _) _ => some s
  | _ => none

/-- The services asked whether all are ready, each as it was then. -/
def judged (p : Probe) (es : List Event) : List Service := (p.turns es).filterMap judged?

/-- The services asked whether they are to be listed, each as it was then. -/
def listed (p : Probe) (es : List Event) : List Service := (p.turns es).filterMap listed?

end Probe

def unready (ss : List Service) : List String := (ss.filter fun s => !s.ready).map (·.name)

def reply (sink : Log.Sink) : Option (List String) → Run Response
  | none => pure (.json 200 readyBody)
  | some names => do
    Run.log sink .debug .readiness "Not ready" [("pending", .bare (Text.quotedList names))]
    return .json 503 (pendingBody names)

theorem verdict_eq_reply (judged listed : Registry) (sink : Log.Sink) :
    verdict judged listed sink = reply sink (if judged.isReady then none else some listed.pending) := by
  unfold verdict
  split <;> rfl

namespace Probe

variable {p : Probe} {r : Registry} {es : List Event} {names : List String} {s : Service}

theorem filterMap_turns (asked? : Probe → Option Service) (p : Probe) (order : Order) (es : List Event) :
    (p.turns (.turn order :: es)).filterMap asked? =
      (asked? p).toList ++ ((p.step (.turn order)).turns es).filterMap asked? := by
  cases h : asked? p <;> simp [turns, h]

theorem judged_turn (p : Probe) (order : Order) (es : List Event) :
    p.judged (.turn order :: es) = p.judged?.toList ++ (p.step (.turn order)).judged es :=
  filterMap_turns judged? p order es

theorem listed_turn (p : Probe) (order : Order) (es : List Event) :
    p.listed (.turn order :: es) = p.listed?.toList ++ (p.step (.turn order)).listed es :=
  filterMap_turns listed? p order es

/-! ## Listing -/

theorem run_answered (r : Registry) (pending? : Option (List String)) (es : List Event) :
    ((Probe.mk r (.answered pending?)).run es).progress = .answered pending? ∧
      (Probe.mk r (.answered pending?)).listed es = [] := by
  induction es generalizing r with
  | nil => exact ⟨rfl, rfl⟩
  | cons e es ih =>
    cases e with
    | turn order =>
      rw [listed_turn]
      exact ih r
    | change c => exact ih (r.change c)

/-- Once the gate has its second snapshot, it asks each service in it once and names those that are not ready. -/
theorem listing_account {left : List Service} {found : List String}
    (h : ((Probe.mk r (.listing left found)).run es).progress = .answered (some names)) :
    names = inOrder (found ++ unready ((Probe.mk r (.listing left found)).listed es)) ∧
      ((Probe.mk r (.listing left found)).listed es).map (·.name) = left.map (·.name) := by
  induction es generalizing r left found with
  | nil => cases h
  | cons e es ih =>
    cases e with
    | turn order =>
      cases left with
      | nil =>
        obtain ⟨hrun, hlisted⟩ := run_answered r (some (inOrder found)) es
        have hnames : inOrder found = names := Option.some.inj (Progress.answered.inj (hrun.symm.trans h))
        have hnone : (Probe.mk r (.listing [] found)).listed (.turn order :: es) = [] :=
          (listed_turn ..).trans hlisted
        rw [hnone, ← hnames]
        exact ⟨by simp [unready], rfl⟩
      | cons s left =>
        obtain ⟨hnames, hlisted⟩ := ih h
        rw [listed_turn]
        refine ⟨hnames.trans ?_, congrArg (s.name :: ·) hlisted⟩
        change inOrder ((if s.ready then found else found ++ [s.name]) ++ _) = inOrder (found ++ unready (s :: _))
        cases hs : s.ready <;> simp [unready, hs, step, Progress.next]
    | change c =>
      have hrest : ((Probe.mk (r.change c) (.listing (left.map c.onService) found)).run es).progress =
          .answered (some names) := h
      obtain ⟨hnames, hlisted⟩ := ih hrest
      refine ⟨hnames, hlisted.trans ?_⟩
      rw [List.map_map]
      exact List.map_congr_left fun s _ => Registry.name_onService c s

theorem mem_listed_of_listing {left : List Service} {found : List String} (hs : s ∈ left)
    (hspared : ∀ c, .change c ∈ es → c.Spares s)
    (h : ((Probe.mk r (.listing left found)).run es).progress = .answered (some names)) :
    s ∈ (Probe.mk r (.listing left found)).listed es := by
  induction es generalizing r left found with
  | nil => cases h
  | cons e es ih =>
    have hrest : ∀ c, .change c ∈ es → c.Spares s := fun c hc => hspared c (List.mem_cons_of_mem _ hc)
    cases e with
    | turn order =>
      rw [listed_turn]
      cases left with
      | nil => cases hs
      | cons t left =>
        rcases List.mem_cons.1 hs with rfl | hs
        · exact List.mem_cons_self
        · exact List.mem_cons_of_mem _ (ih hs hrest h)
    | change c =>
      have hkept : c.onService s = s := (hspared c List.mem_cons_self).onService
      have hleft : s ∈ left.map c.onService := List.mem_map.2 ⟨s, hs, hkept⟩
      exact ih (r := r.change c) hleft hrest h

/-! ## Before the second snapshot -/

theorem next_early {progress : Progress} (h : progress.isEarly = true) (r : Registry) (order : Order) :
    progress = .refused ∨ progress.next r order = .answered none ∨ (progress.next r order).isEarly = true := by
  cases progress with
  | begun => exact .inr (.inr rfl)
  | judging left =>
    cases left with
    | nil => exact .inr (.inl rfl)
    | cons s left => refine .inr (.inr ?_); cases hs : s.ready <;> simp [Progress.next, hs, Progress.isEarly]
  | refused => exact .inl rfl
  | listing | answered => cases h

theorem changed_early {progress : Progress} (h : progress.isEarly = true) (c : Change) :
    (progress.changed c).isEarly = true := by
  cases progress with
  | begun | judging | refused => rfl
  | listing | answered => cases h

theorem listed?_early (h : p.progress.isEarly = true) : p.listed? = none := by
  unfold listed?
  split
  · next hp =>
    rw [hp] at h
    cases h
  · rfl

/-- An approval names nobody. -/
theorem run_approved (hp : p.progress = .answered none) : (p.run es).progress ≠ .answered (some names) := by
  obtain ⟨r, progress⟩ := p
  obtain rfl : progress = .answered none := hp
  rw [(run_answered r none es).1]
  rintro ⟨⟩

/-- A gate that refuses takes a second snapshot and lists what is not ready of that. -/
theorem early_account (hp : p.progress.isEarly = true) (h : (p.run es).progress = .answered (some names)) :
    names = inOrder (unready (p.listed es)) ∧
      ∃ q ∈ p.turns es, q.progress = .refused ∧ ((p.listed es).map (·.name)).Perm q.registry.names := by
  induction es generalizing p with
  | nil =>
    rw [show p.progress = _ from h] at hp
    cases hp
  | cons e es ih =>
    cases e with
    | turn order =>
      rw [listed_turn, listed?_early hp]
      rcases next_early hp p.registry order with hrefused | happroved | hearly
      · obtain ⟨r, progress⟩ := p
        obtain rfl : progress = .refused := hrefused
        have hrest : ((Probe.mk r (.listing (order.arrange r.snapshot) [])).run es).progress =
            .answered (some names) := h
        obtain ⟨hnames, hlisted⟩ := listing_account hrest
        refine ⟨hnames, ⟨r, .refused⟩, List.mem_cons_self, rfl, ?_⟩
        exact (List.Perm.of_eq hlisted).trans ((order.perm r.snapshot).map _)
      · exact absurd h (run_approved (p := p.step (.turn order)) happroved)
      · obtain ⟨hnames, q, hq, hsurvey⟩ := ih (p := p.step (.turn order)) hearly h
        exact ⟨hnames, q, List.mem_cons_of_mem _ hq, hsurvey⟩
    | change c => exact ih (p := p.step (.change c)) (changed_early hp c) h

theorem mem_listed_of_early (hp : p.progress.isEarly = true) (hs : s ∈ p.registry.snapshot)
    (hspared : ∀ c, .change c ∈ es → c.Spares s) (h : (p.run es).progress = .answered (some names)) :
    s ∈ p.listed es := by
  induction es generalizing p with
  | nil =>
    rw [show p.progress = _ from h] at hp
    cases hp
  | cons e es ih =>
    have hrest : ∀ c, .change c ∈ es → c.Spares s := fun c hc => hspared c (List.mem_cons_of_mem _ hc)
    cases e with
    | turn order =>
      rw [listed_turn, listed?_early hp]
      rcases next_early hp p.registry order with hrefused | happroved | hearly
      · obtain ⟨r, progress⟩ := p
        obtain rfl : progress = .refused := hrefused
        exact mem_listed_of_listing ((order.perm r.snapshot).mem_iff.2 hs) hrest h
      · exact absurd h (run_approved (p := p.step (.turn order)) happroved)
      · exact ih (p := p.step (.turn order)) hearly hs hrest h
    | change c =>
      have hkept : s ∈ (p.registry.change c).snapshot := (hspared c List.mem_cons_self).mem_change hs
      exact ih (p := p.step (.change c)) (changed_early hp c) hkept hrest h

/-- A refusal has a cause. -/
theorem judging_account {left : List Service}
    (h : ((Probe.mk r (.judging left)).run es).progress = .answered (some names)) :
    ∃ s ∈ (Probe.mk r (.judging left)).judged es, s.ready = false := by
  induction es generalizing r left with
  | nil => cases h
  | cons e es ih =>
    cases e with
    | turn order =>
      rw [judged_turn]
      cases left with
      | nil => exact absurd h (run_approved (p := ⟨r, .answered none⟩) rfl)
      | cons s left =>
        cases hs : s.ready with
        | false => exact ⟨s, List.mem_cons_self, hs⟩
        | true =>
          have hnext : (Probe.mk r (.judging (s :: left))).step (.turn order) = ⟨r, .judging left⟩ := by
            rw [step, Progress.next, if_pos hs]
          rw [run, List.foldl_cons, hnext] at h
          obtain ⟨t, ht, hready⟩ := ih h
          rw [hnext]
          exact ⟨t, List.mem_cons_of_mem _ ht, hready⟩
    | change c =>
      have hrest : ((Probe.mk (r.change c) (.judging (left.map c.onService))).run es).progress =
          .answered (some names) := h
      exact ih hrest

theorem begun_account (h : ((Probe.mk r .begun).run es).progress = .answered (some names)) :
    ∃ s ∈ (Probe.mk r .begun).judged es, s.ready = false := by
  induction es generalizing r with
  | nil => cases h
  | cons e es ih =>
    cases e with
    | turn order =>
      have hrest : ((Probe.mk r (.judging (order.arrange r.snapshot))).run es).progress = .answered (some names) := h
      exact judging_account hrest
    | change c => exact ih (r := r.change c) h

theorem sorted_turns (hr : p.registry.Sorted) : ∀ q ∈ p.turns es, q.registry.Sorted := by
  induction es generalizing p with
  | nil => exact List.forall_mem_nil _
  | cons e es ih =>
    cases e with
    | turn order => exact List.forall_mem_cons.2 ⟨hr, ih (p := p.step (.turn order)) hr⟩
    | change c => exact ih (p := p.step (.change c)) (hr.change c)

/-! ## In a row -/

theorem run_judging (r : Registry) (left : List Service) (order : Order) :
    ∃ n, (Probe.mk r (.judging left)).run (List.replicate n (.turn order)) =
      ⟨r, if left.all (·.ready) then .answered none else .refused⟩ := by
  induction left with
  | nil => exact ⟨1, rfl⟩
  | cons s left ih =>
    cases hs : s.ready with
    | false =>
      refine ⟨1, ?_⟩
      simp [run, step, Progress.next, hs]
    | true =>
      obtain ⟨n, hn⟩ := ih
      refine ⟨n + 1, ?_⟩
      have hnext : (Probe.mk r (.judging (s :: left))).step (.turn order) = ⟨r, .judging left⟩ := by
        rw [step, Progress.next, if_pos hs]
      rw [List.replicate_succ, run, List.foldl_cons, hnext, List.all_cons, hs, Bool.true_and]
      exact hn

theorem run_listing (r : Registry) (left : List Service) (found : List String) (order : Order) :
    ∃ n, (Probe.mk r (.listing left found)).run (List.replicate n (.turn order)) =
      ⟨r, .answered (some (inOrder (found ++ unready left)))⟩ := by
  induction left generalizing found with
  | nil => exact ⟨1, by rw [unready, List.filter_nil, List.map_nil, List.append_nil]; rfl⟩
  | cons s left ih =>
    obtain ⟨n, hn⟩ := ih (if s.ready then found else found ++ [s.name])
    refine ⟨n + 1, ?_⟩
    rw [List.replicate_succ, run, List.foldl_cons]
    refine hn.trans ?_
    cases hs : s.ready <;> simp [unready, hs]

theorem run_changes (r : Registry) (cs : List Change) :
    (Probe.mk r .refused).run (cs.map .change) = ⟨cs.foldl Registry.change r, .refused⟩ := by
  induction cs generalizing r with
  | nil => rfl
  | cons c cs ih => exact ih (r.change c)

theorem run_append (p : Probe) (es es' : List Event) : p.run (es ++ es') = (p.run es).run es' := List.foldl_append

/-- Turns with changes only between the judgement and the second snapshot come to the verdict on the two registries. -/
theorem run_verdict (before cs : List Change) (order : Order) (sink : Log.Sink) :
    ∃ n m pending?, ((Probe.mk (Registry.after before) .begun).run (List.replicate n (.turn order) ++
        (cs.map .change ++ List.replicate m (.turn order)))).progress = .answered pending? ∧
      reply sink pending? = verdict (Registry.after before) (Registry.after (before ++ cs)) sink := by
  have hlater : cs.foldl Registry.change (Registry.after before) = Registry.after (before ++ cs) :=
    List.foldl_append.symm
  obtain ⟨n, hn⟩ := run_judging (Registry.after before) (order.arrange (Registry.after before).snapshot) order
  have hjudged : (Probe.mk (Registry.after before) .begun).run (List.replicate (n + 1) (.turn order)) =
      ⟨Registry.after before, if (Registry.after before).isReady then .answered none else .refused⟩ := by
    rw [List.replicate_succ, run, List.foldl_cons]
    refine hn.trans ?_
    rw [(order.perm _).all_eq]
    rfl
  refine ⟨n + 1, ?_⟩
  rw [verdict_eq_reply]
  cases hready : (Registry.after before).isReady with
  | true =>
    rw [hready, if_pos rfl] at hjudged
    refine ⟨0, none, ?_, rfl⟩
    rw [run_append, hjudged]
    exact (run_answered ..).1
  | false =>
    rw [hready, if_neg Bool.false_ne_true] at hjudged
    obtain ⟨m, hm⟩ := run_listing (Registry.after (before ++ cs))
      (order.arrange (Registry.after (before ++ cs)).snapshot) [] order
    refine ⟨m + 1, some (Registry.after (before ++ cs)).pending, ?_, rfl⟩
    rw [run_append, hjudged, run_append, run_changes, hlater, List.replicate_succ, run, List.foldl_cons]
    refine (congrArg Probe.progress hm).trans ?_
    have hpending := (Registry.sorted_after (before ++ cs)).agreeing.listed _ (order.perm _)
    exact congrArg (fun names => Progress.answered (some names)) hpending

end Probe

/-! ## Who is named -/

theorem mem_inOrder {name : String} {names : List String} : name ∈ inOrder names ↔ name ∈ names :=
  List.mem_mergeSort

theorem inOrder_increasing {names : List String} (h : names.Nodup) : (inOrder names).Pairwise (· < ·) := by
  have hnodup : (inOrder names).Nodup := (List.mergeSort_perm ..).nodup_iff.2 h
  refine (Registry.pairwise_mergeSort_le names).imp₂ (fun a b hle hne => ?_) hnodup
  exact String.not_le.1 fun hge => hne (String.le_antisymm hle hge)

theorem mem_unready {name : String} {ss : List Service} :
    name ∈ unready ss ↔ ∃ s ∈ ss, s.ready = false ∧ s.name = name := by
  simp [unready, and_assoc]

/-- How the gate comes to refuse with these names, from a registry on. -/
structure Refusal (r : Registry) (es : List Event) (names : List String) : Prop where
  /-- A service was not ready when it was asked whether all are. -/
  cause : ∃ s ∈ (Probe.mk r .begun).judged es, s.ready = false
  /-- After that all the services there were by then were asked, each once, whether they are to be listed. -/
  survey : ∃ q ∈ (Probe.mk r .begun).turns es, q.progress = .refused ∧
    (((Probe.mk r .begun).listed es).map (·.name)).Perm q.registry.names
  /-- The names are those of the services that were not ready when they were asked that. -/
  named : ∀ name, name ∈ names ↔ ∃ s ∈ (Probe.mk r .begun).listed es, s.ready = false ∧ s.name = name
  increasing : names.Pairwise (· < ·)
  /-- So nobody is named if and only if all of them were ready by then. -/
  nobody : names = [] ↔ ∀ s ∈ (Probe.mk r .begun).listed es, s.ready = true
  /-- A service that is there and not ready before the second snapshot, and is left alone from then on, is named. -/
  steadfast : ∀ front back s, es = front ++ back → ((Probe.mk r .begun).run front).progress.isEarly = true →
    s ∈ ((Probe.mk r .begun).run front).registry.snapshot → s.ready = false →
    (∀ c, .change c ∈ back → c.Spares s) → s.name ∈ names

/--
  Whatever services there are, and whatever comes between the steps of the gate and in
  whatever order it asks: if it refuses, the names in its answer are those of the services
  that are not ready when they are asked a second time. There are none if and only if all
  have become ready by then, each by the time that it is asked.
-/
theorem refusal_accounted (before : List Change) {es : List Event} {names : List String}
    (h : ((Probe.mk (Registry.after before) .begun).run es).progress = .answered (some names)) :
    Refusal (Registry.after before) es names := by
  obtain ⟨hnames, q, hq, hrefused, hsurvey⟩ := Probe.early_account rfl h
  have hnamed (name : String) : name ∈ names ↔
      ∃ s ∈ (Probe.mk (Registry.after before) .begun).listed es, s.ready = false ∧ s.name = name := by
    rw [hnames, mem_inOrder, mem_unready]
  refine ⟨Probe.begun_account h, ⟨q, hq, hrefused, hsurvey⟩, hnamed, ?increasing, ?nobody, ?steadfast⟩
  case increasing =>
    have hsorted : q.registry.Sorted := Probe.sorted_turns (Registry.sorted_after before) q hq
    have hnodup := hsurvey.nodup_iff.2 hsorted.nodup
    rw [hnames]
    exact inOrder_increasing (hnodup.sublist (List.filter_sublist.map _))
  case nobody =>
    rw [List.eq_nil_iff_forall_not_mem]
    simp only [hnamed]
    constructor
    · intro hnone s hs
      cases hready : s.ready with
      | true => rfl
      | false => exact absurd ⟨s, hs, hready, rfl⟩ (hnone s.name)
    · rintro hall name ⟨s, hs, hready, -⟩
      rw [hall s hs] at hready
      cases hready
  case steadfast =>
    rintro front back s rfl hearly hs hready hspared
    rw [Probe.run_append] at h
    obtain ⟨hlast, -⟩ := Probe.early_account hearly h
    rw [hlast, mem_inOrder, mem_unready]
    exact ⟨s, Probe.mem_listed_of_early hearly hs hspared h, hready, rfl⟩

def byName : Order := ⟨id, fun _ => .refl _⟩

def laggard : List Change := [.add { name := "data", ready := false }]

/-- Another service that is ready comes while the laggard is listed. -/
def undisturbed : List Event :=
  [.turn byName, .turn byName, .turn byName, .change (.add { name := "echo" }), .turn byName, .turn byName]

theorem refusal_accounted_laggard :
    ((Probe.mk (Registry.after laggard) .begun).run undisturbed).progress = .answered (some ["data"]) ∧
      Refusal (Registry.after laggard) undisturbed ["data"] := by
  have h : ((Probe.mk (Registry.after laggard) .begun).run undisturbed).progress = .answered (some ["data"]) :=
    congrArg (fun names => Progress.answered (some names)) (List.mergeSort_singleton "data")
  exact ⟨h, refusal_accounted laggard h⟩

/-- The laggard becomes ready between the judgement and the list. -/
def overtaken : List Event :=
  [.turn byName, .turn byName, .change (.report (fun s => s.name = "data") true), .turn byName, .turn byName,
    .turn byName]

/-- The gate refuses and names nobody. -/
theorem nobody_named :
    ((Probe.mk (Registry.after laggard) .begun).run overtaken).progress = .answered (some []) ∧
      (reply .injected (some [])).value = .json 503 (pendingBody []) :=
  ⟨congrArg (fun names => Progress.answered (some names)) List.mergeSort_nil, rfl⟩

end Http.Readiness

end ServiceHost
