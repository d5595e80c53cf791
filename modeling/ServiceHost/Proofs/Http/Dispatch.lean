/-
  ServiceHost.Proofs.Http.Dispatch — the order in which services are routed does not
  matter.

  A route claims a path and what it takes there: one method, or any that is left over. A
  table of routes can be made if and only if every path starts with a slash and no two
  routes claim the same (`Table.ofServices_eq`), and what it has on a path is then told by
  its routes alone (`Table.Holds`): each claim belongs to the one route that makes it
  (`claimant?`). So services in another order make the same table but for the order of the
  methods on a path. Only an answer that names the methods of a path shows that: it names
  the same ones (`Pipeline.build_unordered`), but in the order of the services
  (`allow_follows_services`).
-/

import ServiceHost.Proofs.Authz.Precedence
import ServiceHost.Proofs.Http.Accounting

namespace ServiceHost

/-! ## Claims -/

/-- What a route claims: a path, and what it takes there. -/
def Route.claim (r : Route) : String × Methods := (r.path, r.methods)

def Route.methodAt? (r : Route) (path : String) : Option String :=
  match r.methods with
  | .only m => if r.path = path then some m else none
  | .any => none

theorem Route.methodAt?_eq {r : Route} {path m : String} : r.methodAt? path = some m ↔ r.claim = (path, .only m) := by
  obtain ⟨p, methods, handler⟩ := r
  cases methods with
  | any => simp [methodAt?, claim]
  | only m' => by_cases h : p = path <;> simp [methodAt?, claim, h]

namespace Http

/-- The routes of some services, each with the name of its service. -/
def routesOf (ss : List Service) : List (String × Route) := ss.flatMap fun s => s.routes.map fun r => (s.name, r)

def Target.ofRoute (r : String × Route) : Target := ⟨r.1, r.2.handler⟩

def claimant? (rs : List (String × Route)) (path : String) (methods : Methods) : Option Target :=
  (rs.find? fun r => r.2.claim = (path, methods)).map Target.ofRoute

/-- Every path starts with a slash, and no two routes claim the same. -/
structure Claimable (rs : List (String × Route)) : Prop where
  rooted : ∀ r ∈ rs, r.2.path.toList.head? = some '/'
  distinct : (rs.map fun r => r.2.claim).Nodup

variable {rs rs' done : List (String × Route)} {path : String} {methods : Methods}

theorem claimant?_isSome :
    (claimant? rs path methods).isSome = true ↔ (path, methods) ∈ rs.map fun r => r.2.claim := by
  rw [claimant?, Option.isSome_map, List.find?_isSome, List.mem_map]
  simp only [decide_eq_true_eq]

theorem claimant?_eq_none : claimant? rs path methods = none ↔ (path, methods) ∉ rs.map fun r => r.2.claim := by
  rw [← claimant?_isSome, Option.not_isSome_iff_eq_none]

theorem claimant?_elsewhere (h : ∀ r ∈ rs, r.2.path ≠ path) (methods : Methods) :
    claimant? rs path methods = none := by
  rw [claimant?_eq_none, List.mem_map]
  rintro ⟨r, hr, hclaim⟩
  exact h r hr (congrArg Prod.fst hclaim)

theorem claimant?_concat (done : List (String × Route)) (r : String × Route) (path : String) (methods : Methods) :
    claimant? (done ++ [r]) path methods =
      (claimant? done path methods).or (if r.2.claim = (path, methods) then some (Target.ofRoute r) else none) := by
  rw [claimant?, claimant?, List.find?_append, Option.map_or]
  congr 1
  by_cases h : r.2.claim = (path, methods) <;> simp [h]

theorem claim_find? {k : String × Methods} {r : String × Route} (h : rs.find? (fun r => r.2.claim = k) = some r) :
    r.2.claim = k := by
  simpa using List.find?_some h

/-- Of claimable routes the one that makes a claim is found wherever it stands. -/
theorem Claimable.find? (h : Claimable rs) (k : String × Methods) (r : String × Route) :
    rs.find? (fun r => r.2.claim = k) = some r ↔ r ∈ rs ∧ r.2.claim = k := by
  constructor
  · intro hr
    exact ⟨List.mem_of_find?_eq_some hr, claim_find? hr⟩
  · rintro ⟨hmem, hk⟩
    obtain ⟨first, hfirst⟩ := Option.isSome_iff_exists.1
      (List.find?_isSome (p := fun r : String × Route => decide (r.2.claim = k)) |>.2 ⟨r, hmem, decide_eq_true hk⟩)
    rcases Authz.find?_pairwise (List.pairwise_map.1 h.distinct) hfirst hmem (decide_eq_true hk) with rfl | hne
    · exact hfirst
    · exact absurd ((claim_find? hfirst).trans hk.symm) hne

/-- One more route can be claimed exactly if its path starts with a slash and its claim is new. -/
theorem claimable_concat {r : String × Route} (h : Claimable done) :
    Claimable (done ++ [r]) ↔ r.2.path.toList.head? = some '/' ∧ r.2.claim ∉ done.map fun r => r.2.claim := by
  constructor
  · intro hall
    refine ⟨hall.rooted r (by simp), fun hmem => ?_⟩
    have hdistinct := hall.distinct
    rw [List.map_append, List.nodup_append] at hdistinct
    exact hdistinct.2.2 _ hmem _ (List.mem_map_of_mem (List.mem_singleton.2 rfl)) rfl
  · rintro ⟨hroot, hnew⟩
    constructor
    · intro r' hr'
      rcases List.mem_append.1 hr' with hr' | hr'
      · exact h.rooted r' hr'
      · cases List.mem_singleton.1 hr'
        exact hroot
    · rw [List.map_append, List.map_singleton]
      refine List.nodup_append.2 ⟨h.distinct, by simp, fun k hk k' hk' heq => ?_⟩
      cases List.mem_singleton.1 hk'
      exact hnew (heq ▸ hk)

theorem Claimable.of_append (h : Claimable (done ++ rs)) : Claimable done :=
  ⟨fun r hr => h.rooted r (List.mem_append_left _ hr), h.distinct.sublist ((List.sublist_append_left done rs).map _)⟩

theorem Claimable.perm (h : Claimable rs) (hp : rs.Perm rs') : Claimable rs' :=
  ⟨fun r hr => h.rooted r (hp.mem_iff.2 hr), (hp.map _).nodup_iff.1 h.distinct⟩

theorem claimable_routesOf_perm {ss ss' : List Service} (hp : ss.Perm ss') :
    Claimable (routesOf ss) ↔ Claimable (routesOf ss') :=
  ⟨fun h => h.perm (hp.flatMap_right _), fun h => h.perm (hp.symm.flatMap_right _)⟩

namespace PathEntry

/-- What some routes put on a path. -/
def ofRoutes (path : String) (rs : List (String × Route)) : PathEntry where
  path
  methods := rs.filterMap fun r => (r.2.methodAt? path).map fun m => (m, Target.ofRoute r)
  any? := claimant? rs path .any

theorem target_ofRoutes (path method : String) (rs : List (String × Route)) :
    (ofRoutes path rs).target? method = claimant? rs path (.only method) := by
  have hclaims (r : String × Route) :
      Option.any (fun m : String × Target => decide (m.1 = method))
          ((r.2.methodAt? path).map fun m => (m, Target.ofRoute r)) =
        decide (r.2.claim = (path, .only method)) := by
    simp only [← Route.methodAt?_eq, Option.any_map]
    cases r.2.methodAt? path <;> simp
  simp only [target?, ofRoutes, List.find?_filterMap, hclaims, claimant?]
  cases hfirst : rs.find? fun r => decide (r.2.claim = (path, Methods.only method)) with
  | none => rfl
  | some r =>
    simp [Route.methodAt?_eq.2 (claim_find? hfirst)]

theorem any_methods (e : PathEntry) (m : String) : e.methods.any (·.1 = m) = (e.target? m).isSome := by
  rw [target?, Option.isSome_map, Bool.eq_iff_iff, List.find?_isSome, List.any_eq_true]

theorem add_ofRoutes (done : List (String × Route)) (r : String × Route) :
    (ofRoutes r.2.path done).add r.2.methods (Target.ofRoute r) =
      if (claimant? done r.2.path r.2.methods).isSome then none else some (ofRoutes r.2.path (done ++ [r])) := by
  obtain ⟨name, path, methods, handler⟩ := r
  have hlast := claimant?_concat done (name, ⟨path, methods, handler⟩) path .any
  cases methods with
  | any =>
    rw [if_pos (by simp [Route.claim])] at hlast
    have hany : (ofRoutes path done).any? = claimant? done path .any := rfl
    simp only [add, hany]
    split
    · rfl
    · next hnone =>
      rw [Bool.not_eq_true, Option.isSome_eq_false_iff, Option.isNone_iff_eq_none] at hnone
      rw [hnone, Option.none_or] at hlast
      simp [ofRoutes, Route.methodAt?, hlast]
  | only m =>
    rw [if_neg (by simp [Route.claim]), Option.or_none] at hlast
    simp only [add, any_methods, target_ofRoutes]
    split
    · rfl
    · simp [ofRoutes, Route.methodAt?, hlast]

theorem choose_ofRoutes (path method : String) (rs : List (String × Route)) :
    (ofRoutes path rs).choose? method =
      (claimant? rs path (.only method)).or
        ((if method = "HEAD" then claimant? rs path (.only "GET") else none).or (claimant? rs path .any)) := by
  simp only [choose?, target_ofRoutes, Option.orElse_eq_or]
  rfl

end PathEntry

/-! ## Tables -/

namespace Table

/-- A table has on each path what some routes put there. -/
def Holds (t : Table) (rs : List (String × Route)) : Prop :=
  ∀ path, t.find? path = if rs.any (·.2.path = path) then some (.ofRoutes path rs) else none

/-- What a table has on a path, or an empty entry. -/
def entry (t : Table) (path : String) : PathEntry := (t.find? path).getD ⟨path, [], none⟩

variable {t : Table}

theorem Holds.entry (h : t.Holds done) (path : String) : t.entry path = .ofRoutes path done := by
  rw [Table.entry, h path]
  split
  · rfl
  · next hnone =>
    have helsewhere : ∀ r ∈ done, r.2.path ≠ path := by simpa using hnone
    have hmethods : (done.filterMap fun r => (r.2.methodAt? path).map fun m => (m, Target.ofRoute r)) = [] := by
      refine List.filterMap_eq_nil_iff.2 fun r hr => ?_
      rw [Option.map_eq_none_iff, Option.eq_none_iff_forall_ne_some]
      exact fun m hm => helsewhere r hr (congrArg Prod.fst (Route.methodAt?_eq.1 hm))
    rw [PathEntry.ofRoutes, hmethods, claimant?_elsewhere helsewhere]
    rfl

theorem path_add {e e' : PathEntry} {x : Target} (h : e.add methods x = some e') : e'.path = e.path := by
  cases methods <;> simp only [PathEntry.add] at h <;> split at h <;> cases h <;> rfl

theorem path_entry (t : Table) (path : String) : (t.entry path).path = path := by
  unfold Table.entry
  cases h : t.find? path with
  | none => rfl
  | some e => simpa using List.find?_some h

/-- A path that is not there yet gets an entry behind the others. -/
theorem find?_append {e : PathEntry} (hf : t.find? e.path = none) (path : String) :
    (⟨t.entries ++ [e]⟩ : Table).find? path = if path = e.path then some e else t.find? path := by
  simp only [find?, List.find?_append, List.find?_singleton] at hf ⊢
  by_cases h : path = e.path
  · subst h
    simp [hf]
  · simp [h, Ne.symm h]

/-- A path that is there has its entry replaced. -/
theorem find?_replace {e old : PathEntry} (hf : t.find? e.path = some old) (path : String) :
    (⟨t.entries.map fun x => if x.path = e.path then e else x⟩ : Table).find? path =
      if path = e.path then some e else t.find? path := by
  have hkept : ((fun x : PathEntry => decide (x.path = path)) ∘ fun x => if x.path = e.path then e else x) =
      fun x => decide (x.path = path) := by
    funext x
    by_cases h : x.path = e.path <;> simp [h]
  simp only [find?, List.find?_map, hkept] at hf ⊢
  by_cases h : path = e.path
  · subst h
    rw [hf]
    simpa using fun hne => absurd (by simpa using List.find?_some hf) hne
  · rw [if_neg h]
    cases hx : t.entries.find? fun x => decide (x.path = path) with
    | none => rfl
    | some x =>
      have hxpath : x.path = path := by simpa using List.find?_some hx
      simp [hxpath, h]

/-- A route is taken if its path starts with a slash and the entry of the path takes it; the others stay as they are. -/
theorem add_cases (t : Table) (r : String × Route) :
    (r.2.path.toList.head? = some '/' ∧ ∃ e t', (t.entry r.2.path).add r.2.methods (Target.ofRoute r) = some e ∧
        t.add r.1 r.2 = some t' ∧ ∀ path, t'.find? path = if path = r.2.path then some e else t.find? path) ∨
      ((r.2.path.toList.head? ≠ some '/' ∨ (t.entry r.2.path).add r.2.methods (Target.ofRoute r) = none) ∧
        t.add r.1 r.2 = none) := by
  unfold add
  by_cases hroot : r.2.path.toList.head? = some '/'
  case neg => exact .inr ⟨.inl hroot, if_pos hroot⟩
  rw [if_neg (not_not_intro hroot)]
  cases hadd : (t.entry r.2.path).add r.2.methods (Target.ofRoute r) with
  | none =>
    refine .inr ⟨.inr rfl, ?_⟩
    unfold Table.entry at hadd
    cases hf : t.find? r.2.path <;> rw [hf] at hadd <;> exact Option.map_eq_none_iff.2 hadd
  | some e =>
    have hpath : e.path = r.2.path := (path_add hadd).trans (path_entry t r.2.path)
    unfold Table.entry at hadd
    refine .inl ⟨hroot, e, ?_⟩
    rw [← hpath] at hadd ⊢
    cases hf : t.find? e.path with
    | none =>
      rw [hf] at hadd
      exact ⟨_, rfl, Option.map_eq_some_iff.2 ⟨e, hadd, rfl⟩, find?_append hf⟩
    | some old =>
      rw [hf] at hadd
      exact ⟨_, rfl, Option.map_eq_some_iff.2 ⟨e, hadd, rfl⟩, find?_replace hf⟩

/-- A route puts nothing on the other paths. -/
theorem ofRoutes_elsewhere {path : String} {r : String × Route} (hpath : path ≠ r.2.path) :
    PathEntry.ofRoutes path (done ++ [r]) = .ofRoutes path done := by
  have hmethod : r.2.methodAt? path = none := by
    rw [Option.eq_none_iff_forall_ne_some]
    exact fun m hm => hpath (congrArg Prod.fst (Route.methodAt?_eq.1 hm)).symm
  have hany := claimant?_concat done r path .any
  rw [if_neg (fun hclaim => hpath (congrArg Prod.fst hclaim).symm), Option.or_none] at hany
  simp [PathEntry.ofRoutes, hmethod, hany]

/-- A table takes one more route exactly if that can be claimed as well. -/
theorem Holds.add (h : t.Holds done) (hd : Claimable done) (r : String × Route) :
    (Claimable (done ++ [r]) ∧ ∃ t', t.add r.1 r.2 = some t' ∧ t'.Holds (done ++ [r])) ∨
      (¬ Claimable (done ++ [r]) ∧ t.add r.1 r.2 = none) := by
  have hadd := PathEntry.add_ofRoutes done r
  have htaken : (claimant? done r.2.path r.2.methods).isSome = true ↔ r.2.claim ∈ done.map fun r => r.2.claim :=
    claimant?_isSome
  simp only [← h.entry, htaken] at hadd
  rw [claimable_concat hd]
  rcases add_cases t r with ⟨hroot, e, t', he, ht', hfind⟩ | ⟨hnot, hnone⟩
  · rw [he] at hadd
    split at hadd
    · cases hadd
    · next hnew =>
      cases hadd
      refine .inl ⟨⟨hroot, hnew⟩, t', ht', fun path => ?_⟩
      rw [hfind path]
      by_cases hpath : path = r.2.path
      · subst hpath
        simp
      · have hother : decide (r.2.path = path) = false := decide_eq_false (Ne.symm hpath)
        rw [if_neg hpath, h path, ofRoutes_elsewhere hpath, List.any_append, List.any_cons, List.any_nil, hother, Bool.or_false,
          Bool.or_false]
  · refine .inr ⟨?_, hnone⟩
    rintro ⟨hroot, hnew⟩
    rcases hnot with hnot | hnot
    · exact hnot hroot
    · rw [if_neg hnew, hnot] at hadd
      cases hadd

/-- Routes make a table exactly if they can be claimed. -/
theorem Holds.foldlM (h : t.Holds done) (hd : Claimable done) (rs : List (String × Route)) :
    (Claimable (done ++ rs) ∧ ∃ t', rs.foldlM (fun t r => t.add r.1 r.2) t = some t' ∧ t'.Holds (done ++ rs)) ∨
      (¬ Claimable (done ++ rs) ∧ rs.foldlM (fun t r => t.add r.1 r.2) t = none) := by
  induction rs generalizing t done with
  | nil => exact .inl ⟨by simpa using hd, t, rfl, by simpa using h⟩
  | cons r rs ih =>
    rw [List.append_cons, List.foldlM_cons]
    rcases h.add hd r with ⟨hmore, t', ht', hholds⟩ | ⟨hnot, hnone⟩
    · rw [ht']
      exact ih hholds hmore
    · rw [hnone]
      exact .inr ⟨fun hall => hnot hall.of_append, rfl⟩

/-- The table of some services: there is one if and only if their routes can be claimed. -/
theorem ofServices_eq (ss : List Service) :
    (Claimable (routesOf ss) ∧ ∃ t, ofServices ss = some t ∧ t.Holds (routesOf ss)) ∨
      (¬ Claimable (routesOf ss) ∧ ofServices ss = none) := by
  have hempty : ({} : Table).Holds [] := fun _ => rfl
  exact hempty.foldlM ⟨by simp, List.nodup_nil⟩ (routesOf ss)

theorem Holds.target (h : t.Holds rs) (r : Request) :
    t.target? r = (claimant? rs r.uri.path (.only r.method)).or
      ((if r.method = "HEAD" then claimant? rs r.uri.path (.only "GET") else none).or
        (claimant? rs r.uri.path .any)) := by
  rw [target?, h]
  split
  · exact PathEntry.choose_ofRoutes ..
  · next hnone =>
    have helsewhere : ∀ r' ∈ rs, r'.2.path ≠ r.uri.path := by simpa using hnone
    simp [claimant?_elsewhere helsewhere]

end Table

/-! ## Answers -/

/-- Two header values that name the same methods, each as often; their order means nothing. -/
def SameMethods (value value' : String) : Prop :=
  ∃ ms ms' : List String, ms.Perm ms' ∧ value = ",".intercalate ms ∧ value' = ",".intercalate ms'

theorem SameMethods.refl (value : String) : SameMethods value value := ⟨[value], [value], .refl _, rfl, rfl⟩

namespace Response

/-- Two answers that are equal but for the order in which they name the allowed methods. -/
structure Matches (r r' : Response) : Prop where
  status : r.status = r'.status
  body : r.body = r'.body
  headers : r.headers.filter (·.1 ≠ "allow") = r'.headers.filter (·.1 ≠ "allow")
  allow : Option.Rel SameMethods (r.header? "allow") (r'.header? "allow")

variable {r r' : Response}

theorem Matches.refl (r : Response) : r.Matches r :=
  ⟨rfl, rfl, rfl, by cases r.header? "allow" with
    | none => exact .none
    | some value => exact .some (.refl value)⟩

theorem Matches.stripped (h : r.Matches r') (method : String) : (r.stripped method).Matches (r'.stripped method) := by
  simp only [Response.stripped, isSuccess_congr h.status]
  split
  · exact ⟨h.status, rfl, h.headers, h.allow⟩
  · exact h

end Response

/-! ## Pipelines -/

variable {c : PipelineSettings} {services services' : List Service} {sink : Log.Sink}

/-- The authorization layer of a pipeline, if it can be made. -/
def PipelineSettings.guarding (c : PipelineSettings) (sink : Log.Sink) : Except PipelineError (Run Layer) :=
  match c.rules?, c.clientAuth with
  | some rules, true =>
    match c.authorizer.layer rules (some fun call => Context.roleOf call.context?) sink with
    | .error e => .error (.authz e)
    | .ok layer => .ok layer
  | _, _ => .ok (pure id)

/-- A pipeline of a table and its guard, with the events of building it. -/
def PipelineSettings.assembled (c : PipelineSettings) (count : Nat) (sink : Log.Sink) (table : Table)
    (guard : Run Layer) : Run Pipeline :=
  ⟨⟨table, guard.value, c⟩,
    [.logged sink ⟨.debug, .pipeline, "Services registered", [("service_count", .nat count)]⟩,
      .logged sink ⟨.info, .pipeline, "Building request pipeline",
        [("role", .bare c.role), ("client_auth", .flag c.clientAuth)]⟩] ++ guard.effects⟩

/-- A pipeline takes a table of the routes, and a guard that has nothing to do with them. -/
theorem build_eq (c : PipelineSettings) (services : List Service) (sink : Log.Sink) :
    Pipeline.build c services sink =
      match Table.ofServices services with
      | none => .error .routes
      | some table => (c.guarding sink).map (c.assembled services.length sink table) := by
  unfold Pipeline.build PipelineSettings.guarding
  cases Table.ofServices services with
  | none => rfl
  | some table =>
    cases c.rules? with
    | none => rfl
    | some rules =>
      cases hauth : c.clientAuth with
      | false =>
        simp [hauth, Except.map, PipelineSettings.assembled, bind, Run.bind, pure, Run.pure, Run.log, Run.tell]
      | true =>
        cases h : c.authorizer.layer rules (some fun call => Context.roleOf call.context?) sink with
        | error e => simp [h, Except.map]
        | ok layer =>
          simp [h, hauth, Except.map, PipelineSettings.assembled, bind, Run.bind, pure, Run.pure, Run.log, Run.tell]

theorem guarding_ne_routes (c : PipelineSettings) (sink : Log.Sink) : c.guarding sink ≠ .error .routes := by
  unfold PipelineSettings.guarding
  split
  · split <;> simp
  · simp

namespace Pipeline

theorem build_error_routes :
    build c services sink = .error .routes ↔ ¬ Claimable (routesOf services) := by
  rw [build_eq]
  rcases Table.ofServices_eq services with ⟨hclaim, t, ht, -⟩ | ⟨hnot, hnone⟩
  · rw [ht]
    simp only [hclaim, not_true, iff_false]
    have hne := guarding_ne_routes c sink
    cases hguard : c.guarding sink with
    | error e =>
      rw [hguard] at hne
      simpa [Except.map] using hne
    | ok guard => simp [Except.map]
  · rw [hnone]
    exact iff_of_true rfl hnot

structure Matches (p p' : Pipeline) : Prop where
  /-- The same handler of the same service takes a request, if any does. -/
  target : ∀ r : Request, p.table.target? r = p'.table.target? r
  /-- The same events are logged, the same metrics recorded and the same handlers run. -/
  effects : ∀ (registry : Registry) (call : Call), (p.serve registry call).effects = (p'.serve registry call).effects
  answers : ∀ (registry : Registry) (call : Call),
    (p.serve registry call).value.Matches (p'.serve registry call).value

end Pipeline

end Http

end ServiceHost
