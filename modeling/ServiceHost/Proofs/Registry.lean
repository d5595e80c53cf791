/-
  ServiceHost.Proofs.Registry — a registry is a map in which the last writer of a name wins.

  Every use of a registry is one access to its services, with its lock held (`Access`), so
  calls that overlap come one after the other, in the order in which they had the lock.
  Whatever that order is, each access is answered from the services added before it
  (`Answers`): a name stands for the one added last under it. A service that another one
  replaces is given back when that is added. So what was given back and what the registry
  has make up all that was added (`accessAll_accounted`).
-/

import ServiceHost.Registry

namespace ServiceHost

/-! ## The last service of a name -/

def lastNamed? (name : String) (ss : List Service) : Option Service := ss.reverse.find? (·.name = name)

theorem lastNamed?_isSome {name : String} {ss : List Service} :
    (lastNamed? name ss).isSome = true ↔ ∃ s ∈ ss, s.name = name := by
  simp [lastNamed?]

namespace Registry

variable {s : Service} {ss : List Service} {r : Registry}

theorem get?_foldl_put (r : Registry) (ss : List Service) (name : String) :
    (ss.foldl put r).get? name = (lastNamed? name ss).or (r.get? name) := by
  induction ss generalizing r with
  | nil => rfl
  | cons s ss ih =>
    rw [List.foldl_cons, ih, lastNamed?, lastNamed?, List.reverse_cons, List.find?_append, Option.or_assoc]
    congr 1
    by_cases hn : name = s.name
    · subst hn
      simp
    · simp [get?_put_of_ne r hn, Ne.symm hn]

theorem sorted_empty : Sorted {} := List.Pairwise.nil

/-- A registry filled one by one has under a name the last service of that name. -/
theorem get?_filled (ss : List Service) (name : String) : (ss.foldl put {}).get? name = lastNamed? name ss := by
  rw [get?_foldl_put]
  exact Option.or_none

/-- In a registry filled one by one are the services that are the last ones of their names. -/
theorem mem_foldl_put : s ∈ (ss.foldl put {}).snapshot ↔ lastNamed? s.name ss = some s := by
  rw [← get?_filled]
  exact ⟨fun hs => (sorted_empty.foldl_put ss).get?_of_mem hs, fun hs => (mem_of_get? hs).1⟩

/-- The service that is replaced and the services there are after that are those before and the new one. -/
theorem insert_perm {ts : List Service} (h : (ts.map (·.name)).Pairwise (· < ·)) (s : Service) :
    ((ts.find? (·.name = s.name)).toList ++ insert s ts).Perm (s :: ts) := by
  induction ts with
  | nil => exact .refl _
  | cons t ts ih =>
    obtain ⟨hfirst, hrest⟩ := List.pairwise_cons.1 h
    rw [insert]
    split
    · next he =>
      rw [List.find?_cons_of_pos (by simp [he])]
      exact .swap ..
    · next hne =>
      rw [List.find?_cons_of_neg (by simpa using Ne.symm hne)]
      split
      · next hlt =>
        -- the names after the place of `s` are greater
        have hnone : ts.find? (·.name = s.name) = none := by
          refine List.find?_eq_none.2 fun u hu he => ?_
          have htu : t.name < u.name := hfirst _ (List.mem_map_of_mem hu)
          have hself : s.name < s.name := String.lt_trans hlt (of_decide_eq_true he ▸ htu)
          exact String.lt_irrefl _ hself
        rw [hnone]
        exact .refl _
      · have htail : (t :: ((ts.find? (·.name = s.name)).toList ++ insert s ts)).Perm (t :: s :: ts) :=
          (ih hrest).cons t
        exact (List.perm_middle.trans htail).trans (.swap ..)

theorem Sorted.put_perm (h : r.Sorted) (s : Service) :
    ((r.get? s.name).toList ++ (r.put s).snapshot).Perm (s :: r.snapshot) := insert_perm h s

/-! ## Accesses -/

/-- One access to the services of a registry. -/
inductive Access where
  | add (s : Service)
  | get (name : String)
  | names
  | size
  | snapshot

inductive Answer where
  /-- The service that the added one replaces. -/
  | replaced (s? : Option Service)
  | found (s? : Option Service)
  | names (names : List String)
  | size (n : Nat)
  | snapshot (services : List Service)

def Access.added : Access → List Service
  | .add s => [s]
  | _ => []

def Answer.returned : Answer → List Service
  | .replaced s? => s?.toList
  | _ => []

def access (r : Registry) : Access → Run (Registry × Answer)
  | .add s => (fun x => (x.1, .replaced x.2)) <$> r.add s
  | .get name => pure (r, .found (r.get? name))
  | .names => pure (r, .names r.names)
  | .size => pure (r, .size r.size)
  | .snapshot => pure (r, .snapshot r.snapshot)

/-- Some accesses in the order in which they have the lock, with their answers. -/
def accessAll (r : Registry) : List Access → Run (Registry × List Answer)
  | [] => pure (r, [])
  | a :: as => do
    let (r, answer) ← r.access a
    let (r, answers) ← r.accessAll as
    return (r, answer :: answers)

/-! ## Answers -/

/-- The names of some services, in order and each once. -/
structure AreNames (ss : List Service) (names : List String) : Prop where
  increasing : names.Pairwise (· < ·)
  mem_iff : ∀ name, name ∈ names ↔ ∃ s ∈ ss, s.name = name

/-- What an access gives when `ss` have been added, in this order. -/
inductive Answers (ss : List Service) : Access → Answer → Prop
  | add (s : Service) : Answers ss (.add s) (.replaced (lastNamed? s.name ss))
  | get (name : String) : Answers ss (.get name) (.found (lastNamed? name ss))
  | names {names : List String} : AreNames ss names → Answers ss .names (.names names)
  | size {names : List String} : AreNames ss names → Answers ss .size (.size names.length)
  /-- Of each name the last service, and no other. -/
  | snapshot {services : List Service} : (services.map (·.name)).Nodup →
      (∀ s, s ∈ services ↔ lastNamed? s.name ss = some s) → Answers ss .snapshot (.snapshot services)

/-- Answers to some accesses, each given when those before it have been made. -/
inductive AnswersAll : List Service → List Access → List Answer → Prop
  | nil {ss : List Service} : AnswersAll ss [] []
  | cons {ss : List Service} {a : Access} {b : Answer} {as : List Access} {bs : List Answer} :
      Answers ss a b → AnswersAll (ss ++ a.added) as bs → AnswersAll ss (a :: as) (b :: bs)

theorem areNames_filled (ss : List Service) : AreNames ss (ss.foldl put {}).names where
  increasing := sorted_empty.foldl_put ss
  mem_iff name := by
    rw [← lastNamed?_isSome, ← get?_filled]
    simp [names, get?]

theorem access_registry (r : Registry) (a : Access) : (r.access a).value.1 = a.added.foldl put r := by
  cases a <;> rfl

theorem access_answers (ss : List Service) (a : Access) : Answers ss a ((ss.foldl put {}).access a).value.2 := by
  cases a with
  | add s =>
    have hreplaced : ((ss.foldl put {}).access (.add s)).value.2 = .replaced (lastNamed? s.name ss) :=
      congrArg Answer.replaced (get?_filled ss s.name)
    exact hreplaced ▸ .add s
  | get name =>
    have hfound : ((ss.foldl put {}).access (.get name)).value.2 = .found (lastNamed? name ss) :=
      congrArg Answer.found (get?_filled ss name)
    exact hfound ▸ .get name
  | names => exact .names (areNames_filled ss)
  | size =>
    have hsize : ((ss.foldl put {}).access .size).value.2 = .size (ss.foldl put {}).names.length :=
      congrArg Answer.size (List.length_map _).symm
    exact hsize ▸ .size (areNames_filled ss)
  | snapshot =>
    have hnodup : ((ss.foldl put {}).snapshot.map (·.name)).Nodup := (sorted_empty.foldl_put ss).nodup
    exact .snapshot hnodup fun _ => mem_foldl_put

/-- What an access gives back and what it leaves are what there was and what it adds. -/
theorem Sorted.access_perm (h : r.Sorted) (a : Access) :
    ((r.access a).value.2.returned ++ (r.access a).value.1.snapshot).Perm (r.snapshot ++ a.added) := by
  cases a with
  | add s => exact (h.put_perm s).trans (List.perm_append_singleton s r.snapshot).symm
  | get | names | size | snapshot => exact .of_eq (List.append_nil r.snapshot).symm

/-- The log tells of what is given back, and of nothing else. -/
theorem access_effects (r : Registry) (a : Access) :
    (r.access a).effects = (r.access a).value.2.returned.map fun s => .logged .ambient (replacedEvent s.name) := by
  cases a with
  | add s =>
    rw [access, Run.effects_map]
    cases hs : r.get? s.name with
    | none => simp [add, hs, Answer.returned]
    | some t => simp [add, hs, Answer.returned, (mem_of_get? hs).2]
  | get | names | size | snapshot => rfl

/-! ## Accesses in a row -/

def returnedAll (bs : List Answer) : List Service := bs.flatMap Answer.returned

theorem value_accessAll_cons (r : Registry) (a : Access) (as : List Access) :
    (r.accessAll (a :: as)).value = (((r.access a).value.1.accessAll as).value.1,
      (r.access a).value.2 :: ((r.access a).value.1.accessAll as).value.2) := rfl

theorem effects_accessAll_cons (r : Registry) (a : Access) (as : List Access) :
    (r.accessAll (a :: as)).effects = (r.access a).effects ++ ((r.access a).value.1.accessAll as).effects :=
  congrArg ((r.access a).effects ++ ·) (List.append_nil _)

theorem accessAll_answers (ss : List Service) (as : List Access) :
    AnswersAll ss as ((ss.foldl put {}).accessAll as).value.2 := by
  induction as generalizing ss with
  | nil => exact .nil
  | cons a as ih =>
    have hnext : ((ss.foldl put {}).access a).value.1 = (ss ++ a.added).foldl put {} := by
      rw [access_registry, List.foldl_append]
    rw [value_accessAll_cons, hnext]
    exact .cons (access_answers ss a) (ih (ss ++ a.added))

theorem Sorted.accessAll_perm (h : r.Sorted) (as : List Access) :
    (returnedAll (r.accessAll as).value.2 ++ (r.accessAll as).value.1.snapshot).Perm
      (r.snapshot ++ as.flatMap Access.added) := by
  induction as generalizing r with
  | nil => exact .of_eq (List.append_nil r.snapshot).symm
  | cons a as ih =>
    have hsorted : (r.access a).value.1.Sorted := by
      rw [access_registry]
      exact h.foldl_put a.added
    rw [value_accessAll_cons, returnedAll, List.flatMap_cons, List.flatMap_cons, List.append_assoc,
      ← List.append_assoc r.snapshot]
    refine ((ih hsorted).append_left _).trans ?_
    rw [← List.append_assoc]
    exact (h.access_perm a).append_right _

theorem accessAll_effects (r : Registry) (as : List Access) :
    (r.accessAll as).effects =
      (returnedAll (r.accessAll as).value.2).map fun s => .logged .ambient (replacedEvent s.name) := by
  induction as generalizing r with
  | nil => rfl
  | cons a as ih =>
    rw [effects_accessAll_cons, value_accessAll_cons, ih, access_effects, returnedAll, returnedAll, List.flatMap_cons,
      List.map_append]

/-- How a registry that was empty has answered some accesses. -/
structure LastWriterWins (as : List Access) (ran : Run (Registry × List Answer)) : Prop where
  /-- Each access is answered from the services added before it. -/
  answers : AnswersAll [] as ran.value.2
  /-- What was replaced and what there is are what was added, each as often. -/
  account : (returnedAll ran.value.2 ++ ran.value.1.snapshot).Perm (as.flatMap Access.added)
  told : ran.effects = (returnedAll ran.value.2).map fun s => .logged .ambient (replacedEvent s.name)

/--
  In whatever order calls come to the lock, the registry answers them as a map in which the
  last writer of a name wins, and no service is lost or kept twice.
-/
theorem accessAll_accounted (as : List Access) : LastWriterWins as (({} : Registry).accessAll as) where
  answers := accessAll_answers [] as
  account := sorted_empty.accessAll_perm as
  told := accessAll_effects {} as

end Registry

end ServiceHost
