/-
  ServiceHost.Registry — the services of a host, one for each name: the last one added
  under a name replaces the one before.

  Services are kept in increasing order of their names (`Sorted.put`). Whoever works through
  them gets them in an order of the moment instead (`listed`), which is any at all.
-/

import ServiceHost.Service
import ServiceHost.Text.Quoted

namespace ServiceHost

structure Registry where
  services : List Service := []

namespace Registry

/-- Puts a service at its place, in place of another of its name. -/
def insert (s : Service) : List Service → List Service
  | [] => [s]
  | t :: ts =>
    if s.name = t.name then s :: ts else if s.name < t.name then s :: t :: ts else t :: insert s ts

def get? (r : Registry) (name : String) : Option Service := r.services.find? (·.name = name)

def put (r : Registry) (s : Service) : Registry := ⟨insert s r.services⟩

def snapshot (r : Registry) : List Service := r.services

/-- An order of services: the place of each name. Of two names at one place the lesser comes first. -/
abbrev Order := String → Nat

/-- Puts a service in front of the first that comes no earlier. -/
def Order.place (order : Order) (s : Service) : List Service → List Service
  | [] => [s]
  | t :: ts => if order s.name ≤ order t.name then s :: t :: ts else t :: place order s ts

def Order.arrange (order : Order) : List Service → List Service
  | [] => []
  | s :: ss => order.place s (arrange order ss)

/-- Every service, in some order. -/
def listed (r : Registry) (order : Order) : List Service := order.arrange r.snapshot

def names (r : Registry) : List String := r.services.map (·.name)

def size (r : Registry) : Nat := r.services.length

def isEmpty (r : Registry) : Bool := r.services.isEmpty

def replacedEvent (name : String) : Log.Event := ⟨.debug, .registry, "Service replaced", [("service", .bare name)]⟩

/-- Adds a service and gives the one it replaces. A replacement goes to the current logger. -/
def add (r : Registry) (s : Service) : Run (Registry × Option Service) :=
  let previous := r.get? s.name
  ⟨(r.put s, previous), if previous.isSome then [.logged .ambient (replacedEvent s.name)] else []⟩

/-- Changes the services that `p` holds of to report `ready`. -/
def setReady (r : Registry) (p : Service → Bool) (ready : Bool) : Registry :=
  ⟨r.services.map fun s => if p s then { s with ready } else s⟩

/-- Whether every service is ready; an empty registry is. -/
def isReady (r : Registry) : Bool := r.snapshot.all (·.ready)

/-- The names of the services that are not ready, in order. -/
def pending (r : Registry) : List String := (r.snapshot.filter fun s => !s.ready).map (·.name)

def inspected (r : Registry) : String :=
  Text.inspected "ServiceRegistry" [("services", Text.quotedList r.names)] true

/-! ## What adding a service does -/

/-- The names are in order, so no two services have one name. -/
def Sorted (r : Registry) : Prop := r.names.Pairwise (· < ·)

variable {s t : Service} {ts : List Service} {name : String}

theorem mem_insert (h : t ∈ insert s ts) : t = s ∨ t ∈ ts := by
  induction ts with
  | nil => exact .inl (List.mem_singleton.1 h)
  | cons u us ih =>
    simp only [insert] at h
    split at h
    · exact (List.mem_cons.1 h).imp_right (List.mem_cons_of_mem _)
    split at h
    · exact List.mem_cons.1 h
    · rcases List.mem_cons.1 h with rfl | h
      · exact .inr List.mem_cons_self
      · exact (ih h).imp_right (List.mem_cons_of_mem _)

theorem pairwise_insert (h : (ts.map (·.name)).Pairwise (· < ·)) : ((insert s ts).map (·.name)).Pairwise (· < ·) := by
  induction ts with
  | nil => exact List.pairwise_singleton ..
  | cons t ts ih =>
    obtain ⟨hfirst, hrest⟩ := List.pairwise_cons.1 h
    simp only [insert]
    split
    · next he =>
      rw [List.map_cons, he]
      exact h
    split
    · next hlt =>
      refine List.pairwise_cons.2 ⟨fun n hn => ?_, h⟩
      rcases List.mem_cons.1 hn with rfl | hn
      · exact hlt
      · exact String.lt_trans hlt (hfirst n hn)
    · next hne hge =>
      refine List.pairwise_cons.2 ⟨fun n hn => ?_, ih hrest⟩
      obtain ⟨u, hu, rfl⟩ := List.mem_map.1 hn
      rcases mem_insert hu with rfl | hu
      · rcases String.le_total t.name u.name with hle | hle
        · exact Decidable.byContradiction fun hlt => hne (String.le_antisymm (String.not_lt.1 hlt) hle)
        · exact Decidable.byContradiction fun hlt => hne (String.le_antisymm hle (String.not_lt.1 hge))
      · exact hfirst _ (List.mem_map_of_mem hu)

theorem Sorted.put {r : Registry} (h : r.Sorted) (s : Service) : (r.put s).Sorted := pairwise_insert h

theorem Sorted.foldl_put {r : Registry} (h : r.Sorted) (ss : List Service) : (ss.foldl Registry.put r).Sorted := by
  induction ss generalizing r with
  | nil => exact h
  | cons s ss ih => exact ih (h.put s)

theorem Sorted.nodup {r : Registry} (h : r.Sorted) : r.names.Nodup := by
  refine List.Pairwise.imp (fun {n m} (hlt : n < m) (he : n = m) => ?_) h
  exact String.lt_irrefl m (he ▸ hlt)

theorem find?_insert_self (s : Service) (ts : List Service) : (insert s ts).find? (·.name = s.name) = some s := by
  induction ts with
  | nil => simp [insert]
  | cons t ts ih =>
    simp only [insert]
    split
    · simp
    split
    · simp
    · next hne _ => simpa [Ne.symm hne] using ih

theorem find?_insert_of_ne (h : name ≠ s.name) (ts : List Service) :
    (insert s ts).find? (·.name = name) = ts.find? (·.name = name) := by
  induction ts with
  | nil => simp [insert, h.symm]
  | cons t ts ih =>
    simp only [insert]
    split
    · next he => simp [← he, h.symm]
    split
    · simp [h.symm]
    · simp only [List.find?_cons, ih]

@[simp] theorem get?_put_self (r : Registry) (s : Service) : (r.put s).get? s.name = some s :=
  find?_insert_self s r.services

theorem get?_put_of_ne (r : Registry) (h : name ≠ s.name) : (r.put s).get? name = r.get? name :=
  find?_insert_of_ne h r.services

theorem mem_of_get? {r : Registry} (h : r.get? name = some s) : s ∈ r.snapshot ∧ s.name = name :=
  ⟨List.mem_of_find?_eq_some h, by simpa using List.find?_some h⟩

/-! ## Services in some order -/

theorem Order.place_perm (order : Order) (s : Service) (ts : List Service) : (order.place s ts).Perm (s :: ts) := by
  induction ts with
  | nil => rfl
  | cons t ts ih =>
    rw [place]
    split
    · rfl
    · exact (ih.cons t).trans (List.Perm.swap s t ts)

theorem Order.arrange_perm (order : Order) (ss : List Service) : (order.arrange ss).Perm ss := by
  induction ss with
  | nil => rfl
  | cons s ss ih => exact (order.place_perm s _).trans (ih.cons s)

theorem listed_perm (r : Registry) (order : Order) : (r.listed order).Perm r.snapshot := order.arrange_perm r.snapshot

theorem mem_listed {r : Registry} {order : Order} : s ∈ r.listed order ↔ s ∈ r.snapshot := (r.listed_perm order).mem_iff

theorem Sorted.nodup_listed {r : Registry} (h : r.Sorted) (order : Order) : ((r.listed order).map (·.name)).Nodup :=
  ((r.listed_perm order).map Service.name).nodup_iff.2 h.nodup

/-! ## Services changed, but not in name -/

section Changed

variable {f : Service → Service} (hf : ∀ s, (f s).name = s.name)

include hf

theorem get?_map (r : Registry) (name : String) : get? ⟨r.services.map f⟩ name = (r.get? name).map f := by
  have hname : ((fun t : Service => decide (t.name = name)) ∘ f) = fun t => decide (t.name = name) := by
    funext t
    simp [hf]
  rw [get?, List.find?_map, hname, get?]

theorem insert_map (s : Service) (ts : List Service) : insert (f s) (ts.map f) = (insert s ts).map f := by
  induction ts with
  | nil => rfl
  | cons t ts ih =>
    simp only [List.map_cons, insert, hf, ih]
    split
    · rfl
    split <;> rfl

theorem names_map (r : Registry) : names ⟨r.services.map f⟩ = r.names := by
  simp [names, hf]

theorem Order.place_map (order : Order) (s : Service) (ts : List Service) :
    order.place (f s) (ts.map f) = (order.place s ts).map f := by
  induction ts with
  | nil => rfl
  | cons t ts ih =>
    simp only [List.map_cons, place, hf, ih]
    split <;> rfl

theorem Order.arrange_map (order : Order) (ss : List Service) :
    order.arrange (ss.map f) = (order.arrange ss).map f := by
  induction ss with
  | nil => rfl
  | cons s ss ih => rw [List.map_cons, arrange, arrange, ih, order.place_map hf]

end Changed

theorem Sorted.get?_of_mem {r : Registry} (h : r.Sorted) (hs : s ∈ r.snapshot) : r.get? s.name = some s := by
  obtain ⟨services⟩ := r
  simp only [snapshot, Sorted, names, get?] at h hs ⊢
  induction services with
  | nil => cases hs
  | cons t ts ih =>
    obtain ⟨hfirst, hrest⟩ := List.pairwise_cons.1 h
    rcases List.mem_cons.1 hs with rfl | hs
    · simp
    · have hlt : t.name < s.name := hfirst _ (List.mem_map_of_mem hs)
      have hne : t.name ≠ s.name := fun he => String.lt_irrefl _ (he ▸ hlt)
      simpa [hne] using ih hrest hs

end Registry

end ServiceHost
