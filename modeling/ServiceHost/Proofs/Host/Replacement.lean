/-
  ServiceHost.Proofs.Host.Replacement — which of the services that answer requests are
  closed.

  The pipeline is built of the services there are when the start comes to it, and answers
  with them until the host is stopped. The stop closes the services there are by then. A
  service added in between takes the place of one of its name in the registry, but not in
  the pipeline. So a service that answers requests is closed once if nothing else has its
  name by the time of the stop, and never otherwise (`served_closed`): it serves on and is
  let go without being closed (`replaced_unclosed`).
-/

import ServiceHost.Proofs.Host.Closing
import ServiceHost.Proofs.Registry

namespace ServiceHost

namespace Registry

theorem Sorted.mem_iff {r : Registry} (hr : r.Sorted) (name : String) (serial : Nat) :
    (∃ b ∈ r.snapshot, b.name = name ∧ b.serial = serial) ↔ (r.get? name).any (·.serial = serial) = true := by
  constructor
  · rintro ⟨b, hb, rfl, rfl⟩
    rw [hr.get?_of_mem hb]
    simp
  · intro h
    obtain ⟨b, hb, hs⟩ := (Option.any_eq_true ..).1 h
    obtain ⟨hmem, hname⟩ := mem_of_get? hb
    exact ⟨b, hmem, hname, of_decide_eq_true hs⟩

/-- A service that the registry has under its name is counted once, any other not at all. -/
theorem Sorted.count_listed {r : Registry} (hr : r.Sorted) (order : Order) (name : String) (serial : Nat) :
    ((r.listed order).map fun b => (b.name, b.serial)).count (name, serial) =
      if (r.get? name).any (·.serial = serial) then 1 else 0 := by
  rw [((r.listed_perm order).map _).count_eq]
  have hnodup : (r.snapshot.map fun b => (b.name, b.serial)).Nodup :=
    List.pairwise_map.2 ((List.pairwise_map.1 hr.nodup).imp fun hne he => hne (congrArg Prod.fst he))
  rw [hnodup.count]
  refine ite_congr (propext ?_) (fun _ => rfl) fun _ => rfl
  rw [← hr.mem_iff]
  simp

end Registry

namespace Host

variable {s : Settings} {h : Host}

/-! ## While a host serves -/

def Command.added : Command → List Service
  | .add s => [s]
  | _ => []

theorem obey_serving (hp : h.phase.stand = .started) {c : Command} (hc : c.isStop = false) :
    (h.obey c).value.1.phase.stand = .started ∧ (h.obey c).value.1.phase.pipeline? = h.phase.pipeline? ∧
      (h.obey c).value.1.registry = c.added.foldl Registry.put h.registry := by
  cases c with
  | stop env arrivals => cases hc
  | start env arrivals =>
    simp only [obey, Run.value_map]
    rw [startAmid_over env arrivals (by simp [hp])]
    exact ⟨hp, rfl, rfl⟩
  | add service =>
    simp only [obey, Run.value_map, value_addService]
    exact ⟨hp, trivial, rfl⟩
  | wait env =>
    obtain ⟨hk, -⟩ := advance_kept h env
    have hs := advance_steady h env
    simp only [obey, Run.value_map]
    exact ⟨hk.stand.trans hp, hs.pipeline, hs.registry⟩

theorem history_serving (hp : h.phase.stand = .started) {cs : List Command} (hc : cs.any Command.isStop = false) :
    (h.history cs).value.1.phase.pipeline? = h.phase.pipeline? ∧
      (h.history cs).value.1.registry = (cs.flatMap Command.added).foldl Registry.put h.registry := by
  induction cs generalizing h with
  | nil => exact ⟨rfl, rfl⟩
  | cons c cs ih =>
    simp only [List.any_cons, Bool.or_eq_false_iff] at hc
    obtain ⟨hstand, hpipeline, hregistry⟩ := obey_serving hp hc.1
    obtain ⟨hpipeline', hregistry'⟩ := ih hstand hc.2
    rw [history_cons]
    refine ⟨hpipeline'.trans hpipeline, ?_⟩
    rw [hregistry', hregistry, List.flatMap_cons, List.foldl_append]

/-! ## Served and closed -/

variable (s) in
/-- A host that came up after some commands, and obeyed others before it was stopped. -/
structure Career (before : List Command) (env : Surroundings) (arrivals : Arrivals) (between : List Command) :
    Prop where
  unstopped : before.any Command.isStop = false
  up : (((made s {}).history before).value.1.startAmid env arrivals).value.2 = .ok ()
  serving : between.any Command.isStop = false

/-- The services that the pipeline of a start is built of. -/
def served (s : Settings) (before : List Command) (env : Surroundings) (arrivals : Arrivals) : List Service :=
  (((made s {}).history before).value.1.registryAmid arrivals).listed env.order

/-- The services added after the pipeline was built, up to the closing of the services. -/
def latecomers (arrivals : Arrivals) (between : List Command) (arrivals' : Arrivals) : List Service :=
  arrivals.late ++ between.flatMap Command.added ++ arrivals' .beforeClosing

variable {before between after : List Command} {env : Surroundings} {arrivals arrivals' : Arrivals}

/-- A start without error came up, with everything that arrived meanwhile. -/
theorem came_up {told : List AuditEvent} {n : Nat} {down : Bool} (hl : Life s h told n down)
    (hup : (h.startAmid env arrivals).value.2 = .ok ()) :
    ∃ p serving, CameUp h env arrivals (h.startAmid env arrivals) p serving arrivals.uponStart := by
  by_cases hp : h.phase.stand = .new
  · rcases startAmid_cases env arrivals (stand_new hp) hl.arming with ⟨e, ss, hf⟩ | ⟨o, ss, hb⟩ | hu
    · rw [hf.value] at hup
      cases hup
    · rw [hb.value] at hup
      cases hup
    · exact hu
  · rw [startAmid_over env arrivals hp] at hup
    cases hup

/-- A host that came up answers with the services its pipeline was built of, and keeps those added later besides. -/
theorem career_running (hd : s.drains) (hc : Career s before env arrivals between) :
    let running := ((made s {}).history (before ++ .start env arrivals :: between)).value.1
    (∃ pipeline p es, running.phase.pipeline? = some pipeline ∧
        Http.Pipeline.build (s.pipeline p) (served s before env arrivals) .injected = .ok ⟨pipeline, es⟩) ∧
      running.registry = (arrivals.late ++ between.flatMap Command.added).foldl Registry.put
        (((made s {}).history before).value.1.registryAmid arrivals) := by
  obtain ⟨told, hlife, -, -⟩ := history_life hd (made_life s {}) before
  obtain ⟨p, serving, hu⟩ := came_up hlife hc.up
  obtain ⟨es, hbuild⟩ := hu.pipeline
  have hafter : (((made s {}).history before).value.1.obey (.start env arrivals)).value.1 =
      ((made s {}).history before).value.1.up env p serving arrivals.uponStart := by
    simp only [obey, Run.value_map, hu.value]
  obtain ⟨hpipeline, hregistry⟩ :=
    history_serving (h := ((made s {}).history before).value.1.up env p serving arrivals.uponStart) rfl hc.serving
  rw [(history_append ..).1, history_cons]
  simp only [hafter]
  refine ⟨⟨serving.pipeline, p, es, hpipeline, ?_⟩, ?_⟩
  · rw [hlife.settings] at hbuild
    exact hbuild
  · rw [hregistry, List.foldl_append]
    simp only [up, withServices, Arrivals.uponStart, registryAmid, List.foldl_append]

theorem career_unstopped (hc : Career s before env arrivals between) :
    (before ++ .start env arrivals :: between).any Command.isStop = false := by
  rw [List.any_append, hc.unstopped, List.any_cons, hc.serving]
  rfl

/--
  The services that answer requests, from the start of a host to its stop, are those its
  pipeline was built of. In the whole life of the host each of them is closed once if the
  last one added under its name since then, if any, is itself, and else never.
-/
theorem served_closed (s : Settings) (hd : s.drains) (hc : Career s before env arrivals between)
    (env' : Surroundings) (arrivals' : Arrivals) (after : List Command) :
    let running := ((made s {}).history (before ++ .start env arrivals :: between)).value.1
    let life := (made s {}).history (before ++ .start env arrivals :: between ++ .stop env' arrivals' :: after)
    (∃ pipeline p es, running.phase.pipeline? = some pipeline ∧
        Http.Pipeline.build (s.pipeline p) (served s before env arrivals) .injected = .ok ⟨pipeline, es⟩) ∧
      ∀ a ∈ served s before env arrivals,
        (Effect.closings life.effects).count (a.name, a.serial) =
          if (lastNamed? a.name (latecomers arrivals between arrivals')).all (·.serial = a.serial) then 1 else 0 := by
  intro running life
  obtain ⟨hserving, hregistry⟩ := career_running hd hc
  refine ⟨hserving, fun a ha => ?_⟩
  have hsorted : (((made s {}).history before).value.1.registryAmid arrivals).Sorted :=
    sorted_withServices _ _ (history_orderly hd (made_life s {}) (made_orderly s) before).sorted
  obtain ⟨-, ho, -⟩ := unstopped hd (career_unstopped hc)
  have hclosing : (running.withServices (arrivals' .beforeClosing)).registry.Sorted :=
    sorted_withServices _ _ ho.sorted
  -- the stop closes what the registry has under a name by then: the last one added, else the served one
  have hget : (running.withServices (arrivals' .beforeClosing)).registry.get? a.name =
      (lastNamed? a.name (latecomers arrivals between arrivals')).or (some a) := by
    rw [withServices, show running.registry = _ from hregistry, ← List.foldl_append, Registry.get?_foldl_put,
      hsorted.get?_of_mem (Registry.mem_listed.1 ha)]
    rfl
  rw [(marks_life hd (career_unstopped hc) env' arrivals' after).2]
  refine (hclosing.count_listed env'.order a.name a.serial).trans ?_
  rw [hget]
  cases lastNamed? a.name (latecomers arrivals between arrivals') with
  | none => simp
  | some b => simp

/-- A service that answers under `/v1/data`, and one that takes its name. -/
def firstData : Service := { name := "data", serial := 1, routes := [⟨"/v1/data", .any, .text 200 "d"⟩] }

def secondData : Service := { name := "data", serial := 2 }

def echo : Service := { name := "echo" }

/-- Of two services one is replaced while the hub runs. The other one is closed. -/
theorem served_closed_hub :
    plainHub.drains ∧ Career plainHub [.add firstData, .add echo] vacant noArrivals [.add secondData] ∧
      (Effect.closings ((made plainHub {}).history ([.add firstData, .add echo] ++ .start vacant noArrivals ::
        [.add secondData] ++ .stop (vacantAt 5) noArrivals :: [])).effects).count ("echo", 0) = 1 := by
  have hd : plainHub.drains := by
    unfold Settings.drains
    decide
  have hc : Career plainHub [.add firstData, .add echo] vacant noArrivals [.add secondData] := ⟨rfl, rfl, rfl⟩
  have hserved : echo ∈ served plainHub [.add firstData, .add echo] vacant noArrivals := .tail _ (.head _)
  exact ⟨hd, hc, (served_closed plainHub hd hc (vacantAt 5) noArrivals []).2 echo hserved⟩

/-- The replaced one answers until the stop, which closes the other one of its name. -/
theorem replaced_unclosed :
    let running := ((made plainHub {}).history [.add firstData, .start vacant noArrivals, .add secondData]).value.1
    let life := (made plainHub {}).history
      [.add firstData, .start vacant noArrivals, .add secondData, .stop (vacantAt 5) noArrivals]
    ((running.serve? 4 { method := "GET", uri := ⟨"/v1/data", some "/v1/data"⟩ } { freshId := "id-2" }).map
        (·.value.body)) = some "d" ∧
      firstData ∈ served plainHub [.add firstData] vacant noArrivals ∧
      Effect.closings life.effects = [("data", 2)] := by
  refine ⟨?_, .head _, ?_⟩
  · decide +kernel
  · decide +kernel

end Host

end ServiceHost
