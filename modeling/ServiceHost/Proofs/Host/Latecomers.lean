/-
  ServiceHost.Proofs.Host.Latecomers — which services are left out of the pipeline, and
  who is told.

  The pipeline is built of the services that are registered when the start comes to it. A
  call that adds a service warns if it finds an address, and there is one only from the
  time the listener is known to be up. So a service that the pipeline does not have is
  added without a warning exactly if the call looked before that, or the host came up
  without a listener (`left_out_silently_iff`).
-/

import ServiceHost.Proofs.Host.Replacement
import ServiceHost.Proofs.Host.Scene

namespace ServiceHost

namespace Host

variable {s : Settings} {h : Host} {env : Surroundings} {r : Registry}

/-! ## What a call tells -/

/--
  Given whether the listener is known to be up or down, and its address: a call warns only
  if it looked after that was known, and then exactly if there is an address.
-/
def AddCall.Tells (c : AddCall) (settled : Bool) (addr? : Option Net.SocketAddr) : Prop :=
  match c.adding with
  | .ended true => settled = true ∧ (c.Warned ↔ addr?.isSome = true)
  | _ => ¬ c.Warned

theorem AddCall.Tells.onward {c : AddCall} {settled settled' : Bool} {addr? addr?' : Option Net.SocketAddr}
    (hc : c.Tells settled addr?) (hkept : settled = true → settled' = true ∧ addr?' = addr?) :
    c.Tells settled' addr?' := by
  unfold AddCall.Tells at hc ⊢
  split at hc
  · obtain ⟨hsettled, hwarned⟩ := hc
    obtain ⟨hsettled', haddr⟩ := hkept hsettled
    exact ⟨hsettled', haddr ▸ hwarned⟩
  · exact hc

theorem enter_unwarned (h : Host) (service late : Service) :
    .logged .injected (lateEvent late) ∉ (h.enter service).effects := by
  simp only [enter, Run.effects_map, Registry.add]
  split <;> simp

theorem remark_warned_iff (h : Host) (service : Service) (previous? : Option Service) :
    .logged .injected (lateEvent service) ∈ (h.remark service previous?).effects ↔ h.localAddr?.isSome = true := by
  unfold remark
  cases previous? <;> cases h.localAddr? <;> simp [lateEvent]

/-- A call that looks for an address tells what it should, if there is none as long as nothing is known. -/
theorem AddCall.Tells.remarked {c : AddCall} {settled : Bool} {previous? : Option Service}
    (hc : c.Tells settled h.localAddr?) (hentered : c.adding = .entered previous?)
    (hunknown : settled = false → h.localAddr? = none) :
    (c.remarked h previous? settled).Tells settled h.localAddr? := by
  have hbefore : ¬ c.Warned := by
    unfold AddCall.Tells at hc
    rw [hentered] at hc
    exact hc
  have hwarned : (c.remarked h previous? settled).Warned ↔ h.localAddr?.isSome = true :=
    (List.mem_append.trans (or_iff_right hbefore)).trans (remark_warned_iff h c.service previous?)
  cases settled with
  | true => exact ⟨rfl, hwarned⟩
  | false =>
    intro hw
    have haddr := hwarned.1 hw
    rw [hunknown rfl] at haddr
    cases haddr

/-! ## What a start has come to -/

variable (s env r) in
/-- A start has built its pipeline of the services of a registry. -/
structure Built (p : Prepared) (pipeline : Http.Pipeline) : Prop where
  fits : p.Fits s env
  build : ∃ es, Http.Pipeline.build (s.pipeline p) (r.listed env.order) .injected = .ok ⟨pipeline, es⟩

variable (s env r) in
/-- What holds of a host as far as its start has come. -/
def Reached (h : Host) : Progress → Prop
  | .begun => h.arming? = none
  | .prepared p => p.Fits s env ∧ h.arming? = p.reloader?
  | .built p pipeline => Built s env r p pipeline ∧ h.arming? = p.reloader?
  | .launched p pipeline listener =>
    Built s env r p pipeline ∧ h.arming? = p.reloader? ∧ listener = p.listener env
  | .settled p pipeline _ => Built s env r p pipeline ∧ h.localAddr? = (env.bind p.addr).toOption
  | .ended (.ok ()) =>
    ∃ p pipeline, Built s env r p pipeline ∧ h.phase.pipeline? = some pipeline ∧
      h.localAddr? = (env.bind p.addr).toOption
  | .ended (.error _) => h.arming? = none

variable (s h env r) in
/-- A step of the start leads from one point to another, and what calls look at stays once it is known. -/
structure Onward (progress : Progress) (x : Host × Progress) : Prop where
  reached : Reached s env r x.1 x.2
  settings : x.1.settings = s
  registry : x.1.registry = h.registry
  unbuilt : x.2.isUnbuilt = true → progress.isUnbuilt = true
  unknown : x.2.isSettled = false → x.1.localAddr? = none
  known : progress.isSettled = true → x.2.isSettled = true ∧ x.1.localAddr? = h.localAddr?

/-- Every step of a start leads onward, whatever it comes to. -/
theorem proceed_onward {progress : Progress} (hs : h.settings = s)
    (hregistry : progress.isUnbuilt = true → h.registry = r) (haddr : progress.isSettled = false → h.localAddr? = none)
    (hr : Reached s env r h progress) : Onward s h env r progress (h.proceed env progress).value := by
  subst hs
  have hno {P : Prop} (hf : false = true) : P := absurd hf Bool.false_ne_true
  cases progress with
  | begun =>
    have hnone := haddr rfl
    simp only [proceed, Run.value_map]
    rcases prepare_cases (h := h) r env hr with ⟨e, -, hy⟩ | ⟨p, -, hfits, hy⟩
    · rw [hy.value]
      exact ⟨hr, rfl, rfl, hno, fun _ => hnone, hno⟩
    · rw [hy.value]
      exact ⟨⟨hfits, rfl⟩, rfl, rfl, fun _ => rfl, fun _ => hnone, hno⟩
  | prepared p =>
    obtain ⟨hfits, harming⟩ := hr
    have hnone := haddr rfl
    simp only [proceed, Run.value_map]
    rcases buildPipeline_cases hfits harming with ⟨e, -, hy⟩ | ⟨-, hy⟩ | ⟨ran, -, hb, hy⟩
    · rw [hy.value]
      exact ⟨rfl, rfl, rfl, hno, fun _ => hnone, hno⟩
    · rw [hy.value]
      exact ⟨rfl, rfl, rfl, hno, fun _ => hnone, hno⟩
    · rw [hy.value]
      rw [hregistry rfl] at hb
      have hbuilt : Built h.settings env r p ran.value := ⟨hfits, ran.effects, hb⟩
      exact ⟨⟨hbuilt, harming⟩, rfl, rfl, hno, fun _ => hnone, hno⟩
  | built p pipeline =>
    obtain ⟨hb, harming⟩ := hr
    have hnone := haddr rfl
    simp only [proceed, Run.value_map, (yields_launch p env h).value]
    exact ⟨⟨hb, harming, rfl⟩, rfl, rfl, hno, fun _ => hnone, hno⟩
  | launched p pipeline listener =>
    obtain ⟨hb, harming, rfl⟩ := hr
    have hnone := haddr rfl
    simp only [proceed, Run.value_map]
    rcases settle_cases hb.fits harming r with ⟨e, -, -, hy⟩ | ⟨-, hy⟩
    · rw [hy.value]
      exact ⟨rfl, rfl, rfl, hno, fun _ => hnone, hno⟩
    · have hbound : (h.listening env p.addr).localAddr? = (env.bind p.addr).toOption := by
        rw [listening, hnone, Option.none_or]
      rw [hy.value]
      exact ⟨⟨hb, hbound⟩, rfl, rfl, hno, fun hf => hno hf.symm, hno⟩
  | settled p pipeline listener =>
    obtain ⟨hb, hbound⟩ := hr
    simp only [proceed, Run.value_map, commence_eq]
    exact ⟨⟨p, pipeline, hb, rfl, hbound⟩, rfl, rfl, hno, fun hf => hno hf.symm, fun _ => ⟨rfl, rfl⟩⟩
  | ended outcome => exact ⟨hr, rfl, rfl, id, haddr, fun hsettled => ⟨hsettled, rfl⟩⟩

/-- That a service enters the registry is all the same to a start that has its pipeline. -/
theorem Reached.entering {progress : Progress} {r' : Registry} (hr : Reached s env r h progress)
    (hsame : progress.isUnbuilt = false → r' = r) (registry : Registry) :
    Reached s env r' { h with registry } progress := by
  cases progress with
  | begun => exact hr
  | prepared p => exact hr
  | ended outcome =>
    rw [hsame rfl]
    cases outcome <;> exact hr
  | _ =>
    rw [hsame rfl]
    exact hr

/-! ## What every step preserves -/

namespace Scene

variable (s) in
/-- The host has come as far as the start says, and every call has told what it should. -/
structure Sound (w : Scene) : Prop where
  settings : w.host.settings = s
  registry : w.host.registry = (w.timely ++ w.tardy).foldl Registry.put {}
  /-- Nothing is too late for a pipeline that is still to be built. -/
  timely : w.progress.isUnbuilt = true → w.tardy = []
  unknown : w.progress.isSettled = false → w.host.localAddr? = none
  reached : Reached s w.env w.taken w.host w.progress
  calls : ∀ c ∈ w.calls, c.Tells w.progress.isSettled w.host.localAddr?

variable {w : Scene}

theorem opening_sound (s : Settings) (env : Surroundings) : Sound s (opening s env) :=
  ⟨rfl, rfl, fun _ => rfl, fun _ => rfl, rfl, List.forall_mem_nil _⟩

theorem start_sound (hw : Sound s w) : Sound s (w.step .start).value := by
  have hregistry : w.progress.isUnbuilt = true → w.host.registry = w.taken := fun hu => by
    rw [hw.registry, hw.timely hu, List.append_nil, taken]
  have ho := proceed_onward hw.settings hregistry hw.unknown hw.reached
  refine ⟨ho.settings, ho.registry.trans hw.registry, fun hu => hw.timely (ho.unbuilt hu), ho.unknown, ho.reached, ?_⟩
  exact fun c hc => (hw.calls c hc).onward ho.known

theorem renewed_sound (env : Surroundings) (hw : Sound s w) : Sound s (w.renewed env) := by
  unfold renewed
  split
  · next e he =>
    have hreached := hw.reached
    have hunknown := hw.unknown
    have hcalls := hw.calls
    rw [he] at hreached hunknown hcalls
    exact ⟨hw.settings, by rw [hw.registry, List.append_nil], fun _ => rfl, hunknown, hreached, hcalls⟩
  · exact hw

theorem Sound.told_set {i : Nat} {c : AddCall} (hw : Sound s w) (hc : c.Tells w.progress.isSettled w.host.localAddr?) :
    ∀ c' ∈ w.calls.set i c, c'.Tells w.progress.isSettled w.host.localAddr? := by
  intro c' hc'
  rcases List.mem_or_eq_of_mem_set hc' with hc' | rfl
  · exact hw.calls c' hc'
  · exact hc

theorem turn_sound {i : Nat} {c : AddCall} (hw : Sound s w) (hc : w.calls[i]? = some c) :
    Sound s (w.turn i c).value := by
  have htells := hw.calls c (List.mem_of_getElem? hc)
  unfold turn
  cases hadding : c.adding with
  | begun =>
    have hcalls : ∀ c' ∈ w.calls.set i (c.entered w.host), c'.Tells w.progress.isSettled w.host.localAddr? :=
      hw.told_set (enter_unwarned w.host c.service c.service)
    simp only [Run.value_map, entering]
    split
    · next hu =>
      have htardy := hw.timely hu
      refine ⟨hw.settings, ?_, hw.timely, hw.unknown, ?_, hcalls⟩
      · have hregistry := hw.registry
        rw [htardy, List.append_nil] at hregistry ⊢
        rw [List.foldl_append, ← hregistry]
        rfl
      · exact hw.reached.entering (fun hu' => absurd (hu'.symm.trans hu) Bool.false_ne_true) _
    · refine ⟨hw.settings, ?_, fun hu => absurd hu ‹_›, hw.unknown, hw.reached.entering (fun _ => rfl) _, hcalls⟩
      rw [← List.append_assoc, List.foldl_append, ← hw.registry]
      rfl
  | entered previous? =>
    have hended := htells.remarked hadding hw.unknown
    exact ⟨hw.settings, hw.registry, hw.timely, hw.unknown, hw.reached, hw.told_set hended⟩
  | ended settled => exact hw

/-- Whoever takes a step, it leaves the scene sound. -/
theorem step_sound (hw : Sound s w) (t : Turn) : Sound s (w.step t).value := by
  cases t with
  | start => exact start_sound hw
  | again env => exact renewed_sound env hw
  | add service =>
    refine ⟨hw.settings, hw.registry, hw.timely, hw.unknown, hw.reached, fun c hc => ?_⟩
    rcases List.mem_append.1 hc with hc | hc
    · exact hw.calls c hc
    · rw [List.mem_singleton.1 hc]
      exact List.not_mem_nil
  | call i =>
    simp only [step]
    split
    · next c hc => exact turn_sound hw hc
    · exact hw

theorem run_sound (hw : Sound s w) (turns : List Turn) : Sound s (w.run turns).value := by
  induction turns generalizing w with
  | nil => exact hw
  | cons t turns ih => exact ih (step_sound hw t)

/-! ## Who is left out silently -/

/--
  Services are added while a host is started, until a start comes up. Its pipeline is built
  of those that came in time, the last one for each name. Any other is added without a
  warning exactly if the call looked for an address before it was known what became of the
  listener, or there is no address because the listener did not come up.
-/
theorem left_out_silently_iff (s : Settings) (env : Surroundings) (turns : List Turn)
    (hok : ((opening s env).run turns).value.progress = .ended (.ok ())) :
    let w := ((opening s env).run turns).value
    (∃ p pipeline es, p.Fits s w.env ∧ w.host.phase.pipeline? = some pipeline ∧
        Http.Pipeline.build (s.pipeline p) (w.taken.listed w.env.order) .injected = .ok ⟨pipeline, es⟩ ∧
        w.host.localAddr? = (w.env.bind p.addr).toOption) ∧
      ∀ c ∈ w.calls, ∀ settled, c.adding = .ended settled →
        (c.service ∉ w.taken.snapshot ∧ ¬ c.Warned ↔
          lastNamed? c.service.name w.timely ≠ some c.service ∧ (settled = false ∨ w.host.localAddr? = none)) := by
  intro w
  have hw : Sound s w := run_sound (opening_sound s env) turns
  have hreached := hw.reached
  rw [show w.progress = _ from hok] at hreached
  obtain ⟨p, pipeline, ⟨hfits, es, hbuild⟩, hserving, haddr⟩ := hreached
  refine ⟨⟨p, pipeline, es, hfits, hserving, hbuild, haddr⟩, fun c hc settled hended => ?_⟩
  refine and_congr (not_congr Registry.mem_foldl_put) ?_
  have htells := hw.calls c hc
  unfold AddCall.Tells at htells
  rw [hended] at htells
  cases settled with
  | true => simp [htells.2]
  | false => simpa using htells

def heardHub : Settings := { plainHub with fatalHandler := true }

/-- A start finds the address taken and comes to its end. Then a service is added. -/
def afterwards : List Turn := List.replicate startSteps .start ++ [.add firstData, .call 0, .call 0]

/-- The service is added between the pipeline and the listener. -/
def inBetween : List Turn := [.start, .start, .add firstData, .call 0, .call 0, .start, .start, .start]

/-- The hub comes up without an address, and the call does not warn. -/
theorem left_out_silently_iff_heard :
    ((opening heardHub crowded).run afterwards).value.progress = .ended (.ok ()) ∧
      ∀ c ∈ ((opening heardHub crowded).run afterwards).value.calls, c.adding = .ended true →
        c.service ∉ ((opening heardHub crowded).run afterwards).value.taken.snapshot → ¬ c.Warned := by
  have hok : ((opening heardHub crowded).run afterwards).value.progress = .ended (.ok ()) := rfl
  refine ⟨hok, fun c hc hended hout => ?_⟩
  have hiff := (left_out_silently_iff heardHub crowded afterwards hok).2 c hc true hended
  exact (hiff.2 ⟨mt Registry.mem_foldl_put.2 hout, .inr rfl⟩).2

/-- Whether it comes after a start or in the middle of one, with an address or without: nobody is told. -/
theorem latecomers_untold :
    let late := ((opening heardHub crowded).run afterwards).value
    let midway := ((opening plainHub vacant).run inBetween).value
    (late.host.phase.stand = .started ∧ late.host.localAddr?.isSome = false ∧
        ∃ c ∈ late.calls, c.adding = .ended true ∧ c.service ∉ late.taken.snapshot ∧ ¬ c.Warned) ∧
      midway.host.phase.stand = .started ∧ midway.host.localAddr?.isSome = true ∧
        ∃ c ∈ midway.calls, c.adding = .ended false ∧ c.service ∉ midway.taken.snapshot ∧ ¬ c.Warned := by
  refine ⟨⟨rfl, rfl, _, .head _, rfl, ?_, ?_⟩, rfl, rfl, _, .head _, rfl, ?_, ?_⟩
  · exact List.not_mem_nil
  · decide +kernel
  · exact List.not_mem_nil
  · decide +kernel

end Scene

end Host

end ServiceHost
