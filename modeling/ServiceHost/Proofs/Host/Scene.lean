/-
  ServiceHost.Proofs.Host.Scene — a host that is started while services are added to it,
  step by step.

  A start takes five steps: it prepares, builds the pipeline of the services that are
  registered, launches the listener, keeps its address if it came up, and sets the
  background tasks going (`proceed`). A call that adds a service takes two: the service
  enters the registry, then the call looks for an address and warns if there is one. Steps
  of the start, of another one if it fails, and of any number of calls come in any order
  (`Scene.step`). A start and a call that nothing comes between are those of the host
  (`Scene.run_start`, `Scene.run_call`).
-/

import ServiceHost.Proofs.Host.Start

namespace ServiceHost.Host

open Stage

/-! ## A start in steps -/

/-- How far a start has come. -/
inductive Progress where
  | begun
  | prepared (p : Prepared)
  | built (p : Prepared) (pipeline : Http.Pipeline)
  /-- The listener has come up or not, and the host does not know yet. -/
  | launched (p : Prepared) (pipeline : Http.Pipeline) (listener : Net.Listener)
  | settled (p : Prepared) (pipeline : Http.Pipeline) (listener : Net.Listener)
  | ended (outcome : Except StartFailure Unit)

namespace Progress

def isUnbuilt : Progress → Bool
  | begun | prepared _ => true
  | _ => false

/-- Whether the host knows what became of the listener, and goes on or has come up. -/
def isSettled : Progress → Bool
  | settled .. | ended (.ok _) => true
  | _ => false

/-- What a step leads to: the next one, or the end of the start with a failure. -/
def after {α : Type} (next : α → Progress) : Except StartFailure α × Host → Host × Progress
  | (.ok a, h) => (h, next a)
  | (.error e, h) => (h.afterLaunch (.error e), ended (.error e))

end Progress

variable {h : Host} {env : Surroundings}

def proceed (h : Host) (env : Surroundings) : Progress → Run (Host × Progress)
  | .begun => Progress.after .prepared <$> (prepare env).exec h
  | .prepared p => Progress.after (.built p) <$> (buildPipeline env p).exec h
  | .built p pipeline =>
    Progress.after (.launched p pipeline) <$>
      Stage.exec (liftM (Net.Listener.launch env.bind p.addr p.mode h.settings.fatalHandler)) h
  | .launched p pipeline listener =>
    Progress.after (fun _ => .settled p pipeline listener) <$> (settle p h.settings.fatalHandler listener).exec h
  | .settled p pipeline listener =>
    (fun x => (x.2.afterLaunch (.ok ⟨pipeline, listener, x.1⟩), .ended (.ok ()))) <$> commence env p h
  | .ended outcome => pure (h, .ended outcome)

def proceedAll (env : Surroundings) : Nat → Host → Progress → Run (Host × Progress)
  | 0, h, progress => pure (h, progress)
  | n + 1, h, progress => do
    let (h, progress) ← h.proceed env progress
    proceedAll env n h progress

/-- How many steps a start takes. -/
def startSteps : Nat := 5

def finished (x : Except StartFailure Serving × Host) : Host × Progress :=
  (x.2.afterLaunch x.1, .ended (x.1.map fun _ => ()))

theorem proceedAll_ended (n : Nat) (h : Host) (outcome : Except StartFailure Unit) :
    proceedAll env n h (.ended outcome) = pure (h, .ended outcome) := by
  induction n with
  | zero => rfl
  | succ n ih => exact ih

/-- A step and those after it come to what the parts of the start come to one after the other. -/
theorem proceedAll_bind {α : Type} {x : Stage α} {f : α → Stage Serving} {next : α → Progress} {n : Nat}
    (hf : ∀ a h', (x.exec h).value = (.ok a, h') → proceedAll env n h' (next a) = finished <$> (f a).exec h') :
    (Progress.after next <$> x.exec h) >>= (fun y => proceedAll env n y.1 y.2) = finished <$> (x >>= f).exec h := by
  rw [bind_map_left]
  cases hx : (x.exec h).value with
  | mk outcome h' =>
    have hran : x.exec h = ⟨(outcome, h'), (x.exec h).effects⟩ := by rw [← hx]
    cases outcome with
    | error e =>
      rw [exec_bind_error hx, hran]
      change Run.mk (proceedAll env n _ (.ended (.error e))).value
        (_ ++ (proceedAll env n _ (.ended (.error e))).effects) = _
      rw [proceedAll_ended]
      rfl
    | ok a =>
      have hrest := hf a h' hx
      rw [exec_bind_ok hx, hran]
      change Run.mk (proceedAll env n h' (next a)).value (_ ++ (proceedAll env n h' (next a)).effects) = _
      rw [hrest]
      exact congrArg (Run.mk _) (List.append_assoc ..).symm

theorem start_alone (env : Surroundings) (hn : h.phase = .new) :
    proceedAll env startSteps h .begun = (fun x => (x.1, .ended x.2)) <$> h.start env := by
  have hstart : (fun x => (x.1, .ended x.2)) <$> h.start env = finished <$> (launch env).exec h := by
    rw [start, hn]
    simp only [map_bind, map_pure]
    rw [map_eq_pure_bind]
    rfl
  rw [hstart, launch]
  refine proceedAll_bind fun p h₁ _ => ?_
  refine proceedAll_bind fun pipeline h₂ _ => ?_
  simp only [listen, bind_assoc]
  have hget {α : Type} (f : Host → Stage α) : ((get : Stage Host) >>= f).exec h₂ = (f h₂).exec h₂ := rfl
  rw [hget]
  refine proceedAll_bind fun listener h₃ hl => ?_
  rw [exec_liftRun] at hl
  cases hl
  refine proceedAll_bind fun _ h₄ _ => ?_
  rw [pure_bind, exec_bind_ok (congrArg Run.value (exec_lift ..)), exec_lift]
  rfl

/-! ## A call in steps -/

/-- How far a call that adds a service has come. -/
inductive Adding where
  | begun
  /-- The service is in the registry. -/
  | entered (previous? : Option Service)
  /-- The call has looked for an address: before the host knew what became of the listener, or after that. -/
  | ended (settled : Bool)

structure AddCall where
  service : Service
  adding : Adding := .begun
  /-- What the call has logged so far. -/
  told : List Effect := []

def lateEvent (s : Service) : Log.Event :=
  ⟨.warn, .host, "Service added after start; it will not receive requests", [("service", .bare s.name)]⟩

/-- Whether the call has warned that the service comes too late. -/
def AddCall.Warned (c : AddCall) : Prop := .logged .injected (lateEvent c.service) ∈ c.told

instance (c : AddCall) : Decidable c.Warned := inferInstanceAs (Decidable (_ ∈ _))

/-- The first step of a call: the service takes its place in the registry. -/
def enter (h : Host) (s : Service) : Run (Host × Option Service) :=
  (fun x => ({ h with registry := x.1 }, x.2)) <$> h.registry.add s

/-- The second step: what it replaced is told, and that it comes too late if there is an address. -/
def remark (h : Host) (s : Service) (previous? : Option Service) : Run Unit := do
  if previous?.isSome then
    Run.log .injected .debug .host "Service replaced" [("service", .bare s.name)]
  if h.localAddr?.isSome then Run.tell (.logged .injected (lateEvent s))

/-- The call once its service is in the registry of a host. -/
def AddCall.entered (c : AddCall) (h : Host) : AddCall :=
  { c with adding := .entered (h.enter c.service).value.2, told := (h.enter c.service).effects }

/-- The call once it has looked for the address of a host. -/
def AddCall.remarked (c : AddCall) (h : Host) (previous? : Option Service) (settled : Bool) : AddCall :=
  { c with adding := .ended settled, told := c.told ++ (h.remark c.service previous?).effects }

theorem addService_alone (h : Host) (s : Service) :
    (do
      let (h, previous?) ← h.enter s
      h.remark s previous?
      return h) = h.addService s := by
  unfold addService enter remark Registry.add
  cases h.registry.get? s.name <;> cases h.localAddr? <;> rfl

/-! ## Starts and calls -/

/-- A host while it is started and services are added to it. -/
structure Scene where
  host : Host
  env : Surroundings
  progress : Progress := .begun
  calls : List AddCall := []
  /-- The services that entered the registry before the pipeline was built of it, in that order. -/
  timely : List Service := []
  /-- Those that entered it after that. -/
  tardy : List Service := []

namespace Scene

/-- Who takes the next step. -/
inductive Turn where
  /-- The start. -/
  | start
  /-- Another start after one that failed, in new surroundings. -/
  | again (env : Surroundings)
  /-- A new call. -/
  | add (s : Service)
  /-- A call under way. -/
  | call (i : Nat)

/-- A host that nobody has started, and no service yet. -/
def opening (s : Settings) (env : Surroundings) : Scene := { host := { settings := s }, env }

def entering (w : Scene) (s : Service) : Scene :=
  if w.progress.isUnbuilt then { w with timely := w.timely ++ [s] } else { w with tardy := w.tardy ++ [s] }

def turn (w : Scene) (i : Nat) (c : AddCall) : Run Scene :=
  match c.adding with
  | .begun =>
    (fun x => { w.entering c.service with host := x.1, calls := w.calls.set i (c.entered w.host) }) <$>
      w.host.enter c.service
  | .entered previous? =>
    (fun _ => { w with calls := w.calls.set i (c.remarked w.host previous? w.progress.isSettled) }) <$>
      w.host.remark c.service previous?
  | .ended _ => pure w

/-- A failed start leaves the services that came too late for it to the next one. -/
def renewed (w : Scene) (env : Surroundings) : Scene :=
  match w.progress with
  | .ended (.error _) => { w with env, progress := .begun, timely := w.timely ++ w.tardy, tardy := [] }
  | _ => w

def step (w : Scene) : Turn → Run Scene
  | .start => (fun x => { w with host := x.1, progress := x.2 }) <$> w.host.proceed w.env w.progress
  | .again env => pure (w.renewed env)
  | .add s => pure { w with calls := w.calls ++ [{ service := s }] }
  | .call i =>
    match w.calls[i]? with
    | some c => w.turn i c
    | none => pure w

def run (w : Scene) : List Turn → Run Scene
  | [] => pure w
  | t :: ts => do
    let w ← w.step t
    w.run ts

theorem run_starts (w : Scene) (n : Nat) :
    w.run (List.replicate n .start) =
      (fun x => { w with host := x.1, progress := x.2 }) <$> proceedAll w.env n w.host w.progress := by
  induction n generalizing w with
  | zero => rfl
  | succ n ih =>
    rw [List.replicate_succ, run, proceedAll, step, map_bind, bind_map_left]
    simp only [ih]

/-- A start that takes all its turns in a row is the start of the host. -/
theorem run_start (w : Scene) (hn : w.host.phase = .new) (hb : w.progress = .begun) :
    w.run (List.replicate startSteps .start) =
      (fun x => { w with host := x.1, progress := .ended x.2 }) <$> w.host.start w.env := by
  rw [run_starts, hb, start_alone w.env hn, ← comp_map]
  rfl

/-- A call that takes both its turns in a row adds the service to the host. -/
theorem run_call (w : Scene) (s : Service) :
    Scene.host <$> w.run [.add s, .call w.calls.length, .call w.calls.length] = w.host.addService s := by
  have hcall (c : AddCall) : (w.calls ++ [c])[w.calls.length]? = some c := by simp
  have hset (c c' : AddCall) : (w.calls ++ [c]).set w.calls.length c' = w.calls ++ [c'] := by simp
  rw [← addService_alone]
  simp only [run, step, pure_bind, hcall, turn, bind_map_left, hset, AddCall.entered, bind_pure, map_bind,
    Functor.map_map, bind_pure_comp]
  rfl

def taken (w : Scene) : Registry := w.timely.foldl Registry.put {}

end Scene

end ServiceHost.Host
