/-
  ServiceHost.Host.Clock — what happens in a host while time passes: pollers check the
  keypair, background tasks publish.

  Everything due up to a moment is done in the order of time. Of two things due at one
  moment the one whose tick was set earlier comes first, and a poller before a task.
-/

import ServiceHost.Host.Start
import ServiceHost.Power

namespace ServiceHost.Host

inductive Errand where
  /-- The reloader in use checks its files. -/
  | poll
  /-- The `i`-th reloader nobody holds checks its files. -/
  | orphanPoll (i : Nat)
  | task (t : Schedule.Task Duty)

structure Appointment where
  tick : Schedule.Execution
  errand : Errand

def Appointment.le (a b : Appointment) : Bool :=
  a.tick.start < b.tick.start || (a.tick.start = b.tick.start && a.tick.armedAt ≤ b.tick.armedAt)

def overReloader (h : Host) (f : Tls.Reloader → Run Tls.Reloader) : Run Host :=
  match h.phase with
  | .started serving =>
    match serving.reloader? with
    | some r => do
      let r ← f r
      return { h with phase := .started { serving with reloader? := some r } }
    | none => pure h
  | _ => pure h

/-- A host serves with a reloader, which alone is replaced, or there is nothing to do. -/
theorem overReloader_cases (h : Host) (f : Tls.Reloader → Run Tls.Reloader) :
    h.overReloader f = pure h ∨ ∃ serving r, h.phase = .started serving ∧ serving.reloader? = some r ∧
      h.overReloader f =
        ⟨{ h with phase := .started { serving with reloader? := some (f r).value } }, (f r).effects⟩ := by
  cases hp : h.phase with
  | started serving =>
    cases hr : serving.reloader? with
    | none => exact .inl (by simp only [overReloader, hp, hr])
    | some r =>
      refine .inr ⟨serving, r, rfl, hr, ?_⟩
      simp only [overReloader, hp, hr]
      exact congrArg (Run.mk _) (List.append_nil _)
  | _ => exact .inl (by simp only [overReloader, hp])

def overOrphan (h : Host) (i : Nat) (f : Tls.Reloader → Run Tls.Reloader) : Run Host :=
  match h.orphans[i]? with
  | some r => do
    let r ← f r
    return { h with orphans := h.orphans.set i r }
  | none => pure h

def perform (h : Host) (env : Surroundings) (now : Nat) : Duty → Run Host
  | .certExpiry => h.overReloader (publishExpiry h.settings.publisher env now)
  | .heartbeat => do
    h.settings.publisher.publish (env.calendar now) .injected
      (.heartbeat h.settings.config.http.serviceName (h.uptimeMillis now * pow10 6))
    return h

def attend (env : Surroundings) (h : Host) (a : Appointment) : Run Host :=
  match a.errand with
  | .poll => h.overReloader fun r => r.poll env.keys env.files a.tick.start .injected
  | .orphanPoll i => h.overOrphan i fun r => r.poll env.keys env.files a.tick.start .injected
  | .task t => do
    Run.tell (.logged .injected (Schedule.Scheduler.runningEvent t))
    h.perform env a.tick.start t.job

def pollerTicks (h : Host) (now : Nat) : List Appointment × Host :=
  match h.phase with
  | .started serving =>
    match serving.reloader? with
    | some r =>
      let ticked := r.ticks now
      (ticked.1.map fun x => ⟨x, .poll⟩, { h with phase := .started { serving with reloader? := some ticked.2 } })
    | none => ([], h)
  | _ => ([], h)

theorem pollerTicks_cases (h : Host) (now : Nat) :
    h.pollerTicks now = ([], h) ∨ ∃ serving r, h.phase = .started serving ∧ serving.reloader? = some r ∧
      h.pollerTicks now = ((r.ticks now).1.map fun x => ⟨x, .poll⟩,
        { h with phase := .started { serving with reloader? := some (r.ticks now).2 } }) := by
  cases hp : h.phase with
  | started serving =>
    cases hr : serving.reloader? with
    | none => exact .inl (by simp only [pollerTicks, hp, hr])
    | some r => exact .inr ⟨serving, r, rfl, hr, by simp only [pollerTicks, hp, hr]⟩
  | _ => exact .inl (by simp only [pollerTicks, hp])

def orphanTicks (h : Host) (now : Nat) : List Appointment × Host :=
  let ticked := h.orphans.map (·.ticks now)
  (ticked.zipIdx.flatMap fun t => t.1.1.map fun x => ⟨x, .orphanPoll t.2⟩, { h with orphans := ticked.map (·.2) })

def taskTicks (h : Host) (now : Nat) : List Appointment × Host :=
  let ticked := h.scheduler.advance (fun _ _ => {}) now
  (ticked.1.map fun x => ⟨x.2, .task x.1⟩, { h with scheduler := ticked.2 })

/-- Everything due up to the present of the surroundings, in order; the lines are moved past it. -/
def appointments (h : Host) (now : Nat) : List Appointment × Host :=
  let polls := h.pollerTicks now
  let orphans := polls.2.orphanTicks now
  let tasks := orphans.2.taskTicks now
  ((polls.1 ++ orphans.1 ++ tasks.1).mergeSort Appointment.le, tasks.2)

/-- Does everything due up to the present of the surroundings. -/
def advance (h : Host) (env : Surroundings) : Run Host :=
  let due := h.appointments env.now
  due.1.foldlM (attend env) due.2

end ServiceHost.Host
