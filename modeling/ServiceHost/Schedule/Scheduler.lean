/-
  ServiceHost.Schedule.Scheduler — named tasks repeated at fixed intervals, each on a line
  of its own, from one start to one stop.

  Tasks added before the start wait for it; tasks added later get their line at once;
  tasks added after the stop are discarded. Stopping takes every line away, waits for the
  bodies that are running, and is final.
-/

import ServiceHost.Effect
import ServiceHost.Schedule.Line
import ServiceHost.Text.Duration

namespace ServiceHost.Schedule

/-- A named job repeated at an interval in milliseconds. -/
structure Task (Job : Type) where
  name : String
  interval : Nat
  job : Job

inductive TaskError where
  | zeroInterval (task : String)
  deriving DecidableEq, Repr

def TaskError.message : TaskError → String
  | zeroInterval task => "Task '" ++ task ++ "' has a zero interval"

def Task.inspected {Job : Type} (t : Task Job) : String :=
  Text.inspected "Task" [("name", Text.quoted t.name), ("interval", Text.spanText t.interval)] true

/-- A task that can be scheduled. -/
abbrev Accepted (Job : Type) := { t : Task Job // 0 < t.interval }

structure Entry (Job : Type) where
  task : Task Job
  line : Line

inductive Scheduler (Job : Type) where
  | idle (pending : List (Accepted Job))
  | running (entries : List (Entry Job))
  | stopped

/-- Where the scheduler's own events go, and where those of its lines do. -/
structure Sinks where
  own : Log.Sink
  lines : Log.Sink
  deriving DecidableEq, Repr

namespace Scheduler

variable {Job : Type}

def empty : Scheduler Job := .idle []

def isRunning : Scheduler Job → Bool
  | running _ => true
  | _ => false

/-- The names of the tasks that wait or have a line, in the order they were added. -/
def names : Scheduler Job → List String
  | idle pending => pending.map (·.1.name)
  | running entries => entries.map (·.task.name)
  | stopped => []

def entry (now : Nat) (t : Accepted Job) : Entry Job := ⟨t.1, Line.start t.1.interval now t.2⟩

def add (s : Scheduler Job) (t : Task Job) (now : Nat) (sinks : Sinks) : Except TaskError (Run (Scheduler Job)) :=
  if h : 0 < t.interval then
    match s with
    | idle pending => .ok (pure (idle (pending ++ [⟨t, h⟩])))
    | running entries => .ok (pure (running (entries ++ [entry now ⟨t, h⟩])))
    | stopped => .ok do
      Run.log sinks.own .warn .scheduler "Scheduler stopped, task discarded" [("task", .bare t.name)]
      return stopped
  else .error (.zeroInterval t.name)

def schedulingEvent (t : Task Job) : Log.Event :=
  ⟨.debug, .scheduler, "Scheduling task", [("task", .bare t.name), ("interval", .bare (Text.spanText t.interval))]⟩

/-- Gives every waiting task its line. Only an idle scheduler can be started. -/
def start (s : Scheduler Job) (now : Nat) (sinks : Sinks) : Run (Scheduler Job) :=
  match s with
  | idle pending => do
    Run.tellAll (pending.map fun t => .logged sinks.own (schedulingEvent t.1))
    Run.log sinks.own .info .scheduler "Scheduler started" [("tasks", .nat pending.length)]
    return running (pending.map (entry now))
  | s => pure s

/-- Runs every line up to `now`; `body job k` is the `k`-th run of a job. -/
def advance (body : Job → Nat → Body) (now : Nat) (s : Scheduler Job) :
    List (Task Job × Execution) × Scheduler Job :=
  match s with
  | running entries =>
    let moved := entries.map fun e => (e.task, e.line.advance (body e.task.job) now)
    (moved.flatMap fun m => m.2.1.map fun x => (m.1, x), running (moved.map fun m => ⟨m.1, m.2.2⟩))
  | s => ([], s)

def runningEvent (t : Task Job) : Log.Event := ⟨.trace, .scheduler, "Running scheduled task", [("task", .bare t.name)]⟩

/-- The end of a line, as seen by whoever waits for it. -/
def endEvent (sinks : Sinks) (e : Entry Job) : Effect :=
  if e.line.failed then
    .logged sinks.own ⟨.error, .scheduler, "Scheduled task ended abnormally", [("task", .bare e.task.name)]⟩
  else .logged sinks.lines ⟨.debug, .scheduler, "Scheduled task stopped", [("task", .bare e.task.name)]⟩

/-- When the last body of some lines ends, not before `now`. -/
def busyUntil (now : Nat) (entries : List (Entry Job)) : Nat := entries.foldl (fun t e => max t e.line.free) now

/-- The lines that stopping takes away. -/
def lines : Scheduler Job → List (Entry Job)
  | running entries => entries
  | _ => []

/-- Stops for good. Gives the time at which the last running body has ended. -/
def stop (s : Scheduler Job) (now : Nat) (sinks : Sinks) : Run (Scheduler Job × Nat) :=
  match s with
  | stopped => pure (stopped, now)
  | s => do
    Run.tellAll (s.lines.map (endEvent sinks))
    Run.log sinks.own .info .scheduler "Scheduler stopped" []
    return (stopped, busyUntil now s.lines)

end Scheduler

end ServiceHost.Schedule
