/-
  ServiceHost.Schedule.Line — one line of repeated work on a clock of milliseconds.

  A line runs its body at every tick. The first tick is due one interval after the line
  starts. A tick taken at most five milliseconds late keeps the rhythm: the next is due an
  interval after the one taken was. A tick taken later starts a new rhythm, so missed
  ticks are not caught up. Bodies of one line do not overlap: a tick that falls due
  during a body waits for its end. A body that fails ends its line.

  What a line does between two moments does not depend on any other line
  (`Line.advance`).
-/

import ServiceHost.Power

namespace ServiceHost.Schedule

/-- How late a tick may be taken and still keep the rhythm. -/
def tolerance : Nat := 5

/-- The clock reaches no further than this. -/
def endOfClock : Nat := (pow2 63 - 1) * 1000

structure Body where
  duration : Nat := 0
  /-- The body fails at its end. -/
  fails : Bool := false
  deriving DecidableEq, Repr

structure Execution where
  start : Nat
  finish : Nat
  fails : Bool
  /-- When the tick that started it was set. -/
  armedAt : Nat
  deriving DecidableEq, Repr

structure Line where
  interval : Nat
  /-- When the next tick is due. -/
  due : Nat
  /-- When that tick was set. -/
  armedAt : Nat
  /-- When the last body ends. -/
  free : Nat
  /-- How many bodies have started. -/
  count : Nat := 0
  /-- Set for a line that runs no more: a body of it failed, or its ticks lie past the end of the clock. -/
  failed : Bool := false
  interval_pos : 0 < interval
  deriving DecidableEq, Repr

namespace Line

def start (interval now : Nat) (h : 0 < interval) : Line :=
  { interval, due := now + interval, armedAt := now, free := now, failed := endOfClock ≤ now + interval, interval_pos := h }

/-- When the next body starts, if nothing stops the line before. -/
def next (l : Line) : Nat := max l.due l.free

/-- When the tick after one due at `due` and taken at `taken` is due. -/
def following (interval due taken : Nat) : Nat := if taken ≤ due + tolerance then due + interval else taken + interval

/-- The next body, from its start on. -/
def run (l : Line) (b : Body) : Execution × Line :=
  ({ start := l.next, finish := l.next + b.duration, fails := b.fails, armedAt := l.armedAt },
   { l with
      due := following l.interval l.due l.next, armedAt := l.next, free := l.next + b.duration
      count := l.count + 1, failed := b.fails })

theorem lt_following {interval : Nat} (h : 0 < interval) (due taken : Nat) (hd : due ≤ taken) :
    due < following interval due taken := by
  unfold following
  split <;> omega

theorem due_lt_run (l : Line) (b : Body) : l.due < (l.run b).2.due :=
  lt_following l.interval_pos _ _ (Nat.le_max_left ..)

/-- All bodies that start up to `now`; the body of the `k`-th run is `bodies k`. -/
def advance (bodies : Nat → Body) (now : Nat) (l : Line) : List Execution × Line :=
  if l.failed ∨ now < l.next then ([], l)
  else
    let ran := l.run (bodies l.count)
    let rest := advance bodies now ran.2
    (ran.1 :: rest.1, rest.2)
termination_by now + 1 - l.due
decreasing_by
  rename_i h
  have := due_lt_run l
  have : l.due ≤ l.next := Nat.le_max_left ..
  grind

end Line

end ServiceHost.Schedule
