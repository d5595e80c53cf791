/-
  ServiceHost.Signal — the stop signal that background lines listen to.

  A coordinator holds a value, which is set when it is triggered, and hands out receivers; a
  receiver can be cloned and dropped. A wait on a receiver first looks at the value, and
  then, as long as it is not set, asks for a newer one and sleeps until that comes. A line
  without a coordinator must stop too, so a wait also ends when there is none to set the
  value. It does not matter whether a receiver was handed out before or after that.
-/

namespace ServiceHost

structure Receiver where
  id : Nat
  /-- The version of the value that it has seen. -/
  seen : Nat
  deriving DecidableEq, Repr

structure Signal where
  /-- The value. -/
  triggered : Bool := false
  /-- Set once the coordinator is gone. -/
  dropped : Bool := false
  /-- How often the value was set. -/
  version : Nat := 0
  /-- The live receivers. -/
  live : List Nat := []
  /-- The next receiver to hand out. -/
  next : Nat := 0
  unset : triggered = false → version = 0 := by exact fun _ => rfl
  below : ∀ id ∈ live, id < next := by exact List.forall_mem_nil _
  nodup : live.Nodup := by exact List.nodup_nil
  deriving DecidableEq, Repr

/-- How far a wait on a receiver has come. -/
inductive Wait where
  /-- It looks at the value next. -/
  | looking
  /-- The value was not set. It asks for a newer one next. -/
  | asking
  /-- There is no newer one yet. The coordinator wakes it. -/
  | asleep
  | ended
  deriving DecidableEq, Repr

namespace Signal

def trigger (s : Signal) : Signal := { s with triggered := true, version := s.version + 1, unset := nofun }

def drop (s : Signal) : Signal := { s with dropped := true }

/-- Hands out a receiver that has seen a version of the value. -/
def issue (s : Signal) (seen : Nat) : Signal × Receiver :=
  ({ s with
    live := s.next :: s.live, next := s.next + 1
    below := List.forall_mem_cons.2 ⟨Nat.lt_succ_self _, fun id hid => Nat.lt_succ_of_lt (s.below id hid)⟩
    nodup := List.nodup_cons.2 ⟨fun hid => Nat.lt_irrefl _ (s.below _ hid), s.nodup⟩ }, ⟨s.next, seen⟩)

/-- A receiver from the coordinator, which takes the value as seen; nothing once that is gone. -/
def subscribe (s : Signal) : Option (Signal × Receiver) := if s.dropped then none else some (s.issue s.version)

def clone (s : Signal) (r : Receiver) : Option (Signal × Receiver) :=
  if s.live.contains r.id then some (s.issue r.seen) else none

def release (s : Signal) (r : Receiver) : Signal :=
  { s with
    live := s.live.erase r.id
    below := fun id hid => s.below id (List.mem_of_mem_erase hid)
    nodup := s.nodup.erase r.id }

def receivers (s : Signal) : Nat := s.live.length

/-- Whether lines that listen are to stop. -/
def hasFired (s : Signal) : Bool := s.triggered || s.dropped

def turn (s : Signal) (r : Receiver) : Wait → Receiver × Wait
  | .looking => ({ r with seen := s.version }, if s.triggered then .ended else .asking)
  | .asking =>
    if r.seen ≠ s.version then ({ r with seen := s.version }, .looking)
    -- nothing newer will come from a coordinator that is gone
    else (r, if s.dropped then .ended else .asleep)
  | .asleep => (r, .asleep)
  | .ended => (r, .ended)

/-- Waits on a receiver until that is over, or sleeps; tells whether it is over. -/
def recv (s : Signal) (r : Receiver) : Receiver × Bool :=
  let (r, w) := s.turn r .looking
  let (r, w) := s.turn r w
  (r, w = .ended)

end Signal

end ServiceHost
