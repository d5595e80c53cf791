/-
  ServiceHost.Http.ProfileLog — the file of the request profile, and the writer that
  fills it.

  Requests send records; whoever wants to read the file sends a flush. The writer takes
  the commands one by one, in the order they were sent, and puts each record into a
  buffer in front of the file. As often as it finds nothing more to take, it hands the
  buffer over and waits until all of it is in the file. Then it acknowledges the flushes
  it took since the last time. It ends once all senders are gone and all they sent is in
  the file.

  What is handed over reaches the file in order, in any number of portions, while the
  writer and the senders go on.
-/

import ServiceHost.Document.Json
import ServiceHost.Effect

namespace ServiceHost

open ServiceHost.Text

def ProfileRecord.toDocument (r : ProfileRecord) : Document :=
  .table
    [("at", .text r.date), ("method", .text r.method), ("path", .text r.path), ("status", .ofNat r.status),
     ("duration_us", .ofNat r.durationMicros), ("correlation_id", .text r.correlationId)]

def ProfileRecord.line (r : ProfileRecord) : Octets := utf8 (r.toDocument.toJson ++ "\n")

namespace Http

inductive ProfileCommand where
  | record (line : Octets)
  /-- Asks for an acknowledgement, told from others by its id. -/
  | flush (id : Nat)
  deriving DecidableEq, Repr

/-- Where the writer is; flushes not acknowledged yet are kept in the order they were taken. -/
inductive WriterPhase where
  /-- Waits for a command. -/
  | idle
  /-- Has taken a command, and carries it out next. -/
  | holding (c : ProfileCommand) (flushes : List Nat)
  /-- Looks whether there is another command. -/
  | looking (flushes : List Nat)
  /-- Has found none, and waits for the file. -/
  | emptying (flushes : List Nat)
  /-- Acknowledges. -/
  | answering (flushes : List Nat)
  /-- Nobody sends any more; waits for the file a last time. -/
  | closing
  | ended
  deriving DecidableEq, Repr

/-- What carrying out a command adds to the bytes on their way and to the flushes. -/
def ProfileCommand.load : ProfileCommand → Nat
  | .record line => 2 * line.length
  | .flush _ => 1

/-- What is left to do for a queue. -/
def ProfileCommand.loads : List ProfileCommand → Nat
  | [] => 0
  | c :: cs => c.load + 5 + loads cs

/-- What is left to do in a phase. -/
def WriterPhase.weight : WriterPhase → Nat
  | .idle => 2
  | .holding c flushes => 6 + c.load + flushes.length
  | .looking flushes => 5 + flushes.length
  | .emptying flushes => 4 + flushes.length
  | .answering flushes => 3 + flushes.length
  | .closing => 1
  | .ended => 0

structure ProfileLog where
  /-- What was sent and is not taken yet. -/
  queue : List ProfileCommand := []
  /-- Whether somebody can still send. -/
  hasSenders : Bool := true
  phase : WriterPhase := .idle
  buffer : Octets := []
  /-- What was handed over and is not in the file yet. -/
  inFlight : Octets := []
  file : Octets := []
  /-- The flushes acknowledged so far. -/
  acknowledged : List Nat := []
  deriving DecidableEq, Repr

namespace ProfileLog

def capacity : Nat := 8192

def send (l : ProfileLog) (c : ProfileCommand) : ProfileLog := { l with queue := l.queue ++ [c] }

def release (l : ProfileLog) : ProfileLog := { l with hasSenders := false }

/-- Some bytes of what was handed over reach the file. -/
def land (l : ProfileLog) (n : Nat) : ProfileLog :=
  { l with file := l.file ++ l.inFlight.take n, inFlight := l.inFlight.drop n }

def handOver (l : ProfileLog) : ProfileLog := { l with inFlight := l.inFlight ++ l.buffer, buffer := [] }

/-- Puts bytes behind all those before them; what does not fit into the buffer is handed over. -/
def write (l : ProfileLog) (bytes : Octets) : ProfileLog :=
  let l := if capacity < l.buffer.length + bytes.length then l.handOver else l
  if capacity ≤ bytes.length then { l with inFlight := l.inFlight ++ bytes } else { l with buffer := l.buffer ++ bytes }

/-- Carries out a command that was taken; `flushes` are those taken before it. -/
def carryOut (l : ProfileLog) (flushes : List Nat) : ProfileCommand → ProfileLog
  | .record line => { l.write line with phase := .looking flushes }
  | .flush id => { l with phase := .looking (flushes ++ [id]) }

/-- Goes on to a phase as soon as all that was written is in the file. -/
def flushed (l : ProfileLog) (next : WriterPhase) : Option ProfileLog :=
  if l.buffer ≠ [] then some l.handOver
  else if l.inFlight ≠ [] then none
  else some { l with phase := next }

/-- The writer's next step; none if it has to wait or has ended. -/
def step (l : ProfileLog) : Option ProfileLog :=
  match l.phase, l.queue with
  | .idle, c :: rest => some { l with queue := rest, phase := .holding c [] }
  | .idle, [] => if l.hasSenders then none else some { l with phase := .closing }
  | .holding c flushes, _ => some (l.carryOut flushes c)
  | .looking flushes, c :: rest => some { l with queue := rest, phase := .holding c flushes }
  | .looking flushes, [] => some { l with phase := .emptying flushes }
  | .emptying flushes, _ => l.flushed (.answering flushes)
  | .answering (id :: flushes), _ =>
    some { l with phase := .answering flushes, acknowledged := l.acknowledged ++ [id] }
  | .answering [], _ => some { l with phase := .idle }
  | .closing, _ => l.flushed .ended
  | .ended, _ => none

inductive Steps (l : ProfileLog) : ProfileLog → Prop where
  | receive {c : ProfileCommand} {rest : List ProfileCommand} (hp : l.phase = .idle) (hq : l.queue = c :: rest) :
      Steps l { l with queue := rest, phase := .holding c [] }
  | store {line : Octets} {flushes : List Nat} (hp : l.phase = .holding (.record line) flushes) :
      Steps l { l.write line with phase := .looking flushes }
  | note {id : Nat} {flushes : List Nat} (hp : l.phase = .holding (.flush id) flushes) :
      Steps l { l with phase := .looking (flushes ++ [id]) }
  | receiveNext {c : ProfileCommand} {rest : List ProfileCommand} {flushes : List Nat} (hp : l.phase = .looking flushes)
      (hq : l.queue = c :: rest) : Steps l { l with queue := rest, phase := .holding c flushes }
  | pause {flushes : List Nat} (hp : l.phase = .looking flushes) (hq : l.queue = []) :
      Steps l { l with phase := .emptying flushes }
  | handOver (hbuffer : l.buffer ≠ []) (hp : l.phase = .closing ∨ ∃ flushes, l.phase = .emptying flushes) :
      Steps l l.handOver
  | emptied {flushes : List Nat} (hp : l.phase = .emptying flushes) (hbuffer : l.buffer = []) (hflight : l.inFlight = []) :
      Steps l { l with phase := .answering flushes }
  | acknowledge {id : Nat} {flushes : List Nat} (hp : l.phase = .answering (id :: flushes)) :
      Steps l { l with phase := .answering flushes, acknowledged := l.acknowledged ++ [id] }
  | resume (hp : l.phase = .answering []) : Steps l { l with phase := .idle }
  | close (hp : l.phase = .idle) (hq : l.queue = []) (hsenders : l.hasSenders = false) :
      Steps l { l with phase := .closing }
  | finish (hp : l.phase = .closing) (hbuffer : l.buffer = []) (hflight : l.inFlight = []) :
      Steps l { l with phase := .ended }

theorem flushed_eq_some {l m : ProfileLog} {next : WriterPhase} (h : l.flushed next = some m) :
    (l.buffer ≠ [] ∧ m = l.handOver) ∨ (l.buffer = [] ∧ l.inFlight = [] ∧ m = { l with phase := next }) := by
  unfold flushed at h
  split at h
  · next hbuffer => exact .inl ⟨hbuffer, (Option.some.inj h).symm⟩
  · next hbuffer =>
    split at h
    · cases h
    · next hflight => exact .inr ⟨Decidable.not_not.1 hbuffer, Decidable.not_not.1 hflight, (Option.some.inj h).symm⟩

theorem steps_of_step {l m : ProfileLog} (h : l.step = some m) : l.Steps m := by
  unfold step at h
  split at h
  case h_1 hp hq => cases h; exact .receive hp hq
  case h_2 hp hq =>
    split at h
    · cases h
    · next hsenders => cases h; exact .close hp hq (Bool.eq_false_iff.2 hsenders)
  case h_3 c flushes hp =>
    cases h
    cases c with
    | record line => exact .store hp
    | flush id => exact .note hp
  case h_4 hp hq => cases h; exact .receiveNext hp hq
  case h_5 hp hq => cases h; exact .pause hp hq
  case h_6 hp =>
    rcases flushed_eq_some h with ⟨hbuffer, rfl⟩ | ⟨hbuffer, hflight, rfl⟩
    · exact .handOver hbuffer (.inr ⟨_, hp⟩)
    · exact .emptied hp hbuffer hflight
  case h_7 hp => cases h; exact .acknowledge hp
  case h_8 hp => cases h; exact .resume hp
  case h_9 hp =>
    rcases flushed_eq_some h with ⟨hbuffer, rfl⟩ | ⟨hbuffer, hflight, rfl⟩
    · exact .handOver hbuffer (.inl hp)
    · exact .finish hp hbuffer hflight
  case h_10 => cases h

/-! ## How much is left to do -/

/-- What every step makes less, and every byte that reaches the file. -/
def weight (l : ProfileLog) : Nat :=
  ProfileCommand.loads l.queue + (2 * l.buffer.length + l.inFlight.length) + l.phase.weight

theorem weight_write (l : ProfileLog) (line : Octets) :
    2 * (l.write line).buffer.length + (l.write line).inFlight.length ≤
      2 * l.buffer.length + l.inFlight.length + 2 * line.length := by
  unfold write handOver
  split <;> split <;> simp only [List.length_append, List.length_nil] <;> omega

@[simp] theorem queue_write (l : ProfileLog) (line : Octets) : (l.write line).queue = l.queue := by
  unfold write handOver
  split <;> split <;> rfl

theorem weight_step {l m : ProfileLog} (h : l.step = some m) : m.weight < l.weight := by
  cases steps_of_step h with
  | @store line flushes hp =>
    have := weight_write l line
    simp only [weight, hp, WriterPhase.weight, ProfileCommand.load, queue_write]
    omega
  | handOver hbuffer =>
    have := List.length_pos_iff.2 hbuffer
    simp only [weight, handOver, List.length_append, List.length_nil]
    omega
  | receive hp hq | receiveNext hp hq =>
    simp only [weight, hp, hq, WriterPhase.weight, ProfileCommand.loads, List.length_nil]
    omega
  | note hp | pause hp | emptied hp | acknowledge hp | resume hp | close hp | finish hp =>
    simp only [weight, hp, WriterPhase.weight, ProfileCommand.load, List.length_append, List.length_cons, List.length_nil]
    omega

theorem weight_land {l : ProfileLog} (h : l.inFlight ≠ []) {n : Nat} (hn : 0 < n) : (l.land n).weight < l.weight := by
  have := List.length_pos_iff.2 h
  simp only [weight, land, List.length_drop]
  omega

/-- Steps until the writer waits for commands or has ended; what it hands over reaches the file as soon as it waits for that. -/
def settle (l : ProfileLog) : ProfileLog :=
  match _ : l.step with
  | some m => m.settle
  | none => if _ : l.inFlight ≠ [] then (l.land l.inFlight.length).settle else l
termination_by l.weight
decreasing_by
  · exact weight_step ‹_›
  · exact weight_land ‹_› (List.length_pos_iff.2 ‹_›)

def lines (l : ProfileLog) : List String :=
  (((Text.ofUtf8? l.file).getD "").splitOn "\n").dropLast

end ProfileLog

end ServiceHost.Http
