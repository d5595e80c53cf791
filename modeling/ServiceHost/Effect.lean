/-
  ServiceHost.Effect — what running a part of the host does besides giving a value, in
  order: events logged, metrics recorded, handlers run, records profiled, audit events,
  publications, fatal errors reported, addresses released and services closed.

  `Run α` is a value with the effects that led to it; running one after the other
  appends.
-/

import ServiceHost.Audit
import ServiceHost.Files
import ServiceHost.Log.Event
import ServiceHost.Metrics
import ServiceHost.Net.Ip

namespace ServiceHost

/-- Conditions that leave the process serving nothing. -/
inductive FatalError where
  | addressInUse (addr : Net.SocketAddr)
  deriving DecidableEq, Repr

def FatalError.message : FatalError → String
  | addressInUse addr => "Address " ++ addr.text ++ " is already in use: " ++ IoError.addressInUse.message

structure ProfileRecord where
  /-- When the request was answered, as a date. -/
  date : String
  method : String
  path : String
  status : Nat
  durationMicros : Nat
  correlationId : String
  deriving DecidableEq, Repr

inductive Effect where
  | logged (sink : Log.Sink) (event : Log.Event)
  | measured (metric : Metrics.Metric)
  /-- A handler of the service ran. -/
  | handled (service : String)
  | profiled (record : ProfileRecord)
  | audited (event : AuditEvent)
  | published (publication : Metrics.Publication)
  /-- The fatal handler was called. -/
  | failed (error : FatalError)
  /-- Nothing listens on the address any more. -/
  | released (addr : Net.SocketAddr)
  /-- The service instance was asked to close. -/
  | closed (service : String) (serial : Nat)
  deriving DecidableEq, Repr

/-! ## Views of a list of effects -/

namespace Effect

def eventsTo (sink : Log.Sink) (es : List Effect) : List Log.Event :=
  es.filterMap fun
    | logged s e => if s = sink then some e else none
    | _ => none

def events (es : List Effect) : List Log.Event :=
  es.filterMap fun
    | logged _ e => some e
    | _ => none

def metrics (es : List Effect) : List Metrics.Metric :=
  es.filterMap fun
    | measured m => some m
    | _ => none

def handlers (es : List Effect) : List String :=
  es.filterMap fun
    | handled service => some service
    | _ => none

def profile (es : List Effect) : List ProfileRecord :=
  es.filterMap fun
    | profiled r => some r
    | _ => none

def audits (es : List Effect) : List AuditEvent :=
  es.filterMap fun
    | audited e => some e
    | _ => none

def publications (es : List Effect) : List Metrics.Publication :=
  es.filterMap fun
    | published p => some p
    | _ => none

def fatals (es : List Effect) : List FatalError :=
  es.filterMap fun
    | failed e => some e
    | _ => none

def releases (es : List Effect) : List Net.SocketAddr :=
  es.filterMap fun
    | released addr => some addr
    | _ => none

/-- The services closed, with their serial numbers. -/
def closings (es : List Effect) : List (String × Nat) :=
  es.filterMap fun
    | closed service serial => some (service, serial)
    | _ => none

def requestLines (es : List Effect) : List Log.Event := (events es).filter (·.area = .requests)

def area? : Effect → Option Log.Area
  | logged _ e => some e.area
  | _ => none

/-- Whether an effect is an audit event, kept by an auditor or logged: of the host's own events only those have no fields. -/
def isAnnouncement : Effect → Bool
  | audited _ => true
  | logged _ e => e.area = .host && e.fields.isEmpty
  | _ => false

/-- The audit events in the form in which they came out. -/
def announcements (es : List Effect) : List Effect := es.filter isAnnouncement

end Effect

/-! ## Values with effects -/

structure Run (α : Type) where
  value : α
  effects : List Effect := []
  deriving Repr

namespace Run

variable {α β : Type}

protected def pure (a : α) : Run α := ⟨a, []⟩

protected def bind (x : Run α) (f : α → Run β) : Run β := ⟨(f x.value).value, x.effects ++ (f x.value).effects⟩

instance : Monad Run where
  pure := Run.pure
  bind := Run.bind

def tell (e : Effect) : Run Unit := ⟨(), [e]⟩

def tellAll (es : List Effect) : Run Unit := ⟨(), es⟩

def log (sink : Log.Sink) (level : Log.Level) (area : Log.Area) (message : String)
    (fields : List (String × Log.Value)) : Run Unit :=
  tell (.logged sink ⟨level, area, message, fields⟩)

@[simp] theorem value_pure (a : α) : (pure a : Run α).value = a := rfl
@[simp] theorem effects_pure (a : α) : (pure a : Run α).effects = [] := rfl
@[simp] theorem value_bind (x : Run α) (f : α → Run β) : (x >>= f).value = (f x.value).value := rfl
@[simp] theorem effects_bind (x : Run α) (f : α → Run β) :
    (x >>= f).effects = x.effects ++ (f x.value).effects := rfl
@[simp] theorem value_map (f : α → β) (x : Run α) : (f <$> x).value = f x.value := rfl
@[simp] theorem effects_map (f : α → β) (x : Run α) : (f <$> x).effects = x.effects := List.append_nil _
@[simp] theorem effects_tell (e : Effect) : (tell e).effects = [e] := rfl
@[simp] theorem effects_tellAll (es : List Effect) : (tellAll es).effects = es := rfl
@[simp] theorem effects_log (sink : Log.Sink) (level : Log.Level) (area : Log.Area) (message : String)
    (fields : List (String × Log.Value)) :
    (log sink level area message fields).effects = [.logged sink ⟨level, area, message, fields⟩] := rfl

theorem bind_congr {x : Run α} {f g : α → Run β} (h : f x.value = g x.value) : (x >>= f) = x >>= g := by
  change Run.bind x f = Run.bind x g
  rw [Run.bind, Run.bind, h]

instance : LawfulMonad Run :=
  LawfulMonad.mk' Run (fun x => by cases x; simp [Functor.map, Run.bind, Run.pure])
    (fun a f => by simp [bind, pure, Run.bind, Run.pure]) (fun x f g => by simp [bind, Run.bind])

end Run

end ServiceHost
