/-
  ServiceHost.Audit — attributable records of significant actions.
-/

import ServiceHost.Document

namespace ServiceHost

structure AuditEvent where
  source : String
  eventType : String
  /-- Who triggered the event, as role and name. -/
  identity : String
  contextId : String
  /-- A position in the source's own order, zero if it has none. -/
  sequenceIndex : Nat
  message : String
  deriving DecidableEq, Repr

namespace AuditEvent

def statusSource : String := "status"

def serviceStarted : String := "service started"

def serviceStopped : String := "service stopped"

def text (e : AuditEvent) : String :=
  ":".intercalate
    ["audit", e.source, e.eventType, e.identity, e.contextId, toString e.sequenceIndex, e.message]

def toDocument (e : AuditEvent) : Document :=
  .table
    [("source", .text e.source), ("event_type", .text e.eventType), ("identity", .text e.identity),
     ("context_id", .text e.contextId), ("sequence_index", .ofNat e.sequenceIndex), ("message", .text e.message)]

end AuditEvent

end ServiceHost
