/-
  ServiceHost.Context — the context of one unit of work: a correlation id and the identity
  of whoever caused it.

  A request keeps the id it comes with if that can be read: its text without blanks at
  the ends, cut to 64 characters. Otherwise it gets a fresh one.
-/

import ServiceHost.Http.Message
import ServiceHost.Identity
import ServiceHost.Text.Blank

namespace ServiceHost

structure Context where
  correlationId : String
  identity : Identity
  deriving DecidableEq, Repr

namespace Context

def header : String := "x-correlation-id"

def maxIdLength : Nat := 64

def acceptedId? (value : String) : Option String :=
  let cs := Text.trimChars value.toList
  if cs.isEmpty then none else some (String.ofList (cs.take maxIdLength))

def incomingId? (r : Http.Request) : Option String := (r.headerText? header).bind acceptedId?

/-- The name of a guest: the address it calls from. -/
def guestName (r : Http.Request) : String := ((r.peer?.map fun p => p.ip.text)).getD "unknown"

def roleOf (c : Option Context) : String := (c.map fun c => c.identity.role).getD Identity.guestRole

/-- The context a handler is given: that of the request, or an unknown guest with a fresh id. -/
def orUnknown (fresh : String) (c : Option Context) : Context := c.getD ⟨fresh, .guest "unknown"⟩

def text (c : Context) : String := c.identity.text ++ "|" ++ c.correlationId

end Context

end ServiceHost
