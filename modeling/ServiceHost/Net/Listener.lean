/-
  ServiceHost.Net.Listener — the listener of a host: whether it comes up on its address,
  and who hears about it if it does not.

  Of the reasons for not coming up only an address in use is escalated, to the fatal
  handler if there is one; any other reason is logged. A listener that came up takes
  connections until its line is over: told to end it comes to its end, breaks down, or has
  to be cut off.
-/

import ServiceHost.Tls.Serving

namespace ServiceHost.Net

/-- What binding an address comes to: the address really bound, or why none is. -/
abbrev Binder := SocketAddr → Except IoError SocketAddr

/-- How connections are served: as they come, or on some terms of encryption. -/
inductive Mode where
  | plain
  | tls (terms : Tls.Serving)
  deriving DecidableEq, Repr

def Mode.text : Mode → String
  | plain => "HTTP"
  | tls _ => "TLS"

def Mode.terms? : Mode → Option Tls.Serving
  | plain => none
  | tls terms => some terms

/-- What becomes of the line of a listener that is told to end. -/
inductive Parting where
  /-- It comes to its end, with its connections, after so many milliseconds. -/
  | ends (millis : Nat)
  /-- It breaks down before that. -/
  | fails (millis : Nat) (error : String)
  /-- It goes on. -/
  | stays
  deriving DecidableEq, Repr

/-- How the line of a listener came to its end. -/
inductive Ending where
  | regular
  | failed (error : String)
  | cutOff
  deriving DecidableEq, Repr

/-- When and how a line is over that nobody cuts off. -/
def Parting.ending? : Parting → Option (Nat × Ending)
  | ends millis => some (millis, .regular)
  | fails millis error => some (millis, .failed error)
  | stays => none

/-- When and how a line is over that is cut off after so many milliseconds. -/
def Parting.within (limit : Nat) (p : Parting) : Nat × Ending :=
  (p.ending?.filter (·.1 ≤ limit)).getD (limit, .cutOff)

structure Listener where
  addr : SocketAddr
  mode : Mode
  /-- The address really bound; absent if the listener never came up. -/
  bound? : Option SocketAddr
  /-- How its line came to its end; absent as long as it takes connections. -/
  ending? : Option Ending
  deriving DecidableEq, Repr

namespace Listener

def fields (addr : SocketAddr) (mode : Mode) (error : Option IoError) : List (String × Log.Value) :=
  [("address", .bare addr.text), ("mode", .text mode.text)] ++ (error.map fun e => ("error", Log.Value.bare e.message)).toList

/-- What an address in use leads to. -/
def escalate (addr : SocketAddr) (fatalHandler : Bool) : Run Unit :=
  if fatalHandler then Run.tell (.failed (.addressInUse addr))
  else Run.log .injected .error .startup "No fatal handler installed" [("error", .bare (FatalError.addressInUse addr).message)]

def launch (bind : Binder) (addr : SocketAddr) (mode : Mode) (fatalHandler : Bool) : Run Listener := do
  Run.log .injected .info .startup "Listener starting" (fields addr mode none)
  match bind addr with
  | .ok bound => return { addr, mode, bound? := some bound, ending? := none }
  | .error .addressInUse => do
    Run.log .injected .error .startup "Address already in use" (fields addr mode (some .addressInUse))
    escalate addr fatalHandler
    return { addr, mode, bound? := none, ending? := some .regular }
  | .error e => do
    Run.log .injected .error .startup "Listener ended" (fields addr mode (some e))
    return { addr, mode, bound? := none, ending? := some .regular }

def finish (l : Listener) (ending : Ending) : Run Listener := do
  Run.tellAll (l.bound?.toList.map .released)
  if ending = .regular then Run.log .injected .info .startup "Listener stopped" (fields l.addr l.mode none)
  return { l with ending? := some ending }

/-- Waits for the end of a line that is told to end, and then cuts it off. Gives the time that took. -/
def await (l : Listener) (parting : Parting) (limit : Nat) : Run (Listener × Nat) :=
  if l.ending?.isSome then pure (l, 0)
  else do
    let l ← l.finish (parting.within limit).2
    return (l, (parting.within limit).1)

def abandon (l : Listener) (parting : Parting) : Run Listener :=
  match l.ending?, parting.ending? with
  | none, some (_, ending) => l.finish ending
  | _, _ => pure l

end Listener

/--
  The addresses of a machine: which are taken, which are another machine's. Unless told
  otherwise it has every IPv4 address, and of IPv6 only the wildcard.
-/
structure Network where
  taken : List SocketAddr := []
  foreign : SocketAddr → Bool := fun addr => !(addr.ip.isV4 || addr.ip.isUnspecified)
  /-- A port nobody uses. -/
  freePort : Nat

namespace Network

def overlap (a b : SocketAddr) : Bool := a.port = b.port && (a.ip = b.ip || a.ip.isUnspecified || b.ip.isUnspecified)

/-- Binding on this machine; port zero gives a free port. -/
def bind (n : Network) : Binder := fun addr =>
  if n.foreign addr then .error .addressNotAvailable
  else if addr.port = 0 then .ok { addr with port := n.freePort }
  else if n.taken.any (overlap addr) then .error .addressInUse
  else .ok addr

def take (n : Network) (addr : SocketAddr) : Network := { n with taken := addr :: n.taken }

end Network

end ServiceHost.Net
