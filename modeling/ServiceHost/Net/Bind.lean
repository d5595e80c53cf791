/-
  ServiceHost.Net.Bind — bind addresses: the socket address one resolves to, and the host
  name and port it advertises.

  The text before the last colon is the host; an empty one stands for every address. A
  wildcard host advertises the name of the machine.
-/

import ServiceHost.Files
import ServiceHost.Net.Ip
import ServiceHost.Power
import ServiceHost.Text.Blank
import ServiceHost.Text.Cut

namespace ServiceHost.Net.Bind

open ServiceHost.Text

/-- Where the machine's name is looked up, in this order. -/
structure Machine where
  inEnvironment? : Option String := none
  inFile? : Option String := none

def Machine.name (m : Machine) : String :=
  let isName (s : String) := s ≠ ""
  (((m.inEnvironment?.filter isName).orElse fun _ => (m.inFile?.map trim).filter isName)).getD "localhost"

/-- The host and the port of a bind address, brackets around the host left out. -/
def split (addr : String) : List Char × List Char :=
  match cutLast ':' addr.toList with
  | some (host, port) => (dropEndWhile (· = ']') (host.dropWhile (· = '[')), port)
  | none => (addr.toList, [])

def port (addr : String) : String := String.ofList (split addr).2

def isWildcard (host : String) : Bool := host = "" || host = "0.0.0.0" || host = "::"

def hostName (m : Machine) (addr : String) : String :=
  let host := String.ofList (split addr).1
  if isWildcard host then m.name else host

/-- A bare port bound on every address. -/
def normalized (addr : String) : String := if addr.toList.head? = some ':' then "0.0.0.0" ++ addr else addr

/-- A part of a legacy dotted address: decimal, octal after a zero, or hexadecimal after `0x`. -/
def legacyPart? (cs : List Char) : Option Nat :=
  let radix (base : Nat) (ds : List Char) : Option Nat :=
    if ds.isEmpty then none
    else ds.foldlM (fun n c => (hexValue? c).bind fun d => if d < base then some (base * n + d) else none) 0
  match cs with
  | '0' :: 'x' :: ds => radix 16 ds
  | '0' :: 'X' :: ds => radix 16 ds
  | '0' :: ds => if ds.isEmpty then some 0 else radix 8 ds
  | ds => radix 10 ds

/-- An IPv4 address of one to four parts, the last one filling the octets left. -/
def legacy? (host : List Char) : Option Ip := do
  let parts ← (cutAll '.' host).mapM legacyPart?
  let last ← parts.getLast?
  let front := parts.dropLast
  let room := 4 - front.length
  if 4 < parts.length ∨ front.any (255 < ·) ∨ pow2 (8 * room) ≤ last then none
  return .v4 (front ++ (List.range room).map fun i => last / pow2 (8 * (room - 1 - i)) % 256)

/-- The address a bind address names. Hosts that are not numeric are not looked up. -/
def resolve (addr : String) : Except IoError SocketAddr :=
  let addr := normalized addr
  match SocketAddr.ofText? addr with
  | some a => .ok a
  | none =>
    match cutLast ':' addr.toList with
    | none => .error .socketAddress
    | some (host, port) =>
      match readUnsigned 65535 port with
      | none => .error .portValue
      | some port =>
        match (legacy? host).orElse fun _ => Ip.ofGroups? host with
        | some ip => .ok { ip, port }
        | none => .error .hostUnknown

end ServiceHost.Net.Bind
