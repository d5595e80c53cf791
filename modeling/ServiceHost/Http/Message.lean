/-
  ServiceHost.Http.Message — requests and responses, and what makes a request malformed.

  Header names are kept in lower case. A header value is readable as text if it holds
  only printable ASCII characters, spaces and tabs.
-/

import ServiceHost.Http.Uri
import ServiceHost.Net.Ip

namespace ServiceHost.Http

open ServiceHost.Text

structure Request where
  method : String := "GET"
  uri : Uri
  headers : List (String × Octets) := []
  body : String := ""
  /-- The other end of the connection, if known. -/
  peer? : Option Net.SocketAddr := none
  /-- The client's certificate chain, leaf first; absent on a plain connection. -/
  chain? : Option (List Octets) := none
  deriving Repr

structure Response where
  status : Nat
  headers : List (String × String) := []
  body : String := ""
  deriving DecidableEq, Repr

/-- What makes a request malformed; of several faults the first in this order is reported. -/
inductive RequestError where
  | method
  | uri
  | header
  | peer
  deriving DecidableEq, Repr

def isTokenChar (c : Char) : Bool := c.isAlphanum || "!#$%&'*+-.^_|~\x60".toList.contains c

def isToken (s : String) : Bool := s ≠ "" && s.toList.all isTokenChar

def isValueByte (b : UInt8) : Bool := b = 9 || (32 ≤ b && b ≠ 127)

/-- Bytes of a header value that is readable as text. -/
def isTextByte (b : UInt8) : Bool := b = 9 || (32 ≤ b && b < 127)

def readable? (value : Octets) : Option String :=
  if value.all isTextByte then some (String.ofList (value.map fun b => Char.ofNat b.toNat)) else none

namespace Request

def leaf? (r : Request) : Option Octets := r.chain?.bind List.head?

def header? (r : Request) (name : String) : Option Octets := (r.headers.find? (·.1 = name)).map (·.2)

def headerText? (r : Request) (name : String) : Option String := (r.header? name).bind readable?

def lowered (s : String) : String := String.ofList (s.toList.map Char.toLower)

def make (method uri : String) (headers : List (String × String)) (peer? : Option String)
    (body : String) (chain? : Option (List Octets)) : Except RequestError Request := do
  if !isToken method then throw .method
  let some uri := Uri.parse? uri | throw .uri
  let headers ← headers.mapM fun h =>
    if isToken h.1 && (utf8 h.2).all isValueByte then .ok (lowered h.1, utf8 h.2) else .error .header
  let peer? ← match peer? with
    | none => .ok none
    | some p =>
      match Net.SocketAddr.ofText? p with
      | some a => .ok (some a)
      | none => .error .peer
  return { method, uri, headers, body, peer?, chain? }

end Request

namespace Response

def header? (r : Response) (name : String) : Option String := (r.headers.find? (·.1 = name)).map (·.2)

def setHeader (r : Response) (name value : String) : Response :=
  { r with headers := r.headers.filter (·.1 ≠ name) ++ [(name, value)] }

def contentType : String := "content-type"

def plain (status : Nat) (body : String) : Response :=
  { status, headers := [(contentType, "text/plain; charset=utf-8")], body }

def binary (body : String) : Response :=
  { status := 200, headers := [(contentType, "application/octet-stream")], body }

def json (status : Nat) (body : String) : Response :=
  { status, headers := [(contentType, "application/json")], body }

def empty (status : Nat) : Response := { status }

def isServerError (r : Response) : Bool := 500 ≤ r.status && r.status < 600

def isSuccess (r : Response) : Bool := 200 ≤ r.status && r.status < 300

/-- What is left of a response in answer to a method that takes no body. -/
def stripped (r : Response) (method : String) : Response :=
  if method = "HEAD" ∨ (method = "CONNECT" ∧ r.isSuccess) then { r with body := "" } else r

end Response

end ServiceHost.Http
