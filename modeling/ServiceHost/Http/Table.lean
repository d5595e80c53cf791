/-
  ServiceHost.Http.Table — the routes of the services by path, and which of them takes a
  request.

  A path is compared as it is. A GET route also takes HEAD unless another route does; a
  route for any method takes those that no other route of its path takes. Two routes of
  one path and method, or a path that does not start with a slash, make no table.
-/

import ServiceHost.Http.ApiError
import ServiceHost.Service

namespace ServiceHost.Http

/-- A handler with the service it belongs to. -/
structure Target where
  service : String
  handler : Handler

structure PathEntry where
  path : String
  methods : List (String × Target) := []
  any? : Option Target := none

namespace PathEntry

/-- The entry with one more route; nothing if its method is taken. -/
def add (e : PathEntry) (methods : Methods) (t : Target) : Option PathEntry :=
  match methods with
  | .any => if e.any?.isSome then none else some { e with any? := some t }
  | .only m => if e.methods.any (·.1 = m) then none else some { e with methods := e.methods ++ [(m, t)] }

def target? (e : PathEntry) (method : String) : Option Target :=
  (e.methods.find? (·.1 = method)).map (·.2)

def choose? (e : PathEntry) (method : String) : Option Target :=
  (e.target? method).orElse fun _ =>
    (if method = "HEAD" then e.target? "GET" else none).orElse fun _ => e.any?

/-- The methods an answer that none of them took names; nothing if any method is taken. -/
def allowed? (e : PathEntry) : Option (List String) :=
  if e.any?.isSome then none
  else some (e.methods.flatMap fun m => if m.1 = "GET" then ["GET", "HEAD"] else [m.1])

end PathEntry

structure Table where
  entries : List PathEntry := []

namespace Table

def find? (t : Table) (path : String) : Option PathEntry := t.entries.find? (·.path = path)

def add (t : Table) (service : String) (r : Route) : Option Table :=
  if r.path.toList.head? ≠ some '/' then none
  else
    match t.find? r.path with
    | none => (PathEntry.add ⟨r.path, [], none⟩ r.methods ⟨service, r.handler⟩).map fun e => ⟨t.entries ++ [e]⟩
    | some e =>
      (e.add r.methods ⟨service, r.handler⟩).map fun e =>
        ⟨t.entries.map fun old => if old.path = r.path then e else old⟩

def ofServices (ss : List Service) : Option Table :=
  (ss.flatMap fun s => s.routes.map fun r => (s.name, r)).foldlM (fun t r => t.add r.1 r.2) {}

def notAllowed : Endpoint := fun _ => pure (.empty 405)

/-- The endpoint for a request, and the methods to name in its answer. -/
def endpoint (t : Table) (fallback : Endpoint) (r : Request) : Endpoint × Option (List String) :=
  match t.find? r.uri.path with
  | none => (fallback, none)
  | some e =>
    match e.choose? r.method with
    | some target => (target.handler.endpoint target.service, none)
    | none => (notAllowed, e.allowed?)

/-- Names the allowed methods in a response that does not name any. -/
def withAllowed (allowed : Option (List String)) (r : Response) : Response :=
  match allowed, r.header? "allow" with
  | some ms, none => r.setHeader "allow" (",".intercalate ms)
  | _, _ => r

/-- The answer to a call through the layers between the table and the caller. -/
def serve (t : Table) (layers : Layer) (fallback : Endpoint) : Endpoint := fun call => do
  let (endpoint, allowed) := t.endpoint fallback call.request
  let response ← layers endpoint call
  return (withAllowed allowed response).stripped call.request.method

end Table

end ServiceHost.Http
