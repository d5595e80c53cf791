/-
  ServiceHost.Document.Toml.Tables — how the headers and keys of a text build its tables.

  A table is `implicit` while only deeper headers or dotted keys have named it, and
  `dotted` if a dotted key did. A header may open an implicit table that is not dotted,
  once; a dotted key may extend dotted tables only; no key is given twice.
-/

import ServiceHost.Document

namespace ServiceHost.Document.Toml

inductive Node where
  | value (d : Document)
  | table (implicit dotted : Bool) (entries : List (String × Node))
  /-- Tables opened by a doubled header, in order. -/
  | tables (elements : List (List (String × Node)))
  deriving Inhabited

abbrev Entries := List (String × Node)

namespace Node

mutual

def toDocument : Node → Document
  | value d => d
  | table _ _ es => .table (entriesToDocument es)
  | tables ts => .list (elementsToDocument ts)

def entriesToDocument : List (String × Node) → List (String × Document)
  | [] => []
  | (k, n) :: es => (k, toDocument n) :: entriesToDocument es

def elementsToDocument : List (List (String × Node)) → List Document
  | [] => []
  | t :: ts => .table (entriesToDocument t) :: elementsToDocument ts

end

end Node

namespace Entries

def get? (es : Entries) (key : String) : Option Node := (es.find? (·.1 = key)).map (·.2)

def erase (es : Entries) (key : String) : Entries := es.filter (·.1 ≠ key)

/-- Replaces the value of a key, or adds the key at the end. -/
def put (es : Entries) (key : String) (n : Node) : Entries :=
  if es.any (·.1 = key) then es.map fun e => if e.1 = key then (key, n) else e else es ++ [(key, n)]

def addNew (es : Entries) (key : String) (n : Node) : Option Entries :=
  if es.any (·.1 = key) then none else some (es ++ [(key, n)])

/--
  Changes the table at the end of a path with `f`, which also gets its `dotted` mark.
  Tables missing on the way are made implicit, and dotted if the path is part of a
  dotted key; such a path may not go through a table that is not implicit.
-/
def descend (viaKey : Bool) (f : Bool → Entries → Option Entries) (here : Bool) (es : Entries) :
    List String → Option Entries
  | [] => f here es
  | key :: path =>
    match get? es key with
    | none => do
      let inner ← descend viaKey f viaKey [] path
      return put es key (.table true viaKey inner)
    | some (.value _) => none
    | some (.table implicit dotted inner) =>
      if viaKey && !implicit then none
      else do
        let inner ← descend viaKey f dotted inner path
        return put es key (.table implicit dotted inner)
    | some (.tables ts) => do
      let last ← ts.getLast?
      let inner ← descend viaKey f false last path
      return put es key (.tables (ts.dropLast ++ [inner]))

def assign (es : Entries) (path : List String) (d : Document) : Option Entries := do
  let last ← path.getLast?
  let parents := path.dropLast
  descend true (fun dotted es => if dotted = parents.isEmpty then none else addNew es last (.value d))
    false es parents

end Entries

/-- The tables built so far, and the one whose lines are being read. -/
structure Build where
  root : Entries := []
  current : Entries := []
  path : List String := []
  /-- Whether a doubled header opened the current table. -/
  inList : Bool := false

namespace Build

def assign (b : Build) (path : List String) (d : Document) : Option Build :=
  (b.current.assign path d).map fun es => { b with current := es }

def close (b : Build) : Option Entries :=
  match b.path.getLast? with
  | none => some b.current
  | some last =>
    Entries.descend false (fun _ es =>
      if b.inList then
        match es.get? last with
        | none => some (es.put last (.tables [b.current]))
        | some (.tables ts) => some (es.put last (.tables (ts ++ [b.current])))
        | some _ => none
      else es.addNew last (.table false false b.current)) false b.root b.path.dropLast

def openTable (b : Build) (path : List String) : Option Build := do
  let root ← b.close
  let last ← path.getLast?
  let lookup (es : Entries) : Option Entries :=
    match es.get? last with
    | none => some []
    | some (.table true false inner) => some inner
    | some _ => none
  let root ← Entries.descend false (fun _ es => (lookup es).map fun _ => es) false root path.dropLast
  let parent ← entriesAt root path.dropLast
  let current ← lookup parent
  let root ← Entries.descend false (fun _ es => some (es.erase last)) false root path.dropLast
  return { root, current, path, inList := false }
where
  /-- The entries at the end of a path that exists. -/
  entriesAt (es : Entries) : List String → Option Entries
    | [] => some es
    | key :: path =>
      match es.get? key with
      | some (.table _ _ inner) => entriesAt inner path
      | some (.tables ts) => ts.getLast?.bind (entriesAt · path)
      | _ => none

def openElement (b : Build) (path : List String) : Option Build := do
  let root ← b.close
  let last ← path.getLast?
  let root ← Entries.descend false (fun _ es =>
    match es.get? last with
    | none => some (es.put last (.tables []))
    | some (.tables _) => some es
    | some _ => none) false root path.dropLast
  return { root, current := [], path, inList := true }

end Build

end ServiceHost.Document.Toml
