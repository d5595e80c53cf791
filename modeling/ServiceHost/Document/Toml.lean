/-
  ServiceHost.Document.Toml — TOML 1.0: reading a text as a document.

  Lists and inline tables nest at most 79 deep, and no key has 80 parts. An inline table
  stands on one line and has no comma after its last entry; a list may.
-/

import ServiceHost.Document.Toml.Scalar
import ServiceHost.Document.Toml.Tables

namespace ServiceHost.Document.Toml

/-- The greatest number of values inside one another, and of parts of one key. -/
def depthLimit : Nat := 79

/--
  The list items up to the closing bracket, separated by commas and trivia. `inner` reads one item.
-/
def items (inner : Reader Document) : Nat → Reader (List Document)
  | 0, _ => none
  | fuel + 1, cs =>
    match skipTrivia (cs.length + 1) cs with
    | ']' :: rest => some ([], rest)
    | cs => do
      let (d, rest) ← inner cs
      match skipTrivia (rest.length + 1) rest with
      | ',' :: rest => (items inner fuel rest).map fun p => (d :: p.1, p.2)
      | ']' :: rest => some ([d], rest)
      | _ => none

/-- The entries of an inline table up to the closing brace. -/
def members (inner : Reader Document) : Nat → Entries → Reader Entries
  | 0, _, _ => none
  | fuel + 1, es, cs => do
    let (path, rest) ← key depthLimit cs
    let (d, rest) ← inner (skipSpaces (← expect '=' rest))
    let es ← es.assign path d
    match skipSpaces rest with
    | ',' :: rest => members inner fuel es rest
    | '}' :: rest => some (es, rest)
    | _ => none

def value : Nat → Reader Document
  | depth, cs =>
    match cs with
    | [] => none
    | '"' :: _ => (string cs).map fun p => (text p.1, p.2)
    | '\'' :: _ => (string cs).map fun p => (text p.1, p.2)
    | '[' :: cs =>
      match depth with
      | 0 => none
      | depth + 1 => (items (value depth) (cs.length + 1) cs).map fun p => (list p.1, p.2)
    | '{' :: cs =>
      match depth with
      | 0 => none
      | depth + 1 =>
        match skipSpaces cs with
        | '}' :: rest => some (table [], rest)
        | cs => (members (value depth) (cs.length + 1) [] cs).map fun p =>
            (table (Node.entriesToDocument p.1), p.2)
    | 't' :: 'r' :: 'u' :: 'e' :: rest => some (bool true, rest)
    | 'f' :: 'a' :: 'l' :: 's' :: 'e' :: rest => some (bool false, rest)
    | cs => (moment? cs).orElse fun _ => number cs

/-- One line: nothing, a header, or a key with its value. -/
def line (b : Build) (cs : List Char) : Option (Build × List Char) :=
  match cs with
  | '[' :: '[' :: cs => do
    let (path, rest) ← key depthLimit cs
    let rest ← lineEnd? (← expect ']' (← expect ']' rest))
    return (← b.openElement path, rest)
  | '[' :: cs => do
    let (path, rest) ← key depthLimit cs
    let rest ← lineEnd? (← expect ']' rest)
    return (← b.openTable path, rest)
  | cs =>
    match lineEnd? cs with
    | some rest => some (b, rest)
    | none => do
      let (path, rest) ← key depthLimit cs
      let (d, rest) ← value depthLimit (skipSpaces (← expect '=' rest))
      let rest ← lineEnd? rest
      return (← b.assign path d, rest)

def lines : Nat → Build → List Char → Option Build
  | 0, _, _ => none
  | fuel + 1, b, cs =>
    match skipSpaces cs with
    | [] => some b
    | cs => (line b cs).bind fun p => lines fuel p.1 p.2

end Toml

/-- The document a TOML text holds; a byte order mark in front of it is skipped. -/
def ofToml? (s : String) : Option Document := do
  let cs := match s.toList with
    | '\uFEFF' :: cs => cs
    | cs => cs
  let built ← Toml.lines (cs.length + 1) {} cs
  let es ← built.close
  return .table (Toml.Node.entriesToDocument es)

end ServiceHost.Document
