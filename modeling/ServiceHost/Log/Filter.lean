/-
  ServiceHost.Log.Filter — which events reach the log.

  A filter is a list of directives between commas, each a level, a target with a level,
  or a bare target that lets everything through. The directive with the longest target
  that an event's target starts with decides; an empty filter lets errors through.
-/

import ServiceHost.Log.Event
import ServiceHost.Text.Blank
import ServiceHost.Text.Cut
import ServiceHost.Text.Numeral

namespace ServiceHost.Log

open ServiceHost.Text

inductive Format where
  | text
  | json
  deriving DecidableEq, Repr

def Format.default : Format := .text

def Format.name : Format → String
  | text => "Text"
  | json => "Json"

inductive SetupError where
  | format (text : String)
  | level
  | directive
  deriving DecidableEq, Repr

def SetupError.message : SetupError → String
  | format text => "Unknown log format '" ++ text ++ "'"
  | level =>
    "Invalid log filter: error parsing level filter: expected one of \"off\", \"error\", \"warn\", " ++
      "\"info\", \"debug\", \"trace\", or a number 0-5"
  | directive => "Invalid log filter: invalid filter directive"

def Format.ofText (s : String) : Except SetupError Format :=
  if s = "text" then .ok .text else if s = "json" then .ok .json else .error (.format s)

/-- The greatest verbosity that a level in a filter lets through. -/
def verbosity? (cs : List Char) : Option Nat :=
  match readUnsigned 5 cs with
  | some n => some n
  | none =>
    match String.ofList (cs.map Char.toLower) with
    | "off" => some 0
    | "error" => some 1
    | "warn" => some 2
    | "info" => some 3
    | "debug" => some 4
    | "trace" => some 5
    | "" => some 1
    | _ => none

def everything : Nat := 5

structure Directive where
  target : String
  verbosity : Nat
  /-- Set for directives on spans, which decide about no event outside one. -/
  spans : Bool := false
  deriving DecidableEq, Repr

def startsTarget (c : Char) : Bool := c.isAlphanum || 0x80 ≤ c.toNat || c = '-' || c = ':' || c = '_'

/-- The level after an equals sign; everything if there is none. -/
def Directive.level (target : List Char) (spans : Bool) (cs : List Char) : Except SetupError Directive :=
  if cs.isEmpty then .ok ⟨String.ofList target, everything, spans⟩
  else
    match verbosity? cs with
    | some v => .ok ⟨String.ofList target, v, spans⟩
    | none => .error .level

/-- The part of a directive after the opening bracket of a span: a name, fields, a level. -/
def Directive.span (target cs : List Char) : Except SetupError Directive :=
  let name := cs.takeWhile fun c => c ≠ ']' && c ≠ '{'
  let rest := cs.drop name.length
  let closed : Except SetupError (List Char) :=
    match rest with
    | ']' :: rest => .ok rest
    | '{' :: rest =>
      let fields := rest.takeWhile (· ≠ '}')
      if (cutAll ',' fields).any List.isEmpty then .error .directive
      else
        match rest.drop fields.length with
        | '}' :: ']' :: rest => .ok rest
        | _ => .error .directive
    | _ => .error .directive
  closed.bind fun rest =>
    match rest with
    | [] => .ok ⟨String.ofList target, everything, true⟩
    | '=' :: level => Directive.level target true level
    | _ => .error .directive

def Directive.parse (cs : List Char) : Except SetupError Directive :=
  match trimChars cs with
  | [] => .error .directive
  | '[' :: rest => Directive.span [] rest
  | c :: rest =>
    if !startsTarget c then .error .directive
    else
      let cs := c :: rest
      let word := cs.takeWhile fun c => c ≠ '=' && c ≠ '['
      match cs.drop word.length with
      | '=' :: level => Directive.level word false level
      | '[' :: rest => Directive.span word rest
      | _ =>
        match verbosity? word with
        | some v => .ok ⟨"", v, false⟩
        | none => .ok ⟨String.ofList word, everything, false⟩

abbrev Filter := List Directive

namespace Filter

def parse (s : String) : Except SetupError Filter :=
  ((cutAll ',' s.toList).filter (!·.isEmpty)).mapM Directive.parse

/-- The verbosity let through for a target: a later directive of the same target replaces an earlier one. -/
def verbosityFor (f : Filter) (target : String) : Nat :=
  let f := if f.isEmpty then [⟨"", Level.error.verbosity, false⟩] else f
  let fitting := f.filter fun d => !d.spans && d.target.toList.isPrefixOf target.toList
  (fitting.foldl (fun (best : Option Directive) d =>
    match best with
    | some b => if b.target.length ≤ d.target.length then some d else best
    | none => some d) none).elim 0 (·.verbosity)

def allows (f : Filter) (e : Event) : Bool := e.level.verbosity ≤ f.verbosityFor e.area.target

end Filter

end ServiceHost.Log
