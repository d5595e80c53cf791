/-
  ServiceHost.Log.Line — the lines of the log, as text or as JSON.

  A line of text is the level, the target, the message and the fields as `name=value`.
  Texts that are told apart from bare values stand in quotes. A line of JSON has the
  level, the target and all fields, the message among them.
-/

import ServiceHost.Decimal.Shortest
import ServiceHost.Document.Json
import ServiceHost.Log.Filter

namespace ServiceHost.Log

open ServiceHost.Decimal (Binary64)

def scientific (digits : Nat) (scale : Int) : String :=
  match Nat.toDigits 10 digits with
  | [] => ""
  | d :: ds =>
    let tail := if ds.isEmpty then "" else "." ++ String.ofList ds
    String.singleton d ++ tail ++ "e" ++ toString (scale + ds.length)

/-- A double in a line of text: with a point, or with an exponent if it is very small or very large. -/
def realText (x : Binary64) : String :=
  match x with
  | .finite s m e =>
    let (digits, scale) := Decimal.shortest m e
    let top := scale + (Nat.toDigits 10 digits).length - 1
    let sign := if s then "-" else ""
    if m = 0 then sign ++ "0.0"
    else if top < -4 ∨ 16 ≤ top then sign ++ scientific digits scale
    else if 0 ≤ scale then x.text ++ ".0"
    else x.text
  | x => x.text

def Value.shown : Value → String
  | bare s => s
  | text s => Text.quoted s
  | nat n => toString n
  | int i => toString i
  | flag b => toString b
  | real x => realText x

def Value.toDocument : Value → Document
  | bare s => .text s
  | text s => .text s
  | nat n => .ofNat n
  | int i => .int i
  | flag b => .bool b
  | real x => .real x

namespace Event

def textLine (e : Event) : String :=
  e.level.text ++ " " ++ e.area.target ++ ": " ++
    " ".intercalate (e.message :: e.fields.map fun f => f.1 ++ "=" ++ f.2.shown)

def toDocument (e : Event) : Document :=
  .table
    [("level", .text e.level.text),
     ("fields", .table (("message", .text e.message) :: e.fields.map fun f => (f.1, f.2.toDocument))),
     ("target", .text e.area.target)]

def line (f : Format) (e : Event) : String :=
  match f with
  | .text => e.textLine
  | .json => e.toDocument.toJson

end Event

/-- The lines of those events that a filter lets through. -/
def lines (format : Format) (filter : Filter) (es : List Event) : List String :=
  (es.filter filter.allows).map (Event.line format)

end ServiceHost.Log
