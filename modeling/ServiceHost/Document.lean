/-
  ServiceHost.Document — a tree of tables, lists and scalars: what a configuration text
  or a message body says, apart from how it is written.

  A table keeps its entries in the order they were written; the first entry of a key is
  its value.
-/

import ServiceHost.Decimal.Binary64

namespace ServiceHost

inductive Document where
  | null
  | bool (b : Bool)
  | int (i : Int)
  | real (x : Decimal.Binary64)
  | text (s : String)
  /-- A date, a time of day or both, as written. -/
  | moment (s : String)
  | list (xs : List Document)
  | table (entries : List (String × Document))
  deriving Inhabited, Repr

namespace Document

def entries : Document → List (String × Document)
  | table es => es
  | _ => []

def find? (key : String) (es : List (String × Document)) : Option Document :=
  (es.find? (·.1 = key)).map (·.2)

/-- The value of a key in a table; nothing in any other document. -/
def field? (d : Document) (key : String) : Option Document := find? key d.entries

def ofNat (n : Nat) : Document := int n

def texts (xs : List String) : Document := list (xs.map text)

def ofText? (s : Option String) : Document := (s.map text).getD null

/-! ## Reading scalars and lists -/

def text? : Document → Option String
  | text s => some s
  | _ => none

def flag? : Document → Option Bool
  | bool b => some b
  | _ => none

def int? : Document → Option Int
  | int i => some i
  | _ => none

def nat? (d : Document) : Option Nat := d.int?.bind Int.toNat?

def items : Document → List Document
  | list xs => xs
  | _ => []

/-! ## Reading the values of a table, with plain defaults -/

def has (d : Document) (key : String) : Bool := (d.field? key).isSome

def get (d : Document) (key : String) : Document := (d.field? key).getD null

def textAt? (d : Document) (key : String) : Option String := (d.get key).text?

def textAt (d : Document) (key : String) : String := (d.textAt? key).getD ""

def natAt? (d : Document) (key : String) : Option Nat := (d.get key).nat?

def natAt (d : Document) (key : String) : Nat := (d.natAt? key).getD 0

def intAt (d : Document) (key : String) : Int := (d.get key).int?.getD 0

def flagAt (d : Document) (key : String) (dflt : Bool := false) : Bool := (d.get key).flag?.getD dflt

def itemsAt (d : Document) (key : String) : List Document := (d.get key).items

def textsAt (d : Document) (key : String) : List String := (d.itemsAt key).filterMap text?

/-! ## Changing texts -/

mutual

/-- Changes every text, but no key. -/
def mapTexts (f : String → String) : Document → Document
  | text s => text (f s)
  | list xs => list (mapTextsList f xs)
  | table es => table (mapTextsEntries f es)
  | d => d

def mapTextsList (f : String → String) : List Document → List Document
  | [] => []
  | d :: ds => mapTexts f d :: mapTextsList f ds

def mapTextsEntries (f : String → String) : List (String × Document) → List (String × Document)
  | [] => []
  | (k, d) :: es => (k, mapTexts f d) :: mapTextsEntries f es

end

end Document

end ServiceHost
