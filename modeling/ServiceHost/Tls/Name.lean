/-
  ServiceHost.Tls.Name — the names in certificates: groups of attributes, each a key and a
  value.

  A name is written as its groups between commas and the attributes of a group between
  plus signs. Values of string types are UTF-8, two-byte strings UTF-16, and everything
  else is shown in hexadecimal; one value that cannot be decoded spoils the whole text.
-/

import ServiceHost.Tls.Der

namespace ServiceHost.Tls

open ServiceHost.Text (Octets)

structure Attribute where
  key : List Nat
  tag : Nat
  value : Octets
  deriving DecidableEq, Repr

abbrev Name := List (List Attribute)

namespace Name

/-! ## Reading -/

def attribute? (bs : Octets) : Option (Attribute × Octets) := do
  let (content, rest) ← Der.universal? Der.Tag.sequence bs
  let (key, content) ← Der.oid? content
  let (e, _) ← Der.element? content
  return (⟨key, e.tag, e.content⟩, rest)

def group? (bs : Octets) : Option (List Attribute × Octets) := do
  let (content, rest) ← Der.universal? Der.Tag.setOf bs
  let attributes := (Der.many attribute? content.length content).1
  if attributes.isEmpty then none else some (attributes, rest)

/-- A name: the groups up to the first that is not one. -/
def read? (bs : Octets) : Option (Name × Octets) := do
  let (content, rest) ← Der.universal? Der.Tag.sequence bs
  return ((Der.many group? content.length content).1, rest)

/-! ## Writing -/

def commonName : List Nat := [2, 5, 4, 3]

def organizationalUnit : List Nat := [2, 5, 4, 11]

/-- The keys that have a short name. -/
def keyNames : List (List Nat × String) :=
  [(commonName, "CN"), ([2, 5, 4, 4], "surname"), ([2, 5, 4, 5], "serialNumber"), ([2, 5, 4, 6], "C"),
   ([2, 5, 4, 7], "L"), ([2, 5, 4, 8], "ST"), ([2, 5, 4, 9], "streetAddress"), ([2, 5, 4, 10], "O"),
   (organizationalUnit, "OU"), ([2, 5, 4, 12], "title"), ([2, 5, 4, 13], "description"),
   ([2, 5, 4, 42], "givenName"), ([0, 9, 2342, 19200300, 100, 1, 1], "uid"),
   ([0, 9, 2342, 19200300, 100, 1, 25], "DC"), ([1, 2, 840, 113549, 1, 9, 1], "Email"),
   ([1, 3, 6, 1, 4, 1, 311, 60, 2, 1, 3], "msJurisdictionCountry")]

def keyText (key : List Nat) : String :=
  match keyNames.find? (·.1 = key) with
  | some n => n.2
  | none => "OID(" ++ ".".intercalate (key.map toString) ++ ")"

/-- The string types whose values are UTF-8. -/
def utf8Tags : List Nat := [12, 18, 19, 20, 22, 26, 27]

def utf16Tag : Nat := 30

def upperHex (bs : Octets) : String := String.ofList ((Text.hexOctets bs).toList.map Char.toUpper)

def valueText? (a : Attribute) : Option String :=
  if utf8Tags.contains a.tag then Text.ofUtf8? a.value
  else if a.tag = utf16Tag then (Text.ofUtf16? a.value).map String.ofList
  else some (upperHex a.value)

def attributeText? (a : Attribute) : Option String := (valueText? a).map fun v => keyText a.key ++ "=" ++ v

def text? (n : Name) : Option String := do
  let groups ← n.mapM fun g => do return " + ".intercalate (← g.mapM attributeText?)
  return ", ".intercalate groups

def undecodable : String := "<X509Error: Invalid X.509 name>"

def text (n : Name) : String := n.text?.getD undecodable

/-- The string types a single attribute is read from. -/
def plainTags : List Nat := [12, 18, 19, 22]

/-- The first attribute of a key, if it is a readable string. -/
def first? (n : Name) (key : List Nat) : Option String := do
  let a ← n.flatten.find? (·.key = key)
  if plainTags.contains a.tag then Text.ofUtf8? a.value else none

end Name

end ServiceHost.Tls
