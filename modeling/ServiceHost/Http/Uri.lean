/-
  ServiceHost.Http.Uri — request targets: a path with an optional query, an asterisk, an
  absolute address, or an authority alone.

  A fragment is cut off. An authority alone has an empty path and no target of its own;
  an absolute address without a path has the path `/`.
-/

import ServiceHost.Text.Cut
import ServiceHost.Text.Octets

namespace ServiceHost.Http

open ServiceHost.Text

structure Uri where
  path : String
  /-- Path and query as written. -/
  target? : Option String
  deriving DecidableEq, Repr

namespace Uri

/-- The greatest length of a target, in bytes. -/
def maxLength : Nat := 65534

def isPathChar (c : Char) : Bool :=
  0x80 ≤ c.toNat ||
  (0x21 ≤ c.toNat && c.toNat < 0x7F && c ≠ '<' && c ≠ '>' && c ≠ '^' && c ≠ '\x60' && c ≠ '#' && c ≠ '?')

def isQueryChar (c : Char) : Bool :=
  0x80 ≤ c.toNat ||
  (0x21 ≤ c.toNat && c.toNat < 0x7F && c ≠ '"' && c ≠ '<' && c ≠ '>' && c ≠ '#')

/-- What may stand in an authority, its separators and percent signs apart. -/
def isAuthorityChar (c : Char) : Bool := c.isAlphanum || "!$&'()*+,-.;=_~".toList.contains c

/-- A path and an optional query up to a fragment; `ifEmpty` is the path of an empty text. -/
def ofTarget? (cs : List Char) : Option Uri := do
  let path := cs.takeWhile fun c => c ≠ '?' && c ≠ '#'
  let rest := cs.drop path.length
  let query := match rest with
    | '?' :: _ => rest.takeWhile (· ≠ '#')
    | _ => []
  if path.all isPathChar && query.all isQueryChar then
    some ⟨if path.isEmpty then "/" else String.ofList path,
      some (if path.isEmpty && query.isEmpty then "/" else String.ofList (path ++ query))⟩
  else none

/-- What has been seen of an authority. -/
structure Authority where
  colons : Nat := 0
  opened : Bool := false
  closed : Bool := false
  percent : Bool := false
  endsInAt : Bool := false

/-- One more character of an authority; nothing if it may not stand there. -/
def Authority.next (a : Authority) (c : Char) : Option Authority :=
  let a := { a with endsInAt := c = '@' }
  if c = ':' then if a.colons < 8 then some { a with colons := a.colons + 1 } else none
  else if c = '[' then if a.percent || a.opened then none else some { a with opened := true }
  else if c = ']' then
    if !a.opened || a.closed then none else some { a with closed := true, colons := 0, percent := false }
  else if c = '@' then some { a with colons := 0, percent := false }
  else if c = '%' then some { a with percent := true }
  else if isAuthorityChar c then some a
  else none

/-- A host with an optional port and user information in front. -/
def isAuthority (cs : List Char) : Bool :=
  match cs.foldlM Authority.next {} with
  | some a => a.opened = a.closed && a.colons ≤ 1 && !a.endsInAt && !a.percent
  | none => false

def isSchemeChar (c : Char) : Bool := c.isAlphanum || c = '+' || c = '-' || c = '.'

def afterScheme? (cs : List Char) : Option (List Char) :=
  let scheme := cs.takeWhile isSchemeChar
  if scheme.length ≤ 64 then after? [':', '/', '/'] (cs.drop scheme.length) else none

def parse? (s : String) : Option Uri :=
  if s = "" ∨ maxLength < s.utf8ByteSize then none
  else if s = "*" then some ⟨"*", some "*"⟩
  else
    match s.toList with
    | '/' :: cs => ofTarget? ('/' :: cs)
    | cs =>
      match afterScheme? cs with
      | some rest =>
        let authority := rest.takeWhile fun c => c ≠ '/' && c ≠ '?' && c ≠ '#'
        if authority ≠ [] ∧ isAuthority authority then ofTarget? (rest.drop authority.length) else none
      | none => if isAuthority cs then some ⟨"", none⟩ else none

end Uri

end ServiceHost.Http
