/-
  ServiceHost.Authz — which roles may call which paths.

  A rule covers its stem and everything below it. Of the rules that cover a path the one
  with the longest stem decides, as written and counted in bytes; of equally long ones
  the first. A path that no rule covers is refused.
-/

import ServiceHost.Config.Schema
import ServiceHost.Identity
import ServiceHost.Text.Blank
import ServiceHost.Text.Cut

namespace ServiceHost.Authz

open ServiceHost.Text ServiceHost.Config

inductive Access where
  /-- Every caller, guests included. -/
  | anyone
  /-- Every caller but a guest. -/
  | anyRole
  | roles (allowed : List String)
  deriving DecidableEq, Repr

structure Rule where
  stem : String
  access : Access
  deriving DecidableEq, Repr

inductive Error where
  | invalidRule (entry : String)
  | noRoleMapper
  deriving DecidableEq, Repr

def Error.message : Error → String
  | invalidRule entry => "Invalid authorization rule '" ++ entry ++ "': expected /path:role1,role2"
  | noRoleMapper => "No role mapper set"

namespace Rule

/-- The stem without the slashes at its end: what paths are compared with. -/
def base (r : Rule) : List Char := dropEndWhile (· = '/') r.stem.toList

/-- Whether a path is the stem's base or continues it with a slash. -/
def covers (r : Rule) (path : String) : Bool :=
  r.stem = "/" ||
  match after? r.base path.toList with
  | some [] => true
  | some (c :: _) => c = '/'
  | none => false

def permits (r : Rule) (role : String) : Bool :=
  match r.access with
  | .anyone => true
  | .anyRole => role ≠ Identity.guestRole
  | .roles allowed => allowed.contains role

/-- The length that decides between rules, in bytes. -/
def weight (r : Rule) : Nat := r.stem.utf8ByteSize

/-- The roles between commas, without blanks around them and without empty ones. -/
def roleList (cs : List Char) : List String :=
  ((cutAll ',' cs).map trimChars).filterMap fun w => if w.isEmpty then none else some (String.ofList w)

/-- A rule from an entry of the form `/path:role1,role2`. -/
def ofAllow (entry : String) : Except Error Rule :=
  match cutFirst ':' entry.toList with
  | some (stem, rest) =>
    let allowed := roleList rest
    if stem.head? = some '/' ∧ allowed ≠ [] then .ok ⟨String.ofList stem, .roles allowed⟩
    else .error (.invalidRule entry)
  | none => .error (.invalidRule entry)

def ofPath (access : Access) (entry : String) : Except Error Rule :=
  if entry.toList.head? = some '/' then .ok ⟨entry, access⟩ else .error (.invalidRule entry)

end Rule

/-- Rules, longest stem first. -/
structure RuleSet where
  rules : List Rule
  deriving DecidableEq, Repr

namespace RuleSet

def listed (c : AuthzConfig) : Except Error (List Rule) := do
  let allow ← c.allow.mapM Rule.ofAllow
  let allowAny ← c.allowAny.mapM (Rule.ofPath .anyone)
  let allowAnyRole ← c.allowAnyRole.mapM (Rule.ofPath .anyRole)
  return allow ++ allowAny ++ allowAnyRole

def ofConfig (c : AuthzConfig) : Except Error RuleSet := do
  return ⟨(← listed c).mergeSort fun a b => b.weight ≤ a.weight⟩

def deciding? (s : RuleSet) (path : String) : Option Rule := s.rules.find? (·.covers path)

def allows (s : RuleSet) (path role : String) : Bool := (s.deciding? path).any (·.permits role)

end RuleSet

end ServiceHost.Authz
