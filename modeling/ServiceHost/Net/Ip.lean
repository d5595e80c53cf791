/-
  ServiceHost.Net.Ip — numeric IP addresses: reading their texts and writing the
  canonical one.

  Dotted decimals have four parts without leading zeros. An IPv6 text has eight groups,
  or fewer with one double colon for the zeros left out, and may end in a dotted
  decimal; the canonical text shortens the first longest run of two or more zeros.
-/

import ServiceHost.Power
import ServiceHost.Text.Numeral

namespace ServiceHost.Net

open ServiceHost.Text

inductive Ip where
  | v4 (octets : List Nat)
  | v6 (groups : List Nat)
  deriving DecidableEq, Repr

namespace Ip

def isUnspecified : Ip → Bool
  | v4 os => os.all (· = 0)
  | v6 gs => gs.all (· = 0)

/-- Whether it is an IPv4 address, written as one or as an IPv6 address. -/
def isV4 : Ip → Bool
  | v4 _ => true
  | v6 gs => gs.take 6 = [0, 0, 0, 0, 0, 0xFFFF]

/-! ## Writing -/

def dotted (os : List Nat) : String := ".".intercalate (os.map toString)

def groupsText (gs : List Nat) : String := ":".intercalate (gs.map (hex 1))

def zeros (gs : List Nat) : Nat := (gs.takeWhile (· = 0)).length

/-- Start and length of the first longest run of zeros. -/
def longestZeros (gs : List Nat) : Nat × Nat :=
  (List.range gs.length).foldl (fun best i => let n := zeros (gs.drop i); if best.2 < n then (i, n) else best) (0, 0)

def text : Ip → String
  | v4 os => dotted os
  | v6 gs =>
    match gs with
    | [0, 0, 0, 0, 0, 0xFFFF, a, b] => "::ffff:" ++ dotted [a / 256, a % 256, b / 256, b % 256]
    | gs =>
      let (start, n) := longestZeros gs
      if n < 2 then groupsText gs else groupsText (gs.take start) ++ "::" ++ groupsText (gs.drop (start + n))

/-! ## Reading -/

/-- A decimal part: one to three digits, no needless zero in front, at most 255. -/
def octet? (cs : List Char) : Option (Nat × List Char) := do
  let ds := cs.takeWhile Char.isDigit
  if 3 < ds.length ∨ (1 < ds.length ∧ ds.head? = some '0') then none
  let n ← readDigits ds
  if n ≤ 255 then some (n, cs.drop ds.length) else none

def expect (c : Char) : List Char → Option (List Char)
  | d :: cs => if d = c then some cs else none
  | [] => none

def dotted? (cs : List Char) : Option (List Nat × List Char) := do
  let (a, cs) ← octet? cs
  let (b, cs) ← octet? (← expect '.' cs)
  let (c, cs) ← octet? (← expect '.' cs)
  let (d, cs) ← octet? (← expect '.' cs)
  return ([a, b, c, d], cs)

def group? (cs : List Char) : Option (Nat × List Char) := do
  let ds := cs.takeWhile fun c => (hexValue? c).isSome
  if ds.isEmpty ∨ 4 < ds.length then none
  let n ← ds.foldlM (fun n c => (hexValue? c).map (16 * n + ·)) 0
  return (n, cs.drop ds.length)

/-- At most `limit` groups with colons between them; a dotted decimal counts for two and ends them. -/
def groups : Nat → Bool → List Char → List Nat × Bool × List Char
  | 0, _, cs => ([], false, cs)
  | limit + 1, first, cs =>
    match if first then some cs else expect ':' cs with
    | none => ([], false, cs)
    | some below =>
      match if limit = 0 then none else dotted? below with
      | some ([a, b, c, d], rest) => ([a * 256 + b, c * 256 + d], true, rest)
      | _ =>
        match group? below with
        | some (g, rest) => let (gs, mixed, rest) := groups limit false rest; (g :: gs, mixed, rest)
        | none => ([], false, cs)

def v6? (cs : List Char) : Option (List Nat × List Char) := do
  let (head, mixed, rest) := groups 8 true cs
  if head.length = 8 then return (head, rest)
  if mixed then none
  let rest ← expect ':' (← expect ':' rest)
  let (tail, _, rest) := groups (7 - head.length) true rest
  return (head ++ List.replicate (8 - head.length - tail.length) 0 ++ tail, rest)

def ofDotted? (cs : List Char) : Option Ip :=
  match dotted? cs with
  | some (os, []) => some (v4 os)
  | _ => none

def ofGroups? (cs : List Char) : Option Ip :=
  match v6? cs with
  | some (gs, []) => some (v6 gs)
  | _ => none

end Ip

/-- An IP address with a port; a scope is zero unless the text of an IPv6 address names one. -/
structure SocketAddr where
  ip : Ip
  port : Nat
  scope : Nat := 0
  deriving DecidableEq, Repr

namespace SocketAddr

def text (a : SocketAddr) : String :=
  match a.ip with
  | .v4 _ => a.ip.text ++ ":" ++ toString a.port
  | .v6 _ =>
    "[" ++ a.ip.text ++ (if a.scope = 0 then "" else "%" ++ toString a.scope) ++ "]:" ++ toString a.port

def port? (cs : List Char) : Option Nat := (readDigits cs).filter (· ≤ 65535)

/-- A scope between a percent sign and the closing bracket. -/
def scope? : List Char → Option (Nat × List Char)
  | '%' :: cs => do
    let ds := cs.takeWhile Char.isDigit
    let n ← readDigits ds
    if n < pow2 32 then some (n, cs.drop ds.length) else none
  | cs => some (0, cs)

/-- A numeric address with a port, brackets around IPv6. -/
def ofText? (s : String) : Option SocketAddr :=
  match s.toList with
  | '[' :: cs => do
    let (gs, cs) ← Ip.v6? cs
    let (scope, cs) ← scope? cs
    let port ← port? (← Ip.expect ':' (← Ip.expect ']' cs))
    return { ip := .v6 gs, port, scope }
  | cs => do
    let (os, cs) ← Ip.dotted? cs
    let port ← port? (← Ip.expect ':' cs)
    return { ip := .v4 os, port }

end SocketAddr

end ServiceHost.Net
