/-
  ServiceHost.Proofs.Authz.Precedence — which of the rules that cover a path decides it.

  A rule covers what lies under its base: its stem without the slashes at its end. Of two
  rules that cover one path the base of one lies under that of the other, and the narrower
  rule is the one with the longer base. The order of rules goes by the stem as written, and
  counts the slashes that the base leaves out. So a stem with two slashes or more at its
  end can outweigh a narrower one, and a broad rule decides in its place
  (`slashed_overrides`). That happens in a set of rules if and only if some rule does not
  decide its own base, nor does another of the same base (`narrowest_decides_iff`).
-/

import ServiceHost.Proofs.Authz.Reading
import ServiceHost.Proofs.Sorting

namespace ServiceHost.Authz

open ServiceHost.Text ServiceHost.Config

/-! ## Lying under a base -/

/-- A text is a base or goes on from it with a slash. -/
def Under (base cs : List Char) : Prop := ∃ rest, cs = base ++ rest ∧ (rest = [] ∨ rest.head? = some '/')

namespace Under

variable {a b cs : List Char}

theorem refl (cs : List Char) : Under cs cs := ⟨[], (List.append_nil cs).symm, .inl rfl⟩

theorem of_root (h : cs.head? = some '/') : Under [] cs := ⟨cs, rfl, .inr h⟩

/-- Of two bases that a text lies under, the longer one lies under the shorter one. -/
theorem nested (h : Under a cs) (h' : Under b cs) (hle : a.length ≤ b.length) : Under a b := by
  obtain ⟨rest, rfl, hrest⟩ := h
  obtain ⟨more, heq, -⟩ := h'
  obtain ⟨mid, rfl⟩ : a <+: b := List.prefix_of_prefix_length_le ⟨rest, rfl⟩ ⟨more, heq.symm⟩ hle
  rw [List.append_assoc, List.append_cancel_left_eq] at heq
  refine ⟨mid, rfl, ?_⟩
  cases mid with
  | nil => exact .inl rfl
  | cons c mid =>
    rcases hrest with rfl | hrest
    · cases heq
    · exact .inr (by rw [heq] at hrest; exact hrest)

theorem eq_of_length_le (h : Under a b) (hle : b.length ≤ a.length) : a = b := by
  obtain ⟨rest, rfl, -⟩ := h
  rw [List.length_append] at hle
  have hnil : rest = [] := List.length_eq_zero_iff.1 (by omega)
  rw [hnil, List.append_nil]

end Under

/-! ## Stems and their bases -/

namespace Rule

variable {r d : Rule} {path : String}

def slashes (r : Rule) : Nat := (r.stem.toList.reverse.takeWhile (· = '/')).length

def root (r : Rule) : String := String.ofList r.base

/-- A stem that starts with a slash, as every stem of a rule does that was read. -/
def Rooted (r : Rule) : Prop := r.stem.toList.head? = some '/'

theorem stem_eq (r : Rule) : r.stem.toList = r.base ++ List.replicate r.slashes '/' := by
  have hslashes : (r.stem.toList.reverse.takeWhile (· = '/')).reverse = List.replicate r.slashes '/' := by
    refine List.eq_replicate_iff.2 ⟨List.length_reverse, fun c hc => ?_⟩
    simpa using List.all_eq_true.1 List.all_takeWhile c (List.mem_reverse.1 hc)
  rw [← hslashes, base, dropEndWhile, ← List.reverse_append, List.takeWhile_append_dropWhile, List.reverse_reverse]

theorem base_getLast (r : Rule) : r.base.getLast? ≠ some '/' := by
  intro h
  rw [base, dropEndWhile, List.getLast?_reverse] at h
  have hne := List.head?_dropWhile_not (p := (· = '/')) r.stem.toList.reverse
  rw [h] at hne
  simp at hne

theorem weight_eq (r : Rule) : r.weight = r.root.utf8ByteSize + r.slashes := by
  have hreplicate (n : Nat) : (String.ofList (List.replicate n '/')).utf8ByteSize = n := by
    induction n with
    | zero => rfl
    | succ n ih =>
      rw [List.replicate_succ, String.ofList_cons, String.utf8ByteSize_append, ih, Nat.add_comm]
      rfl
  have hstem : r.stem = r.root ++ String.ofList (List.replicate r.slashes '/') := by
    rw [root, ← String.ofList_append, ← stem_eq, String.ofList_toList]
  rw [weight, hstem, String.utf8ByteSize_append, hreplicate]

theorem covers_iff : r.covers path = true ↔ r.stem = "/" ∨ Under r.base path.toList := by
  simp only [covers, Bool.or_eq_true, decide_eq_true_eq]
  refine or_congr_right ?_
  cases h : after? r.base path.toList with
  | none =>
    simp only [Bool.false_eq_true, false_iff]
    rintro ⟨rest, hrest, -⟩
    rw [after?_eq_some_iff.2 hrest] at h
    cases h
  | some rest =>
    have hrest := after?_eq_some_iff.1 h
    constructor
    · intro hc
      refine ⟨rest, hrest, ?_⟩
      cases rest with
      | nil => exact .inl rfl
      | cons c rest => exact .inr (by simpa using hc)
    · rintro ⟨rest', hrest', hslash⟩
      have : rest' = rest := List.append_cancel_left (hrest'.symm.trans hrest)
      subst this
      rcases hslash with rfl | hslash
      · rfl
      · cases rest' with
        | nil => rfl
        | cons c rest => simpa using hslash

theorem base_of_stem (h : r.stem = "/") : r.base = [] := by
  rw [base, h]
  rfl

theorem under_base (hr : r.Rooted) : Under [] r.base := by
  rw [Rooted, stem_eq] at hr
  cases hb : r.base with
  | nil => exact Under.refl []
  | cons c cs =>
    rw [hb] at hr
    exact .of_root (by simpa using hr)

theorem covers_root (r : Rule) : r.covers r.root = true :=
  covers_iff.2 (.inr (by rw [root, String.toList_ofList]; exact Under.refl _))

/-- The base of a narrower rule lies under that of a broader one, if both cover one path. -/
theorem covers_nested (hr : r.Rooted) (hd : d.covers path = true) (hc : r.covers path = true)
    (hlt : d.base.length < r.base.length) : Under d.base r.base := by
  rcases covers_iff.1 hd with hstem | hd
  · rw [base_of_stem hstem]
    exact under_base hr
  rcases covers_iff.1 hc with hstem | hc
  · rw [base_of_stem hstem] at hlt
    cases hlt
  · exact hd.nested hc (Nat.le_of_lt hlt)

/-- A narrower rule weighs at least two bytes more than the base of a broader one. -/
theorem root_size_add_two_le (hu : Under d.base r.base) (hlt : d.base.length < r.base.length) :
    d.root.utf8ByteSize + 2 ≤ r.weight := by
  obtain ⟨rest, hrest, hslash⟩ := hu
  -- what follows the broader base is a slash and more, since no base ends in a slash
  obtain ⟨c, cs, rfl⟩ : ∃ c cs, rest = '/' :: c :: cs := by
    rcases hslash with rfl | hslash
    · simp [hrest] at hlt
    obtain ⟨-, more, rfl⟩ : '/' = '/' ∧ ∃ more, rest = '/' :: more := by
      cases rest with
      | nil => cases hslash
      | cons c more => exact ⟨rfl, more, by rw [Option.some.inj hslash]⟩
    cases more with
    | nil => exact absurd (by rw [hrest]; simp) r.base_getLast
    | cons c cs => exact ⟨c, cs, rfl⟩
  have hroot : r.root = d.root ++ String.ofList ('/' :: c :: cs) := by
    rw [root, hrest, String.ofList_append, root]
  have hone : 1 ≤ (String.singleton c).utf8ByteSize := by
    rw [String.utf8ByteSize_singleton]
    exact Char.utf8Size_pos c
  have hslash : (String.singleton '/').utf8ByteSize = 1 := rfl
  rw [weight_eq, hroot, String.utf8ByteSize_append, String.ofList_cons, String.ofList_cons, String.utf8ByteSize_append,
    String.utf8ByteSize_append]
  omega

end Rule

/-! ## The order of rules -/

theorem find?_pairwise {α : Type} {R : α → α → Prop} {p : α → Bool} {l : List α} {a b : α} (hl : l.Pairwise R)
    (ha : l.find? p = some a) (hb : b ∈ l) (hp : p b = true) : a = b ∨ R a b := by
  obtain ⟨-, before, after, rfl, hbefore⟩ := List.find?_eq_some_iff_append.1 ha
  rcases List.mem_append.1 hb with hb | hb
  · exact absurd hp (by simpa using hbefore b hb)
  rcases List.mem_cons.1 hb with rfl | hb
  · exact .inl rfl
  · exact .inr ((List.pairwise_cons.1 (List.pairwise_append.1 hl).2.1).1 b hb)

theorem find?_unique {α : Type} {p q : α → Bool} {l : List α} {a b : α} (ha : l.find? p = some a)
    (hb : l.find? q = some b) (hp : p b = true) (hq : q a = true) : a = b := by
  induction l with
  | nil => cases ha
  | cons x l ih =>
    rw [List.find?_cons] at ha hb
    by_cases hx : p x = true
    · rw [hx] at ha
      cases ha
      rw [hq] at hb
      exact Option.some.inj hb
    have hqx : q x = false := Bool.eq_false_iff.2 fun hqx => by
      rw [hqx] at hb
      cases hb
      exact hx hp
    rw [Bool.not_eq_true] at hx
    rw [hx] at ha
    rw [hqx] at hb
    exact ih ha hb

/-! ## Rules that were read -/

theorem Rule.ofAllow_rooted {entry : String} {r : Rule} (h : ofAllow entry = .ok r) : r.Rooted := by
  obtain ⟨stem, rest, -, -, hslash, -, rfl⟩ := ofAllow_eq_ok_iff.1 h
  rwa [Rooted, String.toList_ofList]

theorem Rule.ofPath_rooted {access : Access} {entry : String} {r : Rule} (h : ofPath access entry = .ok r) :
    r.Rooted := by
  obtain ⟨hslash, rfl⟩ := ofPath_eq_ok_iff.1 h
  exact hslash

theorem Lists.rooted {c : AuthzConfig} {rules : List Rule} (h : Lists c rules) : ∀ r ∈ rules, r.Rooted := by
  have hread {f : String → Except Error Rule} (hf : ∀ entry r, f entry = .ok r → r.Rooted) {entries : List String}
      {rs : List Rule} (h : entries.map f = rs.map .ok) : ∀ r ∈ rs, r.Rooted := by
    intro r hr
    have hmem : .ok r ∈ entries.map f := h ▸ List.mem_map_of_mem hr
    obtain ⟨entry, -, hentry⟩ := List.mem_map.1 hmem
    exact hf entry r hentry
  obtain ⟨allow, anyone, anyRole, hallow, hany, hrole, rfl⟩ := h
  simp only [List.forall_mem_append]
  exact ⟨⟨hread (fun _ _ => Rule.ofAllow_rooted) hallow, hread (fun _ _ => Rule.ofPath_rooted) hany⟩,
    hread (fun _ _ => Rule.ofPath_rooted) hrole⟩

/-! ## The narrowest rule -/

namespace RuleSet

variable {c : AuthzConfig} {s : RuleSet} {path : String} {d r : Rule}

/-- What is known of rules that were read: they are rooted, and in the order of their weights. -/
structure Ordered (s : RuleSet) : Prop where
  rooted : ∀ r ∈ s.rules, r.Rooted
  falling : s.rules.Pairwise fun a b => b.weight ≤ a.weight

theorem ofConfig_ordered (hs : ofConfig c = .ok s) : s.Ordered := by
  obtain ⟨rules, hlists, rfl⟩ := ofConfig_eq_ok_iff.1 hs
  exact ⟨fun r hr => hlists.rooted r (List.mem_mergeSort.1 hr), pairwise_mergeSort_falling rules⟩

theorem deciding_covers (hd : s.deciding? path = some d) : d ∈ s.rules ∧ d.covers path = true :=
  ⟨List.mem_of_find?_eq_some hd, List.find?_some (p := fun r : Rule => r.covers path) hd⟩

theorem deciding_weight (ho : s.Ordered) (hd : s.deciding? path = some d) (hr : r ∈ s.rules)
    (hc : r.covers path = true) : r.weight ≤ d.weight := by
  rcases find?_pairwise ho.falling hd hr hc with rfl | hle
  · exact Nat.le_refl _
  · exact hle

theorem deciding_of_covers (hr : r ∈ s.rules) (hc : r.covers path = true) : ∃ d, s.deciding? path = some d :=
  Option.isSome_iff_exists.1 (List.find?_isSome.2 ⟨r, hr, hc⟩)

/-- No rule that covers a path is narrower than the one that decides it. -/
def NarrowestDecides (s : RuleSet) : Prop :=
  ∀ path d, s.deciding? path = some d → ∀ r ∈ s.rules, r.covers path = true → r.base.length ≤ d.base.length

/-- The base of every rule is decided by a rule of that base. -/
def OwnBasesDecided (s : RuleSet) : Prop := ∀ r ∈ s.rules, ∀ d ∈ s.deciding? r.root, d.base = r.base

instance (s : RuleSet) : Decidable s.OwnBasesDecided :=
  inferInstanceAs (Decidable (∀ r ∈ s.rules, ∀ d ∈ s.deciding? r.root, d.base = r.base))

theorem narrowestDecides_iff (ho : s.Ordered) : s.NarrowestDecides ↔ s.OwnBasesDecided := by
  constructor
  · intro h r hr d hd
    obtain ⟨-, hcovers⟩ := deciding_covers hd
    have hle := h r.root d hd r hr r.covers_root
    rcases Rule.covers_iff.1 hcovers with hstem | hunder
    · rw [Rule.base_of_stem hstem] at hle ⊢
      exact (List.length_eq_zero_iff.1 (Nat.le_zero.1 hle)).symm
    · rw [Rule.root, String.toList_ofList] at hunder
      exact hunder.eq_of_length_le hle
  · intro h path d hd r hr hc
    refine Nat.not_lt.1 fun hlt => ?_
    obtain ⟨-, hcovers⟩ := deciding_covers hd
    have hunder := Rule.covers_nested (ho.rooted r hr) hcovers hc hlt
    obtain ⟨d', hd'⟩ := deciding_of_covers hr r.covers_root
    have hbase := h r hr d' hd'
    -- the rule that decides the narrower base covers the path, and the one that decides the path covers that base
    have hpath : d'.covers path = true := by
      refine Rule.covers_iff.2 (.inr ?_)
      rw [hbase]
      rcases Rule.covers_iff.1 hc with hstem | hc
      · rw [Rule.base_of_stem hstem] at hlt
        cases hlt
      · exact hc
    have hroot : d.covers r.root = true := by
      refine Rule.covers_iff.2 (.inr ?_)
      rwa [Rule.root, String.toList_ofList]
    have heq : d = d' := find?_unique hd hd' hpath hroot
    rw [heq, hbase] at hlt
    exact Nat.lt_irrefl _ hlt

/-- A rule that decides in place of a narrower one ends in two slashes or more. -/
theorem slashes_of_broader (ho : s.Ordered) (hd : s.deciding? path = some d) (hr : r ∈ s.rules)
    (hc : r.covers path = true) (hlt : d.base.length < r.base.length) : 2 ≤ d.slashes := by
  have hunder := Rule.covers_nested (ho.rooted r hr) (deciding_covers hd).2 hc hlt
  have hsize := Rule.root_size_add_two_le hunder hlt
  have hle := deciding_weight ho hd hr hc
  rw [Rule.weight_eq d] at hle
  omega

end RuleSet

open RuleSet

/--
  Of all rules that cover a path the narrowest decides it, in rules that were read from
  settings, if and only if the base of each rule is decided by a rule of that base. Else
  some path is decided by a broader rule in place of a narrower one, and the stem of such
  a rule ends in two slashes or more: with one at the most the narrowest always decides.
-/
theorem narrowest_decides_iff {c : AuthzConfig} {s : RuleSet} (hs : ofConfig c = .ok s) :
    (s.NarrowestDecides ↔ s.OwnBasesDecided) ∧
      (∀ path d, s.deciding? path = some d → ∀ r ∈ s.rules, r.covers path = true →
        d.base.length < r.base.length → r.weight ≤ d.weight ∧ 2 ≤ d.slashes) ∧
      ((∀ r ∈ s.rules, r.slashes ≤ 1) → s.NarrowestDecides) := by
  have ho := ofConfig_ordered hs
  refine ⟨narrowestDecides_iff ho, fun path d hd r hr hc hlt => ?_, fun hone path d hd r hr hc => ?_⟩
  · exact ⟨deciding_weight ho hd hr hc, slashes_of_broader ho hd hr hc hlt⟩
  · refine Nat.not_lt.1 fun hlt => ?_
    have htwo := slashes_of_broader ho hd hr hc hlt
    have hle := hone d (deciding_covers hd).1
    omega

namespace Slashed

/-- A path for administrators, below one that is open to all and spelled with many slashes. -/
def config : AuthzConfig := { allow := ["/v1/admin:admin"], allowAny := ["/v1////////"] }

def narrow : Rule := ⟨"/v1/admin", .roles ["admin"]⟩

def broad : Rule := ⟨"/v1////////", .anyone⟩

def set : RuleSet := ⟨[broad, narrow]⟩

theorem read : ofConfig config = .ok set := by
  have hlt : narrow.weight < broad.weight := by decide +kernel
  have hsorted : set.rules = [narrow, broad].mergeSort fun a b => decide (b.weight ≤ a.weight) := by
    simp [List.mergeSort, List.MergeSort.Internal.splitInTwo, hlt, set]
  exact ofConfig_eq_ok_iff.2 ⟨[narrow, broad], ⟨[narrow], [broad], [], rfl, rfl, rfl, rfl⟩, congrArg RuleSet.mk hsorted⟩

theorem unowned : ¬ set.OwnBasesDecided := by decide +kernel

end Slashed

open Slashed in
theorem narrowest_decides_iff_slashed :
    ofConfig config = .ok set ∧ ¬ set.OwnBasesDecided ∧ ¬ set.NarrowestDecides :=
  ⟨read, unowned, mt (narrowest_decides_iff read).1.1 unowned⟩

open Slashed in
/-- A guest is let through to the administrators' path, by a rule for all that lies above it. -/
theorem slashed_overrides :
    ofConfig config = .ok set ∧ narrow ∈ set.rules ∧ narrow.covers "/v1/admin" = true ∧
      set.deciding? "/v1/admin" = some broad ∧ broad.base.length < narrow.base.length ∧
      set.allows "/v1/admin" Identity.guestRole = true ∧ narrow.permits Identity.guestRole = false :=
  ⟨read, by decide, by decide +kernel, by decide +kernel, by decide +kernel, by decide +kernel, by decide +kernel⟩

end ServiceHost.Authz
