/-
  ServiceHost.Proofs.Authz.Decision — who may call what, read off the settings.

  Of the rules that match a path the foremost decides: one with the longest prefix in bytes,
  and of equally long ones the first of the lists, which come in the order `allow`,
  `allow_any`, `allow_any_role`. A role may call the path if and only if there is such a rule
  and it permits the role (`allows_iff`).

  The rules are sorted once, and stably. So the first match among them has the greatest
  weight, and of those of its weight it is the first that was listed (`deciding_iff`). And
  entries with prefixes of different lengths can be listed in any order: the sorted rules
  are the same (`ofConfig_rearranged`).
-/

import ServiceHost.Proofs.Authz.Precedence

namespace ServiceHost.Authz

open ServiceHost.Text ServiceHost.Config

/-! ## The foremost rule -/

/--
  The root matches every path; another prefix, without the slashes at its end, itself and
  what goes on from it with a slash.
-/
def Rule.Matches (r : Rule) (path : String) : Prop := r.stem = "/" ∨ Under r.base path.toList

/-- The rule at a place in the list matches the path; none that does weighs more, and none before it as much. -/
structure Foremost (rules : List Rule) (path : String) (i : Nat) (r : Rule) : Prop where
  listed : rules[i]? = some r
  matching : r.Matches path
  heaviest : ∀ (j : Nat) (q : Rule), rules[j]? = some q → q.Matches path → q.weight ≤ r.weight
  first : ∀ (j : Nat) (q : Rule), rules[j]? = some q → q.Matches path → q.weight = r.weight → i ≤ j

theorem Foremost.unique {rules : List Rule} {path : String} {i j : Nat} {r q : Rule} (hr : Foremost rules path i r)
    (hq : Foremost rules path j q) : r = q := by
  have hweight : q.weight = r.weight :=
    Nat.le_antisymm (hr.heaviest j q hq.listed hq.matching) (hq.heaviest i r hr.listed hr.matching)
  have hij : i = j :=
    Nat.le_antisymm (hr.first j q hq.listed hq.matching hweight) (hq.first i r hr.listed hr.matching hweight.symm)
  have hlisted := hq.listed
  rw [← hij, hr.listed] at hlisted
  exact Option.some.inj hlisted

namespace RuleSet

variable {c c' : AuthzConfig} {s : RuleSet} {rules : List Rule} {path : String} {r d : Rule}

/-- The rule that decides is the foremost of those that are listed. -/
theorem deciding_foremost (ho : s.Ordered) (hs : s.rules = rules.mergeSort fun a b => b.weight ≤ a.weight)
    (hd : s.deciding? path = some d) : ∃ i, Foremost rules path i d := by
  -- the search comes to the same rule among those of its weight, and sorting leaves these as they are listed
  have hfind : (rules.filter (·.weight = d.weight)).find? (·.covers path) = some d := by
    rw [← filter_mergeSort_falling, ← hs, List.find?_filter]
    obtain ⟨hcovers, before, after, happend, hbefore⟩ := List.find?_eq_some_iff_append.1 hd
    refine List.find?_eq_some_iff_append.2 ⟨by simpa using hcovers, before, after, happend, fun q hq => ?_⟩
    have hnot : q.covers path = false := by simpa using hbefore q hq
    simp [hnot]
  rw [List.find?_filter] at hfind
  obtain ⟨hcovers, i, hi, hget, hbefore⟩ := List.find?_eq_some_iff_getElem.1 hfind
  rw [decide_eq_true_eq] at hcovers
  refine ⟨i, ?_, Rule.covers_iff.1 hcovers.2, fun j q hq hmatch => ?_, fun j q hq hmatch hweight => ?_⟩
  · rw [List.getElem?_eq_getElem hi, hget]
  · have hmem : q ∈ s.rules := hs ▸ List.mem_mergeSort.2 (List.mem_of_getElem? hq)
    exact deciding_weight ho hd hmem (Rule.covers_iff.2 hmatch)
  · refine Nat.not_lt.1 fun hlt => ?_
    obtain ⟨hj, rfl⟩ := List.getElem?_eq_some_iff.1 hq
    have hnot := hbefore j hlt
    simp [Rule.covers_iff.2 hmatch, hweight] at hnot

theorem deciding_iff (ho : s.Ordered) (hs : s.rules = rules.mergeSort fun a b => b.weight ≤ a.weight) :
    s.deciding? path = some r ↔ ∃ i, Foremost rules path i r := by
  refine ⟨deciding_foremost ho hs, ?_⟩
  rintro ⟨i, hr⟩
  have hmem : r ∈ s.rules := hs ▸ List.mem_mergeSort.2 (List.mem_of_getElem? hr.listed)
  obtain ⟨d, hd⟩ := deciding_of_covers hmem (Rule.covers_iff.2 hr.matching)
  obtain ⟨j, hj⟩ := deciding_foremost ho hs hd
  rw [hd, hr.unique hj]

end RuleSet

/-! ## Entries in another order -/

variable {c c' : AuthzConfig} {rules : List Rule} {size : String → Nat} {es es' : List String}

/-- The entries in another order, but those of one size in theirs. -/
structure Reordered (size : String → Nat) (es es' : List String) : Prop where
  perm : es'.Perm es
  kept : ∀ n, es'.filter (size · = n) = es.filter (size · = n)

/-- The bytes of the prefix of an `allow` entry: of what is before its first colon. -/
def prefixBytes (entry : String) : Nat := (String.ofList (entry.toList.takeWhile (· ≠ ':'))).utf8ByteSize

/-- Each of the three lists in another order, but entries with prefixes of one length in theirs. -/
structure Rearranged (c c' : AuthzConfig) : Prop where
  allow : Reordered prefixBytes c.allow c'.allow
  allowAny : Reordered String.utf8ByteSize c.allowAny c'.allowAny
  allowAnyRole : Reordered String.utf8ByteSize c.allowAnyRole c'.allowAnyRole

theorem Rule.ofAllow_weight {entry : String} {r : Rule} (h : ofAllow entry = .ok r) : r.weight = prefixBytes entry := by
  obtain ⟨stem, rest, hentry, hcolon, -, -, rfl⟩ := ofAllow_eq_ok_iff.1 h
  have htake : entry.toList.takeWhile (· ≠ ':') = stem := by
    rw [hentry, List.takeWhile_append_of_pos]
    · simp
    · intro ch hch
      exact decide_eq_true fun heq => hcolon (heq ▸ hch)
  rw [weight, prefixBytes, htake]

theorem Rule.ofPath_weight {access : Access} {entry : String} {r : Rule} (h : ofPath access entry = .ok r) :
    r.weight = entry.utf8ByteSize := by
  obtain ⟨-, rfl⟩ := ofPath_eq_ok_iff.1 h
  rfl

section

variable {f : String → Except Error Rule} (hf : ∀ entry r, f entry = .ok r → r.weight = size entry)

include hf

theorem map_filter_size {rs : List Rule} (h : es.map f = rs.map .ok) (n : Nat) :
    (es.filter (size · = n)).map f = (rs.filter (·.weight = n)).map .ok := by
  induction es generalizing rs with
  | nil =>
    cases rs with
    | nil => rfl
    | cons r rs => cases h
  | cons e es ih =>
    cases rs with
    | nil => cases h
    | cons r rs =>
      obtain ⟨he, hes⟩ := List.cons.inj h
      have hsize := hf e r he
      by_cases hn : size e = n
      · rw [List.filter_cons_of_pos (by simpa using hn), List.filter_cons_of_pos (by simpa [hsize] using hn),
          List.map_cons, List.map_cons, he, ih hes]
      · rw [List.filter_cons_of_neg (by simpa using hn), List.filter_cons_of_neg (by simpa [hsize] using hn), ih hes]

theorem Reordered.read (hr : Reordered size es es') {rs : List Rule} (h : es.map f = rs.map .ok) :
    ∃ rs' : List Rule, es'.map f = rs'.map .ok ∧ ∀ n, rs'.filter (·.weight = n) = rs.filter (·.weight = n) := by
  have hall := exists_map_ok_iff.1 ⟨rs, h⟩
  obtain ⟨rs', h'⟩ := exists_map_ok_iff.2 fun e he => hall e (hr.perm.mem_iff.1 he)
  refine ⟨rs', h', fun n => ?_⟩
  have hmap := map_filter_size hf h' n
  rw [hr.kept n, map_filter_size hf h n] at hmap
  exact (List.map_inj_right fun _ _ => Except.ok.inj).1 hmap.symm

end

theorem Lists.rearranged (hl : Lists c rules) (hr : Rearranged c c') :
    ∃ rules', Lists c' rules' ∧ ∀ n, rules'.filter (·.weight = n) = rules.filter (·.weight = n) := by
  obtain ⟨allow, anyone, anyRole, hallow, hany, hrole, rfl⟩ := hl
  obtain ⟨allow', hallow', hallowKept⟩ := hr.allow.read (fun _ _ => Rule.ofAllow_weight) hallow
  obtain ⟨anyone', hany', hanyKept⟩ := hr.allowAny.read (fun _ _ => Rule.ofPath_weight) hany
  obtain ⟨anyRole', hrole', hroleKept⟩ := hr.allowAnyRole.read (fun _ _ => Rule.ofPath_weight) hrole
  refine ⟨_, ⟨allow', anyone', anyRole', hallow', hany', hrole', rfl⟩, fun n => ?_⟩
  simp only [List.filter_append, hallowKept, hanyKept, hroleKept]

namespace RuleSet

variable {s : RuleSet}

/-- The set of rules does not depend on the order in which entries of different lengths are listed. -/
theorem ofConfig_rearranged (hs : ofConfig c = .ok s) (hr : Rearranged c c') : ofConfig c' = .ok s := by
  obtain ⟨rules, hlists, rfl⟩ := ofConfig_eq_ok_iff.1 hs
  obtain ⟨rules', hlists', hkept⟩ := hlists.rearranged hr
  exact ofConfig_eq_ok_iff.2 ⟨rules', hlists', congrArg RuleSet.mk (mergeSort_falling_eq hkept).symm⟩

end RuleSet

open RuleSet

/--
  A role may call a path if and only if a rule that the settings list matches it and the
  foremost of these permits the role. A path that none matches is refused for every role.
  And the answers do not depend on the order in which entries with prefixes of different
  lengths are listed.
-/
theorem allows_iff_foremost_permits {c : AuthzConfig} {s : RuleSet} (hs : ofConfig c = .ok s) :
    ∃ rules, Lists c rules ∧
      (∀ path role, s.allows path role = true ↔ ∃ i r, Foremost rules path i r ∧ r.permits role = true) ∧
      (∀ path, (∀ r ∈ rules, ¬ r.Matches path) → ∀ role, s.allows path role = false) ∧
      ∀ c', Rearranged c c' →
        ∃ s', ofConfig c' = .ok s' ∧ ∀ path role, s'.allows path role = s.allows path role := by
  obtain ⟨rules, hlists, hsorted⟩ := ofConfig_eq_ok_iff.1 hs
  have hdeciding {path : String} {r : Rule} : s.deciding? path = some r ↔ ∃ i, Foremost rules path i r :=
    deciding_iff (ofConfig_ordered hs) (congrArg RuleSet.rules hsorted)
  refine ⟨rules, hlists, fun path role => ?_, fun path hnone role => ?_, fun c' hr => ?_⟩
  · simp only [allows, Option.any_eq_true, hdeciding]
    exact ⟨fun ⟨r, ⟨i, hr⟩, hpermits⟩ => ⟨i, r, hr, hpermits⟩, fun ⟨i, r, hr, hpermits⟩ => ⟨r, ⟨i, hr⟩, hpermits⟩⟩
  · rw [allows, Option.any_eq_false]
    intro d hd
    obtain ⟨i, hi⟩ := hdeciding.1 hd
    exact absurd hi.matching (hnone d (List.mem_of_getElem? hi.listed))
  · exact ⟨s, ofConfig_rearranged hs hr, fun _ _ => rfl⟩

namespace Tied

/-- One prefix in two lists: for readers only, and open to all. -/
def config : AuthzConfig := { allow := ["/v1/data:reader"], allowAny := ["/v1/data"] }

def set : RuleSet := ⟨[⟨"/v1/data", .roles ["reader"]⟩, ⟨"/v1/data", .anyone⟩]⟩

theorem read : ofConfig config = .ok set := by
  have hsorted : set.rules = set.rules.mergeSort fun a b => decide (b.weight ≤ a.weight) := by
    simp [List.mergeSort, List.MergeSort.Internal.splitInTwo, set, Rule.weight]
  exact ofConfig_eq_ok_iff.2
    ⟨set.rules, ⟨[⟨"/v1/data", .roles ["reader"]⟩], [⟨"/v1/data", .anyone⟩], [], rfl, rfl, rfl, rfl⟩,
      congrArg RuleSet.mk hsorted⟩

end Tied

open Tied in
/-- Of two prefixes of one length that in the first list decides. -/
theorem allows_iff_foremost_permits_tied :
    ofConfig config = .ok set ∧ set.allows "/v1/data/7" "reader" = true ∧ set.allows "/v1/data/7" "writer" = false ∧
      ∃ rules, Lists config rules ∧
        (∀ path role, set.allows path role = true ↔ ∃ i r, Foremost rules path i r ∧ r.permits role = true) ∧
        (∀ path, (∀ r ∈ rules, ¬ r.Matches path) → ∀ role, set.allows path role = false) ∧
        ∀ c', Rearranged config c' →
          ∃ s', ofConfig c' = .ok s' ∧ ∀ path role, s'.allows path role = set.allows path role :=
  ⟨read, by decide +kernel, by decide +kernel, allows_iff_foremost_permits read⟩

end ServiceHost.Authz
