/-
  ServiceHost.Proofs.Authz.Reading — which entries are read, and as what rules.

  An entry of `allow` is read if and only if it starts with a slash and names a role after
  its first colon, an entry of the other two lists if and only if it starts with a slash.
  Settings are read if and only if every entry is. The rules then stand list by list, in
  the order of the entries (`listed_eq_ok_iff`).
-/

import ServiceHost.Authz
import ServiceHost.Proofs.Text.Blank
import ServiceHost.Proofs.Text.Cut

namespace ServiceHost

namespace Authz

open ServiceHost.Text ServiceHost.Config

/-! ## Lists of entries -/

/-- All entries are read if and only if each is, and what they are read as keeps their order. -/
theorem mapM_eq_ok_iff {α β ε : Type} {f : α → Except ε β} {es : List α} {bs : List β} :
    es.mapM f = .ok bs ↔ es.map f = bs.map .ok := by
  induction es generalizing bs with
  | nil => cases bs <;> simp [pure, Except.pure]
  | cons e es ih =>
    rw [List.mapM_cons]
    cases he : f e with
    | error x => cases bs <;> simp [bind, Except.bind, he]
    | ok b =>
      cases hes : es.mapM f with
      | error x => cases bs <;> simp [bind, Except.bind, he, ← ih, hes]
      | ok rest => cases bs <;> simp [bind, Except.bind, pure, Except.pure, he, ← ih, hes]

theorem exists_map_ok_iff {α β ε : Type} {f : α → Except ε β} {es : List α} :
    (∃ bs : List β, es.map f = bs.map .ok) ↔ ∀ e ∈ es, ∃ b, f e = .ok b := by
  constructor
  · rintro ⟨bs, hbs⟩ e he
    have hmem : f e ∈ bs.map .ok := hbs ▸ List.mem_map_of_mem he
    obtain ⟨b, -, hb⟩ := List.mem_map.1 hmem
    exact ⟨b, hb.symm⟩
  · intro h
    induction es with
    | nil => exact ⟨[], rfl⟩
    | cons e es ih =>
      obtain ⟨b, hb⟩ := h e (.head es)
      obtain ⟨bs, hbs⟩ := ih fun e' he' => h e' (.tail e he')
      exact ⟨b :: bs, by rw [List.map_cons, List.map_cons, hb, hbs]⟩

/-! ## Entries -/

/-- Between two commas of a text there is something else than blanks. -/
def NamesRole (cs : List Char) : Prop := ∃ w ∈ cutAll ',' cs, ∃ ch ∈ w, isBlank ch = false

instance (cs : List Char) : Decidable (NamesRole cs) :=
  decidable_of_iff ((cutAll ',' cs).any fun w => w.any fun ch => !isBlank ch) (by simp [NamesRole])

namespace Rule

variable {entry : String} {r : Rule}

theorem roleList_ne_nil_iff {cs : List Char} : roleList cs ≠ [] ↔ NamesRole cs := by
  have hword (w : List Char) : trimChars w ≠ [] ↔ ∃ ch ∈ w, isBlank ch = false := by
    rw [Ne, trimChars_eq_nil_iff]
    simp
  simp only [NamesRole, ← hword, roleList, Ne, List.filterMap_eq_nil_iff, List.forall_mem_map]
  simp

theorem ofAllow_eq_ok_iff : ofAllow entry = .ok r ↔ ∃ stem rest, entry.toList = stem ++ ':' :: rest ∧ ':' ∉ stem ∧
    stem.head? = some '/' ∧ NamesRole rest ∧ r = ⟨String.ofList stem, .roles (roleList rest)⟩ := by
  rw [ofAllow]
  constructor
  · intro h
    split at h
    · next stem rest hcut =>
      obtain ⟨hentry, hcolon⟩ := cutFirst_eq_some_iff.1 hcut
      dsimp only at h
      split at h
      · next hform =>
        cases h
        exact ⟨stem, rest, hentry, hcolon, hform.1, roleList_ne_nil_iff.1 hform.2, rfl⟩
      · cases h
    · cases h
  · rintro ⟨stem, rest, hentry, hcolon, hslash, hrole, rfl⟩
    rw [cutFirst_eq_some_iff.2 ⟨hentry, hcolon⟩]
    exact if_pos ⟨hslash, roleList_ne_nil_iff.2 hrole⟩

theorem ofPath_eq_ok_iff {access : Access} :
    ofPath access entry = .ok r ↔ entry.toList.head? = some '/' ∧ r = ⟨entry, access⟩ := by
  rw [ofPath]
  split
  · next hslash => simp [hslash, eq_comm]
  · next hslash => simp [hslash]

end Rule

/-! ## Settings -/

def Lists (c : AuthzConfig) (rules : List Rule) : Prop :=
  ∃ allow anyone anyRole, c.allow.map Rule.ofAllow = allow.map .ok ∧
    c.allowAny.map (Rule.ofPath .anyone) = anyone.map .ok ∧
    c.allowAnyRole.map (Rule.ofPath .anyRole) = anyRole.map .ok ∧ rules = allow ++ anyone ++ anyRole

namespace RuleSet

variable {c : AuthzConfig} {rules : List Rule} {s : RuleSet}

theorem listed_eq_ok_iff : listed c = .ok rules ↔ Lists c rules := by
  simp only [Lists, ← mapM_eq_ok_iff]
  constructor
  · intro h
    rw [listed] at h
    cases hallow : c.allow.mapM Rule.ofAllow with
    | error e => rw [hallow] at h; cases h
    | ok allow =>
      cases hany : c.allowAny.mapM (Rule.ofPath .anyone) with
      | error e => rw [hallow, hany] at h; cases h
      | ok anyone =>
        cases hrole : c.allowAnyRole.mapM (Rule.ofPath .anyRole) with
        | error e => rw [hallow, hany, hrole] at h; cases h
        | ok anyRole =>
          rw [hallow, hany, hrole] at h
          cases h
          exact ⟨allow, anyone, anyRole, rfl, rfl, rfl, rfl⟩
  · rintro ⟨allow, anyone, anyRole, hallow, hany, hrole, rfl⟩
    rw [listed, hallow, hany, hrole]
    rfl

theorem ofConfig_eq_ok_iff :
    ofConfig c = .ok s ↔ ∃ rules, Lists c rules ∧ s = ⟨rules.mergeSort fun a b => b.weight ≤ a.weight⟩ := by
  simp only [← listed_eq_ok_iff]
  rw [ofConfig]
  cases hl : listed c with
  | error e => simp [bind, Except.bind]
  | ok rules => simp [bind, Except.bind, pure, Except.pure, eq_comm]

end RuleSet

end Authz

end ServiceHost
