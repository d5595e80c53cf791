/-
  ServiceHost.Proofs.Authz.Grammar — how an `allow` entry is written, and what its spelling
  makes no difference to.

  An entry with a colon is a prefix, the colon, and items with commas between them, in one
  way (`Written.unique`). It is read if and only if it starts with a slash and some item has
  something else than blanks; the rule then has the prefix, and the items without the
  blanks around them are its roles (`ofAllow_eq_ok_iff_written`, `mem_roleList`).

  A rule decides by its prefix and by which roles it lists (`Rule.sense`), whatever else is
  known of it. So items in another order, items that stand twice, blanks around an item and
  items of nothing but blanks change no decision of any rule set (`ofConfig_respelled`).
-/

import ServiceHost.Proofs.Authz.Reading

namespace ServiceHost.Authz

open ServiceHost.Text ServiceHost.Config

/-! ## Entries -/

/-- An entry is a prefix, a colon, and items with commas between them. -/
structure Written (entry : String) (stem : List Char) (items : List (List Char)) : Prop where
  text : entry.toList = stem ++ ':' :: [','].intercalate items
  colonless : ':' ∉ stem
  nonempty : items ≠ []
  commaless : ∀ w ∈ items, ',' ∉ w

/-- A text that is not empty and has no blank at its ends. -/
structure IsRole (role : List Char) : Prop where
  nonempty : role ≠ []
  front : ∀ c, role.head? = some c → isBlank c = false
  back : ∀ c, role.getLast? = some c → isBlank c = false

/-- A text with nothing but blanks around it. -/
def Pads (lead trail : List Char) : Prop := (∀ c ∈ lead, isBlank c = true) ∧ ∀ c ∈ trail, isBlank c = true

/-- One of the items is the role with blanks around it. -/
def Names (items : List (List Char)) (role : String) : Prop :=
  IsRole role.toList ∧ ∃ w ∈ items, ∃ lead trail, Pads lead trail ∧ w = lead ++ role.toList ++ trail

variable {entry entry' : String} {stem stem' : List Char} {items items' : List (List Char)} {role : String}

theorem isRole_iff {role : List Char} : IsRole role ↔ role ≠ [] ∧ trimChars role = role := by
  rw [trimChars_eq_self_iff]
  exact ⟨fun h => ⟨h.nonempty, h.front, h.back⟩, fun h => ⟨h.1, h.2.1, h.2.2⟩⟩

theorem names_iff : Names items role ↔ ∃ w ∈ items, trimChars w = role.toList ∧ role.toList ≠ [] := by
  constructor
  · rintro ⟨hrole, w, hw, lead, trail, hpads, htext⟩
    obtain ⟨hne, htrim⟩ := isRole_iff.1 hrole
    exact ⟨w, hw, trimChars_eq_iff.2 ⟨htrim, lead, trail, htext, hpads⟩, hne⟩
  · rintro ⟨w, hw, htrim, hne⟩
    obtain ⟨hself, lead, trail, htext, hpads⟩ := trimChars_eq_iff.1 htrim
    exact ⟨isRole_iff.2 ⟨hne, hself⟩, w, hw, lead, trail, hpads, htext⟩

theorem Written.cutAll (hw : Written entry stem items) : Text.cutAll ',' ([','].intercalate items) = items :=
  cutAll_eq_iff.2 ⟨hw.nonempty, hw.commaless, rfl⟩

theorem exists_written (h : ':' ∈ entry.toList) : ∃ stem items, Written entry stem items := by
  obtain ⟨stem, rest, htext, hcolon⟩ := List.eq_append_cons_of_mem h
  obtain ⟨hne, hcomma, hjoin⟩ := cutAll_eq_iff.1 (Eq.refl (Text.cutAll ',' rest))
  exact ⟨stem, Text.cutAll ',' rest, by rw [htext, hjoin], hcolon, hne, hcomma⟩

theorem Written.unique (hw : Written entry stem items) (hw' : Written entry stem' items') :
    stem' = stem ∧ items' = items := by
  have hcut := cutFirst_eq_some_iff.2 ⟨hw.text, hw.colonless⟩
  rw [cutFirst_eq_some_iff.2 ⟨hw'.text, hw'.colonless⟩, Option.some.injEq, Prod.mk.injEq] at hcut
  refine ⟨hcut.1, ?_⟩
  rw [← hw'.cutAll, hcut.2, hw.cutAll]

/-! ## Reading them -/

namespace Rule

variable {r : Rule}

theorem mem_roleList {cs : List Char} : role ∈ roleList cs ↔ Names (cutAll ',' cs) role := by
  simp only [names_iff, roleList, List.mem_filterMap, List.mem_map, exists_exists_and_eq_and]
  refine exists_congr fun w => and_congr_right fun _ => ?_
  by_cases hw : trimChars w = []
  · rw [if_pos (by simp [hw]), hw]
    constructor
    · intro h
      cases h
    · intro h
      exact absurd h.1.symm h.2
  · rw [if_neg (by simpa using hw), Option.some.injEq]
    constructor
    · rintro rfl
      rw [String.toList_ofList]
      exact ⟨rfl, hw⟩
    · rintro ⟨htrim, -⟩
      rw [htrim, String.ofList_toList]

theorem ofAllow_eq_ok_iff_written (hw : Written entry stem items) :
    ofAllow entry = .ok r ↔ stem.head? = some '/' ∧ (∃ w ∈ items, ∃ c ∈ w, isBlank c = false) ∧
      r = ⟨String.ofList stem, .roles (roleList ([','].intercalate items))⟩ := by
  have hroles : NamesRole ([','].intercalate items) ↔ ∃ w ∈ items, ∃ c ∈ w, isBlank c = false := by
    rw [NamesRole, hw.cutAll]
  rw [ofAllow_eq_ok_iff, ← hroles]
  constructor
  · rintro ⟨stem', rest, htext, hcolon, hslash, hnames, rfl⟩
    have hcut := cutFirst_eq_some_iff.2 ⟨hw.text, hw.colonless⟩
    rw [cutFirst_eq_some_iff.2 ⟨htext, hcolon⟩, Option.some.injEq, Prod.mk.injEq] at hcut
    obtain ⟨rfl, rfl⟩ := hcut
    exact ⟨hslash, hnames, rfl⟩
  · rintro ⟨hslash, hnames, rfl⟩
    exact ⟨stem, _, hw.text, hw.colonless, hslash, hnames, rfl⟩

theorem ofAllow_error {e : Error} (h : ofAllow entry = .error e) : e = .invalidRule entry := by
  unfold ofAllow at h
  split at h
  · dsimp only at h
    split at h <;> cases h
    rfl
  · cases h
    rfl

/-- What a rule decides with: its prefix, and whom it permits. -/
def sense (r : Rule) : String × (String → Bool) := (r.stem, r.permits)

end Rule

/-! ## What makes no difference -/

namespace RuleSet

variable {s s' : RuleSet} {rules rules' : List Rule}

theorem allows_of_sense (h : s'.rules.map Rule.sense = s.rules.map Rule.sense) (path role : String) :
    s'.allows path role = s.allows path role := by
  have hsense (s : RuleSet) : s.allows path role =
      ((s.rules.map Rule.sense).find? fun p => Rule.covers ⟨p.1, .anyone⟩ path).any fun p => p.2 role := by
    rw [List.find?_map, Option.any_map]
    rfl
  rw [hsense, hsense, h]

theorem sorted_of_sense (h : rules'.map Rule.sense = rules.map Rule.sense) :
    (rules'.mergeSort fun a b => b.weight ≤ a.weight).map Rule.sense =
      (rules.mergeSort fun a b => b.weight ≤ a.weight).map Rule.sense := by
  have hsort (rules : List Rule) : (rules.mergeSort fun a b => b.weight ≤ a.weight).map Rule.sense =
      (rules.map Rule.sense).mergeSort fun p q => q.1.utf8ByteSize ≤ p.1.utf8ByteSize :=
    List.map_mergeSort fun _ _ _ _ => rfl
  rw [hsort, hsort, h]

end RuleSet

/-- Items written in another way: in another order, again, with other blanks, or with blank ones among them. -/
inductive Respelled : List (List Char) → List (List Char) → Prop
  | reordered {items items' : List (List Char)} : items.Perm items' → Respelled items items'
  | again {w : List Char} {items : List (List Char)} : w ∈ items → Respelled items (w :: items)
  | padded {lead trail : List Char} (w : List Char) (items : List (List Char)) : Pads lead trail →
      Respelled (w :: items) ((lead ++ w ++ trail) :: items)
  | blank {w : List Char} (items : List (List Char)) : (∀ c ∈ w, isBlank c = true) → Respelled items (w :: items)
  | symm {items items' : List (List Char)} : Respelled items items' → Respelled items' items
  | trans {items mid items' : List (List Char)} : Respelled items mid → Respelled mid items' → Respelled items items'

/-- The items name the same roles. -/
theorem Respelled.names (hr : Respelled items items') (role : String) : Names items' role ↔ Names items role := by
  induction hr with
  | reordered hp => simp only [names_iff, hp.mem_iff]
  | @again w items hw =>
    simp only [names_iff, List.mem_cons, or_and_right, exists_or, exists_eq_left]
    exact or_iff_right_of_imp fun h => ⟨w, hw, h⟩
  | @padded lead trail w items hp =>
    simp only [names_iff, List.mem_cons, or_and_right, exists_or, exists_eq_left, trimChars_padded hp.1 hp.2]
  | @blank w items hw =>
    simp only [names_iff, List.mem_cons, or_and_right, exists_or, exists_eq_left, trimChars_eq_nil_iff.2 hw]
    exact or_iff_right_of_imp fun h => absurd h.1.symm h.2
  | symm _ ih => exact ih.symm
  | trans _ _ ih ih' => exact ih'.trans ih

theorem exists_names_iff : (∃ role, Names items role) ↔ ∃ w ∈ items, ∃ c ∈ w, isBlank c = false := by
  have hword (w : List Char) : (∃ c ∈ w, isBlank c = false) ↔ trimChars w ≠ [] := by
    rw [Ne, trimChars_eq_nil_iff]
    simp
  simp only [names_iff, hword]
  constructor
  · rintro ⟨role, w, hw, htrim, hne⟩
    exact ⟨w, hw, htrim ▸ hne⟩
  · rintro ⟨w, hw, hne⟩
    exact ⟨String.ofList (trimChars w), w, hw, by rw [String.toList_ofList]; exact ⟨rfl, hne⟩⟩

/-- An entry with items written in another way is read as a rule that decides alike. -/
theorem Respelled.sense (hr : Respelled items items') (hw : Written entry stem items)
    (hw' : Written entry' stem items') {r : Rule} (h : Rule.ofAllow entry = .ok r) :
    ∃ r', Rule.ofAllow entry' = .ok r' ∧ r'.sense = r.sense := by
  obtain ⟨hslash, hitem, rfl⟩ := (Rule.ofAllow_eq_ok_iff_written hw).1 h
  have hitem' : ∃ w ∈ items', ∃ c ∈ w, isBlank c = false := by
    obtain ⟨role, hrole⟩ := exists_names_iff.2 hitem
    exact exists_names_iff.1 ⟨role, (hr.names role).2 hrole⟩
  refine ⟨_, (Rule.ofAllow_eq_ok_iff_written hw').2 ⟨hslash, hitem', rfl⟩, ?_⟩
  refine Prod.ext rfl (funext fun role => Bool.eq_iff_iff.2 ?_)
  simp only [Rule.sense, Rule.permits, List.contains_iff_mem, Rule.mem_roleList, hw.cutAll, hw'.cutAll]
  exact hr.names role

variable {c : AuthzConfig} {before after : List String} {s : RuleSet}

/-- One entry of the settings written in another way changes no decision. -/
theorem ofConfig_respelled (hr : Respelled items items') (hw : Written entry stem items)
    (hw' : Written entry' stem items')
    (hs : RuleSet.ofConfig { c with allow := before ++ entry :: after } = .ok s) :
    ∃ s', RuleSet.ofConfig { c with allow := before ++ entry' :: after } = .ok s' ∧
      ∀ path role, s'.allows path role = s.allows path role := by
  obtain ⟨_, ⟨allow, anyone, anyRole, hallow, hany, hrole, rfl⟩, rfl⟩ := RuleSet.ofConfig_eq_ok_iff.1 hs
  simp only [List.map_append, List.map_cons] at hallow
  obtain ⟨front, rest, rfl, hfront, hrest⟩ := List.map_eq_append_iff.1 hallow.symm
  obtain ⟨r, back, rfl, hread, hback⟩ := List.map_eq_cons_iff.1 hrest
  obtain ⟨r', hread', hsense⟩ := hr.sense hw hw' hread.symm
  have hlists : Lists { c with allow := before ++ entry' :: after } ((front ++ r' :: back) ++ anyone ++ anyRole) := by
    refine ⟨front ++ r' :: back, anyone, anyRole, ?_, hany, hrole, rfl⟩
    rw [List.map_append, List.map_cons, List.map_append, List.map_cons, hfront, hback, hread']
  refine ⟨_, RuleSet.ofConfig_eq_ok_iff.2 ⟨_, hlists, rfl⟩, RuleSet.allows_of_sense (RuleSet.sorted_of_sense ?_)⟩
  simp only [List.map_append, List.map_cons, hsense]

/-! ## The grammar -/

/-- What becomes of an `allow` entry. -/
structure Grammar (entry : String) : Prop where
  /-- With a colon in it, it is a prefix and items, in one way. -/
  parted : ':' ∈ entry.toList → ∃! p : List Char × List (List Char), Written entry p.1 p.2
  /-- It is read if it starts with a slash, has a colon, and has an item behind it that is not blank; and only then. -/
  accepted : (∃ r, Rule.ofAllow entry = .ok r) ↔ entry.toList.head? = some '/' ∧ ':' ∈ entry.toList ∧
    ∃ stem items, Written entry stem items ∧ ∃ w ∈ items, ∃ c ∈ w, isBlank c = false
  /-- The rule has the prefix, and the roles that the items name. -/
  rule : ∀ r, Rule.ofAllow entry = .ok r → ∃ items roles, Written entry r.stem.toList items ∧
    r.access = .roles roles ∧ ∀ role, role ∈ roles ↔ Names items role
  /-- What is refused is reported as it stands. -/
  refused : ∀ e, Rule.ofAllow entry = .error e → e = .invalidRule entry
  /-- With its items written in another way, wherever in the settings it stands, every decision is the same. -/
  respelled : ∀ (entry' : String) stem items items', Written entry stem items → Written entry' stem items' →
    Respelled items items' → ∀ (c : AuthzConfig) before after s,
      RuleSet.ofConfig { c with allow := before ++ entry :: after } = .ok s →
      ∃ s', RuleSet.ofConfig { c with allow := before ++ entry' :: after } = .ok s' ∧
        ∀ path role, s'.allows path role = s.allows path role
  /-- A prefix with a slash in front and roles, written as an entry, are read back as they are. -/
  readback : ∀ stem (roles : List String), Written entry stem (roles.map String.toList) → stem.head? = some '/' →
    (∀ role ∈ roles, IsRole role.toList) → Rule.ofAllow entry = .ok ⟨String.ofList stem, .roles roles⟩

theorem Rule.roleList_roles {roles : List String} (hw : Written entry stem (roles.map String.toList))
    (hroles : ∀ role ∈ roles, IsRole role.toList) : roleList ([','].intercalate (roles.map String.toList)) = roles := by
  have hread (roles : List String) (hroles : ∀ role ∈ roles, IsRole role.toList) :
      ((roles.map String.toList).map trimChars).filterMap (fun w => if w.isEmpty then none else some (String.ofList w)) =
        roles := by
    induction roles with
    | nil => rfl
    | cons role roles ih =>
      obtain ⟨hne, htrim⟩ := isRole_iff.1 (hroles role (.head _))
      rw [List.map_cons, List.map_cons, htrim, List.filterMap_cons, if_neg (by simpa using hne),
        String.ofList_toList, ih fun role hrole => hroles role (.tail _ hrole)]
  rw [roleList, hw.cutAll, hread roles hroles]

/--
  Of all texts those are read as rules that start with a slash, have a colon, and name a
  role behind it; the prefix is what comes before the first colon and the roles are the
  items without their blanks. How the roles are spelled decides nothing, and a prefix with
  roles reads back.
-/
theorem ofAllow_grammar (entry : String) : Grammar entry := by
  have hslash {stem : List Char} {items : List (List Char)} (hw : Written entry stem items) :
      entry.toList.head? = some '/' ↔ stem.head? = some '/' := by
    rw [hw.text]
    cases stem <;> simp
  constructor
  case parted =>
    intro hcolon
    obtain ⟨stem, items, hw⟩ := exists_written hcolon
    exact ⟨(stem, items), hw, fun p hp => Prod.ext (hw.unique hp).1 (hw.unique hp).2⟩
  case accepted =>
    constructor
    · rintro ⟨r, hr⟩
      obtain ⟨stem, rest, htext, -⟩ := Rule.ofAllow_eq_ok_iff.1 hr
      have hcolon : ':' ∈ entry.toList := by simp [htext]
      obtain ⟨stem, items, hw⟩ := exists_written hcolon
      obtain ⟨hstem, hitem, -⟩ := (Rule.ofAllow_eq_ok_iff_written hw).1 hr
      exact ⟨(hslash hw).2 hstem, hcolon, stem, items, hw, hitem⟩
    · rintro ⟨hhead, -, stem, items, hw, hitem⟩
      exact ⟨_, (Rule.ofAllow_eq_ok_iff_written hw).2 ⟨(hslash hw).1 hhead, hitem, rfl⟩⟩
  case rule =>
    intro r hr
    obtain ⟨stem, rest, htext, -⟩ := Rule.ofAllow_eq_ok_iff.1 hr
    have hcolon : ':' ∈ entry.toList := by simp [htext]
    obtain ⟨stem, items, hw⟩ := exists_written hcolon
    obtain ⟨-, -, rfl⟩ := (Rule.ofAllow_eq_ok_iff_written hw).1 hr
    refine ⟨items, _, by rwa [String.toList_ofList], rfl, fun role => ?_⟩
    rw [Rule.mem_roleList, hw.cutAll]
  case refused => exact fun e => Rule.ofAllow_error
  case respelled => exact fun entry' stem items items' hw hw' hr c before after s => ofConfig_respelled hr hw hw'
  case readback =>
    intro stem roles hw hstem hroles
    have hitem : ∃ w ∈ roles.map String.toList, ∃ c ∈ w, isBlank c = false := by
      obtain ⟨role, hrole⟩ := List.exists_mem_of_ne_nil _ fun hnil => hw.nonempty (congrArg (List.map String.toList) hnil)
      refine exists_names_iff.1 ⟨role, hroles role hrole, role.toList, List.mem_map_of_mem hrole, [], [], ?_, ?_⟩
      · exact ⟨List.forall_mem_nil _, List.forall_mem_nil _⟩
      · simp
    rw [Rule.ofAllow_eq_ok_iff_written hw, Rule.roleList_roles hw hroles]
    exact ⟨hstem, hitem, rfl⟩

/-- The first colon ends the prefix, and blank items are no roles. -/
example : Rule.ofAllow "/: ops,\u00a0,a:b " = .ok ⟨"/", .roles ["ops", "a:b"]⟩ := by decide

end ServiceHost.Authz
