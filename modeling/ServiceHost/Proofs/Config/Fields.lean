/-
  ServiceHost.Proofs.Config.Fields — the fields of the settings: how their values are
  written and read, and what they are when nothing is written.

  A kind of value is read from the documents that write it and from no others (`Kind`). A
  field has the value written in its place, or its default (`Field.Given`). A section is
  read field by field: there are settings exactly if each field has its value, and none
  exactly if some field has no value (`Schema`). So a section is a kind of value again,
  and the settings of a host, whose fields are sections, are one too.
-/

import ServiceHost.Config.Reading

namespace ServiceHost

/-! ## Entries by key -/

namespace Document

variable {key : String} {d : Document} {es es' : List (String × Document)}

theorem find?_eq_some_iff (hn : (es.map (·.1)).Nodup) : find? key es = some d ↔ (key, d) ∈ es := by
  induction es with
  | nil => simp [find?]
  | cons e es ih =>
    rw [List.map_cons, List.nodup_cons] at hn
    by_cases hk : e.1 = key
    · have hfirst : find? key (e :: es) = some e.2 := by simp [find?, hk]
      rw [hfirst, Option.some.injEq, List.mem_cons, Prod.ext_iff]
      constructor
      · rintro rfl
        exact .inl ⟨hk.symm, rfl⟩
      · rintro (⟨-, rfl⟩ | hmem)
        · rfl
        · exact absurd (hk ▸ List.mem_map_of_mem hmem) hn.1
    · have hrest : find? key (e :: es) = find? key es := by simp [find?, hk]
      rw [hrest, ih hn.2, List.mem_cons, Prod.ext_iff]
      exact (or_iff_right fun h => hk h.1.symm).symm

theorem find?_perm (hp : es.Perm es') (hn : (es.map (·.1)).Nodup) : find? key es' = find? key es := by
  refine Option.ext fun d => ?_
  rw [find?_eq_some_iff hn, find?_eq_some_iff ((hp.map _).nodup_iff.1 hn), hp.mem_iff]

/-! ## Leaving out nulls -/

mutual

/-- The document without the entries that are null, in its table and in the tables in that. -/
def withoutNulls : Document → Document
  | table es => table (withoutNullEntries es)
  | d => d

def withoutNullEntries : List (String × Document) → List (String × Document)
  | [] => []
  | (_, null) :: es => withoutNullEntries es
  | (key, d) :: es => (key, withoutNulls d) :: withoutNullEntries es

end

theorem withoutNulls_ne_null (hd : d ≠ null) : d.withoutNulls ≠ null := by
  cases d with
  | null => exact absurd rfl hd
  | _ => nofun

theorem withoutNullEntries_cons (hd : d ≠ null) :
    withoutNullEntries ((key, d) :: es) = (key, withoutNulls d) :: withoutNullEntries es := by
  cases d with
  | null => exact absurd rfl hd
  | _ => rfl

theorem mem_withoutNullEntries :
    (key, d) ∈ withoutNullEntries es ↔ ∃ d', (key, d') ∈ es ∧ d' ≠ null ∧ d = withoutNulls d' := by
  induction es with
  | nil => simp [withoutNullEntries]
  | cons e es ih =>
    obtain ⟨key', d'⟩ := e
    by_cases hd : d' = null
    · subst hd
      rw [withoutNullEntries, ih]
      simp only [List.mem_cons, Prod.mk.injEq]
      exact exists_congr fun d'' => and_congr_left fun hne => (or_iff_right fun h => hne.1 h.2).symm
    · simp only [withoutNullEntries_cons hd, List.mem_cons, Prod.mk.injEq, ih]
      constructor
      · rintro (⟨rfl, rfl⟩ | ⟨d'', hmem, hne, rfl⟩)
        · exact ⟨d', .inl ⟨rfl, rfl⟩, hd, rfl⟩
        · exact ⟨d'', .inr hmem, hne, rfl⟩
      · rintro ⟨d'', ⟨rfl, rfl⟩ | hmem, hne, rfl⟩
        · exact .inl ⟨rfl, rfl⟩
        · exact .inr ⟨d'', hmem, hne, rfl⟩

theorem keys_withoutNullEntries (es : List (String × Document)) :
    ((withoutNullEntries es).map (·.1)).Sublist (es.map (·.1)) := by
  induction es with
  | nil => exact .slnil
  | cons e es ih =>
    obtain ⟨key, d⟩ := e
    by_cases hd : d = null
    · subst hd
      exact ih.cons _
    · rw [withoutNullEntries_cons hd]
      exact ih.cons_cons _

theorem find?_withoutNullEntries (hn : (es.map (·.1)).Nodup) (hd : (key, d) ∈ es) :
    find? key (withoutNullEntries es) = some d.withoutNulls ∧ d ≠ null ∨
      find? key (withoutNullEntries es) = none ∧ d = null := by
  have hn' := hn.sublist (keys_withoutNullEntries es)
  by_cases hnull : d = null
  · refine .inr ⟨?_, hnull⟩
    rw [Option.eq_none_iff_forall_ne_some]
    intro d' hd'
    obtain ⟨d'', hmem, hne, -⟩ := mem_withoutNullEntries.1 ((find?_eq_some_iff hn').1 hd')
    have hsame := ((find?_eq_some_iff hn).2 hd).symm.trans ((find?_eq_some_iff hn).2 hmem)
    exact hne (Option.some.inj hsame ▸ hnull)
  · exact .inl ⟨(find?_eq_some_iff hn').2 (mem_withoutNullEntries.2 ⟨d, hd, hnull, rfl⟩), hnull⟩

end Document

namespace Config

open ServiceHost.Decimal (Binary64)

/-! ## Kinds of values -/

inductive WritesText : Document → String → Prop
  | text (s : String) : WritesText (.text s) s

inductive WritesFlag : Document → Bool → Prop
  | bool (b : Bool) : WritesFlag (.bool b) b

/-- An integer that fits an unsigned 64-bit word. -/
inductive WritesWord : Document → Nat → Prop
  | int {n : Nat} (fits : n < pow2 64) : WritesWord (.int n) n

/-- A double, or an integer for the one nearest to it. -/
inductive WritesReal : Document → Binary64 → Prop
  | real (x : Binary64) : WritesReal (.real x) x
  | int (i : Int) : WritesReal (.int i) (.ofInt i)

inductive WritesTexts : Document → List String → Prop
  | list (xs : List String) : WritesTexts (.list (xs.map .text)) xs

/-- Null for no value. -/
inductive OrNull {α : Type} (Writes : Document → α → Prop) : Document → Option α → Prop
  | null : OrNull Writes .null none
  | value {d : Document} {v : α} (notNull : d ≠ .null) (writes : Writes d v) : OrNull Writes d (some v)

/-- A kind of values: which documents write which value, the reader of them, and how a value that fits is written. -/
structure Kind (α : Type) where
  Writes : Document → α → Prop
  read : Document → Option α
  read_eq_some_iff : ∀ {d : Document} {v : α}, read d = some v ↔ Writes d v
  write : α → Document
  Fits : α → Prop
  writes_write : ∀ {v : α}, Fits v → Writes (write v) v
  /-- Nulls in it can be left out. -/
  writes_withoutNulls : ∀ {v : α}, Fits v → write v ≠ .null → Writes (write v).withoutNulls v

namespace Kind

variable {α : Type} {d : Document} {v v' : α}

theorem read_eq_none_iff (k : Kind α) : k.read d = none ↔ ∀ v, ¬ k.Writes d v := by
  simp only [Option.eq_none_iff_forall_ne_some, ne_eq, k.read_eq_some_iff]

theorem writes_unique (k : Kind α) (h : k.Writes d v) (h' : k.Writes d v') : v = v' :=
  Option.some.inj ((k.read_eq_some_iff.2 h).symm.trans (k.read_eq_some_iff.2 h'))

def text : Kind String where
  Writes := WritesText
  read := Document.text?
  read_eq_some_iff {d s} := by
    constructor
    · intro h
      cases d <;> cases h
      exact .text s
    · rintro ⟨⟩
      rfl
  write := .text
  Fits _ := True
  writes_write _ := .text _
  writes_withoutNulls _ _ := .text _

def flag : Kind Bool where
  Writes := WritesFlag
  read := Document.flag?
  read_eq_some_iff {d b} := by
    constructor
    · intro h
      cases d <;> cases h
      exact .bool b
    · rintro ⟨⟩
      rfl
  write := .bool
  Fits _ := True
  writes_write _ := .bool _
  writes_withoutNulls _ _ := .bool _

def word : Kind Nat where
  Writes := WritesWord
  read := word?
  read_eq_some_iff {d n} := by
    constructor
    · intro h
      cases d with
      | int i =>
        simp only [word?, Option.ite_none_right_eq_some, Option.some.injEq] at h
        obtain ⟨⟨hpos, hfits⟩, rfl⟩ := h
        have hint : i = i.toNat := (Int.toNat_of_nonneg hpos).symm
        have hword : WritesWord (.int i.toNat) i.toNat := .int (by omega)
        rwa [← hint] at hword
      | _ => cases h
    · rintro ⟨hfits⟩
      simp only [word?, Option.ite_none_right_eq_some, Int.toNat_natCast]
      exact ⟨by omega, trivial⟩
  write := .ofNat
  Fits n := n < pow2 64
  writes_write h := .int h
  writes_withoutNulls h _ := .int h

def real : Kind Binary64 where
  Writes := WritesReal
  read := real?
  read_eq_some_iff {d x} := by
    constructor
    · intro h
      cases d <;> cases h
      · exact .int _
      · exact .real x
    · rintro ⟨⟩ <;> rfl
  write := .real
  Fits _ := True
  writes_write _ := .real _
  writes_withoutNulls _ _ := .real _

theorem mapM_text_eq_some_iff {ds : List Document} {xs : List String} :
    ds.mapM Document.text? = some xs ↔ ds = xs.map .text := by
  induction ds generalizing xs with
  | nil => simp
  | cons d ds ih =>
    have htext {s : String} : Document.text? d = some s ↔ WritesText d s := text.read_eq_some_iff
    simp only [List.mapM_cons, Option.bind_eq_bind, Option.bind_eq_some_iff, htext, ih, Option.pure_def,
      Option.some.injEq]
    constructor
    · rintro ⟨s, ⟨⟩, ss, rfl, rfl⟩
      rfl
    · intro h
      obtain ⟨s, ss, rfl, rfl, rfl⟩ := List.map_eq_cons_iff.1 h.symm
      exact ⟨s, .text s, ss, rfl, rfl⟩

def texts : Kind (List String) where
  Writes := WritesTexts
  read := texts?
  read_eq_some_iff {d xs} := by
    constructor
    · intro h
      cases d with
      | list ds =>
        cases mapM_text_eq_some_iff.1 h
        exact .list xs
      | _ => cases h
    · rintro ⟨⟩
      exact mapM_text_eq_some_iff.2 rfl
  write := .texts
  Fits _ := True
  writes_write _ := .list _
  writes_withoutNulls _ _ := .list _

def orNull (k : Kind α) (hk : ∀ v, k.write v ≠ .null) : Kind (Option α) where
  Writes := OrNull k.Writes
  read := nullable k.read
  read_eq_some_iff {d v?} := by
    by_cases hd : d = .null
    · subst hd
      constructor
      · rintro ⟨⟩
        exact .null
      · rintro (_ | ⟨hnull, _⟩)
        · rfl
        · exact absurd rfl hnull
    · have hread : nullable k.read d = (k.read d).map some := by cases d <;> trivial
      rw [hread, Option.map_eq_some_iff]
      constructor
      · rintro ⟨v, hv, rfl⟩
        exact .value hd (k.read_eq_some_iff.1 hv)
      · rintro (_ | ⟨_, hv⟩)
        · exact absurd rfl hd
        · exact ⟨_, k.read_eq_some_iff.2 hv, rfl⟩
  write v? := (v?.map k.write).getD .null
  Fits v? := ∀ v, v? = some v → k.Fits v
  writes_write {v?} h := by
    cases v? with
    | none => exact .null
    | some v => exact .value (hk v) (k.writes_write (h v rfl))
  writes_withoutNulls {v?} h hne := by
    cases v? with
    | none => exact absurd rfl hne
    | some v => exact .value (Document.withoutNulls_ne_null (hk v)) (k.writes_withoutNulls (h v rfl) hne)

theorem default_of_null {k : Kind α} (hk : ∀ v, k.write v ≠ .null) {v? : Option α}
    (h : (k.orNull hk).write v? = .null) : some none = some v? := by
  cases v? with
  | none => rfl
  | some v => exact absurd h (hk v)

end Kind

/-! ## Fields -/

/-- A field of a section. One without a default has to be there. -/
structure Field (σ : Type) where
  name : String
  {Value : Type}
  kind : Kind Value
  value : σ → Value
  default? : Option Value

namespace Field

variable {σ : Type} {f : Field σ} {fs : Fields} {d? : Option Document} {v v' : f.Value}

/-- The field has a value: the one written in its place, or its default if nothing is there. -/
def Given (f : Field σ) : Option Document → f.Value → Prop
  | some d, v => f.kind.Writes d v
  | none, v => f.default? = some v

theorem given_unique (h : f.Given d? v) (h' : f.Given d? v') : v = v' := by
  cases d? with
  | none => exact Option.some.inj (h.symm.trans h')
  | some d => exact f.kind.writes_unique h h'

def read (f : Field σ) (fs : Fields) : Option f.Value :=
  match f.default? with
  | some v => fs.read f.name v f.kind.read
  | none => fs.need f.name f.kind.read

theorem read_eq_some_iff : f.read fs = some v ↔ f.Given (Document.find? f.name fs) v := by
  unfold read Given Fields.read Fields.need
  cases f.default? with
  | none =>
    cases Document.find? f.name fs with
    | none => simp
    | some d => exact f.kind.read_eq_some_iff
  | some v' =>
    cases Document.find? f.name fs with
    | none => rfl
    | some d => exact f.kind.read_eq_some_iff

/-- The reader of the field looks at its place only, and there at what its kind reads. -/
theorem read_congr {fs' : Fields}
    (h : (Document.find? f.name fs').map f.kind.read = (Document.find? f.name fs).map f.kind.read) :
    f.read fs' = f.read fs := by
  have hread (fs : Fields) : f.read fs = ((Document.find? f.name fs).map f.kind.read).getD f.default? := by
    unfold read Fields.read Fields.need
    cases f.default? <;> cases Document.find? f.name fs <;> rfl
  rw [hread, hread, h]

end Field

/-! ## Sections -/

/-- The fields of a section, with a reader that reads them and nothing else. -/
structure Schema (σ : Type) where
  fields : List (Field σ)
  read : Fields → Option σ
  read_eq_some_iff : ∀ {fs : Fields} {c : σ}, read fs = some c ↔ ∀ f ∈ fields, f.read fs = some (f.value c)
  /-- Any values of the fields make settings. -/
  free : ∀ P : (f : Field σ) → f.Value → Prop, (∀ f ∈ fields, ∃ v, P f v) → ∃ c, ∀ f ∈ fields, P f (f.value c)
  distinct : (fields.map (·.name)).Nodup
  /-- What is written as null can be left out. -/
  nulls : ∀ f ∈ fields, ∀ v, f.kind.write v = .null → f.default? = some v

namespace Schema

variable {σ : Type} {s : Schema σ} {fs fs' : Fields} {c : σ}

theorem read_eq_some_iff_given :
    s.read fs = some c ↔ ∀ f ∈ s.fields, f.Given (Document.find? f.name fs) (f.value c) := by
  simp only [s.read_eq_some_iff, Field.read_eq_some_iff]

theorem read_eq_none_iff :
    s.read fs = none ↔ ∃ f ∈ s.fields, ∀ v, ¬ f.Given (Document.find? f.name fs) v := by
  rw [Option.eq_none_iff_forall_ne_some]
  constructor
  · intro hnone
    refine Classical.byContradiction fun hall => ?_
    have hsome : ∀ f ∈ s.fields, ∃ v, f.Given (Document.find? f.name fs) v := fun f hf =>
      Classical.byContradiction fun hv => hall ⟨f, hf, fun v hgiven => hv ⟨v, hgiven⟩⟩
    obtain ⟨c, hc⟩ := s.free _ hsome
    exact hnone c (read_eq_some_iff_given.2 hc)
  · rintro ⟨f, hf, hv⟩ c hc
    exact hv _ (read_eq_some_iff_given.1 hc f hf)

theorem read_congr (h : ∀ f ∈ s.fields, f.read fs' = f.read fs) : s.read fs' = s.read fs := by
  refine Option.ext fun c => ?_
  simp only [s.read_eq_some_iff]
  exact forall₂_congr fun f hf => by rw [h f hf]

def entries (s : Schema σ) (c : σ) : Fields := s.fields.map fun f => (f.name, f.kind.write (f.value c))

theorem keys_entries (c : σ) : ((s.entries c).map (·.1)).Nodup := by
  rw [entries, List.map_map]
  exact s.distinct

theorem mem_entries {f : Field σ} (hf : f ∈ s.fields) (c : σ) : (f.name, f.kind.write (f.value c)) ∈ s.entries c :=
  List.mem_map_of_mem hf

theorem given_entries (hc : ∀ f ∈ s.fields, f.kind.Fits (f.value c)) :
    ∀ f ∈ s.fields, f.Given (Document.find? f.name (s.entries c)) (f.value c) := by
  intro f hf
  rw [(Document.find?_eq_some_iff (keys_entries c)).2 (mem_entries hf c)]
  exact f.kind.writes_write (hc f hf)

theorem given_withoutNulls (hc : ∀ f ∈ s.fields, f.kind.Fits (f.value c)) :
    ∀ f ∈ s.fields, f.Given (Document.find? f.name (Document.withoutNullEntries (s.entries c))) (f.value c) := by
  intro f hf
  rcases Document.find?_withoutNullEntries (keys_entries c) (mem_entries hf c) with ⟨hfind, hne⟩ | ⟨hfind, hnull⟩
  · rw [hfind]
    exact f.kind.writes_withoutNulls (hc f hf) hne
  · rw [hfind]
    exact s.nulls f hf _ hnull

def kind (s : Schema σ) (form : Form) : Kind σ where
  Writes d c := ∃ fs, form.fields? (s.fields.map (·.name)) d = some fs ∧
    ∀ f ∈ s.fields, f.Given (Document.find? f.name fs) (f.value c)
  read d := (form.fields? (s.fields.map (·.name)) d).bind s.read
  read_eq_some_iff := by simp only [Option.bind_eq_some_iff, read_eq_some_iff_given, implies_true]
  write c := .table (s.entries c)
  Fits c := ∀ f ∈ s.fields, f.kind.Fits (f.value c)
  writes_write hc := ⟨_, rfl, given_entries hc⟩
  writes_withoutNulls hc _ := ⟨_, rfl, given_withoutNulls hc⟩

theorem write_ne_null (s : Schema σ) (form : Form) (c : σ) : (s.kind form).write c ≠ .null := nofun

end Schema

/-! ## The sections of the settings -/

def HttpConfig.schema : Schema HttpConfig where
  fields :=
    [⟨"service_name", .text, (·.serviceName), some "service-hub"⟩,
     ⟨"bind_addr", .text, (·.bindAddr), some "0.0.0.0:8080"⟩,
     ⟨"heartbeat_secs", .word, (·.heartbeatSecs), some 0⟩,
     ⟨"allow_profiling", .flag, (·.allowProfiling), some false⟩,
     ⟨"profiler_dir", .orNull .text nofun, (·.profilerDir), some none⟩,
     ⟨"profiler_sample_rate", .real, (·.profilerSampleRate), some onePercent⟩,
     ⟨"shutdown_grace_secs", .word, (·.shutdownGraceSecs), some 10⟩,
     ⟨"max_request_size", .word, (·.maxRequestSize), some 67108864⟩]
  read := HttpConfig.ofFields?
  read_eq_some_iff {fs c} := by
    simp only [List.forall_mem_cons, List.not_mem_nil, false_implies, implies_true, and_true, ofFields?,
      Option.bind_eq_bind, Option.bind_eq_some_iff, Option.pure_def, Option.some.injEq]
    constructor
    · rintro ⟨_, h₁, _, h₂, _, h₃, _, h₄, _, h₅, _, h₆, _, h₇, _, h₈, rfl⟩
      exact ⟨h₁, h₂, h₃, h₄, h₅, h₆, h₇, h₈⟩
    · rintro ⟨h₁, h₂, h₃, h₄, h₅, h₆, h₇, h₈⟩
      exact ⟨_, h₁, _, h₂, _, h₃, _, h₄, _, h₅, _, h₆, _, h₇, _, h₈, rfl⟩
  free P hP := by
    simp only [List.forall_mem_cons, List.not_mem_nil, false_implies, implies_true, and_true] at hP ⊢
    obtain ⟨⟨v₁, h₁⟩, ⟨v₂, h₂⟩, ⟨v₃, h₃⟩, ⟨v₄, h₄⟩, ⟨v₅, h₅⟩, ⟨v₆, h₆⟩, ⟨v₇, h₇⟩, v₈, h₈⟩ := hP
    exact ⟨⟨v₁, v₂, v₃, v₄, v₅, v₆, v₇, v₈⟩, h₁, h₂, h₃, h₄, h₅, h₆, h₇, h₈⟩
  distinct := (by decide : HttpConfig.names.Nodup)
  nulls := by
    simp only [List.forall_mem_cons, List.not_mem_nil, false_implies, implies_true, and_true]
    exact ⟨nofun, nofun, nofun, nofun, fun _ => Kind.default_of_null _, nofun, nofun, nofun⟩

def TlsConfig.schema : Schema TlsConfig where
  fields :=
    [⟨"cert_file", .text, (·.certFile), none⟩,
     ⟨"key_file", .text, (·.keyFile), none⟩,
     ⟨"trusted_ca_file", .orNull .text nofun, (·.trustedCaFile), some none⟩,
     ⟨"client_cert_auth", .orNull .flag nofun, (·.clientCertAuth), some none⟩,
     ⟨"reload_interval_secs", .word, (·.reloadIntervalSecs), some 5⟩,
     ⟨"expiry_check_secs", .word, (·.expiryCheckSecs), some 3600⟩]
  read := TlsConfig.ofFields?
  read_eq_some_iff {fs c} := by
    simp only [List.forall_mem_cons, List.not_mem_nil, false_implies, implies_true, and_true, ofFields?,
      Option.bind_eq_bind, Option.bind_eq_some_iff, Option.pure_def, Option.some.injEq]
    constructor
    · rintro ⟨_, h₁, _, h₂, _, h₃, _, h₄, _, h₅, _, h₆, rfl⟩
      exact ⟨h₁, h₂, h₃, h₄, h₅, h₆⟩
    · rintro ⟨h₁, h₂, h₃, h₄, h₅, h₆⟩
      exact ⟨_, h₁, _, h₂, _, h₃, _, h₄, _, h₅, _, h₆, rfl⟩
  free P hP := by
    simp only [List.forall_mem_cons, List.not_mem_nil, false_implies, implies_true, and_true] at hP ⊢
    obtain ⟨⟨v₁, h₁⟩, ⟨v₂, h₂⟩, ⟨v₃, h₃⟩, ⟨v₄, h₄⟩, ⟨v₅, h₅⟩, v₆, h₆⟩ := hP
    exact ⟨⟨v₁, v₂, v₃, v₄, v₅, v₆⟩, h₁, h₂, h₃, h₄, h₅, h₆⟩
  distinct := (by decide : TlsConfig.names.Nodup)
  nulls := by
    simp only [List.forall_mem_cons, List.not_mem_nil, false_implies, implies_true, and_true]
    exact ⟨nofun, nofun, fun _ => Kind.default_of_null _, fun _ => Kind.default_of_null _, nofun, nofun⟩

def AuthzConfig.schema : Schema AuthzConfig where
  fields :=
    [⟨"allow", .texts, (·.allow), some []⟩,
     ⟨"allow_any", .texts, (·.allowAny), some []⟩,
     ⟨"allow_any_role", .texts, (·.allowAnyRole), some []⟩]
  read := AuthzConfig.ofFields?
  read_eq_some_iff {fs c} := by
    simp only [List.forall_mem_cons, List.not_mem_nil, false_implies, implies_true, and_true, ofFields?,
      Option.bind_eq_bind, Option.bind_eq_some_iff, Option.pure_def, Option.some.injEq]
    constructor
    · rintro ⟨_, h₁, _, h₂, _, h₃, rfl⟩
      exact ⟨h₁, h₂, h₃⟩
    · rintro ⟨h₁, h₂, h₃⟩
      exact ⟨_, h₁, _, h₂, _, h₃, rfl⟩
  free P hP := by
    simp only [List.forall_mem_cons, List.not_mem_nil, false_implies, implies_true, and_true] at hP ⊢
    obtain ⟨⟨v₁, h₁⟩, ⟨v₂, h₂⟩, v₃, h₃⟩ := hP
    exact ⟨⟨v₁, v₂, v₃⟩, h₁, h₂, h₃⟩
  distinct := (by decide : AuthzConfig.names.Nodup)
  nulls := by
    simp only [List.forall_mem_cons, List.not_mem_nil, false_implies, implies_true, and_true]
    exact ⟨nofun, nofun, nofun⟩

def ObservabilityConfig.schema : Schema ObservabilityConfig where
  fields :=
    [⟨"log_level", .text, (·.logLevel), some "info"⟩,
     ⟨"log_format", .text, (·.logFormat), some "text"⟩,
     ⟨"metrics_enabled", .flag, (·.metricsEnabled), some true⟩,
     ⟨"metrics_address", .text, (·.metricsAddress), some "0.0.0.0:9090"⟩]
  read := ObservabilityConfig.ofFields?
  read_eq_some_iff {fs c} := by
    simp only [List.forall_mem_cons, List.not_mem_nil, false_implies, implies_true, and_true, ofFields?,
      Option.bind_eq_bind, Option.bind_eq_some_iff, Option.pure_def, Option.some.injEq]
    constructor
    · rintro ⟨_, h₁, _, h₂, _, h₃, _, h₄, rfl⟩
      exact ⟨h₁, h₂, h₃, h₄⟩
    · rintro ⟨h₁, h₂, h₃, h₄⟩
      exact ⟨_, h₁, _, h₂, _, h₃, _, h₄, rfl⟩
  free P hP := by
    simp only [List.forall_mem_cons, List.not_mem_nil, false_implies, implies_true, and_true] at hP ⊢
    obtain ⟨⟨v₁, h₁⟩, ⟨v₂, h₂⟩, ⟨v₃, h₃⟩, v₄, h₄⟩ := hP
    exact ⟨⟨v₁, v₂, v₃, v₄⟩, h₁, h₂, h₃, h₄⟩
  distinct := (by decide : ObservabilityConfig.names.Nodup)
  nulls := by
    simp only [List.forall_mem_cons, List.not_mem_nil, false_implies, implies_true, and_true]
    exact ⟨nofun, nofun, nofun, nofun⟩

/-! ## The parts of the settings -/

inductive Part where
  | http
  | tls
  | authz
  | observability

namespace Part

def name : Part → String
  | http => "http"
  | tls => "tls"
  | authz => "authz"
  | observability => "observability"

def names : Part → List String
  | http => HttpConfig.names
  | tls => TlsConfig.names
  | authz => AuthzConfig.names
  | observability => ObservabilityConfig.names

abbrev Settings : Part → Type
  | http => HttpConfig
  | tls => TlsConfig
  | authz => AuthzConfig
  | observability => ObservabilityConfig

def schema : (p : Part) → Schema p.Settings
  | http => HttpConfig.schema
  | tls => TlsConfig.schema
  | authz => AuthzConfig.schema
  | observability => ObservabilityConfig.schema

def field (form : Form) : Part → Field HostConfig
  | http => ⟨"http", HttpConfig.schema.kind form, (·.http), some {}⟩
  | tls => ⟨"tls", (TlsConfig.schema.kind form).orNull (TlsConfig.schema.write_ne_null form), (·.tls), some none⟩
  | authz => ⟨"authz", AuthzConfig.schema.kind form, (·.authz), some {}⟩
  | observability => ⟨"observability", ObservabilityConfig.schema.kind form, (·.observability), some {}⟩

end Part

def HostConfig.schema (form : Form) : Schema HostConfig where
  fields := [Part.http.field form, Part.tls.field form, Part.authz.field form, Part.observability.field form]
  read := HostConfig.ofFields? form
  read_eq_some_iff {fs c} := by
    simp only [List.forall_mem_cons, List.not_mem_nil, false_implies, implies_true, and_true, ofFields?,
      Option.bind_eq_bind, Option.bind_eq_some_iff, Option.pure_def, Option.some.injEq]
    constructor
    · rintro ⟨_, h₁, _, h₂, _, h₃, _, h₄, rfl⟩
      exact ⟨h₁, h₂, h₃, h₄⟩
    · rintro ⟨h₁, h₂, h₃, h₄⟩
      exact ⟨_, h₁, _, h₂, _, h₃, _, h₄, rfl⟩
  free P hP := by
    simp only [List.forall_mem_cons, List.not_mem_nil, false_implies, implies_true, and_true] at hP ⊢
    obtain ⟨⟨v₁, h₁⟩, ⟨v₂, h₂⟩, ⟨v₃, h₃⟩, v₄, h₄⟩ := hP
    exact ⟨⟨v₁, v₂, v₃, v₄⟩, h₁, h₂, h₃, h₄⟩
  distinct := (by decide : HostConfig.names.Nodup)
  nulls := by
    simp only [List.forall_mem_cons, List.not_mem_nil, false_implies, implies_true, and_true]
    exact ⟨nofun, fun _ => Kind.default_of_null (TlsConfig.schema.write_ne_null form), nofun, nofun⟩

end Config

end ServiceHost
