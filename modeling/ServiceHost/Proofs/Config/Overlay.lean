/-
  ServiceHost.Proofs.Config.Overlay — settings are a document laid over the defaults.

  The settings of a host are read off a document field by field. Every field stands at a
  place of its own in one of four parts (`Part.at?`); it is what is written there, and its
  default if nothing is (`LaidOver`). No settings are read exactly if the document has a
  fault: something that is there is of a kind it cannot be, or the certificate or the key
  of a part for TLS is not (`Fault`).

  The order of keys and unknown keys make no difference (`Rewritten`). Settings that are
  written read back, also if nulls are left out, and with JSON, which has no number that
  is not finite, exactly if the sample rate is one that is (`overlay`).
-/

import ServiceHost.Proofs.Config.Fields

namespace ServiceHost.Config

/-! ## Places -/

namespace Part

/-- The part of some settings. Only that for TLS can be missing. -/
def of? (c : HostConfig) : (p : Part) → Option p.Settings
  | http => some c.http
  | tls => c.tls
  | authz => some c.authz
  | observability => some c.observability

def document? (form : Form) (d : Document) (p : Part) : Option Document :=
  (form.fields? HostConfig.names d).bind (Document.find? p.name)

/-- The fields of a part in a document; none if it is not there. -/
def fields (form : Form) (d : Document) (p : Part) : Fields :=
  ((p.document? form d).bind (form.fields? p.names)).getD []

def at? (form : Form) (d : Document) (p : Part) (key : String) : Option Document :=
  Document.find? key (p.fields form d)

theorem names_eq (p : Part) : p.schema.fields.map (·.name) = p.names := by
  cases p <;> rfl

theorem default?_eq_none_iff (p : Part) : ∀ f ∈ p.schema.fields,
    (f.default? = none ↔ p = .tls ∧ (f.name = "cert_file" ∨ f.name = "key_file")) := by
  cases p <;> simp [schema, HttpConfig.schema, TlsConfig.schema, AuthzConfig.schema, ObservabilityConfig.schema]

theorem mem_fields_iff {form : Form} {f : Field HostConfig} :
    f ∈ (HostConfig.schema form).fields ↔ ∃ p : Part, f = p.field form := by
  constructor
  · intro hf
    simp only [HostConfig.schema, List.mem_cons, List.not_mem_nil, or_false] at hf
    obtain rfl | rfl | rfl | rfl := hf
    · exact ⟨.http, rfl⟩
    · exact ⟨.tls, rfl⟩
    · exact ⟨.authz, rfl⟩
    · exact ⟨.observability, rfl⟩
  · rintro ⟨p, rfl⟩
    cases p <;> simp [HostConfig.schema]

end Part

/-! ## Faults -/

/-- What can be wrong with the document of a part. -/
inductive Part.Fault (form : Form) (p : Part) (s : Document) : Prop
  /-- It has no fields. -/
  | shape (shapeless : form.fields? p.names s = none)
  /-- At the place of a known field stands something that writes no value of its kind. -/
  | value {fs : Fields} {f : Field p.Settings} {v : Document} (fields : form.fields? p.names s = some fs)
    (known : f ∈ p.schema.fields) (there : Document.find? f.name fs = some v) (wrong : ∀ x, ¬ f.kind.Writes v x)
  /-- There is no certificate or no key. -/
  | lacking {fs : Fields} (tls : p = .tls) (fields : form.fields? p.names s = some fs)
    (missing : Document.find? "cert_file" fs = none ∨ Document.find? "key_file" fs = none)

inductive Fault (form : Form) (d : Document) : Prop
  | shape (shapeless : form.fields? HostConfig.names d = none)
  /-- A part that is there is at fault. For TLS, null is as good as nothing. -/
  | part (p : Part) {s : Document} (there : p.document? form d = some s) (notNull : p = .tls → s ≠ .null)
    (fault : p.Fault form s)

/-! ## Laying over the defaults -/

/-- The settings are the document laid over the defaults. -/
structure LaidOver (form : Form) (d : Document) (c : HostConfig) : Prop where
  /-- Every field is what stands at its place, and its default if nothing does. -/
  values : ∀ (p : Part) v, p.of? c = some v → ∀ f ∈ p.schema.fields, f.Given (p.at? form d f.name) (f.value v)
  /-- There is TLS if the document has a part for it, other than null. -/
  plain : c.tls = none ↔ Part.document? form d .tls = none ∨ Part.document? form d .tls = some .null

variable {form : Form} {p : Part} {d d' s : Document} {o : Option Document} {c c' : HostConfig}

namespace Part

theorem fault_iff : p.Fault form s ↔ ∀ v, ¬ (p.schema.kind form).Writes s v := by
  have hread : (p.schema.kind form).read s = (form.fields? p.names s).bind p.schema.read := by
    rw [← names_eq]
    rfl
  rw [← Kind.read_eq_none_iff, hread, Option.bind_eq_none_iff]
  constructor
  · intro hfault gs hgs
    cases hfault with
    | shape hshape => cases hshape.symm.trans hgs
    | @value fs f v hfs hf hthere hwrong =>
      cases hfs.symm.trans hgs
      refine Schema.read_eq_none_iff.2 ⟨f, hf, fun x hx => hwrong x ?_⟩
      rwa [hthere] at hx
    | lacking htls hfs hmissing =>
      subst htls
      cases hfs.symm.trans hgs
      obtain ⟨f, hf, hname, hreq⟩ :
          ∃ f ∈ Part.tls.schema.fields, Document.find? f.name gs = none ∧ f.default? = none := by
        rcases hmissing with hcert | hkey
        · exact ⟨_, .head _, hcert, rfl⟩
        · exact ⟨_, .tail _ (.head _), hkey, rfl⟩
      refine Schema.read_eq_none_iff.2 ⟨f, hf, fun x hx => ?_⟩
      rw [hname] at hx
      cases hreq.symm.trans hx
  · intro hnone
    cases hfs : form.fields? p.names s with
    | none => exact .shape hfs
    | some fs =>
      obtain ⟨f, hf, hv⟩ := Schema.read_eq_none_iff.1 (hnone fs hfs)
      cases hthere : Document.find? f.name fs with
      | some v =>
        rw [hthere] at hv
        exact .value hfs hf hthere hv
      | none =>
        rw [hthere] at hv
        obtain ⟨htls, hname⟩ := (default?_eq_none_iff p f hf).1 (Option.eq_none_iff_forall_ne_some.2 hv)
        rcases hname with hname | hname <;> rw [hname] at hthere
        · exact .lacking htls hfs (.inl hthere)
        · exact .lacking htls hfs (.inr hthere)

theorem field_faulty_iff : (∀ v, ¬ (p.field form).Given o v) ↔
    ∃ s, o = some s ∧ (p = .tls → s ≠ .null) ∧ p.Fault form s := by
  cases o with
  | none =>
    -- every part has a default
    have hdefault : ∃ v, (p.field form).Given none v := by cases p <;> exact ⟨_, rfl⟩
    simp [hdefault]
  | some s =>
    simp only [Option.some.injEq, exists_eq_left', fault_iff]
    cases p with
    | tls =>
      constructor
      · intro h
        have hnull : s ≠ .null := fun hnull => h none (hnull ▸ .null)
        exact ⟨fun _ => hnull, fun v hv => h (some v) (.value hnull hv)⟩
      · rintro ⟨hnull, h⟩ v? (_ | ⟨_, hv⟩)
        · exact hnull rfl rfl
        · exact h _ hv
    | _ => exact ⟨fun h => ⟨nofun, h⟩, And.right⟩

theorem field_name (p : Part) : (p.field form).name = p.name := by
  cases p <;> rfl

theorem given_fields {v : p.Settings} (hc : (p.field form).Given o ((p.field form).value c)) (hv : p.of? c = some v) :
    ∀ f ∈ p.schema.fields, f.Given (Document.find? f.name ((o.bind (form.fields? p.names)).getD [])) (f.value v) := by
  have hwritten {p : Part} {s : Document} {v : p.Settings} (h : (p.schema.kind form).Writes s v) :
      ∀ f ∈ p.schema.fields, f.Given (Document.find? f.name ((form.fields? p.names s).getD [])) (f.value v) := by
    obtain ⟨fs, hfs, hgiven⟩ := h
    rw [← names_eq, hfs]
    exact hgiven
  cases p with
  | tls =>
    cases o with
    | none => cases hv.symm.trans (Option.some.inj hc).symm
    | some s =>
      have hwrites : OrNull (TlsConfig.schema.kind form).Writes s c.tls := hc
      rw [show c.tls = some v from hv] at hwrites
      cases hwrites with
      | value _ h => exact hwritten h
  | _ =>
    cases hv
    cases o with
    | none => exact Schema.read_eq_some_iff_given.1 hc
    | some s => exact hwritten hc

theorem given_tls (hc : (Part.tls.field form).Given o c.tls) : c.tls = none ↔ o = none ∨ o = some .null := by
  cases o with
  | none =>
    have hnone : none = c.tls := Option.some.inj hc
    simp [← hnone]
  | some s =>
    have hwrites : OrNull (TlsConfig.schema.kind form).Writes s c.tls := hc
    generalize c.tls = t? at hwrites
    cases hwrites with
    | null => simp
    | value hnull _ => simp [hnull]

end Part

theorem ofDocument?_eq_none_iff : HostConfig.ofDocument? form d = none ↔ Fault form d := by
  have hpart (fs : Fields) : (HostConfig.schema form).read fs = none ↔
      ∃ p : Part, ∃ s, Document.find? p.name fs = some s ∧ (p = .tls → s ≠ .null) ∧ p.Fault form s := by
    rw [Schema.read_eq_none_iff]
    constructor
    · rintro ⟨f, hf, hv⟩
      obtain ⟨p, rfl⟩ := Part.mem_fields_iff.1 hf
      rw [Part.field_name] at hv
      exact ⟨p, Part.field_faulty_iff.1 hv⟩
    · rintro ⟨p, hp⟩
      refine ⟨_, Part.mem_fields_iff.2 ⟨p, rfl⟩, ?_⟩
      rw [Part.field_name]
      exact Part.field_faulty_iff.2 hp
  rw [HostConfig.ofDocument?, Option.bind_eq_none_iff]
  constructor
  · intro h
    cases hfs : form.fields? HostConfig.names d with
    | none => exact .shape hfs
    | some fs =>
      obtain ⟨p, s, hs, hnull, hfault⟩ := (hpart fs).1 (h fs hfs)
      exact .part p (by rw [Part.document?, hfs]; exact hs) hnull hfault
  · rintro (hshape | ⟨p, hs, hnull, hfault⟩) fs hfs
    · cases hshape.symm.trans hfs
    · rw [Part.document?, hfs] at hs
      exact (hpart fs).2 ⟨p, _, hs, hnull, hfault⟩

theorem laidOver_of_read (h : HostConfig.ofDocument? form d = some c) : LaidOver form d c := by
  obtain ⟨fs, hfs, hread⟩ := Option.bind_eq_some_iff.1 h
  have hdoc (p : Part) : p.document? form d = Document.find? p.name fs := by
    rw [Part.document?, hfs]
    rfl
  have hgiven (p : Part) : (p.field form).Given (Document.find? p.name fs) ((p.field form).value c) := by
    have hall : ∀ f ∈ (HostConfig.schema form).fields, f.Given (Document.find? f.name fs) (f.value c) :=
      Schema.read_eq_some_iff_given.1 hread
    rw [← p.field_name]
    exact hall _ (Part.mem_fields_iff.2 ⟨p, rfl⟩)
  constructor
  · intro p v hv
    simp only [Part.at?, Part.fields, hdoc]
    exact Part.given_fields (hgiven p) hv
  · rw [hdoc]
    exact Part.given_tls (hgiven .tls)

theorem LaidOver.unique (h : LaidOver form d c) (h' : LaidOver form d c') : c = c' := by
  have hpart (p : Part) (v v' : p.Settings) (hv : p.of? c = some v) (hv' : p.of? c' = some v') : v = v' :=
    -- both are what the part reads from the same fields
    Option.some.inj <| (Schema.read_eq_some_iff_given.2 (h.values p v hv)).symm.trans
      (Schema.read_eq_some_iff_given.2 (h'.values p v' hv'))
  have htls : c.tls = c'.tls := by
    cases ht : c.tls with
    | none => exact (h'.plain.2 (h.plain.1 ht)).symm
    | some t =>
      cases ht' : c'.tls with
      | none => cases (h.plain.2 (h'.plain.1 ht')).symm.trans ht
      | some t' => exact congrArg some (hpart .tls t t' ht ht')
  obtain ⟨http, tls, authz, observability⟩ := c
  obtain ⟨http', tls', authz', observability'⟩ := c'
  cases hpart .http _ _ rfl rfl
  cases hpart .authz _ _ rfl rfl
  cases hpart .observability _ _ rfl rfl
  cases htls
  rfl

theorem ofDocument?_eq_some_iff : HostConfig.ofDocument? form d = some c ↔ ¬ Fault form d ∧ LaidOver form d c := by
  constructor
  · intro h
    refine ⟨fun hfault => ?_, laidOver_of_read h⟩
    cases (ofDocument?_eq_none_iff.2 hfault).symm.trans h
  · rintro ⟨hfault, h⟩
    cases hread : HostConfig.ofDocument? form d with
    | none => exact absurd (ofDocument?_eq_none_iff.1 hread) hfault
    | some c' => rw [h.unique (laidOver_of_read hread)]

/-- A field has the same value wherever the same stands at its place, whatever else differs. -/
theorem LaidOver.apart {form' : Form} (h : LaidOver form d c) (h' : LaidOver form' d' c') {v v' : p.Settings}
    (hv : p.of? c = some v) (hv' : p.of? c' = some v') {f : Field p.Settings} (hf : f ∈ p.schema.fields)
    (hat : p.at? form' d' f.name = p.at? form d f.name) : f.value v' = f.value v :=
  Field.given_unique (hat ▸ h'.values p v' hv' f hf) (h.values p v hv f hf)

/-! ## What makes no difference -/

/-- A table with its keys in another order, or with a key that is not among the names. -/
inductive Edited (names : List String) : Document → Document → Prop
  | order {es es' : Fields} (perm : es.Perm es') (distinct : (es.map (·.1)).Nodup) :
      Edited names (.table es) (.table es')
  | unknown {key : String} (es : Fields) (v : Document) (surplus : key ∉ names) :
      Edited names (.table es) (.table ((key, v) :: es))

/-- Such changes, to the document or to a part of it, one after the other and back. -/
inductive Rewritten : Document → Document → Prop
  | root {d d' : Document} : Edited HostConfig.names d d' → Rewritten d d'
  | inside {p : Part} {s s' : Document} (before after : Fields) : Edited p.names s s' →
      Rewritten (.table (before ++ (p.name, s) :: after)) (.table (before ++ (p.name, s') :: after))
  | symm {d d' : Document} : Rewritten d d' → Rewritten d' d
  | trans {d d' d'' : Document} : Rewritten d d' → Rewritten d' d'' → Rewritten d d''

theorem Edited.find? {names : List String} (h : Edited names d d') : ∃ es es', d = .table es ∧ d' = .table es' ∧
    ∀ name ∈ names, Document.find? name es' = Document.find? name es := by
  cases h with
  | order perm distinct => exact ⟨_, _, rfl, rfl, fun name _ => Document.find?_perm perm distinct⟩
  | @unknown key es v surplus =>
    refine ⟨_, _, rfl, rfl, fun name hname => ?_⟩
    have hkey : key ≠ name := fun h => surplus (h ▸ hname)
    simp [Document.find?, hkey]

theorem Edited.read_kind {σ : Type} (form : Form) {s : Schema σ} (h : Edited (s.fields.map (·.name)) d d') :
    (s.kind form).read d' = (s.kind form).read d := by
  obtain ⟨es, es', rfl, rfl, hfind⟩ := h.find?
  refine s.read_congr fun f hf => Field.read_congr ?_
  rw [hfind _ (List.mem_map_of_mem hf)]

theorem Part.read_field {s' : Document} (h : Edited p.names s s') :
    (p.field form).kind.read s' = (p.field form).kind.read s := by
  cases p with
  | tls =>
    have hread := Edited.read_kind form (s := TlsConfig.schema) h
    obtain ⟨es, es', rfl, rfl, -⟩ := h.find?
    exact congrArg (Option.map some) hread
  | http => exact Edited.read_kind form (s := HttpConfig.schema) h
  | authz => exact Edited.read_kind form (s := AuthzConfig.schema) h
  | observability => exact Edited.read_kind form (s := ObservabilityConfig.schema) h

theorem Part.name_inj {p q : Part} (h : p.name = q.name) : p = q := by
  cases p <;> cases q <;> first | rfl | exact absurd h (by decide)

/-- What is read of an entry that is replaced is the same if that of its document is. -/
theorem map_find?_replace {β : Type} {key name : String} {s' : Document} {g : Document → β}
    (hg : key = name → g s' = g s) (before after : Fields) :
    (Document.find? name (before ++ (key, s') :: after)).map g =
      (Document.find? name (before ++ (key, s) :: after)).map g := by
  induction before with
  | nil =>
    by_cases hk : key = name
    · simp [Document.find?, hk, hg hk]
    · simp [Document.find?, hk]
  | cons e before ih =>
    by_cases hk : e.1 = name
    · simp [Document.find?, hk]
    · simpa [Document.find?, hk] using ih

/-- Such changes to a document change nothing of what is read. -/
theorem Rewritten.read (h : Rewritten d d') : HostConfig.ofDocument? form d' = HostConfig.ofDocument? form d := by
  induction h with
  | root h => exact Edited.read_kind form (s := HostConfig.schema form) h
  | @inside p s s' before after h =>
    refine Schema.read_congr (s := HostConfig.schema form) fun f hf => Field.read_congr ?_
    obtain ⟨q, rfl⟩ := Part.mem_fields_iff.1 hf
    refine map_find?_replace (fun hname => ?_) before after
    cases Part.name_inj (hname.trans q.field_name)
    exact Part.read_field h
  | symm _ ih => exact ih.symm
  | trans _ _ ih ih' => exact ih'.trans ih

/-! ## Reading what was written -/

/-- The numbers of seconds and bytes fit unsigned 64-bit words. -/
structure HostConfig.InRange (c : HostConfig) : Prop where
  heartbeat : c.http.heartbeatSecs < pow2 64
  grace : c.http.shutdownGraceSecs < pow2 64
  requestSize : c.http.maxRequestSize < pow2 64
  reload : ∀ t, c.tls = some t → t.reloadIntervalSecs < pow2 64
  expiryCheck : ∀ t, c.tls = some t → t.expiryCheckSecs < pow2 64

namespace HostConfig.InRange

theorem fits_http (hc : c.InRange) : ∀ f ∈ HttpConfig.schema.fields, f.kind.Fits (f.value c.http) := by
  simp only [HttpConfig.schema, List.forall_mem_cons, List.not_mem_nil, false_implies, implies_true, and_true]
  exact ⟨trivial, trivial, hc.heartbeat, trivial, fun _ _ => trivial, trivial, hc.grace, hc.requestSize⟩

theorem fits_tls (hc : c.InRange) {t : TlsConfig} (ht : c.tls = some t) :
    ∀ f ∈ TlsConfig.schema.fields, f.kind.Fits (f.value t) := by
  simp only [TlsConfig.schema, List.forall_mem_cons, List.not_mem_nil, false_implies, implies_true, and_true]
  exact ⟨trivial, trivial, fun _ _ => trivial, fun _ _ => trivial, hc.reload t ht, hc.expiryCheck t ht⟩

theorem fits_authz (a : AuthzConfig) : ∀ f ∈ AuthzConfig.schema.fields, f.kind.Fits (f.value a) := by
  simp only [AuthzConfig.schema, List.forall_mem_cons, List.not_mem_nil, false_implies, implies_true, and_true]
  exact ⟨trivial, trivial, trivial⟩

theorem fits_observability (o : ObservabilityConfig) :
    ∀ f ∈ ObservabilityConfig.schema.fields, f.kind.Fits (f.value o) := by
  simp only [ObservabilityConfig.schema, List.forall_mem_cons, List.not_mem_nil, false_implies, implies_true, and_true]
  exact ⟨trivial, trivial, trivial, trivial⟩

theorem fits (hc : c.InRange) : ((HostConfig.schema form).kind form).Fits c := by
  intro f hf
  obtain ⟨p, rfl⟩ := Part.mem_fields_iff.1 hf
  cases p with
  | http => exact hc.fits_http
  | tls => exact fun t ht => hc.fits_tls ht
  | authz => exact fits_authz c.authz
  | observability => exact fits_observability c.observability

end HostConfig.InRange

theorem write_kind (form : Form) (c : HostConfig) : ((HostConfig.schema form).kind form).write c = c.toDocument := by
  rfl

theorem read_kind (form : Form) (d : Document) :
    ((HostConfig.schema form).kind form).read d = HostConfig.ofDocument? form d := by
  rfl

theorem read_toDocument (hc : c.InRange) : HostConfig.ofDocument? form c.toDocument = some c := by
  rw [← read_kind, Kind.read_eq_some_iff, ← write_kind form]
  exact Kind.writes_write _ hc.fits

theorem read_withoutNulls (hc : c.InRange) : HostConfig.ofDocument? form c.toDocument.withoutNulls = some c := by
  rw [← read_kind, Kind.read_eq_some_iff, ← write_kind form]
  exact Kind.writes_withoutNulls _ hc.fits (Schema.write_ne_null _ form c)

end ServiceHost.Config

/-! ## JSON -/

namespace ServiceHost

def Decimal.Binary64.isFinite : Decimal.Binary64 → Bool
  | finite .. => true
  | _ => false

namespace Document

mutual

/-- The document as JSON has it, with null for a number that is not finite. -/
def inJson : Document → Document
  | real x => if x.isFinite then real x else null
  | list ds => list (inJsonItems ds)
  | table es => table (inJsonEntries es)
  | d => d

def inJsonItems : List Document → List Document
  | [] => []
  | d :: ds => inJson d :: inJsonItems ds

def inJsonEntries : List (String × Document) → List (String × Document)
  | [] => []
  | (key, d) :: es => (key, inJson d) :: inJsonEntries es

end

theorem inJson_texts (ss : List String) : (texts ss).inJson = texts ss := by
  have hitems : inJsonItems (ss.map text) = ss.map text := by
    induction ss with
    | nil => rfl
    | cons s ss ih => rw [List.map_cons, inJsonItems, ih]; rfl
  rw [texts, inJson, hitems]

theorem inJson_ofText? (s? : Option String) : (ofText? s?).inJson = ofText? s? := by
  cases s? <;> rfl

end Document

namespace Config

variable {form : Form} {c : HostConfig}

theorem inJson_toDocument (hx : c.http.profilerSampleRate.isFinite = true) : c.toDocument.inJson = c.toDocument := by
  have hhttp : c.http.toDocument.inJson = c.http.toDocument := by
    simp only [HttpConfig.toDocument, Document.inJson, Document.inJsonEntries, Document.inJson_ofText?, hx, if_true]
    rfl
  have htls : ((c.tls.map TlsConfig.toDocument).getD .null).inJson = (c.tls.map TlsConfig.toDocument).getD .null := by
    cases c.tls with
    | none => rfl
    | some t =>
      simp only [Option.map_some, Option.getD_some, TlsConfig.toDocument, Document.inJson, Document.inJsonEntries,
        Document.inJson_ofText?]
      cases t.clientCertAuth <;> rfl
  have hauthz : c.authz.toDocument.inJson = c.authz.toDocument := by
    simp only [AuthzConfig.toDocument, Document.inJson, Document.inJsonEntries, Document.inJson_texts]
  have hobservability : c.observability.toDocument.inJson = c.observability.toDocument := rfl
  rw [HostConfig.toDocument, Document.inJson]
  simp only [Document.inJsonEntries, hhttp, htls, hauthz, hobservability]

/-- Without a finite sample rate JSON has null where a number has to be. -/
theorem fault_inJson (hx : c.http.profilerSampleRate.isFinite = false) : Fault form c.toDocument.inJson := by
  have hnull : (Document.real c.http.profilerSampleRate).inJson = .null := by
    rw [Document.inJson, hx]
    rfl
  have hknown : ⟨"profiler_sample_rate", .real, (·.profilerSampleRate), some onePercent⟩ ∈ Part.http.schema.fields := by
    simp [Part.schema, HttpConfig.schema]
  exact .part .http rfl nofun (.value rfl hknown (congrArg some hnull) nofun)

theorem read_inJson_iff (hc : c.InRange) :
    HostConfig.ofDocument? form c.toDocument.inJson = some c ↔ c.http.profilerSampleRate.isFinite = true := by
  cases hx : c.http.profilerSampleRate.isFinite with
  | true => simp only [inJson_toDocument hx, read_toDocument hc]
  | false => simp [ofDocument?_eq_none_iff.2 (fault_inJson hx)]

/-! ## The overlay -/

/-- How settings and documents belong together. -/
structure Overlay (form : Form) : Prop where
  /-- Nothing is read exactly if something that is there is of the wrong kind, or certificate or key are missing. -/
  refused : ∀ d, HostConfig.ofDocument? form d = none ↔ Fault form d
  /-- Otherwise every field is read that is there, and is its default if not. -/
  laid : ∀ d c, HostConfig.ofDocument? form d = some c ↔ ¬ Fault form d ∧ LaidOver form d c
  /-- No field depends on another: the same at its place is the same value, whatever else is read. -/
  apart : ∀ d d' c c', HostConfig.ofDocument? form d = some c → HostConfig.ofDocument? form d' = some c' →
    ∀ (p : Part) v v', p.of? c = some v → p.of? c' = some v' → ∀ f ∈ p.schema.fields,
      p.at? form d' f.name = p.at? form d f.name → f.value v' = f.value v
  /-- The order of keys and unknown keys do not matter, in the document and in its parts. -/
  rewritten : ∀ d d', Rewritten d d' → HostConfig.ofDocument? form d' = HostConfig.ofDocument? form d
  /-- What is written reads back, -/
  readback : ∀ c : HostConfig, c.InRange → HostConfig.ofDocument? form c.toDocument = some c
  /-- without the nulls as well, as in a notation that has none, -/
  bare : ∀ c : HostConfig, c.InRange → HostConfig.ofDocument? form c.toDocument.withoutNulls = some c
  /-- and as JSON if the sample rate is finite, which it has to be for that. -/
  json : ∀ c : HostConfig, c.InRange →
    (HostConfig.ofDocument? form c.toDocument.inJson = some c ↔ c.http.profilerSampleRate.isFinite = true)

/-- Settings are read by laying a document over the defaults field by field, which undoes writing them. -/
theorem overlay (form : Form) : Overlay form where
  refused _ := ofDocument?_eq_none_iff
  laid _ _ := ofDocument?_eq_some_iff
  apart _ _ _ _ h h' _ _ _ hv hv' _ hf hat := (laidOver_of_read h).apart (laidOver_of_read h') hv hv' hf hat
  rewritten _ _ h := h.read
  readback _ hc := read_toDocument hc
  bare _ hc := read_withoutNulls hc
  json _ hc := read_inJson_iff hc

/-- A field that is there and three sections that are not; a list stands for its fields in order. -/
example : HostConfig.ofDocument? .toml (.table [("hub", .null), ("http", .list [.text "hub"])]) =
    some { http := { serviceName := "hub" } } := by
  decide

end Config

end ServiceHost
