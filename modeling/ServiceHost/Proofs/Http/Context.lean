/-
  ServiceHost.Proofs.Http.Context — the one context of a request.

  The outermost layer gives a request an id and an identity. Everything behind it sees
  these and no others: authorization, handlers, the request log and the profile. The answer
  carries the id in one header, whatever the handler has put there
  (`Pipeline.serve_context`).

  The id can always be sent back. It is made of the text of a header that was readable, or
  it is a generated one, so it has no character that a header cannot carry
  (`Context.named`).
-/

import ServiceHost.Proofs.Http.Trace

namespace ServiceHost

/-! ## Characters of a header -/

namespace Text

theorem mem_trimChars {ch : Char} {cs : List Char} (h : ch ∈ trimChars cs) : ch ∈ cs := by
  have hrev := (List.dropWhile_sublist _).subset (List.mem_reverse.1 h)
  exact (List.dropWhile_sublist _).subset (List.mem_reverse.1 hrev)

theorem utf8_ofList (cs : List Char) : utf8 (String.ofList cs) = cs.flatMap String.utf8EncodeChar := by
  simp [utf8, List.utf8Encode]

end Text

namespace Http

def IsTextChar (ch : Char) : Prop := ch.toNat = 9 ∨ 32 ≤ ch.toNat ∧ ch.toNat < 127

theorem isTextByte_iff {b : UInt8} : isTextByte b = true ↔ b.toNat = 9 ∨ 32 ≤ b.toNat ∧ b.toNat < 127 := by
  simp only [isTextByte, Bool.or_eq_true, Bool.and_eq_true, decide_eq_true_eq, UInt8.le_iff_toNat_le,
    UInt8.lt_iff_toNat_lt, ← UInt8.toNat_inj]
  rfl

/-- A character of a text for a header is one byte, of the same number. -/
theorem utf8_textChar {ch : Char} (h : IsTextChar ch) :
    ∃ b : UInt8, String.utf8EncodeChar ch = [b] ∧ b.toNat = ch.toNat := by
  have hlt : ch.toNat < 127 := by
    rcases h with h | h <;> omega
  have hsize : ch.utf8Size = 1 := by
    rw [Char.utf8Size_eq_one_iff, UInt32.le_iff_toNat_le]
    exact Nat.le_of_lt hlt
  refine ⟨ch.val.toUInt8, String.utf8EncodeChar_eq_singleton hsize, ?_⟩
  rw [UInt32.toNat_toUInt8]
  exact Nat.mod_eq_of_lt (Nat.lt_trans hlt (by decide))

theorem isTextChar_utf8 {ch : Char} (h : IsTextChar ch) : (String.utf8EncodeChar ch).all isTextByte = true := by
  obtain ⟨b, hb, hcode⟩ := utf8_textChar h
  rw [hb, List.all_cons, List.all_nil, Bool.and_true, isTextByte_iff, hcode]
  exact h

theorem utf8_sendable {cs : List Char} (h : ∀ ch ∈ cs, IsTextChar ch) :
    (Text.utf8 (String.ofList cs)).all isTextByte = true := by
  rw [Text.utf8_ofList, List.all_flatMap, List.all_eq_true]
  exact fun ch hch => isTextChar_utf8 (h ch hch)

theorem readable_text {value : Text.Octets} {text : String} (h : readable? value = some text) :
    ∀ ch ∈ text.toList, IsTextChar ch := by
  unfold readable? at h
  split at h
  · next hall =>
    cases h
    intro ch hch
    rw [String.toList_ofList] at hch
    obtain ⟨b, hb, rfl⟩ := List.mem_map.1 hch
    have hbyte := isTextByte_iff.1 (List.all_eq_true.1 hall b hb)
    have hvalid : b.toNat.isValidChar := .inl (by omega)
    rw [IsTextChar, Char.ofNat, dif_pos hvalid]
    exact hbyte
  · cases h

end Http

/-! ## Ids -/

namespace Context

def isHexDigit (ch : Char) : Bool := ('0' ≤ ch && ch ≤ '9') || ('a' ≤ ch && ch ≤ 'f')

/-- A generated id: 32 hexadecimal digits in lower case. -/
def IsGenerated (id : String) : Prop := id.length = 32 ∧ id.toList.all isHexDigit = true

/-- The id of a request: the text it comes with if that can be read and is not blank, else a generated one. -/
structure Names (r : Http.Request) (fresh id : String) : Prop where
  nonempty : id ≠ ""
  short : id.length ≤ maxIdLength
  /-- A header can carry it. -/
  sendable : (Text.utf8 id).all Http.isTextByte = true
  kept : ∀ text, r.headerText? header = some text → Text.trim text ≠ "" →
    id = String.ofList ((Text.trim text).toList.take maxIdLength)
  made : (∀ text, r.headerText? header = some text → Text.trim text = "") → id = fresh

variable {r : Http.Request} {fresh : String}

theorem IsGenerated.isTextChar (h : IsGenerated fresh) : ∀ ch ∈ fresh.toList, Http.IsTextChar ch := by
  intro ch hch
  have hdigit := List.all_eq_true.1 h.2 ch hch
  simp only [isHexDigit, Bool.or_eq_true, Bool.and_eq_true, decide_eq_true_eq, Char.le_def,
    UInt32.le_iff_toNat_le] at hdigit
  change (48 ≤ ch.toNat ∧ ch.toNat ≤ 57) ∨ (97 ≤ ch.toNat ∧ ch.toNat ≤ 102) at hdigit
  unfold Http.IsTextChar
  omega

theorem acceptedId_eq (text : String) :
    acceptedId? text =
      if Text.trim text = "" then none else some (String.ofList ((Text.trim text).toList.take maxIdLength)) := by
  unfold acceptedId? Text.trim
  rw [String.toList_ofList]
  cases Text.trimChars text.toList with
  | nil => rfl
  | cons ch cs =>
    have hne : String.ofList (ch :: cs) ≠ "" := by simp
    rw [if_neg hne]
    rfl

/-- A cut is short, has nothing that the text does not have, and is empty only if the text is. -/
theorem names_cut {text : String} (h : ∀ ch ∈ text.toList, Http.IsTextChar ch) (hne : text ≠ "") :
    String.ofList (text.toList.take maxIdLength) ≠ "" ∧
      (String.ofList (text.toList.take maxIdLength)).length ≤ maxIdLength ∧
      (Text.utf8 (String.ofList (text.toList.take maxIdLength))).all Http.isTextByte = true := by
  refine ⟨?_, ?_, Http.utf8_sendable fun ch hch => h ch (List.mem_of_mem_take hch)⟩
  · have hlist : text.toList ≠ [] := by simpa using hne
    cases hcs : text.toList with
    | nil => exact absurd hcs hlist
    | cons ch cs => simp [maxIdLength]
  · rw [String.length_ofList]
    exact List.length_take_le ..

theorem named (hfresh : IsGenerated fresh) : Names r fresh ((incomingId? r).getD fresh) := by
  have hchars := hfresh.isTextChar
  have hgenerated : fresh ≠ "" ∧ fresh.length ≤ maxIdLength ∧ (Text.utf8 fresh).all Http.isTextByte = true := by
    have hlen := hfresh.1
    refine ⟨?_, by rw [hlen]; decide, ?_⟩
    · rintro rfl
      exact absurd hlen (by decide)
    · have hsend := Http.utf8_sendable hchars
      rwa [String.ofList_toList] at hsend
  unfold incomingId?
  cases hr : r.headerText? header with
  | none =>
    obtain ⟨hne, hshort, hsend⟩ := hgenerated
    exact ⟨hne, hshort, hsend, fun text ht => by simp [hr] at ht, fun _ => rfl⟩
  | some text =>
    rw [Option.bind_some, acceptedId_eq]
    by_cases hblank : Text.trim text = ""
    · obtain ⟨hne, hshort, hsend⟩ := hgenerated
      rw [if_pos hblank]
      refine ⟨hne, hshort, hsend, fun text' ht hne => ?_, fun _ => rfl⟩
      rw [hr] at ht
      cases ht
      exact absurd hblank hne
    · obtain ⟨value, -, hread⟩ := Option.bind_eq_some_iff.1 hr
      have htrim : ∀ ch ∈ (Text.trim text).toList, Http.IsTextChar ch := by
        intro ch hch
        rw [Text.trim, String.toList_ofList] at hch
        exact Http.readable_text hread ch (Text.mem_trimChars hch)
      obtain ⟨hne, hshort, hsend⟩ := names_cut htrim hblank
      rw [if_neg hblank]
      refine ⟨hne, hshort, hsend, fun text' ht _ => ?_, fun h => absurd (h text hr) hblank⟩
      rw [hr] at ht
      cases ht
      rfl

end Context

def Log.Event.field? (e : Log.Event) (name : String) : Option Log.Value :=
  (e.fields.find? (·.1 = name)).map (·.2)

/-- A call as some part of a pipeline sees it: the request as it came, and its context. -/
structure Call.Carries (seen call : Call) (ctx : Context) : Prop where
  request : seen.request = call.request
  context : seen.context? = some ctx

namespace Http

/-! ## Headers of a response -/

namespace Response

def valuesOf (r : Response) (name : String) : List (String × String) := r.headers.filter (·.1 = name)

@[simp] theorem valuesOf_setHeader_self (r : Response) (name value : String) :
    (r.setHeader name value).valuesOf name = [(name, value)] := by
  simp [valuesOf, setHeader, List.filter_filter]

theorem valuesOf_setHeader_of_ne {name other : String} (h : other ≠ name) (r : Response) (value : String) :
    (r.setHeader other value).valuesOf name = r.valuesOf name := by
  simp only [valuesOf, setHeader, List.filter_append, List.filter_filter, List.filter_cons, h, decide_false,
    Bool.false_eq_true, if_false, List.filter_nil, List.append_nil]
  refine List.filter_congr fun x _ => ?_
  by_cases hx : x.1 = name <;> simp [hx, Ne.symm h]

@[simp] theorem valuesOf_stripped (r : Response) (method name : String) :
    (r.stripped method).valuesOf name = r.valuesOf name := by
  unfold stripped
  split <;> rfl

end Response

theorem Table.valuesOf_withAllowed (allowed : Option (List String)) (r : Response) :
    (Table.withAllowed allowed r).valuesOf Context.header = r.valuesOf Context.header := by
  unfold Table.withAllowed
  split
  · exact Response.valuesOf_setHeader_of_ne (by decide) ..
  · rfl

/-! ## One context -/

variable {c : PipelineSettings} {policy : Policy} {services : List Service} {sink : Log.Sink}

def PipelineSettings.contextOf (c : PipelineSettings) (call : Call) : Context :=
  ⟨(Context.incomingId? call.request).getD call.occasion.freshId, c.caller call⟩

theorem named_carries (call : Call) : (c.named call).Carries call (c.contextOf call) := ⟨rfl, rfl⟩

theorem handed_carries (call : Call) : (c.handed call).Carries call (c.contextOf call) :=
  ⟨request_handed call, context_handed call⟩

/-- What the parts of a pipeline and the caller see of one request. -/
structure Pipeline.OneContext (p : Pipeline) (policy : Policy) (registry : Registry) (call : Call) (ctx : Context) :
    Prop where
  id : Context.Names call.request call.occasion.freshId ctx.correlationId
  echoed : (p.serve registry call).value.headers.filter (·.1 = Context.header) =
    [(Context.header, ctx.correlationId)]
  trace : (p.serve registry call).effects =
    (Layers.identify p.settings.readCertificate p.settings.mapper call.request).effects ++
      ((p.reply policy registry call).effects ++ [.logged .injected (p.line policy registry call)])
  logged : (p.line policy registry call).field? "correlation_id" = some (.bare ctx.correlationId) ∧
    (p.line policy registry call).field? "identity" = some (.bare ctx.identity.text)
  /-- Authorization is asked about the role of the context. -/
  asked : ∀ rules, p.settings.rules? = some rules → p.settings.clientAuth = true →
    ∃ seen : Call, seen.Carries call ctx ∧ callerRole seen = ctx.identity.role ∧
      p.settings.denies policy call = policy.denies rules callerRole seen ∧
      (p.settings.denies policy call = true → p.reply policy registry call = policy.denial rules callerRole seen)
  denied : policy = .byRules → p.settings.denies policy call = true →
    ∃ event, (p.reply policy registry call).effects = [.logged .injected event] ∧
      event.field? "correlation_id" = some (.text ctx.correlationId) ∧
      event.field? "role" = some (.bare ctx.identity.role)
  /-- What is not denied is answered by the readiness gate, or by what the table has for it. -/
  answered : p.settings.denies policy call = false →
    ∃ answer : Run Response,
      p.reply policy registry call = ⟨answer.value, answer.effects ++ p.settings.records call answer.value⟩ ∧
      (call.request.uri.path ≠ Readiness.path →
        ∃ seen : Call, seen.Carries call ctx ∧ answer = (p.table.endpoint Layers.unclaimed call.request).1 seen)
  profiled : ∀ response, ∀ r ∈ Effect.profile (p.settings.records call response), r.correlationId = ctx.correlationId

/-- A request has one context: what is told of it anywhere is that, and its id is echoed once. -/
theorem Pipeline.serve_context {p : Run Pipeline} (hz : c.authorizer.Follows policy)
    (hb : Pipeline.build c services sink = .ok p) (registry : Registry) {call : Call}
    (hfresh : Context.IsGenerated call.occasion.freshId) :
    p.value.OneContext policy registry call (c.contextOf call) := by
  have hs : p.value.settings = c := (build_ok hb).2.1
  have hid : Context.Names call.request call.occasion.freshId (c.contextOf call).correlationId := Context.named hfresh
  constructor
  case id => exact hid
  case echoed =>
    change (p.value.serve registry call).value.valuesOf Context.header = _
    have hsend : (Text.utf8 (c.named call).correlationId).all isTextByte = true := hid.sendable
    simp only [Pipeline.serve, Table.serve, Run.value_bind, Run.value_pure, Response.valuesOf_stripped,
      Table.valuesOf_withAllowed]
    rw [layers_eq hz hb]
    dsimp only
    rw [if_pos hsend, Response.valuesOf_setHeader_self]
    rfl
  case trace =>
    rw [Pipeline.serve_effects hz hb, hs]
  case logged =>
    rw [Pipeline.line, hs]
    exact ⟨rfl, rfl⟩
  case asked =>
    rw [Pipeline.reply, hs]
    intro rules hr hc
    refine ⟨c.named call, named_carries call, rfl, by simp only [PipelineSettings.denies, hr, hc], fun hd => ?_⟩
    rw [if_pos hd, PipelineSettings.denial, hr, Option.getD_some]
  case denied =>
    rw [Pipeline.reply, hs]
    rintro rfl hd
    rw [if_pos hd]
    exact ⟨_, rfl, rfl, rfl⟩
  case answered =>
    rw [Pipeline.reply, hs]
    intro hd
    rw [if_neg (by simp [hd])]
    refine ⟨p.value.answer registry call, rfl, fun hpath => ⟨c.handed call, handed_carries call, ?_⟩⟩
    rw [Pipeline.answer, if_neg hpath, hs]
  case profiled =>
    rw [hs]
    intro response r hr
    obtain ⟨e, he, hre⟩ := List.mem_filterMap.1 hr
    unfold PipelineSettings.records at he
    rcases List.mem_append.1 he with he | he
    · obtain ⟨m, -, rfl⟩ := List.mem_map.1 he
      cases hre
    · split at he
      · cases List.mem_singleton.1 he
        cases hre
        rfl
      · cases he

def strangerCall : Call :=
  { guestCall with occasion := { freshId := "0123456789abcdef0123456789abcdef" } }

theorem serve_context_stranger :
    ∃ p, Pipeline.build adminsOnly [echoService] .injected = .ok p ∧
      p.value.OneContext .byRules {} strangerCall
        ⟨"0123456789abcdef0123456789abcdef", .guest "unknown"⟩ := by
  have hb : Pipeline.build adminsOnly [echoService] .injected = .ok ⟨_, _⟩ := rfl
  have hfresh : Context.IsGenerated strangerCall.occasion.freshId := ⟨rfl, by decide⟩
  exact ⟨_, hb, Pipeline.serve_context Authorizer.byRules_follows hb {} hfresh⟩

end Http

end ServiceHost
