/-
  ServiceHost.Proofs.Http.Hops — an id that is handed from host to host.

  A request that carries the id which another host has sent back is read the way the first
  was: its blanks are trimmed away, and then it is cut. An id that was cut already is not
  cut again, but a cut behind a blank leaves an id with a blank at its end, which the next
  host trims away. So an id changes at most once, at its second host, and it does so if and
  only if a blank stood at the place of the cut (`ids_settle`).
-/

import ServiceHost.Proofs.Authz.Reading
import ServiceHost.Proofs.Http.Context
import ServiceHost.Proofs.Text.Blank

namespace ServiceHost

/-! ## Ids that a request carries -/

namespace Http

theorem utf8_text_sendable {id : String} (h : ∀ ch ∈ id.toList, IsTextChar ch) :
    (Text.utf8 id).all isTextByte = true := by
  have hcs := utf8_sendable h
  rwa [String.ofList_toList] at hcs

theorem readable_utf8 {id : String} (h : ∀ ch ∈ id.toList, IsTextChar ch) : readable? (Text.utf8 id) = some id := by
  have hback (cs : List Char) (hcs : ∀ ch ∈ cs, IsTextChar ch) :
      (cs.flatMap String.utf8EncodeChar).map (fun b => Char.ofNat b.toNat) = cs := by
    induction cs with
    | nil => rfl
    | cons ch cs ih =>
      obtain ⟨b, hb, hcode⟩ := utf8_textChar (hcs ch List.mem_cons_self)
      rw [List.flatMap_cons, hb, List.map_append, ih fun c hc => hcs c (List.mem_cons_of_mem _ hc), List.map_singleton,
        hcode, Char.ofNat_toNat]
      rfl
  have hbytes : Text.utf8 id = id.toList.flatMap String.utf8EncodeChar := by
    rw [← Text.utf8_ofList, String.ofList_toList]
  rw [readable?, if_pos (utf8_text_sendable h), hbytes, hback _ h, String.ofList_toList]

end Http

namespace Context

/-- An id that a request can carry: text for a header, not longer than ids are, and not all blank. -/
structure Portable (id : String) : Prop where
  text : ∀ ch ∈ id.toList, Http.IsTextChar ch
  short : id.length ≤ maxIdLength
  nonblank : Text.trim id ≠ ""

theorem length_trim (s : String) : (Text.trim s).length ≤ s.length := by
  rw [Text.trim, String.length_ofList]
  calc (Text.trimChars s.toList).length ≤ (s.toList.dropWhile Text.isBlank).length :=
        (List.rdropWhile_prefix Text.isBlank _).length_le
    _ ≤ s.toList.length := (List.dropWhile_sublist _).length_le
    _ = s.length := String.length_toList

theorem Portable.accepted {id : String} (h : Portable id) : acceptedId? id = some (Text.trim id) := by
  have hshort : (Text.trim id).toList.length ≤ maxIdLength := by
    rw [String.length_toList]
    exact Nat.le_trans (length_trim id) h.short
  rw [acceptedId_eq, if_neg h.nonblank, List.take_of_length_le hshort, String.ofList_toList]

theorem Portable.trim {id : String} (h : Portable id) : Portable (Text.trim id) where
  text := by
    intro ch hch
    rw [Text.trim, String.toList_ofList] at hch
    exact h.text ch (Text.mem_trimChars hch)
  short := Nat.le_trans (length_trim id) h.short
  nonblank := by
    rw [Text.trim_trim]
    exact h.nonblank

/-- A text that is not blank is cut to such an id: its first character that counts stays. -/
theorem portable_cut {text : String} (h : ∀ ch ∈ text.toList, Http.IsTextChar ch) (hne : Text.trim text ≠ "") :
    Portable (String.ofList ((Text.trim text).toList.take maxIdLength)) where
  text := by
    intro ch hch
    rw [String.toList_ofList] at hch
    have htrim := List.mem_of_mem_take hch
    rw [Text.trim, String.toList_ofList] at htrim
    exact h ch (Text.mem_trimChars htrim)
  short := by
    rw [String.length_ofList]
    exact List.length_take_le ..
  nonblank := by
    intro hnil
    have hfront := (Text.trimChars_eq_self_iff.1 (Text.trimChars_trimChars text.toList)).1
    rw [Text.trim, String.toList_ofList, Text.trim, String.toList_ofList, String.ofList_eq_empty_iff,
      Text.trimChars_eq_nil_iff] at hnil
    rw [Text.trim] at hne
    cases hcs : Text.trimChars text.toList with
    | nil => exact hne (by rw [hcs])
    | cons ch cs =>
      rw [hcs] at hnil hfront
      have hblank := hnil ch (by simp [maxIdLength])
      rw [hfront ch rfl] at hblank
      cases hblank

/-- A cut leaves a blank at the end if and only if one stands at its place. -/
theorem trim_cut_iff (text : String) :
    Text.trim (String.ofList ((Text.trim text).toList.take maxIdLength)) =
        String.ofList ((Text.trim text).toList.take maxIdLength) ↔
      ∀ ch, (Text.trim text).toList[maxIdLength - 1]? = some ch → Text.isBlank ch = false := by
  have htrim : Text.trimChars (Text.trim text).toList = (Text.trim text).toList := by
    rw [Text.trim, String.toList_ofList, Text.trimChars_trimChars]
  rw [← Text.trimChars_take_eq_self_iff htrim (maxIdLength - 1), Text.trim, String.toList_ofList, String.ofList_inj]
  rfl

end Context

namespace Http

/-! ## Hops -/

theorem Response.header?_of_valuesOf {r : Response} {name value : String} (h : r.valuesOf name = [(name, value)]) :
    r.header? name = some value := by
  rw [header?, ← List.head?_filter]
  change ((r.valuesOf name).head?.map _) = _
  rw [h]
  rfl

/-- A pipeline of some services, and a call that it answers. -/
structure Hop where
  settings : PipelineSettings
  services : List Service
  sink : Log.Sink
  pipeline : Run Pipeline
  built : Pipeline.build settings services sink = .ok pipeline
  registry : Registry
  call : Call

namespace Hop

def assigned (h : Hop) : String := (h.settings.contextOf h.call).correlationId

def echoed? (h : Hop) : Option String := (h.pipeline.value.serve h.registry h.call).value.header? Context.header

/-- The second call carries the id that the first was answered with. -/
def Relays (a b : Hop) : Prop :=
  ∃ id, a.echoed? = some id ∧ b.call.request.header? Context.header = some (Text.utf8 id)

theorem echoed_assigned {h : Hop} (hid : Context.Portable h.assigned) : h.echoed? = some h.assigned := by
  have hs : h.pipeline.value.settings = h.settings := (build_ok h.built).2.1
  refine Response.header?_of_valuesOf ?_
  simp only [Pipeline.serve, Table.serve, Run.value_bind, Run.value_pure, Response.valuesOf_stripped,
    Table.valuesOf_withAllowed, Pipeline.layers, Pipeline.layersWith, Function.comp_apply, hs, context_eq]
  change (if (Text.utf8 h.assigned).all isTextByte = true then _ else _ : Response).valuesOf _ = _
  rw [if_pos (utf8_text_sendable hid.text), Response.valuesOf_setHeader_self]
  rfl

/-- The next host accepts an id without its blanks. -/
theorem assigned_relayed {a b : Hop} (hid : Context.Portable a.assigned) (h : a.Relays b) :
    b.assigned = Text.trim a.assigned := by
  obtain ⟨id, hecho, hcarried⟩ := h
  rw [echoed_assigned hid, Option.some.injEq] at hecho
  subst hecho
  have hread : b.call.request.headerText? Context.header = some a.assigned := by
    rw [Request.headerText?, hcarried, Option.bind_some, readable_utf8 hid.text]
  rw [assigned, PipelineSettings.contextOf, Context.incomingId?, hread, Option.bind_some, hid.accepted]
  rfl

/-- An accepted text gives an id that every further host can carry. -/
theorem portable_assigned {h : Hop} {text : String} (hread : h.call.request.headerText? Context.header = some text)
    (hne : Text.trim text ≠ "") :
    h.assigned = String.ofList ((Text.trim text).toList.take Context.maxIdLength) ∧ Context.Portable h.assigned := by
  obtain ⟨value, -, hvalue⟩ := Option.bind_eq_some_iff.1 hread
  have hid : h.assigned = String.ofList ((Text.trim text).toList.take Context.maxIdLength) := by
    rw [assigned, PipelineSettings.contextOf, Context.incomingId?, hread, Option.bind_some, Context.acceptedId_eq,
      if_neg hne]
    rfl
  refine ⟨hid, ?_⟩
  rw [hid]
  exact Context.portable_cut (readable_text hvalue) hne

/-- Down a chain of hosts the id loses its blanks at the second and stays as it is from there on. -/
theorem assigned_chain {first : Hop} {rest : List Hop} (hid : Context.Portable first.assigned)
    (hrelay : (first :: rest).IsChain Hop.Relays) :
    ∀ hop ∈ rest, hop.assigned = Text.trim first.assigned ∧ Context.Portable hop.assigned := by
  induction rest generalizing first with
  | nil => exact List.forall_mem_nil _
  | cons second rest ih =>
    obtain ⟨hfirst, hrest⟩ := List.isChain_cons_cons.1 hrelay
    have hsecond := assigned_relayed hid hfirst
    have hport : Context.Portable second.assigned := by
      rw [hsecond]
      exact hid.trim
    intro hop hmem
    rcases List.mem_cons.1 hmem with rfl | hmem
    · exact ⟨hsecond, hport⟩
    · obtain ⟨hhop, hp⟩ := ih hport hrest hop hmem
      rw [hsecond, Text.trim_trim] at hhop
      exact ⟨hhop, hp⟩

/-! ## Ids are stable but for a blank at the cut -/

/--
  Every host of a chain sends back the id that it has given the call. From the second on they
  all give the same one, the first id without a blank at its end, and it is the first id
  itself if and only if no blank stands at the place where ids are cut.
-/
theorem ids_settle {first : Hop} {rest : List Hop} {text : String}
    (hread : first.call.request.headerText? Context.header = some text) (hne : Text.trim text ≠ "")
    (hrelay : (first :: rest).IsChain Hop.Relays) :
    (∀ hop ∈ first :: rest, hop.echoed? = some hop.assigned) ∧
    (∀ hop ∈ rest, hop.assigned = Text.trim first.assigned) ∧
    ((∀ hop ∈ rest, hop.assigned = first.assigned) ↔
      rest = [] ∨
        ∀ ch, (Text.trim text).toList[Context.maxIdLength - 1]? = some ch → Text.isBlank ch = false) := by
  obtain ⟨hfirst, hid⟩ := portable_assigned hread hne
  have hchain := assigned_chain hid hrelay
  refine ⟨fun hop hmem => ?_, fun hop hmem => (hchain hop hmem).1, ?_⟩
  · rcases List.mem_cons.1 hmem with rfl | hmem
    · exact echoed_assigned hid
    · exact echoed_assigned (hchain hop hmem).2
  · rw [← Context.trim_cut_iff, ← hfirst]
    constructor
    · intro hsame
      cases rest with
      | nil => exact .inl rfl
      | cons second rest =>
        refine .inr ?_
        rw [← (hchain second List.mem_cons_self).1]
        exact hsame second List.mem_cons_self
    · rintro (rfl | htrim) hop hmem
      · cases hmem
      · rw [(hchain hop hmem).1, htrim]

def carrying (id : String) : Hop where
  settings := adminsOnly
  services := [echoService]
  sink := .injected
  pipeline := ⟨_, _⟩
  built := rfl
  registry := {}
  call := { guestCall with request := { guestCall.request with headers := [(Context.header, Text.utf8 id)] } }

theorem ids_settle_padded :
    ((carrying " job-7 ").call.request.headerText? Context.header = some " job-7 " ∧ Text.trim " job-7 " ≠ "" ∧
        [carrying " job-7 ", carrying "job-7", carrying "job-7"].IsChain Hop.Relays) ∧
      ∀ hop ∈ [carrying "job-7", carrying "job-7"], hop.assigned = Text.trim (carrying " job-7 ").assigned := by
  have hread : (carrying " job-7 ").call.request.headerText? Context.header = some " job-7 " := by decide
  have hne : Text.trim " job-7 " ≠ "" := by decide
  have hrelay : [carrying " job-7 ", carrying "job-7", carrying "job-7"].IsChain Hop.Relays :=
    .cons_cons ⟨"job-7", by decide, rfl⟩ (.cons_cons ⟨"job-7", by decide, rfl⟩ (.singleton _))
  exact ⟨⟨hread, hne, hrelay⟩, (ids_settle hread hne hrelay).2.1⟩

/-- A text with a blank where ids are cut. -/
def blankAtCut : String := String.ofList (List.replicate 63 'a' ++ [' ', 'b'])

/-- The second host gives an id of its own to a call that carries the first one's. -/
theorem blank_at_cut_lost :
    (carrying blankAtCut).Relays (carrying (carrying blankAtCut).assigned) ∧
      (carrying (carrying blankAtCut).assigned).assigned ≠ (carrying blankAtCut).assigned := by
  have hread : (carrying blankAtCut).call.request.headerText? Context.header = some blankAtCut := by decide +kernel
  have hne : Text.trim blankAtCut ≠ "" := by decide +kernel
  obtain ⟨-, hid⟩ := portable_assigned hread hne
  exact ⟨⟨_, echoed_assigned hid, rfl⟩, by decide +kernel⟩

end Hop

end Http

end ServiceHost
