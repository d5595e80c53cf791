/-
  ServiceHost.Proofs.Http.Guests — whom a rule for every role lets through.

  Such a rule is meant for every caller that presents a certificate. It is told only the
  role of the caller, and takes the role of a guest for a caller without a certificate.
  The default mapping reads the role off the certificate, from the organizational unit,
  else from the common name, else from the whole subject. The whole subject is never the
  name of that role (`Name.text_ne_guest`); the other two can be. So a caller whose
  certificate says that it is a guest is refused as if it had presented none
  (`anyRole_guests`), and no other is.
-/

import ServiceHost.Proofs.Http.Authorization
import ServiceHost.Tls.Base64
import ServiceHost.Tls.Certificate

namespace ServiceHost

/-! ## Subjects -/

namespace Tls.Name

/-- What a name is written with: an equals sign for each attribute, or nothing but what stands between them. -/
def Written (s : String) : Prop := '=' ∈ s.toList ∨ ∀ c ∈ s.toList, c ∈ [',', ' ', '+']

theorem Written.append {s t : String} (hs : Written s) (ht : Written t) : Written (s ++ t) := by
  simp only [Written, String.toList_append, List.mem_append] at hs ht ⊢
  rcases hs with hs | hs
  · exact .inl (.inl hs)
  · rcases ht with ht | ht
    · exact .inl (.inr ht)
    · exact .inr fun c hc => hc.elim (hs c) (ht c)

theorem Written.intercalate {sep : String} (hsep : Written sep) {parts : List String}
    (h : ∀ p ∈ parts, Written p) : Written (sep.intercalate parts) := by
  induction parts with
  | nil => exact .inr (by simp)
  | cons p parts ih =>
    cases parts with
    | nil => simpa using h p List.mem_cons_self
    | cons q parts =>
      rw [String.intercalate_cons_cons]
      exact ((h p List.mem_cons_self).append hsep).append (ih fun r hr => h r (List.mem_cons_of_mem _ hr))

theorem mem_of_mapM {α β : Type} {f : α → Option β} {xs : List α} {ys : List β} (h : xs.mapM f = some ys) :
    ∀ y ∈ ys, ∃ x ∈ xs, f x = some y := by
  induction xs generalizing ys with
  | nil => simp_all
  | cons x xs ih =>
    simp only [List.mapM_cons, Option.bind_eq_bind, Option.bind_eq_some_iff, Option.pure_def, Option.some.injEq] at h
    obtain ⟨y, hy, ys, hys, rfl⟩ := h
    intro z hz
    rcases List.mem_cons.mp hz with rfl | hz
    · exact ⟨x, List.mem_cons_self, hy⟩
    · obtain ⟨w, hw, hf⟩ := ih hys z hz
      exact ⟨w, List.mem_cons_of_mem _ hw, hf⟩

theorem attributeText_written {a : Attribute} {s : String} (h : attributeText? a = some s) : Written s := by
  obtain ⟨v, -, rfl⟩ := Option.map_eq_some_iff.mp h
  exact .inl (by simp)

theorem text_written {n : Name} {s : String} (h : n.text? = some s) : Written s := by
  obtain ⟨groups, hgroups, hs⟩ := Option.bind_eq_some_iff.mp h
  cases hs
  refine Written.intercalate (.inr (by simp)) fun g hg => ?_
  obtain ⟨attributes, -, hattributes⟩ := mem_of_mapM hgroups g hg
  obtain ⟨parts, hparts, hg⟩ := Option.bind_eq_some_iff.mp hattributes
  cases hg
  refine Written.intercalate (.inr (by simp)) fun p hp => ?_
  obtain ⟨a, -, ha⟩ := mem_of_mapM hparts p hp
  exact attributeText_written ha

theorem text_ne_guest (n : Name) : n.text ≠ Identity.guestRole := by
  intro heq
  cases h : n.text? with
  | none =>
    rw [text, h] at heq
    exact absurd heq (by decide)
  | some s =>
    rw [text, h] at heq
    have hs : Written Identity.guestRole := heq ▸ text_written h
    -- the role is a word of letters alone, none of them an equals sign or a separator
    simp [Written, Identity.guestRole] at hs

end Tls.Name

/-! ## Certificates -/

/-- A certificate that the default mapping takes for a guest's. -/
def CertificateInfo.NamesGuest (c : CertificateInfo) : Prop :=
  c.organizationalUnit = some Identity.guestRole ∨
    c.organizationalUnit = none ∧ c.commonName = some Identity.guestRole

theorem Identity.ofCertificate_role {c : CertificateInfo} (hs : c.subject ≠ guestRole) :
    (ofCertificate c).role = guestRole ↔ c.NamesGuest := by
  obtain ⟨subject, commonName, organizationalUnit, notAfter⟩ := c
  cases organizationalUnit <;> cases commonName <;> simp_all [ofCertificate, CertificateInfo.NamesGuest]

theorem Tls.Certificate.subject_ne_guest {der : Text.Octets} {info : CertificateInfo}
    (h : Certificate.read? der = some info) : info.subject ≠ Identity.guestRole := by
  obtain ⟨c, -, rfl⟩ := Option.map_eq_some_iff.mp h
  exact Name.text_ne_guest c.subject

namespace Http

/-- What the caller's own certificate says, if it presents one that can be read. -/
def Request.certificate? (r : Request) : Option CertificateInfo := r.leaf?.bind Tls.Certificate.read?

/-- A caller with a certificate of its own, that does not say it is a guest's. -/
def Request.Vouched (r : Request) : Prop := ∃ info, r.certificate? = some info ∧ ¬ info.NamesGuest

/-! ## Callers -/

section Callers

variable {c : PipelineSettings} {call : Call}

/-- With the default reading and mapping of certificates. -/
structure PipelineSettings.Plain (c : PipelineSettings) : Prop where
  reads : c.readCertificate = Tls.Certificate.read?
  maps : c.mapper = Identity.ofCertificate

theorem caller_guest (hc : c.Plain) : (c.caller call).role = Identity.guestRole ↔ ¬ call.request.Vouched := by
  rw [PipelineSettings.caller, Layers.identify, hc.reads, hc.maps, Request.Vouched, Request.certificate?]
  cases hl : call.request.leaf? with
  | none => simp [Identity.guest]
  | some der =>
    cases hr : Tls.Certificate.read? der with
    | none => simp [hr, Identity.guest]
    | some info => simp [hr, Identity.ofCertificate_role (Tls.Certificate.subject_ne_guest hr)]

variable {rules : Authz.RuleSet} {rule : Authz.Rule}

theorem allows_anyRole (hc : c.Plain) (hd : rules.deciding? call.request.uri.path = some rule)
    (hr : rule.access = .anyRole) :
    rules.allows call.request.uri.path (c.caller call).role = true ↔ call.request.Vouched := by
  simp only [Authz.RuleSet.allows, hd, Option.any_some, Authz.Rule.permits, hr, decide_not, Bool.not_eq_true',
    decide_eq_false_iff_not, caller_guest hc, Classical.not_not]

/-- A path that one of the settings' rules for every role decides. -/
structure ForEveryRole (config : Config.AuthzConfig) (rules : Authz.RuleSet) (path : String) : Prop where
  made : Authz.RuleSet.ofConfig config = .ok rules
  decided : ∃ entry ∈ config.allowAnyRole, rules.deciding? path = some ⟨entry, .anyRole⟩

/--
  Where a rule for every role decides, a caller passes if and only if it presents a
  certificate that can be read and does not say it is a guest's. Any other is refused,
  with a certificate or without.
-/
theorem anyRole_guests {config : Config.AuthzConfig} {services : List Service} {sink : Log.Sink} {p : Run Pipeline}
    (hc : c.Plain) (hz : c.authorizer = .byRules) (hr : c.rules? = some rules) (ha : c.clientAuth = true)
    (hb : Pipeline.build c services sink = .ok p) (hd : ForEveryRole config rules call.request.uri.path) :
    (rules.allows call.request.uri.path (c.caller call).role = true ↔ call.request.Vouched) ∧
      (call.request.Vouched → ∀ registry inner,
        p.value.layers registry inner call = p.value.opened.layers registry inner call) ∧
      (¬ call.request.Vouched → ∀ registry, c.Refused call (p.value.serve registry call)) := by
  obtain ⟨entry, -, hdecided⟩ := hd.decided
  have hallows := allows_anyRole hc hdecided rfl
  obtain ⟨-, hs, -, hguard⟩ := build_ok hb
  obtain ⟨layer, hl, hlg⟩ := hguard rules hr ha
  have henforce : p.value.guard = Layers.enforce rules fun call => Context.roleOf call.context? := by
    rw [hz] at hl
    cases hl
    exact hlg
  have hlayers := layers_guarded henforce
  rw [hs] at hlayers
  refine ⟨hallows, fun hv registry inner => ?_, fun hv registry => ?_⟩
  · rw [hlayers, if_pos (hallows.mpr hv)]
  · refine serve_refused c Layers.unclaimed fun inner => ?_
    rw [hlayers, if_neg (mt hallows.mp hv)]

end Callers

namespace GuestUnit

/-- A client certificate of the subject CN=eve, OU=guest. -/
def certificate : Text.Octets :=
  match Tls.Base64.decode (Text.utf8
    ("MIIBOjCB4qADAgECAgEHMAoGCCqGSM49BAMCMBYxFDASBgNVBAMMC2h1YiB0ZXN0IGNhMCAXDTAwMDEwMTAwMDAwMFoYDzIwOTkxMjMx" ++
     "MjM1OTU5WjAeMQwwCgYDVQQDDANldmUxDjAMBgNVBAsMBWd1ZXN0MFkwEwYHKoZIzj0CAQYIKoZIzj0DAQcDQgAEJm1veJMuFPWEvFSv" ++
     "Zux7cBu/wfBHfZJNbGk/VXknQydL9JktP2TXNdL6npj5SILAVUL/4lUSu1W5gX93js8+OaMXMBUwEwYDVR0lBAwwCgYIKwYBBQUHAwIw" ++
     "CgYIKoZIzj0EAwIDRwAwRAIger8Ob8YlYMFu8dIeWX8XnoYp2ofFIoqk/07dthlwaI4CICW9s3z5Wnp462qBtqkiwFbu18wJiLRS6Y1G" ++
     "5cdk2mLE")) with
  | .ok der => der
  | .error _ => []

def info : CertificateInfo :=
  { subject := "CN=eve, OU=guest", commonName := some "eve", organizationalUnit := some "guest"
    notAfter := 4102444799 }

def config : Config.AuthzConfig := { allowAnyRole := ["/v1/echo"] }

def rules : Authz.RuleSet := ⟨[⟨"/v1/echo", .anyRole⟩]⟩

def settings : PipelineSettings :=
  { role := "hub", rules? := some rules, clientAuth := true, readCertificate := Tls.Certificate.read? }

def call : Call :=
  { request := { method := "POST", uri := ⟨"/v1/echo", some "/v1/echo"⟩, body := "hi", chain? := some [certificate] }
    occasion := { freshId := "id-1" } }

theorem plain : settings.Plain := ⟨rfl, rfl⟩

theorem decided : rules.deciding? call.request.uri.path = some ⟨"/v1/echo", .anyRole⟩ := by decide +kernel

theorem forEveryRole : ForEveryRole config rules call.request.uri.path where
  made := by
    have hrule : Authz.Rule.ofPath .anyRole "/v1/echo" = .ok ⟨"/v1/echo", .anyRole⟩ := rfl
    simp [Authz.RuleSet.ofConfig, Authz.RuleSet.listed, config, rules, hrule, bind, Except.bind, pure, Except.pure]
  decided := ⟨"/v1/echo", by simp [config], decided⟩

theorem read_certificate : call.request.certificate? = some info := by decide +kernel

theorem unvouched : ¬ call.request.Vouched := by
  rintro ⟨info', hinfo, hnot⟩
  cases read_certificate.symm.trans hinfo
  exact hnot (.inl rfl)

end GuestUnit

open GuestUnit in
theorem anyRole_guests_unit :
    ForEveryRole config rules call.request.uri.path ∧ ¬ call.request.Vouched ∧
      ∃ p, Pipeline.build settings [echoService] .injected = .ok p ∧
        settings.Refused call (p.value.serve {} call) := by
  have hb : Pipeline.build settings [echoService] .injected = .ok ⟨_, _⟩ := rfl
  exact ⟨forEveryRole, unvouched, _, hb, (anyRole_guests plain rfl rfl rfl hb forEveryRole).2.2 unvouched {}⟩

open GuestUnit in
/-- A certificate is not enough for a rule that is for every role. -/
theorem certified_refused :
    ForEveryRole config rules call.request.uri.path ∧ call.request.certificate? = some info ∧
      rules.allows call.request.uri.path (settings.caller call).role = false :=
  ⟨forEveryRole, read_certificate, Bool.eq_false_iff.mpr (mt (allows_anyRole plain decided rfl).mp unvouched)⟩

end Http

end ServiceHost
