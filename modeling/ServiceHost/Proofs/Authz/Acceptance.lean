/-
  ServiceHost.Proofs.Authz.Acceptance — what the validation of the settings and the reading
  of the rules make of one list of entries.

  The validation looks at the shape of the `allow` entries and at nothing else. So two kinds
  of entries pass it and are not read as rules (`Unnoticed`): an `allow` entry of the right
  shape that names no role, and an entry of the other two lists that does not start with a
  slash. Everything it reports is refused by the reading too; and a run of the command on
  accepted settings ends with invalid rules if and only if one of their entries is of these
  kinds (`refused_iff_unnoticed`).
-/

import ServiceHost.Proofs.Authz.Reading
import ServiceHost.Proofs.Host.Logging
import ServiceHost.Proofs.Host.Security
import ServiceHost.Proofs.Host.Silence

namespace ServiceHost

open ServiceHost.Config

/-! ## What the validation reports -/

namespace Config

/-- Whether the field at fault is one of the authorization's. -/
def Problem.ofAuthz (p : Problem) : Bool := "authz.".toList.isPrefixOf p.field.toList

theorem Problem.ofAuthz_iff {p : Problem} : p.ofAuthz = true ↔ ∃ entry, p = .allowForm entry := by
  constructor
  · intro h
    cases p with
    | allowForm entry => exact ⟨entry, rfl⟩
    | _ =>
      simp only [ofAuthz, field] at h
      exact absurd h (by decide)
  · rintro ⟨entry, rfl⟩
    simp only [ofAuthz, field]
    decide

theorem mem_found {b : Bool} {p q : Problem} : q ∈ found b p ↔ b = true ∧ q = p := by
  cases b <;> simp [found]

theorem AuthzConfig.mem_problems {c : AuthzConfig} {entry : String} :
    .allowForm entry ∈ c.problems ↔ entry ∈ c.allow ∧ isAllowForm entry = false := by
  simp only [problems, List.mem_flatMap, mem_found, Problem.allowForm.injEq, Bool.not_eq_true']
  exact ⟨fun ⟨e, he, hform, heq⟩ => heq ▸ ⟨he, hform⟩, fun ⟨he, hform⟩ => ⟨entry, he, hform, rfl⟩⟩

/-- Of the authorization's fields it reports only `allow`, and that for the shape of an entry. -/
theorem HostConfig.reports_ofAuthz_iff {c : HostConfig} :
    (∃ p ∈ c.problems, p.ofAuthz = true) ↔ ∃ entry ∈ c.authz.allow, isAllowForm entry = false := by
  have hmem (entry : String) : .allowForm entry ∈ c.problems ↔ .allowForm entry ∈ c.authz.problems := by
    have hhttp : .allowForm entry ∉ c.http.problems := by
      simp only [HttpConfig.problems]
      split <;> split <;> simp [mem_found]
    have htls : .allowForm entry ∉ (c.tls.map TlsConfig.problems).getD [] := by
      cases c.tls <;> simp [TlsConfig.problems, mem_found]
    have hlog : .allowForm entry ∉ c.observability.problems := by simp [ObservabilityConfig.problems, mem_found]
    simp only [problems, List.mem_append, hhttp, htls, hlog, false_or, or_false]
  constructor
  · rintro ⟨p, hp, hauthz⟩
    obtain ⟨entry, rfl⟩ := Problem.ofAuthz_iff.1 hauthz
    exact ⟨entry, AuthzConfig.mem_problems.1 ((hmem entry).1 hp)⟩
  · rintro ⟨entry, hentry⟩
    exact ⟨_, (hmem entry).2 (AuthzConfig.mem_problems.2 hentry), Problem.ofAuthz_iff.2 ⟨entry, rfl⟩⟩

end Config

/-! ## What the reading refuses besides -/

namespace Authz

open ServiceHost.Text RuleSet

def afterColon (entry : String) : List Char := (entry.toList.dropWhile (· ≠ ':')).drop 1

/-- Entries that the validation lets pass and that are not read as rules. -/
inductive Unnoticed (c : AuthzConfig) : Prop where
  /-- An `allow` entry in form that names no role. -/
  | roleless (entry : String) (listed : entry ∈ c.allow) (form : isAllowForm entry = true)
      (nobody : ¬ NamesRole (afterColon entry))
  /-- An entry of one of the other lists that does not start with a slash. -/
  | unrooted (entry : String) (listed : entry ∈ c.allowAny ++ c.allowAnyRole) (slashless : entry.toList.head? ≠ some '/')

theorem Rule.ofAllow_ok_iff {entry : String} :
    (∃ r, ofAllow entry = .ok r) ↔ isAllowForm entry = true ∧ NamesRole (afterColon entry) := by
  have hafter {stem rest : List Char} (hentry : entry.toList = stem ++ ':' :: rest) (hcolon : ':' ∉ stem) :
      afterColon entry = rest := by
    rw [afterColon, hentry, List.dropWhile_append_of_pos]
    · simp
    · intro ch hch
      exact decide_eq_true fun heq => hcolon (heq ▸ hch)
  simp only [ofAllow_eq_ok_iff, isAllowForm, Bool.and_eq_true, decide_eq_true_eq, List.contains_iff_mem]
  constructor
  · rintro ⟨r, stem, rest, hentry, hcolon, hslash, hrole, -⟩
    rw [hafter hentry hcolon, hentry, List.head?_append, hslash]
    exact ⟨⟨rfl, by simp⟩, hrole⟩
  · rintro ⟨⟨hslash, hmem⟩, hrole⟩
    obtain ⟨stem, rest, hentry, hcolon⟩ := List.eq_append_cons_of_mem hmem
    rw [hafter hentry hcolon] at hrole
    refine ⟨_, stem, rest, hentry, hcolon, ?_, hrole, rfl⟩
    -- the slash in front is not the colon, so it is the first character of the stem
    cases stem with
    | nil => simp [hentry] at hslash
    | cons ch stem => simpa [hentry] using hslash

theorem Rule.ofPath_ok_iff {access : Access} {entry : String} :
    (∃ r, ofPath access entry = .ok r) ↔ entry.toList.head? = some '/' := by
  simp only [ofPath_eq_ok_iff, exists_and_left, exists_eq, and_true]

/-- Settings are read if and only if each of their entries is. -/
theorem RuleSet.ofConfig_ok_iff {c : AuthzConfig} :
    (∃ s, ofConfig c = .ok s) ↔ (∀ entry ∈ c.allow, isAllowForm entry = true ∧ NamesRole (afterColon entry)) ∧
      ∀ entry ∈ c.allowAny ++ c.allowAnyRole, entry.toList.head? = some '/' := by
  have hlists : (∃ s, ofConfig c = .ok s) ↔ ∃ rules, Lists c rules := by
    simp only [ofConfig_eq_ok_iff]
    exact ⟨fun ⟨_, rules, h, _⟩ => ⟨rules, h⟩, fun ⟨rules, h⟩ => ⟨_, rules, h, rfl⟩⟩
  have hparts : (∃ rules, Lists c rules) ↔ (∃ rs : List Rule, c.allow.map Rule.ofAllow = rs.map .ok) ∧
      (∃ rs : List Rule, c.allowAny.map (Rule.ofPath .anyone) = rs.map .ok) ∧
        ∃ rs : List Rule, c.allowAnyRole.map (Rule.ofPath .anyRole) = rs.map .ok :=
    ⟨fun ⟨_, allow, anyone, anyRole, ha, hb, hc, _⟩ => ⟨⟨allow, ha⟩, ⟨anyone, hb⟩, ⟨anyRole, hc⟩⟩,
      fun ⟨⟨allow, ha⟩, ⟨anyone, hb⟩, ⟨anyRole, hc⟩⟩ => ⟨_, allow, anyone, anyRole, ha, hb, hc, rfl⟩⟩
  rw [hlists, hparts]
  simp only [exists_map_ok_iff, Rule.ofAllow_ok_iff, Rule.ofPath_ok_iff, List.forall_mem_append]

/-- Settings are read if and only if nothing is reported of them and nothing passes unnoticed. -/
theorem read_iff {c : HostConfig} :
    (∃ s, ofConfig c.authz = .ok s) ↔ (¬ ∃ p ∈ c.problems, p.ofAuthz = true) ∧ ¬ Unnoticed c.authz := by
  rw [ofConfig_ok_iff, HostConfig.reports_ofAuthz_iff]
  constructor
  · rintro ⟨hallow, hpaths⟩
    refine ⟨fun ⟨entry, hentry, hform⟩ => ?_, fun hu => ?_⟩
    · rw [(hallow entry hentry).1] at hform
      cases hform
    · cases hu with
      | roleless entry hentry _ hnobody => exact hnobody (hallow entry hentry).2
      | unrooted entry hentry hslashless => exact hslashless (hpaths entry hentry)
  · rintro ⟨hreported, hu⟩
    have hform (entry : String) (hentry : entry ∈ c.authz.allow) : isAllowForm entry = true :=
      Bool.not_eq_false _ ▸ fun hform => hreported ⟨entry, hentry, hform⟩
    refine ⟨fun entry hentry => ⟨hform entry hentry, ?_⟩, fun entry hentry => ?_⟩
    · by_cases hrole : NamesRole (afterColon entry)
      · exact hrole
      · exact absurd (.roleless entry hentry (hform entry hentry) hrole) hu
    · by_cases hslash : entry.toList.head? = some '/'
      · exact hslash
      · exact absurd (.unrooted entry hentry hslash) hu

end Authz

/-! ## A run of the command -/

namespace Session

open Authz (Unnoticed)

variable {α β : Type} {o : CommandLine.Options} {w : World} {config : HostConfig}

def invalidRules (e : Authz.Error) : Log.Event :=
  ⟨.error, .command, "Invalid authorization rules", [("error", .bare e.message)]⟩

def refusals (es : List Effect) : List Log.Event :=
  (Effect.eventsTo .ambient es).filter (·.message = "Invalid authorization rules")

/-- A launch on these settings logs one, and ends with it. -/
structure Refused (o : CommandLine.Options) (w : World) (config : HostConfig) : Prop where
  ended : (launch o w config).run.value = .error ()
  logged : ∃ e, refusals (launch o w config).run.effects = [invalidRules e]

theorem settingsFor_valid (hc : settingsFor o w.files = .ok config) : config.problems = [] := by
  have hcheck {c : HostConfig} {e : List Problem → LoadError} (h : c.check.mapError e = .ok config) :
      config.problems = [] := by
    unfold HostConfig.check at h
    split at h
    · next hnil =>
      cases h
      exact List.isEmpty_iff.1 hnil
    · cases h
  unfold settingsFor at hc
  split at hc
  · next path _ =>
    unfold Config.load at hc
    cases htext : w.files.readText path with
    | error e =>
      rw [htext] at hc
      cases hc
    | ok content =>
      rw [htext] at hc
      change Config.parse content = .ok config at hc
      unfold Config.parse at hc
      split at hc
      · cases hc
      · exact hcheck hc
  · cases hc
    rfl

theorem lift_bind_run (x : Run α) (f : α → Part β) : ((liftM x : Part α) >>= f).run = x >>= fun a => (f a).run :=
  bind_map_left (m := Run) Except.ok x _

@[simp] theorem refusals_append (es es' : List Effect) : refusals (es ++ es') = refusals es ++ refusals es' := by
  rw [refusals, Effect.eventsTo_append, List.filter_append, refusals, refusals]

theorem refusals_exporter (c : ObservabilityConfig) (bind : Net.Binder) : refusals (exporter c bind).effects = [] := by
  unfold exporter
  split
  · split
    · simp [refusals, Effect.eventsTo]
    · split <;> simp [refusals, Effect.eventsTo]
  · rfl

theorem refusals_starting (o : CommandLine.Options) :
    refusals (Run.log .ambient .info .command "service-hub starting"
      [("version", .text "0.1.0"), ("role", .bare o.role)]).effects = [] := by
  simp [refusals, Effect.eventsTo]

theorem refusals_started (ended : Host × Except StartFailure Unit) : refusals (started ended).run.effects = [] := by
  obtain ⟨h, outcome⟩ := ended
  match outcome with
  | .ok () => rfl
  | .error (.error e) =>
    have he : (started (h, .error (.error e))).run.effects =
        [.logged .ambient ⟨.error, .command, "Failed to start", [("error", .bare e.message)]⟩] := rfl
    simp [he, refusals, Effect.eventsTo]
  | .error (.broken _) => rfl

/-- A launch with the rules at hand does not complain of them, whatever else becomes of it. -/
theorem refusals_launch {rules? : Option Authz.RuleSet} (hr : rulesFor config.authz = pure rules?) :
    refusals (launch o w config).run.effects = [] := by
  have hcreate : refusals (Host.create (hostSettings o w config rules?)).effects = [] := rfl
  have hmade : (Host.create (hostSettings o w config rules?)).value = Host.made (hostSettings o w config rules?) {} := rfl
  have hadd (s : Host.Settings) : refusals ((Host.made s {}).addService (Status.service 0)).effects = [] := rfl
  have hstart (h : Host) (hz : h.settings.authorizer.LogsAsTold) (env : Surroundings) :
      refusals (h.start env).effects = [] := by
    rw [refusals, (Host.start_to hz env).ambient]
    rfl
  simp only [launch, lift_bind_run, hr, pure_bind, Run.effects_bind, refusals_append, refusals_starting,
    refusals_exporter, hcreate, hmade, hadd, refusals_started, List.nil_append, List.append_nil]
  exact hstart _ Http.Authorizer.byRules_logs _

theorem refused_of_error {e : Authz.Error} (hr : rulesFor config.authz = abandon (invalidRules e).message e.message) :
    Refused o w config := by
  have habandon (f : Option Authz.RuleSet → Part Host) :
      (abandon (invalidRules e).message e.message >>= f).run = ⟨.error (), [.logged .ambient (invalidRules e)]⟩ := rfl
  have hone : refusals [.logged .ambient (invalidRules e)] = [invalidRules e] := by
    simp [refusals, Effect.eventsTo, invalidRules]
  constructor
  · simp only [launch, lift_bind_run, hr, habandon, Run.value_bind]
  · refine ⟨e, ?_⟩
    simp only [launch, lift_bind_run, hr, habandon, Run.effects_bind, refusals_append, refusals_starting,
      refusals_exporter, hone, List.nil_append]

theorem refused_iff : Refused o w config ↔ ¬ ∃ s, Authz.RuleSet.ofConfig config.authz = .ok s := by
  have hquiet {rules? : Option Authz.RuleSet} (hr : rulesFor config.authz = pure rules?) : ¬ Refused o w config := by
    rintro ⟨-, e, he⟩
    rw [refusals_launch hr] at he
    cases he
  by_cases hempty : config.authz.isEmpty = true
  · -- without entries there are no rules to read, and an empty set could be read
    have hread : ∃ s, Authz.RuleSet.ofConfig config.authz = .ok s := by
      simp only [AuthzConfig.isEmpty, Bool.and_eq_true, List.isEmpty_iff] at hempty
      simp [Authz.RuleSet.ofConfig_ok_iff, hempty]
    exact iff_of_false (hquiet (by rw [rulesFor, if_pos hempty])) (not_not_intro hread)
  · cases hread : Authz.RuleSet.ofConfig config.authz with
    | ok s => exact iff_of_false (hquiet (by rw [rulesFor, if_neg hempty, hread])) (not_not_intro ⟨s, rfl⟩)
    | error e =>
      refine iff_of_true (refused_of_error (e := e) ?_) fun ⟨s, hs⟩ => nomatch hs
      rw [rulesFor, if_neg hempty, hread]
      rfl

end Session

/-! ## The two checks of one list -/

open Authz (Unnoticed)

/--
  The rules of settings can be read if and only if the validation reports nothing of an
  authorization field and no entry passes it unnoticed. On settings that a run of the
  command accepts it ends with invalid rules if and only if one does.
-/
theorem refused_iff_unnoticed (c : HostConfig) (o : CommandLine.Options) (w : World) :
    ((∃ s, Authz.RuleSet.ofConfig c.authz = .ok s) ↔
        (¬ ∃ p ∈ c.problems, p.ofAuthz = true) ∧ ¬ Unnoticed c.authz) ∧
      (Session.settingsFor o w.files = .ok c → (Session.Refused o w c ↔ Unnoticed c.authz)) := by
  refine ⟨Authz.read_iff, fun hc => ?_⟩
  have hproblems := Session.settingsFor_valid hc
  rw [Session.refused_iff, Authz.read_iff, hproblems]
  simp

namespace Roleless

/-- A path for roles, without a role. -/
def config : HostConfig := { authz := { allow := ["/x:"] } }

def options : CommandLine.Options := { config? := some "hub.toml" }

def world : World :=
  { files := { stored := [("hub.toml", ⟨Text.utf8 "[authz]\nallow = [\"/x:\"]\n", 0⟩)] }
    network := { freePort := 40000 }, now := 0, epoch := 0, process := "hub", machine := {}, contextId := "id-1" }

theorem accepted : Session.settingsFor options world.files = .ok config := by
  have hread : (Session.settingsFor options world.files).toOption = some config := by decide +kernel
  cases hc : Session.settingsFor options world.files with
  | error e =>
    rw [hc] at hread
    cases hread
  | ok c =>
    rw [hc] at hread
    exact congrArg Except.ok (Option.some.inj hread)

theorem unnoticed : Unnoticed config.authz := .roleless "/x:" (.head _) (by decide) (by decide)

theorem unread : ¬ ∃ s, Authz.RuleSet.ofConfig config.authz = .ok s := fun hs => (Authz.read_iff.1 hs).2 unnoticed

end Roleless

open Roleless in
theorem refused_iff_unnoticed_roleless :
    Session.settingsFor options world.files = .ok config ∧ Unnoticed config.authz ∧
      Session.Refused options world config :=
  ⟨accepted, unnoticed, ((refused_iff_unnoticed config options world).2 accepted).2 unnoticed⟩

open Roleless in
/-- Settings that the validation has nothing to say of, and that a run accepts and then gives up on. -/
theorem roleless_refused :
    config.problems = [] ∧ (¬ ∃ s, Authz.RuleSet.ofConfig config.authz = .ok s) ∧
      Session.settingsFor options world.files = .ok config ∧ Session.Refused options world config :=
  ⟨Session.settingsFor_valid accepted, unread, accepted, Session.refused_iff.2 unread⟩

end ServiceHost
