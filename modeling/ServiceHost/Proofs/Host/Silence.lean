/-
  ServiceHost.Proofs.Host.Silence — a start that leaves nothing listening, and who hears
  of it.

  Two places decide: the listener tells the fatal handler of an address in use and of
  nothing else, and the start makes an error of a listener that did not come up only if
  there is no handler. What falls between them is a bind that fails for another reason
  while a handler is installed: the start returns as if all were well, nothing listens,
  and the handler is not called. These are the only silent starts. A run of the command
  always installs a handler, so on such an address it waits for a signal and then exits
  with success, having served nothing.
-/

import ServiceHost.Proofs.Host.Retry
import ServiceHost.Session

namespace ServiceHost

namespace Host

/-- The start returned without an error and nothing listens, yet the fatal handler was not called exactly once. -/
structure Silent (ran : Run (Host × Except StartFailure Unit)) : Prop where
  ok : ran.value.2 = .ok ()
  deaf : ran.value.1.localAddr? = none
  unheard : (Effect.fatals ran.effects).length ≠ 1

/-- No stage has a fault, a fatal handler is installed, and binding fails for another reason than an address in use. -/
structure Unheard (s : Settings) (r : Registry) (env : Surroundings) : Prop where
  faultless : StartStage.first? StartStage.all s r env = none
  handler : s.fatalHandler = true
  unbound : ∃ addr e, env.resolve s.config.http.bindAddr = .ok addr ∧ env.bind addr = .error e ∧ e ≠ .addressInUse

variable {s : Settings} {r : Registry} {env : Surroundings}

theorem handler_of_faultless {addr : Net.SocketAddr} {e : IoError}
    (hf : StartStage.first? StartStage.all s r env = none) (ha : env.resolve s.config.http.bindAddr = .ok addr)
    (hb : env.bind addr = .error e) : s.fatalHandler = true := by
  have hl : StartStage.fault? s r env .listening = none :=
    List.findSome?_eq_none_iff.1 hf _ (by decide)
  cases hh : s.fatalHandler with
  | true => rfl
  | false => simp [StartStage.fault?, ha, hb, hh, errorOf?] at hl

/-- The silent starts are those of which nobody hears. -/
theorem start_silent_iff (s : Settings) (r : Registry) (env : Surroundings) :
    Silent ((made s r).start env) ↔ Unheard s r env := by
  constructor
  · intro hsilent
    have hf : StartStage.first? StartStage.all s r env = none := faultless_of_ok (h := made s r) rfl rfl hsilent.ok
    obtain ⟨p, serving, hu⟩ := start_of_none (h := made s r) rfl rfl hf
    have hdeaf := hsilent.deaf
    have hunheard := hsilent.unheard
    rw [hu.value] at hdeaf
    rw [hu.fatals] at hunheard
    cases hb : env.bind p.addr with
    | ok bound =>
      simp only [up, made, hb, Except.toOption, Option.none_or] at hdeaf
      cases hdeaf
    | error e =>
      have hh := handler_of_faultless hf hu.fits.addr hb
      refine ⟨hf, hh, p.addr, e, hu.fits.addr, hb, fun he => hunheard ?_⟩
      subst he
      simp only [escalated, hb, made, hh]
      rfl
  · intro hunheard
    obtain ⟨addr, e, ha, hb, he⟩ := hunheard.unbound
    obtain ⟨p, serving, hu⟩ := start_of_none (h := made s r) rfl rfl hunheard.faultless
    have hp : p.addr = addr := Except.ok.inj (hu.fits.addr.symm.trans ha)
    have hquiet : escalated s env addr = [] := by
      unfold escalated
      split
      · next heq _ => exact absurd (Except.error.inj (hb.symm.trans heq)) he
      · rfl
    constructor
    · rw [hu.value]
    · rw [hu.value]
      simp only [up, made, hp, hb, Except.toOption, Option.none_or]
    · rw [hu.fatals, hp, show escalated (made s r).settings env addr = _ from hquiet]
      decide

end Host

/-! ## Runs of the command -/

namespace Session

variable {α β : Type} {o : CommandLine.Options} {w : World}

theorem bind_ok {x : Part α} {f : α → Part β} {b : β} (h : (x >>= f).run.value = .ok b) :
    ∃ a, x.run.value = .ok a ∧ (f a).run.value = .ok b ∧
      (x >>= f).run.effects = x.run.effects ++ (f a).run.effects := by
  have hb : (x >>= f).run = x.run >>= ExceptT.bindCont f := rfl
  rw [hb, Run.value_bind] at h
  rw [hb, Run.effects_bind]
  cases hx : x.run.value with
  | error e =>
    rw [hx] at h
    cases h
  | ok a =>
    rw [hx] at h
    exact ⟨a, rfl, h, rfl⟩

theorem lift_bind_ok {x : Run α} {f : α → Part β} {b : β} (h : ((liftM x : Part α) >>= f).run.value = .ok b) :
    (f x.value).run.value = .ok b ∧
      ((liftM x : Part α) >>= f).run.effects = x.effects ++ (f x.value).run.effects := by
  obtain ⟨a, hx, hf, he⟩ := bind_ok h
  cases hx
  exact ⟨hf, by rw [he]; exact congrArg (· ++ _) (List.append_nil _)⟩

theorem fatals_exporter (c : Config.ObservabilityConfig) (bind : Net.Binder) :
    Effect.fatals (exporter c bind).effects = [] := by
  unfold exporter
  split
  · split
    · rfl
    · split <;> rfl
  · rfl

theorem fatals_rulesFor (c : Config.AuthzConfig) : Effect.fatals (rulesFor c).run.effects = [] := by
  unfold rulesFor
  split
  · rfl
  · split <;> rfl

theorem started_ok {ended : Host × Except StartFailure Unit} {host : Host}
    (hs : (started ended).run.value = .ok host) : ended = (host, .ok ()) ∧ (started ended).run.effects = [] := by
  obtain ⟨h, outcome⟩ := ended
  match outcome with
  | .ok () =>
    cases hs
    exact ⟨rfl, rfl⟩
  | .error (.error e) => cases hs
  | .error (.broken o) => cases hs

def surroundings (w : World) (config : Config.HostConfig) : Surroundings :=
  meets w (exporter config.observability w.network.bind).value

/-- A launch of the command that comes to a host started it, and reports what the start did. -/
theorem launch_ok {config : Config.HostConfig} {host : Host} (hl : (launch o w config).run.value = .ok host) :
    ∃ rules? r,
      ((Host.made (hostSettings o w config rules?) r).start (surroundings w config)).value = (host, .ok ()) ∧
        Effect.fatals (launch o w config).run.effects =
          Effect.fatals ((Host.made (hostSettings o w config rules?) r).start (surroundings w config)).effects := by
  unfold launch at hl ⊢
  obtain ⟨hl, he⟩ := lift_bind_ok hl
  obtain ⟨hl, he₁⟩ := lift_bind_ok hl
  obtain ⟨rules?, -, hl, he₂⟩ := bind_ok hl
  obtain ⟨hl, he₃⟩ := lift_bind_ok hl
  obtain ⟨hl, he₄⟩ := lift_bind_ok hl
  obtain ⟨hl, he₅⟩ := lift_bind_ok hl
  obtain ⟨hh, he₆⟩ := started_ok hl
  have hadd := Host.value_addService (Host.create (hostSettings o w config rules?)).value (Status.service 0)
  have hmade : ((Host.create (hostSettings o w config rules?)).value.addService (Status.service 0)).value =
      Host.made (hostSettings o w config rules?) (Registry.put {} (Status.service 0)) := hadd
  have hmeets : meets w (exporter config.observability w.network.bind).value = surroundings w config := rfl
  rw [hmade, hmeets] at hh
  refine ⟨rules?, _, hh, ?_⟩
  have hlog : Effect.fatals (Run.log .ambient .info .command "service-hub starting"
      [("version", .text "0.1.0"), ("role", .bare o.role)]).effects = [] := rfl
  have hcreate : Effect.fatals (Host.create (hostSettings o w config rules?)).effects = [] := rfl
  rw [he, he₁, he₂, he₃, he₄, he₅, he₆, hmade, hmeets, List.append_nil]
  simp only [Effect.fatals_append, hlog, fatals_exporter, fatals_rulesFor, hcreate, (Host.addService_quiet _ _).fatals,
    List.nil_append]

theorem start_ok {ses : Session} (hs : Session.start o w = .ok ses) :
    ∃ config, (launch o w config).run.value = .ok ses.host ∧ ses.effects = (launch o w config).run.effects := by
  unfold Session.start at hs
  split at hs
  · cases hs
  · next config _ =>
    split at hs
    · cases hs
    · next logging _ =>
      simp only at hs
      split at hs
      · next host hl =>
        cases hs
        exact ⟨config, hl, rfl⟩
      · cases hs

/-- A run that waits for its end, though nothing listens and no fatal error has come up. -/
structure Idle (ses : Session) : Prop where
  deaf : ses.host.localAddr? = none
  waiting : ses.fatal? = none

theorem fatals_start (s : Host.Settings) (r : Registry) (env : Surroundings)
    (ho : ((Host.made s r).start env).value.2 = .ok ()) :
    (Effect.fatals ((Host.made s r).start env).effects).length ≤ 1 := by
  obtain ⟨p, serving, hu⟩ := Host.start_of_none rfl rfl (Host.faultless_of_ok (h := Host.made s r) rfl rfl ho)
  rw [hu.fatals, Host.escalated]
  split
  · exact Nat.le_refl 1
  · exact Nat.zero_le 1

/-- A run idles if its host starts in silence, and only then. -/
theorem idle_iff_silent {ses : Session} {s : Host.Settings} {r : Registry} {env : Surroundings}
    (hv : ((Host.made s r).start env).value = (ses.host, .ok ()))
    (hf : Effect.fatals ses.effects = Effect.fatals ((Host.made s r).start env).effects) :
    ses.Idle ↔ Host.Silent ((Host.made s r).start env) := by
  have ho : ((Host.made s r).start env).value.2 = .ok () := by rw [hv]
  have hle := fatals_start s r env ho
  constructor
  · intro hi
    have hwaiting := hi.waiting
    rw [fatal?, hf, List.head?_eq_none_iff] at hwaiting
    refine ⟨ho, ?_, ?_⟩
    · rw [hv]
      exact hi.deaf
    · rw [hwaiting]
      decide
  · intro hq
    have hdeaf := hq.deaf
    have hunheard := hq.unheard
    rw [hv] at hdeaf
    refine ⟨hdeaf, ?_⟩
    rw [fatal?, hf, List.head?_eq_none_iff]
    exact List.eq_nil_of_length_eq_zero (by omega)

/-- The runs that idle are those whose address cannot be bound for another reason than being in use. -/
theorem idle_iff {ses : Session} (hs : Session.start o w = .ok ses) :
    ses.Idle ↔ ∃ addr e,
      Net.Bind.resolve ses.host.settings.config.http.bindAddr = .ok addr ∧
        (surroundings w ses.host.settings.config).bind addr = .error e ∧ e ≠ .addressInUse := by
  obtain ⟨config, hl, he⟩ := start_ok hs
  obtain ⟨rules?, r, hv, hfatals⟩ := launch_ok hl
  rw [← he] at hfatals
  have hfault : StartStage.first? StartStage.all (hostSettings o w config rules?) r (surroundings w config) = none :=
    Host.faultless_of_ok (h := Host.made (hostSettings o w config rules?) r) rfl rfl (by rw [hv])
  have hsettings : ses.host.settings.config = config := by
    obtain ⟨p, serving, hu⟩ := Host.start_of_none (h := Host.made (hostSettings o w config rules?) r) rfl rfl hfault
    have hhost := congrArg (·.1) (hv.symm.trans hu.value)
    simp only at hhost
    rw [hhost]
    rfl
  rw [idle_iff_silent hv hfatals, Host.start_silent_iff, hsettings]
  constructor
  · exact fun hu => hu.unbound
  · exact fun hb => ⟨hfault, rfl, hb⟩

end Session

/-! ## The silent starts -/

/--
  A start without error leaves nothing listening, with the fatal handler not called
  exactly once, if and only if binding failed for another reason than an address in use
  and a handler is installed. A run of the command then waits, and a signal ends it with
  success; no other run that waits has no listener and no fatal error.
-/
theorem silent_starts (s : Host.Settings) (r : Registry) (env : Surroundings) (o : CommandLine.Options) (w : World) :
    (Host.Silent ((Host.made s r).start env) ↔ Host.Unheard s r env) ∧
      ∀ ses, Session.start o w = .ok ses →
        (ses.Idle ↔ ∃ addr e,
          Net.Bind.resolve ses.host.settings.config.http.bindAddr = .ok addr ∧
            (Session.surroundings w ses.host.settings.config).bind addr = .error e ∧ e ≠ .addressInUse) ∧
        ∀ signal, (ses.finish w (.signal signal)).code = Session.success :=
  ⟨Host.start_silent_iff s r env, fun _ hs => ⟨Session.idle_iff hs, fun _ => rfl⟩⟩

/-- The hub on an address of another machine, with a fatal handler. -/
def strayHub : Host.Settings :=
  { config := { http := { bindAddr := "[2001:db8::1]:8080" } }, role := "hub", contextId := "id-1"
    fatalHandler := true }

def oneMachine : Surroundings :=
  { files := {}, bind := ({ freePort := 40000 } : Net.Network).bind, now := 0, epoch := 0, process := "hub" }

/-- A machine that has no address at all. -/
def addressless : World :=
  { files := {}, network := { freePort := 40000, foreign := fun _ => true }, now := 0, epoch := 0, process := "hub"
    machine := {}, contextId := "id-1" }

/-- The stray hub starts in silence, and on the other machine so does a run of the command. -/
theorem silent_starts_addressless :
    Host.Unheard strayHub {} oneMachine ∧ ∃ ses, Session.start {} addressless = .ok ses ∧ ses.Idle := by
  have hs : Session.start {} addressless = .ok ⟨_, _, _⟩ := rfl
  obtain ⟨hsilent, hidle⟩ := silent_starts strayHub {} oneMachine {} addressless
  refine ⟨hsilent.1 ⟨rfl, rfl, by decide⟩, _, hs, (hidle _ hs).1.2 ?_⟩
  exact ⟨⟨.v4 [0, 0, 0, 0], 8080, 0⟩, .addressNotAvailable, rfl, rfl, by decide⟩

/-- The settings of the stray hub are valid, and it starts without error, listens nowhere, and calls nobody. -/
theorem strayHub_silent :
    strayHub.config.problems = [] ∧ ((Host.made strayHub {}).start oneMachine).value.2 = .ok () ∧
      ((Host.made strayHub {}).start oneMachine).value.1.localAddr? = none ∧
      Effect.fatals ((Host.made strayHub {}).start oneMachine).effects = [] :=
  ⟨rfl, rfl, rfl, rfl⟩

end ServiceHost
