/-
  ServiceHost.Proofs.Host.Stages — what each stage of a start comes to.

  A stage yields an outcome, the host after it and some news. Every poller it arms is
  either the one the host is arming afterwards or has been closed again (`Stage.Yields`).
  What a stage fails with depends on the settings, the services and the surroundings alone
  (`StartStage.fault?`), so the first stage with a fault decides how a start comes out.
-/

import ServiceHost.Proofs.Host.Marks
import ServiceHost.Proofs.Http.Authorization

namespace ServiceHost

/-! ## Running stages -/

namespace Stage

variable {α β ε : Type} {x : Stage α} {f : α → Stage β} {h h' h'' : Host}

theorem exec_pure (a : α) (h : Host) : (pure a : Stage α).exec h = ⟨(.ok a, h), []⟩ := rfl

theorem exec_throw (e : StartFailure) (h : Host) : (throw e : Stage α).exec h = ⟨(.error e, h), []⟩ := rfl

theorem exec_modify (f : Host → Host) (h : Host) : (modify f : Stage Unit).exec h = ⟨(.ok (), f h), []⟩ := rfl

theorem exec_lift (x : StateT Host Run α) (h : Host) :
    (liftM x : Stage α).exec h = ⟨(.ok (x h).value.1, (x h).value.2), (x h).effects⟩ :=
  congrArg (Run.mk _) (List.append_nil _)

theorem exec_liftRun (x : Run α) (h : Host) : (liftM x : Stage α).exec h = ⟨(.ok x.value, h), x.effects⟩ :=
  congrArg (Run.mk _) ((List.append_nil _).trans (List.append_nil _))

theorem exec_bind (x : Stage α) (f : α → Stage β) (h : Host) :
    (x >>= f).exec h =
      ⟨(ExceptT.bindCont f (x.exec h).value.1 (x.exec h).value.2).value,
        (x.exec h).effects ++ (ExceptT.bindCont f (x.exec h).value.1 (x.exec h).value.2).effects⟩ := rfl

theorem exec_bind_ok {a : α} (hx : (x.exec h).value = (.ok a, h')) :
    (x >>= f).exec h = ⟨((f a).exec h').value, (x.exec h).effects ++ ((f a).exec h').effects⟩ := by
  rw [exec_bind, hx]
  rfl

theorem exec_bind_error {e : StartFailure} (hx : (x.exec h).value = (.error e, h')) :
    (x >>= f).exec h = ⟨(.error e, h'), (x.exec h).effects⟩ := by
  rw [exec_bind, hx]
  exact congrArg (Run.mk _) (List.append_nil _)

/--
  A part of the start comes to an outcome and a host, and to some news. It accounts for
  every poller: the host arms one more for each that was armed and not closed again.
-/
structure Yields (x : Stage α) (h : Host) (outcome : Except StartFailure α) (h' : Host) (news : List Effect) :
    Prop where
  value : (x.exec h).value = (outcome, h')
  news : Effect.news (x.exec h).effects = news
  pollers : Effect.armings (x.exec h).effects + h.arming?.toList.length =
    Effect.disarmings (x.exec h).effects + h'.arming?.toList.length

theorem Yields.of_quiet {r : Except StartFailure α} {es : List Effect} (hx : x.exec h = ⟨(r, h'), es⟩)
    (hq : Effect.Quiet es) (ha : h'.arming? = h.arming?) : x.Yields h r h' [] := by
  refine ⟨by rw [hx], ?_, ?_⟩
  · rw [hx, hq.news]
  · rw [hx, hq.armings, hq.disarmings, ha]

theorem yields_pure (a : α) (h : Host) : (pure a : Stage α).Yields h (.ok a) h [] :=
  .of_quiet (exec_pure a h) Effect.quiet_nil rfl

theorem yields_throw (e : StartFailure) (h : Host) : (throw e : Stage α).Yields h (.error e) h [] :=
  .of_quiet (exec_throw e h) Effect.quiet_nil rfl

theorem yields_modify {g : Host → Host} (ha : (g h).arming? = h.arming?) :
    (modify g : Stage Unit).Yields h (.ok ()) (g h) [] :=
  .of_quiet (exec_modify g h) Effect.quiet_nil ha

theorem Yields.get {f : Host → Stage β} {r : Except StartFailure β} {ns : List Effect}
    (hf : (f h).Yields h r h' ns) : ((get : Stage Host) >>= f).Yields h r h' ns :=
  ⟨hf.value, hf.news, hf.pollers⟩

theorem yields_liftRun {ran : Run α} (h : Host) (hq : Effect.Quiet ran.effects) :
    (liftM ran : Stage α).Yields h (.ok ran.value) h [] :=
  .of_quiet (exec_liftRun ran h) hq rfl

theorem Yields.bind {a : α} {r : Except StartFailure β} {ns ns' : List Effect} (hx : x.Yields h (.ok a) h' ns)
    (hf : (f a).Yields h' r h'' ns') : (x >>= f).Yields h r h'' (ns ++ ns') := by
  have he := exec_bind_ok (f := f) hx.value
  have hp := hx.pollers
  have hp' := hf.pollers
  constructor
  · rw [he, hf.value]
  · rw [he, Effect.news_append, hx.news, hf.news]
  · simp only [he, Effect.armings_append, Effect.disarmings_append]
    omega

theorem Yields.ends {e : StartFailure} {ns : List Effect} (hx : x.Yields h (.error e) h' ns) :
    (x >>= f).Yields h (.error e) h' ns := by
  have he := exec_bind_error (f := f) hx.value
  constructor
  · rw [he]
  · rw [he, hx.news]
  · rw [he]
    exact hx.pollers

theorem Yields.value_eq {r : Except StartFailure α} {ns : List Effect} (hx : x.Yields h r h' ns) :
    x.exec h = ⟨(r, h'), (x.exec h).effects⟩ := by rw [← hx.value]

theorem yields_ofExcept_ok {wrap : ε → StartError} {y : Except ε (Run α)} {ran : Run α} (h : Host) (hy : y = .ok ran)
    (hq : Effect.Quiet ran.effects) : (ofExcept wrap y).Yields h (.ok ran.value) h [] := by
  rw [hy]
  exact yields_liftRun h hq

theorem yields_ofExcept_error {wrap : ε → StartError} {y : Except ε (Run α)} {e : ε} (h : Host) (hy : y = .error e) :
    (ofExcept wrap y).Yields h (.error (.error (wrap e))) h [] := by
  rw [hy]
  exact yields_throw _ h

end Stage

/-! ## What the stages make of the settings and the surroundings -/

def errorOf? {ε α : Type} : Except ε α → Option ε
  | .ok _ => none
  | .error e => some e

/-- The stages of a start that can fail, in order. -/
inductive StartStage where
  | validation
  | bindAddress
  | profiler
  | tls
  | pipeline
  | listening
  deriving DecidableEq, Repr

namespace Host

def profiled (c : Config.HttpConfig) (env : Surroundings) : Except Http.ProfilerError (Option Http.Profiler) :=
  if c.allowProfiling then
    (Http.Profiler.start env.files (c.profilerDir.getD "") env.process c.profilerSampleRate .injected).map fun ran =>
      some ran.value
  else .ok none

def armedFor (t : Config.TlsConfig) (env : Surroundings) : Except Tls.Error Tls.Reloader :=
  (Tls.Reloader.arm env.keys env.files t.certFile t.keyFile (t.reloadIntervalSecs * 1000) env.now .injected).map
    (·.value)

def secured (t : Config.TlsConfig) (env : Surroundings) : Except Tls.Error PreparedTls := do
  let reloader ← armedFor t env
  let serving ← Tls.Serving.make env.files (nonEmpty? t.trustedCaFile) t.clientAuthRequired .injected
  return ⟨reloader, serving.value, t.clientAuthRequired, t.expiryCheckSecs⟩

/-- The keypair with its terms, if connections are to be encrypted. -/
def Settings.secured? (s : Settings) (env : Surroundings) : Except Tls.Error (Option PreparedTls) :=
  match s.tls? with
  | some t => (secured t env).map some
  | none => .ok none

/-- Whether a start of these settings asks clients for a certificate. -/
def Settings.wantsClientAuth (s : Settings) : Bool := s.tls?.any (·.clientAuthRequired)

end Host

open Host in
/-- What a stage fails with, if those before it do not fail. -/
def StartStage.fault? (s : Settings) (r : Registry) (env : Surroundings) : StartStage → Option StartFailure
  | validation => if s.config.problems.isEmpty then none else some (.error (.config s.config.problems))
  | bindAddress =>
    (errorOf? (env.resolve s.config.http.bindAddr)).map fun e => .error (.bindAddress s.config.http.bindAddr e)
  | profiler => (errorOf? (profiled s.config.http env)).map fun e => .error (.profiler e)
  | tls => (errorOf? (s.secured? env)).map fun e => .error (.tls e)
  | pipeline =>
    match Http.Table.ofServices (r.listed env.order), s.rules?, s.wantsClientAuth with
    | none, _, _ => some (.broken (s.tls?.bind fun t => (armedFor t env).toOption))
    | some _, some rules, true =>
      (errorOf? (s.authorizer.layer rules (some fun call => Context.roleOf call.context?) .injected)).map fun e =>
        .error (.authz e)
    | _, _, _ => none
  | listening =>
    match env.resolve s.config.http.bindAddr, s.fatalHandler with
    | .ok addr, false => (errorOf? (env.bind addr)).map fun _ => .error (.notListening addr)
    | _, _ => none

/-- Whether a listener is as it was launched: it takes connections, or never came up. -/
def Net.Listener.Launched (l : Net.Listener) : Prop := l.ending? = if l.bound?.isSome then none else some .regular

namespace StartStage

def early : List StartStage := [validation, bindAddress, profiler, tls]

def all : List StartStage := early ++ [pipeline, listening]

/-- The fault of the first stage that has one. -/
def first? (stages : List StartStage) (s : Host.Settings) (r : Registry) (env : Surroundings) : Option StartFailure :=
  stages.findSome? (fault? s r env)

end StartStage

namespace Host

open Stage

variable {h : Host} {env : Surroundings}

/-! ## The reloader of a start -/

def holding (h : Host) (r? : Option Tls.Reloader) : Host := { h with arming? := r? }

theorem holding_self (h : Host) : h.holding h.arming? = h := rfl

theorem holding_none (ha : h.arming? = none) : h.holding none = h := ha ▸ holding_self h

theorem yields_closeReloader {r? : Option Tls.Reloader} (ha : h.arming? = r?)
    (ho : ∀ r, r? = some r → r.isClosed = false) :
    (liftM (closeReloader r?) : Stage Unit).Yields h (.ok ()) (h.holding none) [] := by
  cases r? with
  | none =>
    rw [holding_none ha]
    exact .of_quiet (exec_lift _ _) Effect.quiet_nil rfl
  | some r =>
    obtain ⟨hs, hup, hdown⟩ := Tls.Reloader.close_disarms reloaderSinks (ho r rfl)
    have he : (liftM (closeReloader (some r)) : Stage Unit).exec h =
        ⟨(.ok (), h.holding none), (r.close reloaderSinks).effects⟩ := by
      rw [exec_lift]
      exact congrArg (Run.mk _) ((List.append_nil _).trans (List.append_nil _))
    refine ⟨by rw [he], by rw [he, hs], ?_⟩
    rw [he, hup, hdown, ha]
    rfl

theorem armedFor_ok {t : Config.TlsConfig} {r : Tls.Reloader} (hr : armedFor t env = .ok r) :
    ∃ ran, Tls.Reloader.arm env.keys env.files t.certFile t.keyFile (t.reloadIntervalSecs * 1000) env.now .injected =
      .ok ran ∧ ran.value = r := by
  unfold armedFor at hr
  cases ha : Tls.Reloader.arm env.keys env.files t.certFile t.keyFile (t.reloadIntervalSecs * 1000) env.now
      .injected with
  | error e => simp [ha, Except.map] at hr
  | ok ran =>
    simp only [ha, Except.map, Except.ok.injEq] at hr
    exact ⟨ran, rfl, hr⟩

theorem armedFor_open {t : Config.TlsConfig} {r : Tls.Reloader} (hr : armedFor t env = .ok r) : r.isClosed = false := by
  obtain ⟨ran, ha, rfl⟩ := armedFor_ok hr
  exact (Tls.Reloader.arm_tells ha).1

/-- The poller that an arming starts is accounted for once the host holds its reloader. -/
theorem yields_arm {β : Type} {ran : Run Tls.Reloader} {f : Tls.Reloader → Stage β} {r : Except StartFailure β}
    {h' : Host} {ns : List Effect} {fields : List (String × Log.Value)} (ha : h.arming? = none)
    (he : ran.effects = [.logged .injected ⟨.info, .reloader, "Keypair reloader armed", fields⟩])
    (hf : (f ran.value).Yields (h.holding (some ran.value)) r h' ns) :
    ((liftM ran : Stage Tls.Reloader) >>= fun r =>
      modify (fun h => { h with arming? := some r }) >>= fun _ => f r).Yields h r h' ns := by
  have hx : ((liftM ran : Stage Tls.Reloader) >>= fun r =>
        modify (fun h => { h with arming? := some r }) >>= fun _ => f r).exec h =
      ⟨((f ran.value).exec (h.holding (some ran.value))).value,
        ran.effects ++ ((f ran.value).exec (h.holding (some ran.value))).effects⟩ := by
    rw [exec_bind_ok (congrArg Run.value (exec_liftRun ran h)), exec_liftRun]
    rfl
  have hp := hf.pollers
  rw [show (h.holding (some ran.value)).arming?.toList.length = 1 from rfl] at hp
  constructor
  · rw [hx, hf.value]
  · rw [hx, Effect.news_append, hf.news, he]
    rfl
  · rw [hx, Effect.armings_append, Effect.disarmings_append, he, ha]
    have hup : Effect.armings [.logged .injected ⟨.info, .reloader, "Keypair reloader armed", fields⟩] = 1 := rfl
    have hdown : Effect.disarmings [.logged .injected ⟨.info, .reloader, "Keypair reloader armed", fields⟩] = 0 := rfl
    simp only [hup, hdown, Option.toList_none, List.length_nil]
    omega

/-! ## The stages before the pipeline -/

theorem yields_secure (t : Config.TlsConfig) (env : Surroundings) (ha : h.arming? = none) :
    match secured t env with
    | .ok x => (secure t env).Yields h (.ok x) (h.holding (some x.reloader)) []
    | .error e => (secure t env).Yields h (.error (.error (.tls e))) h [] := by
  cases hr : Tls.Reloader.arm env.keys env.files t.certFile t.keyFile (t.reloadIntervalSecs * 1000) env.now
      .injected with
  | error e =>
    simp only [secured, armedFor, hr, Except.map, bind, Except.bind]
    exact (yields_ofExcept_error h hr).ends
  | ok ran =>
    obtain ⟨ho, fields, he⟩ := Tls.Reloader.arm_tells hr
    have hclosed : ((h.holding (some ran.value)).holding none) = h := holding_none ha
    simp only [secured, armedFor, hr, Except.map, bind, Except.bind]
    cases hs : Tls.Serving.make env.files (nonEmpty? t.trustedCaFile) t.clientAuthRequired .injected with
    | error e =>
      simp only [secure, hr, hs, Stage.ofExcept]
      refine yields_arm ha he ?_
      have hc := yields_closeReloader (h := h.holding (some ran.value)) rfl (by rintro _ ⟨⟩; exact ho)
      rw [hclosed] at hc
      exact hc.bind (yields_throw _ h)
    | ok serving =>
      simp only [secure, hr, hs, Stage.ofExcept, pure, Except.pure]
      refine yields_arm ha he ?_
      refine (yields_liftRun _ (Tls.Serving.make_remarks hs).quiet).bind (.bind (yields_liftRun _ ?_) (yields_pure _ _))
      simp

variable (h) (s : Settings) (r : Registry) (env : Surroundings)

theorem validate_cases :
    (∃ e, StartStage.fault? s r env .validation = some (.error e) ∧
        (validate s.config).Yields h (.error (.error e)) h []) ∨
      StartStage.fault? s r env .validation = none ∧ (validate s.config).Yields h (.ok ()) h [] := by
  simp only [StartStage.fault?, validate]
  by_cases hp : s.config.problems.isEmpty = true
  · rw [if_pos hp, if_pos hp]
    exact .inr ⟨rfl, yields_pure () h⟩
  · rw [if_neg hp, if_neg hp]
    exact .inl ⟨_, rfl, yields_throw _ h⟩

theorem resolve_cases :
    (∃ e, StartStage.fault? s r env .bindAddress = some (.error e) ∧
        (resolve s.config.http env).Yields h (.error (.error e)) h []) ∨
      ∃ addr, StartStage.fault? s r env .bindAddress = none ∧ env.resolve s.config.http.bindAddr = .ok addr ∧
        (resolve s.config.http env).Yields h (.ok addr) h [] := by
  simp only [StartStage.fault?, resolve]
  cases ha : env.resolve s.config.http.bindAddr with
  | error e => exact .inl ⟨_, rfl, yields_ofExcept_error h rfl⟩
  | ok addr => exact .inr ⟨addr, rfl, rfl, yields_ofExcept_ok h rfl Effect.quiet_nil⟩

theorem prepareProfiler_cases :
    (∃ e, StartStage.fault? s r env .profiler = some (.error e) ∧
        (prepareProfiler s.config.http env).Yields h (.error (.error e)) h []) ∨
      ∃ p?, StartStage.fault? s r env .profiler = none ∧ profiled s.config.http env = .ok p? ∧
        (prepareProfiler s.config.http env).Yields h (.ok p?) h [] := by
  simp only [StartStage.fault?, prepareProfiler, profiled]
  by_cases hp : s.config.http.allowProfiling = true
  · rw [if_pos hp, if_pos hp]
    cases hs : Http.Profiler.start env.files (s.config.http.profilerDir.getD "") env.process
        s.config.http.profilerSampleRate .injected with
    | error e => exact .inl ⟨_, rfl, (yields_ofExcept_error h rfl).ends⟩
    | ok ran =>
      exact .inr ⟨_, rfl, rfl, (yields_ofExcept_ok h rfl (Http.Profiler.start_remarks hs).quiet).bind (yields_pure _ h)⟩
  · rw [if_neg hp, if_neg hp]
    exact .inr ⟨none, rfl, rfl, yields_pure none h⟩

variable {h}

theorem prepareTls_cases (ha : h.arming? = none) :
    (∃ e, StartStage.fault? s r env .tls = some (.error e) ∧
        (prepareTls s.tls? env).Yields h (.error (.error e)) h []) ∨
      ∃ t?, StartStage.fault? s r env .tls = none ∧ s.secured? env = .ok t? ∧
        (prepareTls s.tls? env).Yields h (.ok t?) (h.holding (t?.map (·.reloader))) [] := by
  simp only [StartStage.fault?, Settings.secured?, prepareTls]
  cases ht : s.tls? with
  | none =>
    refine .inr ⟨none, rfl, rfl, ?_⟩
    rw [Option.map_none, holding_none ha]
    exact yields_pure none h
  | some t =>
    have hs := yields_secure t env ha
    cases hx : secured t env with
    | error e =>
      simp only [hx] at hs ⊢
      exact .inl ⟨_, rfl, hs.ends⟩
    | ok x =>
      simp only [hx] at hs ⊢
      exact .inr ⟨some x, rfl, rfl, hs.bind (yields_pure (some x) _)⟩

/-- What `prepare` makes of settings and surroundings. -/
structure Prepared.Fits (p : Prepared) (s : Settings) (env : Surroundings) : Prop where
  addr : env.resolve s.config.http.bindAddr = .ok p.addr
  profiler : profiled s.config.http env = .ok p.profiler?
  tls : s.secured? env = .ok p.tls?

/--
  Without a fault up to the TLS stage everything is ready for the pipeline. The first
  fault is what `prepare` ends with, and leaves the host as it was.
-/
theorem prepare_cases (ha : h.arming? = none) :
    (∃ e, StartStage.first? StartStage.early h.settings r env = some (.error e) ∧
        (prepare env).Yields h (.error (.error e)) h []) ∨
      ∃ p : Prepared, StartStage.first? StartStage.early h.settings r env = none ∧ p.Fits h.settings env ∧
        (prepare env).Yields h (.ok p) (h.holding p.reloader?) [] := by
  simp only [prepare, StartStage.first?, StartStage.early, List.findSome?_cons, List.findSome?_nil]
  rcases validate_cases h h.settings r env with ⟨e, hf, hy⟩ | ⟨hf, hy⟩
  · exact .inl ⟨e, by rw [hf], .get hy.ends⟩
  rw [hf]
  rcases resolve_cases h h.settings r env with ⟨e, hf', hy'⟩ | ⟨addr, hf', haddr, hy'⟩
  · exact .inl ⟨e, by rw [hf'], .get (hy.bind hy'.ends)⟩
  rw [hf']
  rcases prepareProfiler_cases h h.settings r env with ⟨e, hf'', hy''⟩ | ⟨p?, hf'', hp, hy''⟩
  · exact .inl ⟨e, by rw [hf''], .get (hy.bind (hy'.bind hy''.ends))⟩
  rw [hf'']
  rcases prepareTls_cases h.settings r env ha with ⟨e, hf3, hy3⟩ | ⟨t?, hf3, ht, hy3⟩
  · exact .inl ⟨e, by rw [hf3], .get (hy.bind (hy'.bind (hy''.bind hy3.ends)))⟩
  rw [hf3]
  refine .inr ⟨⟨addr, p?, t?⟩, rfl, ⟨haddr, hp, ht⟩, ?_⟩
  exact .get (hy.bind (hy'.bind (hy''.bind (hy3.bind (yields_pure _ _)))))

namespace Prepared.Fits

variable {s env} {p p' : Prepared}

theorem unique (hp : p.Fits s env) (hp' : p'.Fits s env) : p = p' := by
  cases p
  cases p'
  have ha := hp.addr.symm.trans hp'.addr
  have hf := hp.profiler.symm.trans hp'.profiler
  have ht := hp.tls.symm.trans hp'.tls
  cases ha
  cases hf
  cases ht
  rfl

theorem secured_ok {t : Config.TlsConfig} {x : PreparedTls} (hx : secured t env = .ok x) :
    armedFor t env = .ok x.reloader ∧ x.clientAuth = t.clientAuthRequired := by
  unfold secured at hx
  cases hr : armedFor t env with
  | error e => simp [hr, bind, Except.bind] at hx
  | ok r =>
    simp only [hr, bind, Except.bind] at hx
    split at hx
    · cases hx
    · cases hx
      exact ⟨rfl, rfl⟩

theorem cases (hp : p.Fits s env) :
    (s.tls? = none ∧ p.tls? = none) ∨ ∃ t x, s.tls? = some t ∧ p.tls? = some x ∧ secured t env = .ok x := by
  have ht := hp.tls
  unfold Settings.secured? at ht
  cases hs : s.tls? with
  | none =>
    simp only [hs, Except.ok.injEq] at ht
    exact .inl ⟨rfl, ht.symm⟩
  | some t =>
    cases hx : secured t env with
    | error e => simp [hs, hx, Except.map] at ht
    | ok x =>
      simp only [hs, hx, Except.map, Except.ok.injEq] at ht
      exact .inr ⟨t, x, rfl, ht.symm, hx⟩

theorem clientAuth (hp : p.Fits s env) : p.clientAuth = s.wantsClientAuth := by
  unfold Prepared.clientAuth Settings.wantsClientAuth
  rcases hp.cases with ⟨hs, ht⟩ | ⟨t, x, hs, ht, hx⟩
  · rw [hs, ht]
    rfl
  · rw [hs, ht, Option.any_some, Option.any_some, (secured_ok hx).2]

theorem reloader (hp : p.Fits s env) : p.reloader? = s.tls?.bind fun t => (armedFor t env).toOption := by
  unfold Prepared.reloader?
  rcases hp.cases with ⟨hs, ht⟩ | ⟨t, x, hs, ht, hx⟩
  · rw [hs, ht]
    rfl
  · rw [hs, ht, Option.map_some, Option.bind_some, (secured_ok hx).1]
    rfl

theorem reloader_open (hp : p.Fits s env) {r : Tls.Reloader} (hr : p.reloader? = some r) : r.isClosed = false := by
  unfold Prepared.reloader? at hr
  rcases hp.cases with ⟨-, ht⟩ | ⟨t, x, -, ht, hx⟩
  · simp [ht] at hr
  · rw [ht, Option.map_some, Option.some.injEq] at hr
    subst hr
    exact armedFor_open (secured_ok hx).1

end Prepared.Fits

/-! ## The pipeline stage -/

theorem build_quiet {c : Http.PipelineSettings} {ss : List Service} {sink : Log.Sink} {ran : Run Http.Pipeline}
    (hb : Http.Pipeline.build c ss sink = .ok ran) : Effect.Quiet ran.effects := by
  refine Effect.quiet_iff.2 fun e he => ?_
  rcases Http.build_told hb e he with ⟨event, rfl, harea⟩ | ⟨rules, role?, layer, hl, he⟩
  · exact Effect.isMark_of_area (congrArg some harea) (by decide) (by decide)
  · exact Effect.isMark_of_area (c.authorizer.notes hl e he) (by decide) (by decide)

variable {r env} {p : Prepared}

/-- The three ends of a build are the three cases of its fault. -/
theorem build_cases (hp : p.Fits s env) :
    (∃ e, StartStage.fault? s r env .pipeline = some (.error (.authz e)) ∧
        Http.Pipeline.build (s.pipeline p) (r.listed env.order) .injected = .error (.authz e)) ∨
      (StartStage.fault? s r env .pipeline = some (.broken p.reloader?) ∧
        Http.Pipeline.build (s.pipeline p) (r.listed env.order) .injected = .error .routes) ∨
      ∃ ran, StartStage.fault? s r env .pipeline = none ∧
        Http.Pipeline.build (s.pipeline p) (r.listed env.order) .injected = .ok ran := by
  simp only [StartStage.fault?, Http.Pipeline.build, Settings.pipeline, hp.clientAuth, ← hp.reloader]
  cases ht : Http.Table.ofServices (r.listed env.order) with
  | none => exact .inr (.inl ⟨rfl, rfl⟩)
  | some table =>
    cases hr : s.rules? with
    | none => exact .inr (.inr ⟨_, rfl, rfl⟩)
    | some rules =>
      cases hc : s.wantsClientAuth with
      | false => exact .inr (.inr ⟨_, rfl, rfl⟩)
      | true =>
        cases hl : s.authorizer.layer rules (some fun call => Context.roleOf call.context?) .injected with
        | error e =>
          simp only [hl]
          exact .inl ⟨e, rfl, rfl⟩
        | ok layer =>
          simp only [hl]
          exact .inr (.inr ⟨_, rfl, rfl⟩)

theorem buildPipeline_cases (hp : p.Fits h.settings env) (ha : h.arming? = p.reloader?) :
    (∃ e, StartStage.fault? h.settings h.registry env .pipeline = some (.error e) ∧
        (buildPipeline env p).Yields h (.error (.error e)) (h.holding none) []) ∨
      (StartStage.fault? h.settings h.registry env .pipeline = some (.broken p.reloader?) ∧
        (buildPipeline env p).Yields h (.error (.broken p.reloader?)) h []) ∨
      ∃ ran, StartStage.fault? h.settings h.registry env .pipeline = none ∧
        Http.Pipeline.build (h.settings.pipeline p) (h.registry.listed env.order) .injected = .ok ran ∧
        (buildPipeline env p).Yields h (.ok ran.value) h [] := by
  rcases build_cases h.settings (r := h.registry) hp with ⟨e, hf, hb⟩ | ⟨hf, hb⟩ | ⟨ran, hf, hb⟩
  · refine .inl ⟨_, hf, .get ?_⟩
    rw [hb]
    exact (yields_closeReloader ha fun _ hr => hp.reloader_open hr).bind (yields_throw _ _)
  · refine .inr (.inl ⟨hf, .get ?_⟩)
    rw [hb, ← ha]
    exact yields_throw _ h
  · refine .inr (.inr ⟨ran, hf, hb, .get ?_⟩)
    rw [hb]
    exact yields_liftRun h (build_quiet hb)

/-! ## The listener -/

/-- What a listener that does not come up escalates. -/
def escalated (s : Settings) (env : Surroundings) (addr : Net.SocketAddr) : List Effect :=
  match env.bind addr, s.fatalHandler with
  | .error .addressInUse, true => [.failed (.addressInUse addr)]
  | _, _ => []

theorem escalated_unheard {s : Settings} (hh : s.fatalHandler = false) (env : Surroundings) (addr : Net.SocketAddr) :
    escalated s env addr = [] := by
  unfold escalated
  rw [hh]
  split
  · next h => cases h
  · rfl

/-- The listener that is launched. -/
def Prepared.listener (p : Prepared) (env : Surroundings) : Net.Listener :=
  let bound? := (env.bind p.addr).toOption
  ⟨p.addr, p.mode, bound?, if bound?.isSome then none else some .regular⟩


/-- A listener is quiet but for what it escalates. -/
theorem yields_launch (p : Prepared) (env : Surroundings) (h : Host) :
    (liftM (Net.Listener.launch env.bind p.addr p.mode h.settings.fatalHandler) : Stage Net.Listener).Yields h
      (.ok (p.listener env)) h (escalated h.settings env p.addr) := by
  obtain ⟨es, hl, hs, hup, hdown⟩ : ∃ es,
      Net.Listener.launch env.bind p.addr p.mode h.settings.fatalHandler = ⟨p.listener env, es⟩ ∧
        Effect.news es = escalated h.settings env p.addr ∧ Effect.armings es = 0 ∧ Effect.disarmings es = 0 := by
    unfold Net.Listener.launch escalated Prepared.listener
    cases hb : env.bind p.addr with
    | ok bound => exact ⟨_, rfl, rfl, rfl, rfl⟩
    | error e => cases e <;> cases hf : h.settings.fatalHandler <;> exact ⟨_, rfl, rfl, rfl, rfl⟩
  have hx := exec_liftRun (Net.Listener.launch env.bind p.addr p.mode h.settings.fatalHandler) h
  rw [hl] at hx ⊢
  exact ⟨by rw [hx], by rw [hx, hs], by rw [hx, hup, hdown]⟩

def listening (h : Host) (env : Surroundings) (addr : Net.SocketAddr) : Host :=
  { h with localAddr? := h.localAddr?.or (env.bind addr).toOption }

/-- A listener that did not come up is a fault only if there is no handler, so that nothing was escalated. -/
theorem settle_cases (hp : p.Fits h.settings env) (ha : h.arming? = p.reloader?) (r : Registry) :
    (∃ e, StartStage.fault? h.settings r env .listening = some (.error e) ∧ escalated h.settings env p.addr = [] ∧
        (settle p h.settings.fatalHandler (p.listener env)).Yields h (.error (.error e)) (h.holding none) []) ∨
      (StartStage.fault? h.settings r env .listening = none ∧
        (settle p h.settings.fatalHandler (p.listener env)).Yields h (.ok ()) (h.listening env p.addr) []) := by
  simp only [StartStage.fault?, hp.addr, settle, Prepared.listener, listening]
  cases hb : env.bind p.addr with
  | ok bound =>
    refine .inr ⟨?_, yields_modify rfl⟩
    cases h.settings.fatalHandler with
    | true => rfl
    | false => simp only [hb, errorOf?, Option.map_none]
  | error e =>
    cases hh : h.settings.fatalHandler with
    | true =>
      refine .inr ⟨rfl, ?_⟩
      simp only [Except.toOption, Option.or_none, if_true]
      exact yields_liftRun h (by simp)
    | false =>
      refine .inl ⟨.notListening p.addr, ?_, escalated_unheard hh env p.addr, ?_⟩
      · simp only [hb, errorOf?, Option.map_some]
      · exact (yields_closeReloader ha fun _ hr => hp.reloader_open hr).bind (yields_throw _ _)

theorem listen_cases (hp : p.Fits h.settings env) (ha : h.arming? = p.reloader?) (r : Registry) :
    (∃ e, StartStage.fault? h.settings r env .listening = some (.error e) ∧
        (listen env p).Yields h (.error (.error e)) (h.holding none) []) ∨
      (StartStage.fault? h.settings r env .listening = none ∧
        (listen env p).Yields h (.ok (p.listener env)) (h.listening env p.addr) (escalated h.settings env p.addr)) := by
  have hlaunch := yields_launch p env h
  rcases settle_cases hp ha r with ⟨e, hf, hquiet, hs⟩ | ⟨hf, hs⟩
  · rw [hquiet] at hlaunch
    exact .inl ⟨e, hf, .get (hlaunch.bind hs.ends)⟩
  · have hall : (listen env p).Yields h (.ok (p.listener env)) (h.listening env p.addr)
        (escalated h.settings env p.addr ++ ([] ++ [])) := .get (hlaunch.bind (hs.bind (yields_pure _ _)))
    rw [List.append_nil, List.append_nil] at hall
    exact .inr ⟨hf, hall⟩

/-! ## The last stage -/

def commenced (h : Host) (env : Surroundings) (p : Prepared) : Host :=
  { h with
    clientAuth? := h.clientAuth?.or (some p.clientAuth)
    scheduler := (h.startTasks p.tls? env.now).value }

def startedEvent (h : Host) (p : Prepared) : AuditEvent :=
  h.lifecycleEvent AuditEvent.serviceStarted (h.startMessage p.clientAuth)

/-- The last stage publishes, starts the background tasks and announces the start. -/
theorem commence_eq (env : Surroundings) (p : Prepared) (h : Host) :
    commence env p h =
      ⟨((publishFirst h.settings.publisher env p.reloader?).value, h.commenced env p),
        (publishFirst h.settings.publisher env p.reloader?).effects ++
          ((h.startTasks p.tls? env.now).effects ++ (h.audit (h.startedEvent p)).effects)⟩ := by
  show (commence env p).run h = _
  simp only [commence, StateT.run_bind, StateT.run_modify, StateT.run_get, StateT.run_set, StateT.run_monadLift,
    StateT.run_pure, pure_bind, bind_assoc]
  exact congrArg (Run.mk _) (by simp only [Run.effects_bind, Run.effects_pure, List.append_nil]; rfl)

theorem yields_commence (env : Surroundings) (p : Prepared) (h : Host) :
    (liftM (commence env p) : Stage (Option Tls.Reloader)).Yields h
      (.ok (publishFirst h.settings.publisher env p.reloader?).value) (h.commenced env p)
      [h.settings.announcement (h.startedEvent p)] := by
  have hp := (publishFirst_plain h.settings.publisher env p.reloader?).quiet
  have ht := (startTasks_remarks h p.tls? env.now).quiet
  obtain ⟨hn, hup, hdown⟩ := audit_marks h (h.startedEvent p)
  have hx := exec_lift (commence env p) h
  rw [commence_eq] at hx
  constructor
  · rw [hx]
  · rw [hx, Effect.news_append, Effect.news_append, hp.news, ht.news, hn, List.nil_append, List.nil_append]
  · rw [hx, Effect.armings_append, Effect.armings_append, Effect.disarmings_append, Effect.disarmings_append,
      hp.armings, hp.disarmings, ht.armings, ht.disarmings, hup, hdown]
    rfl

end Host

end ServiceHost
