/-
  ServiceHost.Proofs.Host.Life — a host lives once.

  A host is asked to start, to stop and to add services, in any order and any number of
  times, while time passes. Starts and stops exclude each other; services can be added
  while one is under way. Whatever is asked, the host starts at most once and is stopped
  at most once, announces each when it happens and never otherwise, and what its start
  set stays (`lives_once`).

  The invariant is `Life`: where the host stands, what it has announced, and how often it
  came up. Each command continues it (`obey_life`), so every history does (`history_life`).
-/

import ServiceHost.Proofs.Host.Retry
import ServiceHost.Proofs.Host.Stop

namespace ServiceHost.Host

/-! ## Commands -/

inductive Command where
  | start (env : Surroundings) (arrivals : Arrivals)
  | stop (env : Surroundings) (arrivals : Arrivals)
  | add (s : Service)
  /-- Time passes, up to the present of the surroundings. -/
  | wait (env : Surroundings)

inductive Reply where
  | started (outcome : Except StartFailure Unit)
  | stopped (outcome : StopOutcome)
  | done

def Command.isStop : Command → Bool
  | stop .. => true
  | _ => false

def Reply.isUp : Reply → Bool
  | started (.ok _) => true
  | _ => false

def ups (replies : List Reply) : Nat := replies.countP Reply.isUp

theorem ups_cons (reply : Reply) (replies : List Reply) : ups (reply :: replies) = ups [reply] + ups replies :=
  @List.countP_append _ _ [reply] replies

def obey (h : Host) : Command → Run (Host × Reply)
  | .start env arrivals => (fun x => (x.1, .started x.2)) <$> h.startAmid env arrivals
  | .stop env arrivals => (fun x => (x.1, .stopped x.2.2)) <$> h.stopAmid env arrivals
  | .add s => (·, .done) <$> h.addService s
  | .wait env => (·, .done) <$> h.advance env

/-- Obeys one command after the other. Gives the replies in order. -/
def history (h : Host) : List Command → Run (Host × List Reply)
  | [] => pure (h, [])
  | c :: cs => do
    let (h, reply) ← h.obey c
    let (h, replies) ← h.history cs
    return (h, reply :: replies)

variable {s : Settings} {h h' : Host}

theorem history_cons (h : Host) (c : Command) (cs : List Command) :
    h.history (c :: cs) =
      ⟨(((h.obey c).value.1.history cs).value.1, (h.obey c).value.2 :: ((h.obey c).value.1.history cs).value.2),
        (h.obey c).effects ++ ((h.obey c).value.1.history cs).effects⟩ :=
  congrArg (Run.mk _) (congrArg _ (List.append_nil _))

theorem history_append (h : Host) (cs cs' : List Command) :
    (h.history (cs ++ cs')).value.1 = ((h.history cs).value.1.history cs').value.1 ∧
      (h.history (cs ++ cs')).effects = (h.history cs).effects ++ ((h.history cs).value.1.history cs').effects := by
  induction cs generalizing h with
  | nil => exact ⟨rfl, rfl⟩
  | cons c cs ih =>
    obtain ⟨hvalue, heffects⟩ := ih (h.obey c).value.1
    rw [List.cons_append, history_cons, history_cons]
    refine ⟨hvalue, ?_⟩
    rw [heffects, List.append_assoc]

/-! ## Where a host stands -/

inductive Stand where
  | new
  | started
  | stopped
  deriving DecidableEq, Repr

def Phase.stand : Phase → Stand
  | .new => .new
  | .started _ => .started
  | .stopped => .stopped

theorem stand_new {p : Phase} (hp : p.stand = .new) : p = .new := by
  cases p with
  | new => rfl
  | started serving => cases hp
  | stopped => cases hp

theorem stand_stopped {p : Phase} (hp : p.stand = .stopped) : p = .stopped := by
  cases p with
  | new => cases hp
  | started serving => cases hp
  | stopped => rfl

/-- The host stands where it stood, and what a start sets is as it was. -/
structure Kept (h h' : Host) : Prop where
  settings : h'.settings = h.settings
  arming : h'.arming? = h.arming?
  localAddr : h'.localAddr? = h.localAddr?
  clientAuth : h'.clientAuth? = h.clientAuth?
  stand : h'.phase.stand = h.phase.stand

namespace Kept

variable {h'' : Host}

theorem refl (h : Host) : Kept h h := ⟨rfl, rfl, rfl, rfl, rfl⟩

theorem trans (hk : Kept h h') (hk' : Kept h' h'') : Kept h h'' where
  settings := hk'.settings.trans hk.settings
  arming := hk'.arming.trans hk.arming
  localAddr := hk'.localAddr.trans hk.localAddr
  clientAuth := hk'.clientAuth.trans hk.clientAuth
  stand := hk'.stand.trans hk.stand

theorem withServices (h : Host) (ss : List Service) : Kept h (h.withServices ss) := ⟨rfl, rfl, rfl, rfl, rfl⟩

theorem addService (h : Host) (s : Service) : Kept h (h.addService s).value := by
  rw [value_addService]
  exact ⟨rfl, rfl, rfl, rfl, rfl⟩

end Kept

/-! ## Time passes -/

variable {env : Surroundings}

theorem overReloader_kept {f : Tls.Reloader → Run Tls.Reloader} (h : Host) (hf : ∀ r, Effect.Quiet (f r).effects) :
    Kept h (h.overReloader f).value ∧ Effect.Quiet (h.overReloader f).effects := by
  rcases overReloader_cases h f with heq | ⟨serving, r, hp, -, heq⟩
  · rw [heq]
    exact ⟨.refl h, Effect.quiet_nil⟩
  · rw [heq]
    exact ⟨⟨rfl, rfl, rfl, rfl, by rw [hp]; rfl⟩, hf r⟩

theorem overOrphan_kept {f : Tls.Reloader → Run Tls.Reloader} (h : Host) (i : Nat)
    (hf : ∀ r, Effect.Quiet (f r).effects) :
    Kept h (h.overOrphan i f).value ∧ Effect.Quiet (h.overOrphan i f).effects := by
  unfold overOrphan
  split
  · next r _ =>
    simp only [Run.value_bind, Run.effects_bind, Run.value_pure, Run.effects_pure, List.append_nil]
    exact ⟨⟨rfl, rfl, rfl, rfl, rfl⟩, hf r⟩
  · exact ⟨.refl h, Effect.quiet_nil⟩

theorem perform_kept (h : Host) (env : Surroundings) (now : Nat) (d : Duty) :
    Kept h (h.perform env now d).value ∧ Effect.Quiet (h.perform env now d).effects := by
  cases d with
  | certExpiry => exact overReloader_kept h fun r => (publishExpiry_plain ..).quiet
  | heartbeat =>
    simp only [perform, Run.value_bind, Run.effects_bind, Run.value_pure, Run.effects_pure, List.append_nil]
    exact ⟨.refl h, (Publisher.publish_plain ..).quiet⟩

theorem attend_kept (env : Surroundings) (h : Host) (a : Appointment) :
    Kept h (attend env h a).value ∧ Effect.Quiet (attend env h a).effects := by
  unfold attend
  cases a.errand with
  | poll => exact overReloader_kept h fun r => (Tls.Reloader.poll_remarks ..).quiet
  | orphanPoll i => exact overOrphan_kept h i fun r => (Tls.Reloader.poll_remarks ..).quiet
  | task t =>
    obtain ⟨hk, hq⟩ := perform_kept h env a.tick.start t.job
    exact ⟨hk, Effect.quiet_cons.2 ⟨rfl, hq⟩⟩

theorem attendAll_kept (env : Surroundings) (h : Host) (as : List Appointment) :
    Kept h (as.foldlM (attend env) h).value ∧ Effect.Quiet (as.foldlM (attend env) h).effects := by
  induction as generalizing h with
  | nil => exact ⟨.refl h, Effect.quiet_nil⟩
  | cons a as ih =>
    obtain ⟨hk, hq⟩ := attend_kept env h a
    obtain ⟨hk', hq'⟩ := ih (attend env h a).value
    simp only [List.foldlM_cons, Run.value_bind, Run.effects_bind]
    exact ⟨hk.trans hk', Effect.quiet_append.2 ⟨hq, hq'⟩⟩

theorem appointments_kept (h : Host) (now : Nat) : Kept h (h.appointments now).2 := by
  have hpolls : Kept h (h.pollerTicks now).2 := by
    rcases pollerTicks_cases h now with heq | ⟨serving, r, hp, -, heq⟩
    · rw [heq]
      exact .refl h
    · rw [heq]
      exact ⟨rfl, rfl, rfl, rfl, by rw [hp]; rfl⟩
  have horphans (h : Host) : Kept h (h.orphanTicks now).2 := ⟨rfl, rfl, rfl, rfl, rfl⟩
  have htasks (h : Host) : Kept h (h.taskTicks now).2 := ⟨rfl, rfl, rfl, rfl, rfl⟩
  exact hpolls.trans ((horphans _).trans (htasks _))

/-- While time passes a host stays where it stands, and has no news. -/
theorem advance_kept (h : Host) (env : Surroundings) :
    Kept h (h.advance env).value ∧ Effect.Quiet (h.advance env).effects := by
  obtain ⟨hk, hq⟩ := attendAll_kept env (h.appointments env.now).2 (h.appointments env.now).1
  exact ⟨(appointments_kept h env.now).trans hk, hq⟩

/-! ## The life of a host -/

/-- An audit event of a kind, of the host itself. -/
structure Own (s : Settings) (kind : String) (e : AuditEvent) : Prop where
  kind : e.eventType = kind
  identity : e.identity = s.context.identity.text
  context : e.contextId = s.context.correlationId

theorem own_lifecycleEvent (h : Host) (kind message : String) :
    Own h.settings kind (h.lifecycleEvent kind message) := ⟨rfl, rfl, rfl⟩

/-- Where a host can stand after what it announced, after `n` starts that came up, and after a stop or before. -/
inductive Course (s : Settings) : Stand → List AuditEvent → (n : Nat) → (down : Bool) → Prop
  | new : Course s .new [] 0 false
  | started {e : AuditEvent} : Own s AuditEvent.serviceStarted e → Course s .started [e] 1 false
  | unused {e : AuditEvent} : Own s AuditEvent.serviceStopped e → Course s .stopped [e] 0 true
  | stopped {e e' : AuditEvent} : Own s AuditEvent.serviceStarted e → Own s AuditEvent.serviceStopped e' →
      Course s .stopped [e, e'] 1 true

theorem Course.stop {st : Stand} {told : List AuditEvent} {n : Nat} {down : Bool} {e : AuditEvent}
    (hc : Course s st told n down) (hst : st ≠ .stopped) (he : Own s AuditEvent.serviceStopped e) :
    Course s .stopped (told ++ [e]) n true := by
  cases hc with
  | new => exact .unused he
  | started hup => exact .stopped hup he
  | unused _ => exact absurd rfl hst
  | stopped _ _ => exact absurd rfl hst

/-- The invariant of a host's life. What a start sets is not set before one came up. -/
structure Life (s : Settings) (h : Host) (told : List AuditEvent) (n : Nat) (down : Bool) : Prop where
  settings : h.settings = s
  arming : h.arming? = none
  course : Course s h.phase.stand told n down
  unset : n = 0 → h.localAddr? = none ∧ h.clientAuth? = none

variable {told : List AuditEvent} {n : Nat} {down : Bool}

theorem made_life (s : Settings) (r : Registry) : Life s (made s r) [] 0 false :=
  ⟨rfl, rfl, .new, fun _ => ⟨rfl, rfl⟩⟩

theorem Life.kept (hl : Life s h told n down) (hk : Kept h h') : Life s h' told n down where
  settings := hk.settings.trans hl.settings
  arming := hk.arming.trans hl.arming
  course := hk.stand ▸ hl.course
  unset := fun hn => ⟨hk.localAddr.trans (hl.unset hn).1, hk.clientAuth.trans (hl.unset hn).2⟩

variable (s h told n down) in
/-- What a part of a life adds to it; what a start has set stays. -/
structure Continued (h' : Host) (es : List Effect) (m : Nat) (stops : Bool) (more : List AuditEvent) : Prop where
  life : Life s h' (told ++ more) (n + m) (down || stops)
  announced : Effect.announcements es = more.map s.announcement
  settled : 0 < n → h'.localAddr? = h.localAddr? ∧ h'.clientAuth? = h.clientAuth?

/-- What leaves a host where it stands adds nothing to its life. -/
theorem Continued.of_kept {es : List Effect} (hl : Life s h told n down) (hk : Kept h h')
    (hq : Effect.announcements es = []) : Continued s h told n down h' es 0 false [] where
  life := by
    rw [List.append_nil, Bool.or_false]
    exact hl.kept hk
  announced := hq
  settled := fun _ => ⟨hk.localAddr, hk.clientAuth⟩

/-! ## What a command adds -/

theorem startAmid_over (env : Surroundings) (arrivals : Arrivals) (hp : h.phase.stand ≠ .new) :
    h.startAmid env arrivals = ⟨(h, .error (.error .alreadyStarted)), []⟩ := by
  unfold startAmid
  split
  · next hn => exact absurd (congrArg Phase.stand hn) hp
  · rfl

theorem start_continues (env : Surroundings) (arrivals : Arrivals) (hl : Life s h told n down) :
    ∃ more, Continued s h told n down (h.obey (.start env arrivals)).value.1 (h.obey (.start env arrivals)).effects
      (ups [(h.obey (.start env arrivals)).value.2]) false more := by
  simp only [obey, Run.value_map, Run.effects_map]
  by_cases hp : h.phase.stand ≠ .new
  · rw [startAmid_over env arrivals hp]
    exact ⟨[], .of_kept hl (.refl h) rfl⟩
  rw [Decidable.not_not] at hp
  obtain ⟨hsettings, harming, hcourse, hunset⟩ := hl
  rw [hp] at hcourse
  cases hcourse
  have hl : Life s h [] 0 false := ⟨hsettings, harming, hp ▸ .new, hunset⟩
  rcases startAmid_cases env arrivals (stand_new hp) harming with ⟨e, ss, hf⟩ | ⟨o, ss, hb⟩ | ⟨p, serving, hu⟩
  · refine ⟨[], ?_⟩
    rw [hf.value]
    exact .of_kept hl (.withServices h ss) (Effect.announcements_of_news hf.news)
  · refine ⟨[], ?_⟩
    rw [hb.value]
    exact .of_kept hl ⟨rfl, rfl, rfl, rfl, rfl⟩ (Effect.announcements_of_news hb.news)
  · refine ⟨[h.startedEvent p], ?_⟩
    rw [hu.value]
    have hown : Own s AuditEvent.serviceStarted (h.startedEvent p) := hsettings ▸ own_lifecycleEvent ..
    refine ⟨⟨hsettings, harming, .started hown, fun hn => absurd hn Nat.one_ne_zero⟩, ?_, ?_⟩
    · rw [hu.announced, hsettings]
      rfl
    · exact fun hn => absurd hn (Nat.lt_irrefl 0)

theorem stop_continues (env : Surroundings) (arrivals : Arrivals) (hd : s.drains) (hl : Life s h told n down) :
    ∃ more, Continued s h told n down (h.obey (.stop env arrivals)).value.1 (h.obey (.stop env arrivals)).effects
      (ups [(h.obey (.stop env arrivals)).value.2]) true more := by
  simp only [obey, Run.value_map, Run.effects_map]
  obtain ⟨hsettings, harming, hcourse, hunset⟩ := hl
  by_cases hp : h.phase.stand = .stopped
  · obtain ⟨hv, ha⟩ := stopAmid_stopped env arrivals (stand_stopped hp)
    rw [hv]
    have hdown : down = true := by
      rw [hp] at hcourse
      cases hcourse <;> rfl
    subst hdown
    have hl : Life s h told n true := ⟨hsettings, harming, hcourse, hunset⟩
    obtain ⟨hlife, hannounced, hsettled⟩ := Continued.of_kept hl (.refl h) ha
    exact ⟨[], hlife, hannounced, hsettled⟩
  · obtain ⟨⟨now₁, scheduler, hv⟩, now₂, ha⟩ :=
      stopAmid_ended env arrivals (hsettings ▸ hd) fun hs => hp (congrArg Phase.stand hs)
    have hown : Own s AuditEvent.serviceStopped (h.stoppedEvent now₂) := hsettings ▸ own_lifecycleEvent ..
    rw [hv]
    refine ⟨[h.stoppedEvent now₂], ⟨hsettings, harming, ?_, hunset⟩, ?_, fun _ => ⟨rfl, rfl⟩⟩
    · rw [Bool.or_true]
      exact hcourse.stop hp hown
    · rw [ha, hsettings]
      rfl

theorem obey_life (hd : s.drains) (hl : Life s h told n down) (c : Command) :
    ∃ more, Continued s h told n down (h.obey c).value.1 (h.obey c).effects (ups [(h.obey c).value.2])
      c.isStop more := by
  cases c with
  | start env arrivals => exact start_continues env arrivals hl
  | stop env arrivals => exact stop_continues env arrivals hd hl
  | add service =>
    simp only [obey, Run.value_map, Run.effects_map]
    exact ⟨[], .of_kept hl (.addService h service) (addService_quiet h service).announcements⟩
  | wait env =>
    obtain ⟨hk, hq⟩ := advance_kept h env
    simp only [obey, Run.value_map, Run.effects_map]
    exact ⟨[], .of_kept hl hk hq.announcements⟩

theorem history_life (hd : s.drains) (hl : Life s h told n down) (cs : List Command) :
    ∃ more, Continued s h told n down (h.history cs).value.1 (h.history cs).effects (ups (h.history cs).value.2)
      (cs.any Command.isStop) more := by
  induction cs generalizing h told n down with
  | nil => exact ⟨[], .of_kept hl (.refl h) rfl⟩
  | cons c cs ih =>
    obtain ⟨more, hc⟩ := obey_life hd hl c
    obtain ⟨more', hcs⟩ := ih hc.life
    rw [history_cons]
    refine ⟨more ++ more', ?_, ?_, fun hn => ?_⟩
    · rw [← List.append_assoc, ups_cons, ← Nat.add_assoc, List.any_cons, ← Bool.or_assoc]
      exact hcs.life
    · rw [Effect.announcements_append, hc.announced, hcs.announced, List.map_append]
    · obtain ⟨hl₁, hc₁⟩ := hc.settled hn
      obtain ⟨hl₂, hc₂⟩ := hcs.settled (Nat.lt_of_lt_of_le hn (Nat.le_add_right ..))
      exact ⟨hl₂.trans hl₁, hc₂.trans hc₁⟩

/-! ## One life -/

variable (s) in
/-- What is true of a host after the commands `cs`, however they came out. -/
structure OneShot (cs : List Command) (ran : Run (Host × List Reply)) : Prop where
  /-- It came up at most once. -/
  once : ups ran.value.2 ≤ 1
  /-- Once it came up or was stopped no start does anything. -/
  spent : 0 < ups ran.value.2 ∨ cs.any Command.isStop = true → ∀ env arrivals,
    ran.value.1.startAmid env arrivals = ⟨(ran.value.1, .error (.error .alreadyStarted)), []⟩
  /-- It announced that it started if it did, then that it stopped if it was asked to, and nothing else. -/
  announced : ∃ started stopped : List AuditEvent,
    Effect.announcements ran.effects = (started ++ stopped).map s.announcement ∧
      started.length = ups ran.value.2 ∧ stopped.length = (cs.any Command.isStop).toNat ∧
      (∀ e ∈ started, Own s AuditEvent.serviceStarted e) ∧ ∀ e ∈ stopped, Own s AuditEvent.serviceStopped e
  /-- Before it came up nothing is set that a start sets. -/
  unset : ups ran.value.2 = 0 → ran.value.1.localAddr? = none ∧ ran.value.1.clientAuthEnabled = false
  /-- After it came up that never changes again. -/
  settled : 0 < ups ran.value.2 → ∀ later : List Command,
    (ran.value.1.history later).value.1.localAddr? = ran.value.1.localAddr? ∧
      (ran.value.1.history later).value.1.clientAuthEnabled = ran.value.1.clientAuthEnabled

theorem Course.stand_ne {st : Stand} (hc : Course s st told n down) (ho : 0 < n ∨ down = true) : st ≠ .new := by
  rintro rfl
  cases hc
  rcases ho with ho | ho
  · exact absurd ho (Nat.lt_irrefl 0)
  · cases ho

theorem Course.once {st : Stand} (hc : Course s st told n down) : n ≤ 1 := by
  cases hc <;> decide

theorem Course.parts {st : Stand} (hc : Course s st told n down) :
    ∃ started stopped, told = started ++ stopped ∧ started.length = n ∧ stopped.length = down.toNat ∧
      (∀ e ∈ started, Own s AuditEvent.serviceStarted e) ∧ ∀ e ∈ stopped, Own s AuditEvent.serviceStopped e := by
  cases hc with
  | new => exact ⟨[], [], rfl, rfl, rfl, List.forall_mem_nil _, List.forall_mem_nil _⟩
  | started he => exact ⟨[_], [], rfl, rfl, rfl, List.forall_mem_singleton.2 he, List.forall_mem_nil _⟩
  | unused he => exact ⟨[], [_], rfl, rfl, rfl, List.forall_mem_nil _, List.forall_mem_singleton.2 he⟩
  | stopped he he' =>
    exact ⟨[_], [_], rfl, rfl, rfl, List.forall_mem_singleton.2 he, List.forall_mem_singleton.2 he'⟩

/--
  A host lives once. Whatever it is asked, in whatever order, if the time to wait for its
  connections is in range: it comes up at most once; after that, and after a stop, no start
  does anything; it announces its start if it came up and its stop if it was asked to stop,
  under one identity and id; and what its start sets is set then and never changes.
-/
theorem lives_once (s : Settings) (r : Registry) (hd : s.drains) (cs : List Command) :
    OneShot s cs ((made s r).history cs) := by
  obtain ⟨told, hlife, hannounced, -⟩ := history_life hd (made_life s r) cs
  rw [List.nil_append, Nat.zero_add, Bool.false_or] at hlife
  constructor
  · exact hlife.course.once
  · intro ho env arrivals
    exact startAmid_over env arrivals (hlife.course.stand_ne ho)
  · obtain ⟨started, stopped, htold, hrest⟩ := hlife.course.parts
    exact ⟨started, stopped, htold ▸ hannounced, hrest⟩
  · intro hn
    obtain ⟨haddr, hauth⟩ := hlife.unset hn
    exact ⟨haddr, congrArg (·.getD false) hauth⟩
  · intro hn later
    obtain ⟨more, hlater⟩ := history_life hd hlife later
    obtain ⟨haddr, hauth⟩ := hlater.settled hn
    exact ⟨haddr, congrArg (·.getD false) hauth⟩

def vacant : Surroundings := { crowded with bind := fun addr => .ok addr }

def vacantAt (now : Nat) : Surroundings := { vacant with now }

/-- A start that fails, one that comes up, a stop, and both again. -/
def hubLife : List Command :=
  [.start crowded noArrivals, .start vacant noArrivals, .start vacant noArrivals, .stop (vacantAt 5) noArrivals,
    .stop (vacantAt 6) noArrivals, .start vacant noArrivals]

/-- The hub comes up once in it. -/
theorem lives_once_hub :
    plainHub.drains ∧ ups ((made plainHub {}).history hubLife).value.2 = 1 ∧
      OneShot plainHub hubLife ((made plainHub {}).history hubLife) := by
  have hd : plainHub.drains := by
    unfold Settings.drains
    decide
  exact ⟨hd, rfl, lives_once plainHub {} hd hubLife⟩

end ServiceHost.Host
