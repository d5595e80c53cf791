/-
  ServiceHost.Proofs.Host.Publications — who publishes how long the host has been running,
  and how long its certificate is still valid.

  Two background tasks publish (`attend_heartbeat`, `attend_certExpiry`), the second of them
  the pair in effect once its files were read again. Neither the pollers nor services that
  come nor a stop publish anything (`attend_unpublished`, `stopAmid_unpublished`).
-/

import ServiceHost.Proofs.Host.Telling

namespace ServiceHost

/-! ## Publications -/

namespace Effect

def isHeartbeat : Effect → Bool
  | published (.heartbeat ..) => true
  | measured m => m.name = Metrics.uptimeSeconds
  | _ => false

def isExpiry : Effect → Bool
  | published (.certExpiry ..) => true
  | measured m => m.name = Metrics.certExpiryDays
  | _ => false

def isPublication (e : Effect) : Bool := e.isHeartbeat || e.isExpiry

def publishing (es : List Effect) : List Effect := es.filter isPublication

def Unpublished (es : List Effect) : Prop := publishing es = []

variable {es es' : List Effect}

@[simp] theorem publishing_append (es es' : List Effect) :
    publishing (es ++ es') = publishing es ++ publishing es' := List.filter_append ..

theorem unpublished_iff : Unpublished es ↔ ∀ e ∈ es, e.isPublication = false := by
  simp [Unpublished, publishing]

@[simp] theorem unpublished_nil : Unpublished [] := rfl

@[simp] theorem unpublished_cons {e : Effect} : Unpublished (e :: es) ↔ e.isPublication = false ∧ Unpublished es := by
  simp only [unpublished_iff, List.forall_mem_cons]

@[simp] theorem unpublished_append : Unpublished (es ++ es') ↔ Unpublished es ∧ Unpublished es' := by
  simp only [unpublished_iff, List.forall_mem_append]

theorem unpublished_all : Unpublished es ↔ es.all (fun e => !e.isPublication) = true := by
  simp [unpublished_iff]

theorem unpublished_logged (e : Log.Event) : (!(logged .injected e).isPublication) = true := rfl

theorem Logs.unpublished (h : Logs .injected es) : Unpublished es := unpublished_all.2 (h.all unpublished_logged)

theorem isPublication_of_area {e : Effect} {a : Log.Area} (h : e.area? = some a) : e.isPublication = false := by
  cases e with
  | logged sink event => rfl
  | _ => cases h

end Effect

open Effect (Unpublished publishing)

/-- The one effect in which a publisher publishes something. -/
def Publisher.told (p : Publisher) (now : Int) (what : Metrics.Publication) : Effect :=
  match p with
  | .gauges => .measured (what.metric now)
  | .embedder => .published what

theorem Publisher.publishing_publish (p : Publisher) (now : Int) (sink : Log.Sink) (what : Metrics.Publication) :
    publishing (p.publish now sink what).effects = [p.told now what] := by
  cases p with
  | embedder => cases what <;> rfl
  | gauges =>
    have hwarning : publishing ((what.warning? now).map (Effect.logged sink)).toList = [] := by
      cases what.warning? now <;> rfl
    change publishing ([.measured (what.metric now)] ++ ((what.warning? now).map (Effect.logged sink)).toList) = _
    rw [Effect.publishing_append, hwarning]
    cases what <;> rfl

theorem Publisher.isHeartbeat_told (p : Publisher) (now : Int) (what : Metrics.Publication) :
    (p.told now what).isHeartbeat = match what with | .heartbeat .. => true | .certExpiry .. => false := by
  cases p <;> cases what <;> rfl

theorem Publisher.isExpiry_told (p : Publisher) (now : Int) (what : Metrics.Publication) :
    (p.told now what).isExpiry = match what with | .heartbeat .. => false | .certExpiry .. => true := by
  cases p <;> cases what <;> rfl

/-! ## Keypairs -/

namespace Tls

variable {keys : KeyProvider} {fs : Files} {sink : Log.Sink}

namespace Reloader

theorem stampsOf_of_load {certPath keyPath : String} {pair : Keypair}
    (h : Keypair.load keys fs certPath keyPath = .ok pair) :
    ∃ stamps, stampsOf fs certPath keyPath = .ok stamps := by
  have hstamp {role : FileRole} {path : String} {content : Text.Octets} (hr : readFile fs role path = .ok content) :
      ∃ stamp, stampOf fs path = .ok stamp := by
    cases hf : fs.find? path with
    | none =>
      rw [readFile, Files.read, hf] at hr
      cases hr
    | some file => exact ⟨file.stamp, by rw [stampOf, Files.stamp, hf]; rfl⟩
  rw [Keypair.load, Keypair.assemble] at h
  cases hc : loadCertificates fs certPath with
  | error e => rw [hc] at h; cases h
  | ok chain =>
    rw [hc] at h
    cases hk : loadPrivateKey fs keyPath with
    | error e => simp [hk, bind, Except.bind] at h
    | ok key =>
      cases hrc : readFile fs .certificate certPath with
      | error e => rw [loadCertificates, hrc] at hc; cases hc
      | ok certText =>
        cases hrk : readFile fs .key keyPath with
        | error e => rw [loadPrivateKey, hrk] at hk; cases hk
        | ok keyText =>
          obtain ⟨certStamp, hcert⟩ := hstamp hrc
          obtain ⟨keyStamp, hkey⟩ := hstamp hrk
          exact ⟨⟨certStamp, keyStamp⟩, by rw [stampsOf, hcert, hkey]; rfl⟩

/-- The same files are read later; the pair can be another one. -/
structure Follows (r r' : Reloader) : Prop where
  certPath : r'.certPath = r.certPath
  keyPath : r'.keyPath = r.keyPath

theorem Follows.refl (r : Reloader) : r.Follows r := ⟨rfl, rfl⟩

/-- Reading the pair again succeeds if it can be loaded, and only then. -/
theorem reload_cases (r : Reloader) (keys : KeyProvider) (fs : Files) (now : Nat) (sink : Log.Sink) :
    (∃ ran, r.reload keys fs now sink = .ok ran ∧ Keypair.load keys fs r.certPath r.keyPath = .ok ran.value.pair ∧
        r.Follows ran.value) ∨
      ∃ e, r.reload keys fs now sink = .error e ∧ (Keypair.load keys fs r.certPath r.keyPath).toOption = none := by
  cases hr : r.reload keys fs now sink with
  | ok ran =>
    obtain ⟨pair, stamps, hl, rfl⟩ := reload_ok hr
    exact .inl ⟨_, rfl, hl, rfl, rfl⟩
  | error e =>
    refine .inr ⟨e, rfl, ?_⟩
    cases hl : Keypair.load keys fs r.certPath r.keyPath with
    | error e => rfl
    | ok pair =>
      obtain ⟨stamps, hs⟩ := stampsOf_of_load hl
      simp [reload, swap, hs, hl, bind, Except.bind, pure, Except.pure] at hr

theorem poll_follows (r : Reloader) (keys : KeyProvider) (fs : Files) (now : Nat) (sink : Log.Sink) :
    r.Follows (r.poll keys fs now sink).value := by
  rcases poll_cases keys r fs now sink with hp | ⟨e, hp⟩ | ⟨pair, stamps, -, hp⟩ <;> rw [hp] <;> exact ⟨rfl, rfl⟩

theorem ticks_follows (r : Reloader) (now : Nat) : r.Follows (r.ticks now).2 := by
  unfold ticks
  split <;> exact ⟨rfl, rfl⟩

end Reloader

end Tls

/-! ## The pipeline -/

theorem Http.Pipeline.build_unpublished {c : PipelineSettings} {ss : List Service} {sink : Log.Sink}
    {ran : Run Pipeline} (hb : build c ss sink = .ok ran) : Unpublished ran.effects := by
  refine Effect.unpublished_iff.2 fun e he => ?_
  rcases build_told hb e he with ⟨event, rfl, -⟩ | ⟨rules, role?, layer, hl, he⟩
  · rfl
  · exact Effect.isPublication_of_area (c.authorizer.notes hl e he)

namespace Host

variable {s : Settings} {h : Host}

/-! ## The work of the tasks -/

def pair? (h : Host) : Option Tls.Keypair := h.phase.resources.1.map (·.pair)

/-- What is published of a pair: how long its leaf is still valid, if that can be read. -/
def pairTold (publisher : Publisher) (now : Int) (pair : Tls.Keypair) : List Effect :=
  (pair.leaf?.map fun info => publisher.told now (.certExpiry info servingRole)).toList

def heartbeatTold (s : Settings) (now : Int) (uptimeMillis : Nat) : Effect :=
  s.publisher.told now (.heartbeat s.config.http.serviceName (uptimeMillis * pow10 6))

theorem isExpiry_pairTold (publisher : Publisher) (now : Int) (pair : Tls.Keypair) :
    ∀ e ∈ pairTold publisher now pair, e.isExpiry = true ∧ e.isHeartbeat = false := by
  intro e he
  obtain ⟨info, -, rfl⟩ : ∃ info, pair.leaf? = some info ∧ publisher.told now (.certExpiry info servingRole) = e := by
    simpa [pairTold] using he
  exact ⟨publisher.isExpiry_told .., publisher.isHeartbeat_told ..⟩

/-- The pair a keypair reloader holds once its files were read again: what they hold, or the one it had. -/
def rereadPair (env : Surroundings) (r : Tls.Reloader) : Tls.Keypair :=
  (Tls.Keypair.load env.keys env.files r.certPath r.keyPath).toOption.getD r.pair

theorem reread_follows (env : Surroundings) (now : Nat) (r : Tls.Reloader) :
    (reread env now r).value.pair = rereadPair env r ∧ r.Follows (reread env now r).value ∧
      Unpublished (reread env now r).effects := by
  unfold reread rereadPair
  rcases r.reload_cases env.keys env.files now .injected with ⟨ran, hr, hload, hfollows⟩ | ⟨e, hr, hload⟩
  · rw [hr, hload]
    exact ⟨rfl, hfollows, (Tls.Reloader.reload_remarks hr).logs.unpublished⟩
  · rw [hr, hload]
    exact ⟨rfl, .refl r, rfl⟩

/-- The files are read again, then what they tell of the pair in effect is published. -/
theorem publishExpiry_told (publisher : Publisher) (env : Surroundings) (now : Nat) (r : Tls.Reloader) :
    (publishExpiry publisher env now r).value = (reread env now r).value ∧
      publishing (publishExpiry publisher env now r).effects =
        pairTold publisher (env.calendar now) (rereadPair env r) := by
  obtain ⟨hpair, -, hun⟩ := reread_follows env now r
  refine ⟨rfl, ?_⟩
  simp only [publishExpiry, Run.effects_bind, Run.effects_pure, List.append_nil, Effect.publishing_append]
  rw [show publishing (reread env now r).effects = [] from hun, List.nil_append, publishPair, pairTold, hpair]
  cases (rereadPair env r).leaf? with
  | none => rfl
  | some info => exact Publisher.publishing_publish ..

/-- The files of the keypair that the settings tell to serve. -/
def Settings.keypairFiles? (s : Settings) : Option (String × String) := s.tls?.map fun t => (t.certFile, t.keyFile)

/-- The pair that the files of the settings hold. -/
def Settings.stored? (s : Settings) (env : Surroundings) : Option Tls.Keypair :=
  s.keypairFiles?.bind fun paths => (Tls.Keypair.load env.keys env.files paths.1 paths.2).toOption

namespace Settings

variable {t : Config.TlsConfig}

theorem keypairFiles?_none (htls : s.tls? = none) : s.keypairFiles? = none := by
  rw [keypairFiles?, htls, Option.map_none]

theorem keypairFiles?_some (htls : s.tls? = some t) : s.keypairFiles? = some (t.certFile, t.keyFile) := by
  rw [keypairFiles?, htls, Option.map_some]

theorem stored?_none (htls : s.tls? = none) (env : Surroundings) : s.stored? env = none := by
  rw [stored?, keypairFiles?_none htls, Option.bind_none]

theorem stored?_some (htls : s.tls? = some t) (env : Surroundings) :
    s.stored? env = (Tls.Keypair.load env.keys env.files t.certFile t.keyFile).toOption := by
  rw [stored?, keypairFiles?_some htls, Option.bind_some]

end Settings

/-- The files that the pair new connections are served with is read from. -/
def keypairFiles? (h : Host) : Option (String × String) := h.phase.resources.1.map fun r => (r.certPath, r.keyPath)

/-- The pair is read again, and what is then in effect is published. -/
theorem perform_certExpiry (env : Surroundings) (now : Nat) (hfiles : h.keypairFiles? = s.keypairFiles?) :
    (h.perform env now .certExpiry).value.pair? = (s.stored? env).or h.pair? ∧
      publishing (h.perform env now .certExpiry).effects =
        (h.perform env now .certExpiry).value.pair?.elim [] (pairTold h.settings.publisher (env.calendar now)) := by
  rw [Settings.stored?, ← hfiles]
  simp only [perform, overReloader, pair?, keypairFiles?]
  cases hp : h.phase with
  | started serving =>
    cases hr : serving.reloader? with
    | none =>
      simp only [Phase.resources, hr]
      simp [hp, hr, Effect.publishing]
    | some r =>
      obtain ⟨hvalue, htold⟩ := publishExpiry_told h.settings.publisher env now r
      obtain ⟨hpair, -, -⟩ := reread_follows env now r
      simp only [Phase.resources, hr, Run.value_bind, Run.effects_bind, Run.value_pure, Run.effects_pure,
        List.append_nil, Option.map_some, Option.bind_some, Option.elim_some, hvalue, htold, hpair, rereadPair]
      cases (Tls.Keypair.load env.keys env.files r.certPath r.keyPath).toOption <;> exact ⟨rfl, trivial⟩
  | _ =>
    simp [hp, Phase.resources, Effect.publishing]

/-! ## What publishes nothing -/

theorem audit_unpublished (h : Host) (e : AuditEvent) : Unpublished (h.audit e).effects :=
  Effect.unpublished_all.2 (audit_tells Effect.unpublished_logged (fun _ => rfl) h e)

theorem addService_unpublished (h : Host) (service : Service) : Unpublished (h.addService service).effects := by
  simp only [addService, Registry.add, Run.effects_bind]
  split <;> split <;> rfl

theorem addServices_unpublished (h : Host) (ss : List Service) : Unpublished (h.addServices ss).effects := by
  induction ss generalizing h with
  | nil => rfl
  | cons service ss ih =>
    simp only [addServices, List.foldlM_cons, Run.effects_bind] at ih ⊢
    exact Effect.unpublished_append.2 ⟨addService_unpublished h service, ih _⟩

theorem stopAmid_unpublished (h : Host) (env : Surroundings) (arrivals : Arrivals) :
    Unpublished (h.stopAmid env arrivals).effects := by
  refine Effect.unpublished_all.2 (stopAmid_tells Effect.unpublished_logged (fun _ => rfl) (fun _ => rfl)
    (fun _ _ => rfl) h env ?_)
  exact fun h moment => Effect.unpublished_all.1 (addServices_unpublished h (arrivals moment))

/-! ## Time passes -/

variable {h' h'' : Host}

/-- The host has the same tasks, where they stood, and reads the same keypair files. -/
structure Alike (h h' : Host) : Prop where
  scheduler : h'.scheduler = h.scheduler
  files : h'.keypairFiles? = h.keypairFiles?

theorem Alike.refl (h : Host) : Alike h h := ⟨rfl, rfl⟩

theorem Alike.trans (ha : Alike h h') (ha' : Alike h' h'') : Alike h h'' :=
  ⟨ha'.scheduler.trans ha.scheduler, ha'.files.trans ha.files⟩

theorem overReloader_alike {f : Tls.Reloader → Run Tls.Reloader} (h : Host)
    (hf : ∀ r : Tls.Reloader, r.Follows (f r).value) : Alike h (h.overReloader f).value := by
  rcases overReloader_cases h f with heq | ⟨serving, r, hp, hr, heq⟩
  · rw [heq]
    exact .refl h
  · rw [heq]
    refine ⟨rfl, ?_⟩
    simp only [keypairFiles?, hp, Phase.resources, hr, Option.map_some, (hf r).certPath, (hf r).keyPath]

theorem overReloader_unpublished {f : Tls.Reloader → Run Tls.Reloader} (h : Host)
    (hf : ∀ r, Unpublished (f r).effects) : Unpublished (h.overReloader f).effects := by
  rcases overReloader_cases h f with heq | ⟨serving, r, -, -, heq⟩
  · rw [heq]
    rfl
  · rw [heq]
    exact hf r

theorem publishExpiry_follows (publisher : Publisher) (env : Surroundings) (now : Nat) (r : Tls.Reloader) :
    r.Follows (publishExpiry publisher env now r).value := by
  rw [(publishExpiry_told publisher env now r).1]
  exact (reread_follows env now r).2.1

theorem attend_alike (env : Surroundings) (h : Host) (a : Appointment) : Alike h (attend env h a).value := by
  unfold attend
  cases a.errand with
  | poll => exact overReloader_alike h fun r => r.poll_follows ..
  | orphanPoll i =>
    simp only [overOrphan]
    split <;> exact ⟨rfl, rfl⟩
  | task t =>
    cases hj : t.job with
    | certExpiry =>
      have halike := overReloader_alike h (publishExpiry_follows h.settings.publisher env a.tick.start)
      simpa only [Run.value_bind, perform, hj] using halike
    | heartbeat =>
      simp only [Run.value_bind, perform, hj]
      exact .refl h

/-- The work a host does for an appointment, if it is one of a background task. -/
def Appointment.duty? (a : Appointment) : Option Duty :=
  match a.errand with
  | .task t => some t.job
  | _ => none

/-- Only background tasks publish. -/
theorem attend_unpublished {a : Appointment} (ha : a.duty? = none) (env : Surroundings) (h : Host) :
    Unpublished (attend env h a).effects := by
  unfold attend
  unfold Appointment.duty? at ha
  cases he : a.errand with
  | poll => exact overReloader_unpublished h fun r => (r.poll_remarks ..).logs.unpublished
  | orphanPoll i =>
    simp only [overOrphan]
    split
    · simpa using (Tls.Reloader.poll_remarks ..).logs.unpublished
    · rfl
  | task t => simp [he] at ha

theorem attend_heartbeat {a : Appointment} (ha : a.duty? = some .heartbeat) (env : Surroundings) (h : Host) :
    publishing (attend env h a).effects =
      [heartbeatTold h.settings (env.calendar a.tick.start) (h.uptimeMillis a.tick.start)] := by
  unfold attend
  unfold Appointment.duty? at ha
  cases he : a.errand with
  | task t =>
    simp only [he, Option.some.injEq] at ha
    simp only [perform, ha, Run.effects_bind, Run.effects_tell, Run.effects_pure, List.append_nil,
      Effect.publishing_append]
    exact Publisher.publishing_publish ..
  | _ => simp [he] at ha

/-- The certificate's task reads the pair again, and publishes what is then in effect. -/
theorem attend_certExpiry {a : Appointment} (ha : a.duty? = some .certExpiry) (env : Surroundings)
    (hfiles : h.keypairFiles? = s.keypairFiles?) :
    (attend env h a).value.pair? = (s.stored? env).or h.pair? ∧
      publishing (attend env h a).effects =
        (attend env h a).value.pair?.elim [] (pairTold h.settings.publisher (env.calendar a.tick.start)) := by
  unfold attend
  unfold Appointment.duty? at ha
  cases he : a.errand with
  | task t =>
    simp only [he, Option.some.injEq] at ha
    simp only [ha, Run.effects_bind, Run.value_bind, Run.effects_tell, Effect.publishing_append]
    exact perform_certExpiry env a.tick.start hfiles
  | _ => simp [he] at ha

end Host

end ServiceHost
