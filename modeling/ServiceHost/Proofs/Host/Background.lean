/-
  ServiceHost.Proofs.Host.Background — what a host publishes from its start to its stop, and
  after it.

  While a host is up it publishes how long it has been running as often as the interval for
  that fits into the time, and how long its certificate is still valid once more than that,
  since it does so at the start too. At each of these moments the files are read again, and
  what counts is the pair in effect then. If the time is a multiple of an interval the stop
  falls on a tick, and can come before it; no other tick is lost. Nothing is published from
  the stop on (`Span.published_exactly`).

  The time is a `Span`: what came before the start, what the host was asked while it was up,
  which ticks the stop came before, and what the host was asked afterwards.
-/

import ServiceHost.Proofs.Host.Upkeep
import ServiceHost.Proofs.Tls.Visibility

namespace ServiceHost

open Schedule (Accepted Line Scheduler)
open Effect (publishing Unpublished)

namespace Host

variable {s : Settings} {h : Host} {env : Surroundings}

/-! ## What visits publish -/

/-- The publication of a visit that tells how long the host has been running. -/
def Visit.heartbeat (v : Visit) : Effect :=
  heartbeatTold v.host.settings (v.env.calendar v.time) (v.host.uptimeMillis v.time)

/-- What a visit tells of the pair in effect after it. -/
def Visit.expiry (v : Visit) : List Effect :=
  v.after.pair?.elim [] (pairTold v.host.settings.publisher (v.env.calendar v.time))

theorem filter_publishing {p : Effect → Bool} (hp : ∀ e, p e = true → e.isPublication = true) (es : List Effect) :
    (publishing es).filter p = es.filter p := by
  rw [publishing, List.filter_filter]
  congr 1
  funext e
  cases h : p e with
  | true => simp [hp e h]
  | false => rfl

theorem heartbeat_published (e : Effect) (he : e.isHeartbeat = true) : e.isPublication = true := by
  simp [Effect.isPublication, he]

theorem expiry_published (e : Effect) (he : e.isExpiry = true) : e.isPublication = true := by
  simp [Effect.isPublication, he]

theorem filter_elim (publisher : Publisher) (now : Int) (pair? : Option Tls.Keypair) :
    (pair?.elim [] (pairTold publisher now)).filter Effect.isHeartbeat = [] ∧
      (pair?.elim [] (pairTold publisher now)).filter Effect.isExpiry = pair?.elim [] (pairTold publisher now) := by
  cases pair? with
  | none => exact ⟨rfl, rfl⟩
  | some pair =>
    refine ⟨List.filter_eq_nil_iff.2 fun e he => ?_, List.filter_eq_self.2 fun e he => ?_⟩
    · simp [(isExpiry_pairTold publisher now pair e he).2]
    · exact (isExpiry_pairTold publisher now pair e he).1

/-- A visit for a duty publishes what the duty is to publish, and other visits publish nothing. -/
theorem visit_publishes (v : Visit) (hf : v.host.keypairFiles? = s.keypairFiles?) :
    v.effects.filter Effect.isHeartbeat = (if v.isFor .heartbeat then [v.heartbeat] else []) ∧
      v.effects.filter Effect.isExpiry = if v.isFor .certExpiry then v.expiry else [] := by
  rw [← filter_publishing heartbeat_published, ← filter_publishing expiry_published]
  cases hd : v.appointment.duty? with
  | none =>
    have hnone : publishing v.effects = [] := attend_unpublished hd v.env v.host
    simp [hnone, Visit.isFor, Appointment.isFor, hd]
  | some d =>
    cases d with
    | heartbeat =>
      have htold : publishing v.effects = [v.heartbeat] := attend_heartbeat hd v.env v.host
      rw [htold]
      simp [Visit.isFor, Appointment.isFor, hd, Visit.heartbeat, heartbeatTold, Publisher.isHeartbeat_told,
        Publisher.isExpiry_told]
    | certExpiry =>
      have htold : publishing v.effects = v.expiry := (attend_certExpiry hd v.env hf).2
      obtain ⟨hheartbeat, hexpiry⟩ := filter_elim v.host.settings.publisher (v.env.calendar v.time) v.after.pair?
      rw [htold]
      simp [Visit.isFor, Appointment.isFor, hd, Visit.expiry, hheartbeat, hexpiry]

theorem visits_publish (vs : List Visit) (hf : ∀ v ∈ vs, v.host.keypairFiles? = s.keypairFiles?) :
    (vs.flatMap Visit.effects).filter Effect.isHeartbeat = (vs.filter (Visit.isFor .heartbeat)).map Visit.heartbeat ∧
      (vs.flatMap Visit.effects).filter Effect.isExpiry =
        (vs.filter (Visit.isFor .certExpiry)).flatMap Visit.expiry := by
  induction vs with
  | nil => exact ⟨rfl, rfl⟩
  | cons v vs ih =>
    obtain ⟨hv, hvs⟩ := List.forall_mem_cons.1 hf
    obtain ⟨hheartbeats, hexpiries⟩ := ih hvs
    obtain ⟨hheartbeat, hexpiry⟩ := visit_publishes v hv
    simp only [List.flatMap_cons, List.filter_append, hheartbeats, hexpiries, hheartbeat, hexpiry, List.filter_cons]
    refine ⟨?_, ?_⟩
    · split <;> rfl
    · split
      · rw [List.flatMap_cons]
      · rfl

/-! ## After the stop -/

/-- The host is stopped, and so is its scheduler. -/
structure Over (h : Host) : Prop where
  phase : h.phase = .stopped
  scheduler : h.scheduler = .stopped

theorem stopAmid_over (env : Surroundings) (arrivals : Arrivals) (hs : h.phase.stand ≠ .stopped) :
    Over (h.stopAmid env arrivals).value.1 := by
  obtain ⟨ss, hvalue, -⟩ := stopAmid_wound env arrivals fun hp => hs (congrArg Phase.stand hp)
  rw [hvalue]
  exact ⟨rfl, rfl⟩

theorem attendAll_unpublished (env : Surroundings) (h : Host) {as : List Appointment} (has : ∀ a ∈ as, a.duty? = none) :
    Unpublished (as.foldlM (attend env) h).effects := by
  induction as generalizing h with
  | nil => rfl
  | cons a as ih =>
    obtain ⟨ha, has⟩ := List.forall_mem_cons.1 has
    simp only [List.foldlM_cons, Run.effects_bind]
    exact Effect.unpublished_append.2 ⟨attend_unpublished ha env h, ih _ has⟩

/-- Whatever a host is asked that is over, it stays so, and publishes nothing. -/
theorem obey_over (ho : Over h) (c : Command) : Over (h.obey c).value.1 ∧ Unpublished (h.obey c).effects := by
  cases c with
  | start env arrivals =>
    have hover := startAmid_over env arrivals (h := h) (by rw [ho.phase]; exact Stand.noConfusion)
    simp only [obey, Run.value_map, Run.effects_map, hover]
    exact ⟨ho, rfl⟩
  | stop env arrivals =>
    simp only [obey, Run.value_map, Run.effects_map, (stopAmid_stopped env arrivals ho.phase).1]
    exact ⟨ho, stopAmid_unpublished h env arrivals⟩
  | add service =>
    simp only [obey, Run.value_map, Run.effects_map, value_addService]
    exact ⟨⟨ho.phase, ho.scheduler⟩, addService_unpublished h service⟩
  | wait env =>
    simp only [obey, Run.value_map, Run.effects_map, advance]
    obtain ⟨hpoll, hpolls⟩ := pollerTicks_alike h env.now
    obtain ⟨horphan, horphans⟩ := orphanTicks_alike (h.pollerTicks env.now).2 env.now
    have hscheduler := (hpoll.trans horphan).scheduler
    rw [ho.scheduler] at hscheduler
    have hdue : ∀ a ∈ (h.appointments env.now).1, a.duty? = none := by
      intro a ha
      simp only [appointments, List.mem_mergeSort, List.mem_append, taskTicks, hscheduler, Scheduler.advance] at ha
      rcases ha with (ha | ha) | ha
      · exact hpolls a ha
      · exact horphans a ha
      · cases ha
    have hticked : (h.appointments env.now).2.scheduler = .stopped := by
      simp only [appointments, taskTicks, hscheduler, Scheduler.advance]
    have hkept := (advance_kept h env).1
    refine ⟨⟨stand_stopped (hkept.stand.trans (congrArg Phase.stand ho.phase)), ?_⟩, attendAll_unpublished env _ hdue⟩
    rw [(attendAll_visits env _ _).1.scheduler, hticked]

theorem history_over (ho : Over h) (cs : List Command) :
    Over (h.history cs).value.1 ∧ Unpublished (h.history cs).effects := by
  induction cs generalizing h with
  | nil => exact ⟨ho, rfl⟩
  | cons c cs ih =>
    obtain ⟨ho', hun⟩ := obey_over ho c
    obtain ⟨hover, hrest⟩ := ih ho'
    rw [history_cons]
    exact ⟨hover, Effect.unpublished_append.2 ⟨hun, hrest⟩⟩

/-! ## From start to stop -/

/-- A time in which a host is up, and what comes before and after. -/
structure Span where
  settings : Settings
  registry : Registry
  before : List Command
  start : Surroundings
  arrivals : Arrivals
  /-- What the host is asked while it is up. -/
  between : List Command
  /-- The moment of the stop. -/
  last : Surroundings
  /-- Of what falls due at that very moment, what the stop comes before. -/
  missed : Appointment → Bool
  stopArrivals : Arrivals
  later : List Command

namespace Span

variable (x : Span)

/-- The host that the start finds. -/
def found : Host := ((made x.settings x.registry).history x.before).value.1

def started : Run (Host × Except StartFailure Unit) := x.found.startAmid x.start x.arrivals

def spent : Run (Host × List Reply) := x.started.value.1.history x.between

/-- What is due before the stop. -/
def due : List Appointment × Host := x.spent.value.1.appointments x.last.now

def attended : List Appointment := x.due.1.filter fun a => a.tick.start < x.last.now || !x.missed a

def waited : Run Host := x.attended.foldlM (attend x.last) x.due.2

def stopped : Run (Host × Nat × StopOutcome) := x.waited.value.stopAmid x.last x.stopArrivals

def gone : Run (Host × List Reply) := x.stopped.value.1.history x.later

def duration : Nat := x.last.now - x.start.now

/-- Everything that happens from the start on, up to the stop. -/
def effects : List Effect := x.started.effects ++ x.spent.effects ++ x.waited.effects

def visits : List Visit := x.started.value.1.visits x.between ++ visitsOf x.last x.due.2 x.attended

def visitsFor (d : Duty) : List Visit := x.visits.filter (Visit.isFor d)

/-- The host comes up; it is not stopped before the end, and no time goes beyond that. -/
structure Sound : Prop where
  up : x.started.value.2 = .ok ()
  unstopped : x.between.any Command.isStop = false
  start : x.start.now ≤ x.last.now
  between : ∀ env, .wait env ∈ x.between → env.now ≤ x.last.now
  clock : x.last.now < Schedule.endOfClock

/-- What a host publishes of its certificate while it is up. -/
structure Checked (t : Config.TlsConfig) : Prop where
  /-- Once at the start, of the pair that its files hold, then at every visit. -/
  published : ∃ pair, Tls.Keypair.load x.start.keys x.start.files t.certFile t.keyFile = .ok pair ∧
    x.effects.filter Effect.isExpiry =
      pairTold x.settings.publisher (x.start.calendar x.start.now) pair ++
        (x.visitsFor .certExpiry).flatMap Visit.expiry
  /-- A visit puts the pair into effect that the files hold then; if they hold none, the pair stays. -/
  reread : ∀ v ∈ x.visitsFor .certExpiry, ∃ pair, v.host.pair? = some pair ∧
    v.after.pair? = some ((Tls.Keypair.load v.env.keys v.env.files t.certFile t.keyFile).toOption.getD pair)
  /-- So there is one publication more than there are visits, if no pair in effect has a leaf that cannot be read. -/
  counted :
    (∀ pair, Tls.Keypair.load x.start.keys x.start.files t.certFile t.keyFile = .ok pair → pair.leaf?.isSome = true) →
    (∀ v ∈ x.visitsFor .certExpiry, ∀ pair, v.after.pair? = some pair → pair.leaf?.isSome = true) →
      (x.effects.filter Effect.isExpiry).length = 1 + (x.visitsFor .certExpiry).length

/-- What a host publishes is exactly what its settings ask for. -/
structure Exact : Prop where
  /-- Every duty is done as often as its interval fits into the time, -/
  often : ∀ d, Line.Fitting x.duration (x.settings.secsBetween d * 1000) (x.visitsFor d).length
  /-- one interval after the start and then at every interval. -/
  times : ∀ d, (x.visitsFor d).map Visit.time =
    Line.moments (x.settings.secsBetween d * 1000) x.start.now 0 (x.visitsFor d).length
  heartbeats : x.effects.filter Effect.isHeartbeat = (x.visitsFor .heartbeat).map Visit.heartbeat
  checked : ∀ t, x.settings.config.tls = some t → x.Checked t
  /-- Without a certificate nothing is told of one. -/
  plain : x.settings.config.tls = none → x.effects.filter Effect.isExpiry = []
  /-- Nothing is published by the stop or after it. -/
  silent : Unpublished (x.stopped.effects ++ x.gone.effects)

variable {x : Span}

/-- The host comes up, and from then on its tasks tick in the rhythm of its start. -/
theorem Sound.underway (hx : x.Sound) :
    x.settings.config.IsValid ∧ Begun x.settings x.start x.started ∧ ∃ (ds : List (Accepted Duty)) (m : Nat),
      ds.map (·.1) = x.settings.duties ∧ x.start.now ≤ m ∧ m ≤ x.last.now ∧
      Underway x.settings ds x.start.now m x.spent.value.1 ∧
      Attended x.settings x.start.now x.start.now m (x.started.value.1.visits x.between) x.spent.effects := by
  have hrest : Resting x.settings x.found := history_resting (made_resting ..) x.before
  obtain ⟨hvalid, hbegun, ds, hds, hup⟩ := start_underway hrest hx.up
  obtain ⟨m, hm, hm', hunderway, hspent⟩ := history_underway hds hup hx.unstopped hx.start hx.between hx.clock
  exact ⟨hvalid, hbegun, ds, m, hds, hm, hm', hunderway, hspent⟩

/-- The host is up until the stop, and everything published after its start is published in visits. -/
theorem Sound.published (hx : x.Sound) :
    x.waited.value.phase.stand = .started ∧
      publishing x.effects = publishing x.started.effects ++ publishing (x.visits.flatMap Visit.effects) ∧
      ∀ v ∈ x.visits, v.host.settings = x.settings ∧ v.host.keypairFiles? = x.settings.keypairFiles? := by
  obtain ⟨-, -, ds, m, -, -, -, hunderway, hspent⟩ := hx.underway
  obtain ⟨hlast, heffects, hfound⟩ := hunderway.attends hx.clock x.attended
  refine ⟨hlast.stand, ?_, List.forall_mem_append.2 ⟨hspent.found, hfound⟩⟩
  have hwaited : x.waited.effects = (visitsOf x.last x.due.2 x.attended).flatMap Visit.effects := heffects
  simp only [effects, visits, Effect.publishing_append, hspent.published, hwaited, List.flatMap_append,
    List.append_assoc]

/-- For every duty the visits come at its ticks, and only one at the very end can be missing. -/
theorem Sound.times (hx : x.Sound) (d : Duty) :
    Line.Fitting x.duration (x.settings.secsBetween d * 1000) (x.visitsFor d).length ∧
      (x.visitsFor d).map Visit.time =
        Line.moments (x.settings.secsBetween d * 1000) x.start.now 0 (x.visitsFor d).length := by
  obtain ⟨-, -, ds, m, hds, -, hm, hunderway, hspent⟩ := hx.underway
  have hdue : (x.due.1.filter (Appointment.isFor d)).map (·.tick.start) = _ :=
    appointments_for hunderway.scheduler hx.clock hds d
  obtain ⟨n, hfitting, hle, htimes⟩ := Line.filter_moments (Line.beats_mono hm) hdue
    (p := fun a => decide (a.tick.start < x.last.now) || !x.missed a) fun a _ hlt => by simp [hlt]
  have hattended : x.attended.filter (Appointment.isFor d) = (x.due.1.filter (Appointment.isFor d)).filter fun a =>
      decide (a.tick.start < x.last.now) || !x.missed a := by
    simp only [attended, List.filter_filter, Bool.and_comm]
  have hvisits : (x.visitsFor d).map Visit.time = Line.moments (x.settings.secsBetween d * 1000) x.start.now 0 n := by
    rw [visitsFor, visits, List.filter_append, List.map_append, hspent.times, Line.beats_self, visitsOf_times,
      hattended, htimes]
    exact Line.moments_append (Nat.zero_le _) hle
  have hlength := congrArg List.length hvisits
  rw [List.length_map, Line.length_moments, Nat.sub_zero] at hlength
  rw [hlength]
  exact ⟨hfitting, hvisits⟩

theorem Sound.filters (hx : x.Sound) :
    x.effects.filter Effect.isHeartbeat = (x.visitsFor .heartbeat).map Visit.heartbeat ∧
      x.effects.filter Effect.isExpiry =
        (x.settings.stored? x.start).elim []
            (pairTold x.settings.publisher (x.start.calendar x.start.now)) ++
          (x.visitsFor .certExpiry).flatMap Visit.expiry := by
  obtain ⟨-, hbegun, -⟩ := hx.underway
  obtain ⟨-, hpublished, hfound⟩ := hx.published
  obtain ⟨hheartbeats, hexpiries⟩ := visits_publish x.visits fun v hv => (hfound v hv).2
  obtain ⟨hnone, hall⟩ := filter_elim x.settings.publisher (x.start.calendar x.start.now)
    (x.settings.stored? x.start)
  rw [← filter_publishing heartbeat_published, ← filter_publishing expiry_published, hpublished, hbegun.published,
    List.filter_append, List.filter_append, filter_publishing heartbeat_published, filter_publishing expiry_published,
    hnone, hall, hheartbeats, hexpiries]
  exact ⟨rfl, rfl⟩

theorem length_pairTold {pair : Tls.Keypair} (publisher : Publisher) (now : Int) (hp : pair.leaf?.isSome = true) :
    (pairTold publisher now pair).length = 1 := by
  obtain ⟨info, hinfo⟩ := Option.isSome_iff_exists.1 hp
  rw [pairTold, hinfo]
  rfl

variable {t : Config.TlsConfig}

theorem Sound.stored (hx : x.Sound) (ht : x.settings.config.tls = some t) (env : Surroundings) :
    x.settings.stored? env = (Tls.Keypair.load env.keys env.files t.certFile t.keyFile).toOption :=
  Settings.stored?_some ((Settings.tls?_eq hx.underway.1).trans ht) env

/-- A host that came up found a pair in its files, and published that first. -/
theorem Sound.first (hx : x.Sound) (ht : x.settings.config.tls = some t) :
    ∃ pair, Tls.Keypair.load x.start.keys x.start.files t.certFile t.keyFile = .ok pair ∧
      x.effects.filter Effect.isExpiry =
        pairTold x.settings.publisher (x.start.calendar x.start.now) pair ++
          (x.visitsFor .certExpiry).flatMap Visit.expiry := by
  obtain ⟨hvalid, hbegun, -⟩ := hx.underway
  have hsome := hbegun.stored
  have hexpiries := hx.filters.2
  rw [hx.stored ht] at hsome hexpiries
  cases hload : Tls.Keypair.load x.start.keys x.start.files t.certFile t.keyFile with
  | error e => simp [hload, Settings.tls?_eq hvalid, ht, Except.toOption] at hsome
  | ok pair =>
    rw [hload] at hexpiries
    exact ⟨pair, rfl, hexpiries⟩

/-- At a visit of the certificate's task there is a pair in effect, and its files are read again. -/
theorem Sound.reread (hx : x.Sound) (ht : x.settings.config.tls = some t) {v : Visit}
    (hv : v ∈ x.visitsFor .certExpiry) :
    ∃ pair, v.host.pair? = some pair ∧
      v.after.pair? = some ((Tls.Keypair.load v.env.keys v.env.files t.certFile t.keyFile).toOption.getD pair) := by
  obtain ⟨hmem, hfor⟩ := List.mem_filter.1 hv
  have hserved : v.host.keypairFiles? = x.settings.keypairFiles? := (hx.published.2.2 v hmem).2
  have hfiles := Settings.keypairFiles?_some ((Settings.tls?_eq hx.underway.1).trans ht)
  obtain ⟨r, hr⟩ : ∃ r, v.host.phase.resources.1 = some r := by
    rw [hfiles, keypairFiles?, Option.map_eq_some_iff] at hserved
    exact ⟨_, hserved.choose_spec.1⟩
  have hpair : v.host.pair? = some r.pair := by rw [pair?, hr, Option.map_some]
  have hduty : v.appointment.duty? = some .certExpiry := by simpa [Visit.isFor, Appointment.isFor] using hfor
  have hafter : v.after.pair? = (x.settings.stored? v.env).or v.host.pair? :=
    (attend_certExpiry hduty v.env hserved).1
  refine ⟨r.pair, hpair, ?_⟩
  rw [hafter, hx.stored ht, hpair]
  cases (Tls.Keypair.load v.env.keys v.env.files t.certFile t.keyFile).toOption <;> rfl

/-- With a keypair to serve, its files hold one at the start, and every check reads them again. -/
theorem Sound.checked (hx : x.Sound) (ht : x.settings.config.tls = some t) : x.Checked t := by
  refine ⟨hx.first ht, fun v hv => hx.reread ht hv, fun hfirst hlater => ?_⟩
  obtain ⟨pair, hload, hexpiries⟩ := hx.first ht
  have heach : ∀ v ∈ x.visitsFor .certExpiry, v.expiry.length = 1 := by
    intro v hv
    obtain ⟨old, -, hafter⟩ := hx.reread ht hv
    rw [Visit.expiry, hafter, Option.elim_some, length_pairTold _ _ (hlater v hv _ hafter)]
  rw [hexpiries, List.length_append, length_pairTold _ _ (hfirst pair hload), List.length_flatMap,
    List.map_congr_left heach, List.map_const', List.sum_replicate_nat, Nat.mul_one]

/--
  What a host publishes from its start to its stop is exactly what its settings ask for, and
  from the stop on it publishes nothing.
-/
theorem published_exactly (x : Span) (hx : x.Sound) : x.Exact := by
  obtain ⟨hvalid, hbegun, -⟩ := hx.underway
  obtain ⟨hstand, -, -⟩ := hx.published
  obtain ⟨hheartbeats, hexpiries⟩ := hx.filters
  constructor
  · exact fun d => (hx.times d).1
  · exact fun d => (hx.times d).2
  · exact hheartbeats
  · exact fun t ht => hx.checked ht
  · intro hnone
    have hstored := Settings.stored?_none ((Settings.tls?_eq hvalid).trans hnone) x.start
    have hvisits := (hx.times .certExpiry).1
    rw [Settings.secsBetween, hnone] at hvisits
    rw [hexpiries, hstored, List.length_eq_zero_iff.1 (Line.fitting_zero.1 hvisits)]
    rfl
  · have hover : Over x.stopped.value.1 := stopAmid_over _ _ (by rw [hstand]; exact Stand.noConfusion)
    exact Effect.unpublished_append.2 ⟨stopAmid_unpublished .., (history_over hover x.later).2⟩

/-- A hub that tells every second how long it has been running, and how long its certificate is valid. -/
def watchfulHub : Settings where
  config :=
    { http := { heartbeatSecs := 1 }, tls := some { certFile := "cert", keyFile := "key", expiryCheckSecs := 1 } }
  role := "hub"
  contextId := "id-1"

def withPair (now : Nat) (files : Files) : Surroundings := { vacantAt now with files }

def keyless : Surroundings := withPair 1200 (Tls.SlowReload.files.remove "key")

/-- A hub that is stopped after two and a half seconds. After one its key is missing, after two its pair is new. -/
def brief : Span where
  settings := watchfulHub
  registry := {}
  before := [.start vacant noArrivals]
  start := withPair 0 Tls.SlowReload.files
  arrivals := noArrivals
  between := [.wait keyless]
  last := withPair 2500 Tls.HalfRotation.rotated
  missed := fun _ => false
  stopArrivals := noArrivals
  later := [.wait (vacantAt 9000), .start vacant noArrivals, .stop (vacantAt 9000) noArrivals]

theorem attended_all (hm : ∀ a, x.missed a = false) : x.attended = x.due.1 :=
  List.filter_eq_self.2 fun a _ => by rw [hm a, Bool.not_false, Bool.or_true]

theorem brief_visits : brief.visits =
    visitsInOrder keyless brief.started.value.1 ++
      visitsInOrder brief.last (waitedInOrder keyless brief.started.value.1) := by
  have hfirst : InOrder keyless brief.started.value.1 := by decide +kernel
  have hsecond : InOrder brief.last (waitedInOrder keyless brief.started.value.1) := by decide +kernel
  have hbetween : brief.between = [.wait keyless] := rfl
  rw [visits, attended_all fun _ => rfl, due, spent, hbetween, hfirst.visits.1, hfirst.visits.2, hsecond.eq,
    visitsInOrder, visitsInOrder]

/-- The check without a key leaves the pair as it is, the next one finds the new pair. -/
theorem published_exactly_brief :
    brief.Sound ∧ brief.Exact ∧ (brief.visitsFor .heartbeat).length = 2 ∧
      ∃ old new, brief.settings.stored? brief.start = some old ∧ brief.settings.stored? brief.last = some new ∧
        old ≠ new ∧ (brief.visitsFor .certExpiry).map (fun v => (brief.settings.stored? v.env, v.after.pair?)) =
          [(none, some old), (some new, some new)] := by
  have hup : brief.started.value.2 = .ok () := by
    have hok : brief.started.value.2.toBool = true := by decide +kernel
    cases ho : brief.started.value.2 with
    | ok => rfl
    | error e =>
      rw [ho] at hok
      cases hok
  have hsound : brief.Sound := by
    refine ⟨hup, rfl, by decide, ?_, by decide⟩
    intro env henv
    rw [Command.wait.inj (List.mem_singleton.1 henv)]
    decide
  have hexact := published_exactly brief hsound
  have hpairs :
      let old? := brief.settings.stored? brief.start
      let new? := brief.settings.stored? brief.last
      old?.isSome ∧ new?.isSome ∧ old? ≠ new? ∧
        ((visitsInOrder keyless brief.started.value.1 ++
            visitsInOrder brief.last (waitedInOrder keyless brief.started.value.1)).filter (Visit.isFor .certExpiry)).map
          (fun v => (brief.settings.stored? v.env, v.after.pair?)) = [(none, old?), (new?, new?)] := by
    decide +kernel
  obtain ⟨hold, hnew, hne, htold⟩ := hpairs
  obtain ⟨old, hold⟩ := Option.isSome_iff_exists.1 hold
  obtain ⟨new, hnew⟩ := Option.isSome_iff_exists.1 hnew
  refine ⟨hsound, hexact, ?_, old, new, hold, hnew, fun h => hne (by rw [hold, hnew, h]), ?_⟩
  · have hoften : Line.Fitting 2500 1000 (brief.visitsFor .heartbeat).length := hexact.often .heartbeat
    rcases hoften with h | ⟨h, -⟩
    · exact h
    · exact absurd h (by decide)
  · rw [visitsFor, brief_visits, htold, hold, hnew]

end Span

end Host

end ServiceHost
