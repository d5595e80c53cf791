/-
  ServiceHost.Proofs.Host.Upkeep — what falls due while a host is up.

  A scheduler that is left to the host has no task but those the start gives it, and each of
  them then ticks in its own rhythm, whatever the host is asked in between. What is attended
  in a wait is told by visits: the host as an appointment found it. The invariant is
  `Underway`; from a start that came up to any moment, the visits of a task come at its
  ticks (`history_underway`).
-/

import ServiceHost.Proofs.Host.Beginning
import ServiceHost.Proofs.Host.Security
import ServiceHost.Proofs.Schedule.Rhythm
import ServiceHost.Proofs.Sorting

namespace ServiceHost

open Schedule (Accepted Line Scheduler)
open Effect (publishing Unpublished)

namespace Host

variable {s : Settings} {h : Host} {env : Surroundings} {ds : List (Accepted Duty)} {d : Duty} {start m now : Nat}

/-! ## What falls due -/

theorem Appointment.le_trans (a b c : Appointment) (hab : a.le b = true) (hbc : b.le c = true) : a.le c = true := by
  simp only [Appointment.le, Bool.or_eq_true, Bool.and_eq_true, decide_eq_true_eq] at *
  omega

theorem Appointment.le_total (a b : Appointment) : (a.le b || b.le a) = true := by
  simp only [Appointment.le, Bool.or_eq_true, Bool.and_eq_true, decide_eq_true_eq]
  omega

/-- How often a background task is to be done, in seconds; never, if that is zero. -/
def Settings.secsBetween (s : Settings) : Duty → Nat
  | .certExpiry => (s.config.tls.map (·.expiryCheckSecs)).getD 0
  | .heartbeat => s.config.http.heartbeatSecs

theorem duties_for (hds : ds.map (·.1) = s.duties) (d : Duty) :
    (ds.filter (·.1.job = d) = [] ∧ s.secsBetween d = 0) ∨
      ∃ e, ds.filter (·.1.job = d) = [e] ∧ e.1.interval = s.secsBetween d * 1000 := by
  have hmap : (ds.filter (·.1.job = d)).map (·.1) = s.duties.filter (·.job = d) := by
    rw [← hds, List.filter_map]
    rfl
  have hone (t : Schedule.Task Duty) (ht : s.duties.filter (·.job = d) = [t]) :
      ∃ e, ds.filter (·.1.job = d) = [e] ∧ e.1 = t := by
    rw [ht] at hmap
    exact List.map_eq_singleton_iff.1 hmap
  have hnone (ht : s.duties.filter (·.job = d) = []) : ds.filter (·.1.job = d) = [] := by
    rw [ht] at hmap
    exact List.map_eq_nil_iff.1 hmap
  cases d with
  | certExpiry =>
    cases ht : s.config.tls with
    | none =>
      refine .inl ⟨hnone ?_, by simp [Settings.secsBetween, ht]⟩
      simp only [Settings.duties, ht]
      split <;> rfl
    | some t =>
      obtain ⟨e, he, het⟩ := hone (expiryTask t.expiryCheckSecs) (by
        simp only [Settings.duties, ht]
        split <;> rfl)
      exact .inr ⟨e, he, by rw [het, Settings.secsBetween, ht]; rfl⟩
  | heartbeat =>
    by_cases hbeat : 0 < s.config.http.heartbeatSecs
    · obtain ⟨e, he, het⟩ := hone (heartbeatTask s.config.http.heartbeatSecs) (by
        simp only [Settings.duties, if_pos hbeat]
        cases s.config.tls <;> rfl)
      exact .inr ⟨e, he, by rw [het]; rfl⟩
    · refine .inl ⟨hnone ?_, Nat.eq_zero_of_not_pos hbeat⟩
      simp only [Settings.duties, if_neg hbeat]
      cases s.config.tls <;> rfl

def Appointment.isFor (d : Duty) (a : Appointment) : Bool := a.duty? = some d

def appointed (e : Accepted Duty) (start m now : Nat) : List Appointment :=
  (Scheduler.beatsOf e start m now).map fun x => ⟨x, .task e.1⟩

theorem appointed_sorted (e : Accepted Duty) (start m now : Nat) :
    (appointed e start m now).Pairwise fun a b => a.le b = true := by
  simp only [appointed, Scheduler.beatsOf, List.map_map, List.pairwise_map]
  refine (List.pairwise_lt_range' 1).imp fun hlt => ?_
  have hmul := Nat.mul_lt_mul_of_pos_right hlt e.2
  simp only [Appointment.le, Function.comp_def, Line.beat, Bool.or_eq_true, decide_eq_true_eq, Nat.add_mul]
  omega

theorem pollerTicks_alike (h : Host) (now : Nat) :
    Alike h (h.pollerTicks now).2 ∧ ∀ a ∈ (h.pollerTicks now).1, a.duty? = none := by
  rcases pollerTicks_cases h now with heq | ⟨serving, r, hp, hr, heq⟩
  · rw [heq]
    exact ⟨.refl h, List.forall_mem_nil _⟩
  · obtain ⟨hcert, hkey⟩ := r.ticks_follows now
    rw [heq]
    refine ⟨⟨rfl, ?_⟩, ?_⟩
    · simp only [keypairFiles?, hp, Phase.resources, hr, Option.map_some, hcert, hkey]
    · simp [Appointment.duty?]

theorem orphanTicks_alike (h : Host) (now : Nat) :
    Alike h (h.orphanTicks now).2 ∧ ∀ a ∈ (h.orphanTicks now).1, a.duty? = none := by
  refine ⟨⟨rfl, rfl⟩, fun a ha => ?_⟩
  obtain ⟨t, -, ha⟩ := List.mem_flatMap.1 ha
  obtain ⟨x, -, rfl⟩ := List.mem_map.1 ha
  rfl

/-- Besides the ticks of its tasks nothing is due but pollers. -/
theorem appointments_eq (hh : h.scheduler = .rhythm ds start m) (hnow : now < Schedule.endOfClock) :
    (∃ polls : List Appointment, (∀ a ∈ polls, a.duty? = none) ∧
        (h.appointments now).1 = (polls ++ ds.flatMap (appointed · start m now)).mergeSort Appointment.le) ∧
      (h.appointments now).2.scheduler = .rhythm ds start (max m now) ∧
      (h.appointments now).2.keypairFiles? = h.keypairFiles? := by
  obtain ⟨hpoll, hpolls⟩ := pollerTicks_alike h now
  obtain ⟨horphan, horphans⟩ := orphanTicks_alike (h.pollerTicks now).2 now
  have halike := hpoll.trans horphan
  have htasks : (Scheduler.rhythm ds start m).advance (fun _ _ => {}) now = _ := Scheduler.advance_rhythm hnow
  rw [← hh, ← halike.scheduler] at htasks
  refine ⟨⟨(h.pollerTicks now).1 ++ ((h.pollerTicks now).2.orphanTicks now).1, ?_, ?_⟩, ?_, halike.files⟩
  · exact List.forall_mem_append.2 ⟨hpolls, horphans⟩
  · simp only [appointments, taskTicks, htasks, List.map_flatMap, List.map_map, appointed, Function.comp_def]
  · simp only [appointments, taskTicks, htasks]

theorem filter_appointed (ds : List (Accepted Duty)) (d : Duty) (start m now : Nat) :
    (ds.flatMap (appointed · start m now)).filter (Appointment.isFor d) =
      (ds.filter (·.1.job = d)).flatMap (appointed · start m now) := by
  induction ds with
  | nil => rfl
  | cons e ds ih =>
    rw [List.flatMap_cons, List.filter_append, ih]
    by_cases hj : e.1.job = d
    · rw [List.filter_cons_of_pos (by simp [hj]), List.flatMap_cons, List.filter_eq_self.2]
      simp [appointed, Appointment.isFor, Appointment.duty?, hj]
    · rw [List.filter_cons_of_neg (by simp [hj]), List.filter_eq_nil_iff.2, List.nil_append]
      simp [appointed, Appointment.isFor, Appointment.duty?, hj]

theorem appointments_for (hh : h.scheduler = .rhythm ds start m) (hnow : now < Schedule.endOfClock)
    (hds : ds.map (·.1) = s.duties) (d : Duty) :
    ((h.appointments now).1.filter (Appointment.isFor d)).map (·.tick.start) =
      Line.moments (s.secsBetween d * 1000) start (Line.beats (s.secsBetween d * 1000) start m)
        (Line.beats (s.secsBetween d * 1000) start now) := by
  obtain ⟨⟨polls, hpolls, heq⟩, -⟩ := appointments_eq hh hnow
  have hfilter : (polls ++ ds.flatMap (appointed · start m now)).filter (Appointment.isFor d) =
      (ds.filter (·.1.job = d)).flatMap (appointed · start m now) := by
    have hnone : polls.filter (Appointment.isFor d) = [] :=
      List.filter_eq_nil_iff.2 fun a ha => by simp [Appointment.isFor, hpolls a ha]
    rw [List.filter_append, hnone, List.nil_append, filter_appointed]
  rw [heq, filter_mergeSort Appointment.le_trans Appointment.le_total] <;> rw [hfilter]
  · rcases duties_for hds d with ⟨hnone, hzero⟩ | ⟨e, hone, hinterval⟩
    · rw [hnone, hzero]
      simp [Line.beats]
    · rw [hone, ← hinterval, ← Scheduler.beatsOf_start]
      simp [appointed]
  · rcases duties_for hds d with ⟨hnone, -⟩ | ⟨e, hone, -⟩
    · rw [hnone]
      exact .nil
    · rw [hone, List.flatMap_singleton]
      exact appointed_sorted ..

/-! ## Visits -/

/-- An appointment, and the host that it finds. -/
structure Visit where
  env : Surroundings
  host : Host
  appointment : Appointment

namespace Visit

def time (v : Visit) : Nat := v.appointment.tick.start

def after (v : Visit) : Host := (attend v.env v.host v.appointment).value

def effects (v : Visit) : List Effect := (attend v.env v.host v.appointment).effects

def isFor (d : Duty) (v : Visit) : Bool := v.appointment.isFor d

end Visit

def visitsOf (env : Surroundings) (h : Host) : List Appointment → List Visit
  | [] => []
  | a :: as => ⟨env, h, a⟩ :: visitsOf env (attend env h a).value as

/-- Everything attended while a host is asked one thing after the other. -/
def visits (h : Host) : List Command → List Visit
  | [] => []
  | c :: cs =>
    (match c with
      | .wait env => visitsOf env (h.appointments env.now).2 (h.appointments env.now).1
      | _ => []) ++
    (h.obey c).value.1.visits cs

/-! Where everything falls due in order it need not be sorted, and visits can be computed. -/

/-- Everything due, as the reloaders and the tasks have it. -/
def dueOf (h : Host) (now : Nat) : List Appointment :=
  (h.pollerTicks now).1 ++ ((h.pollerTicks now).2.orphanTicks now).1 ++
    (((h.pollerTicks now).2.orphanTicks now).2.taskTicks now).1

def InOrder (env : Surroundings) (h : Host) : Prop := (dueOf h env.now).Pairwise fun a b => a.le b = true

instance (env : Surroundings) (h : Host) : Decidable (InOrder env h) := inferInstanceAs (Decidable (List.Pairwise ..))

def visitsInOrder (env : Surroundings) (h : Host) : List Visit :=
  visitsOf env (h.appointments env.now).2 (dueOf h env.now)

def waitedInOrder (env : Surroundings) (h : Host) : Host :=
  ((dueOf h env.now).foldlM (attend env) (h.appointments env.now).2).value

theorem InOrder.eq (hs : InOrder env h) : (h.appointments env.now).1 = dueOf h env.now := List.mergeSort_of_pairwise hs

theorem InOrder.visits (hs : InOrder env h) :
    h.visits [.wait env] = visitsInOrder env h ∧ (h.history [.wait env]).value.1 = waitedInOrder env h := by
  have hwaited : (h.obey (.wait env)).value.1 = waitedInOrder env h := by
    simp only [obey, Run.value_map, advance, hs.eq]
    rfl
  constructor
  · rw [Host.visits, hs.eq]
    exact List.append_nil _
  · rw [history_cons, hwaited]
    rfl

theorem visitsOf_appointments (env : Surroundings) (h : Host) (as : List Appointment) :
    (visitsOf env h as).map (·.appointment) = as := by
  induction as generalizing h with
  | nil => rfl
  | cons a as ih => rw [visitsOf, List.map_cons, ih]

theorem visitsOf_times (env : Surroundings) (h : Host) (as : List Appointment) (d : Duty) :
    ((visitsOf env h as).filter (Visit.isFor d)).map Visit.time =
      (as.filter (Appointment.isFor d)).map (·.tick.start) := by
  conv => rhs; rw [← visitsOf_appointments env h as, List.filter_map, List.map_map]
  rfl

/-- What is attended is done in visits. -/
theorem attendAll_visits (env : Surroundings) (h : Host) (as : List Appointment) :
    Alike h (as.foldlM (attend env) h).value ∧
      (as.foldlM (attend env) h).effects = (visitsOf env h as).flatMap Visit.effects ∧
      ∀ v ∈ visitsOf env h as, v.env = env ∧ Kept h v.host ∧ Alike h v.host := by
  induction as generalizing h with
  | nil => exact ⟨.refl h, rfl, List.forall_mem_nil _⟩
  | cons a as ih =>
    obtain ⟨halike, heffects, hvisits⟩ := ih (attend env h a).value
    have hstep := attend_alike env h a
    have hkept := (attend_kept env h a).1
    simp only [List.foldlM_cons, Run.value_bind, Run.effects_bind, visitsOf, List.flatMap_cons]
    refine ⟨hstep.trans halike, ?_, List.forall_mem_cons.2 ⟨⟨rfl, .refl h, .refl h⟩, fun v hv => ?_⟩⟩
    · rw [heffects]
      rfl
    · obtain ⟨henv, hk, ha⟩ := hvisits v hv
      exact ⟨henv, hkept.trans hk, hstep.trans ha⟩

/-! ## Before the start -/

variable (s) in
/-- Whatever a host is asked, until it comes up nobody has given its scheduler anything. -/
structure Resting (h : Host) : Prop where
  settings : h.settings = s
  arming : h.arming? = none
  scheduler : h.phase.stand = .new → h.scheduler = .empty

theorem made_resting (s : Settings) (r : Registry) : Resting s (made s r) := ⟨rfl, rfl, fun _ => rfl⟩

theorem advance_resting (env : Surroundings) (hr : Resting s h) : Resting s (h.advance env).value := by
  obtain ⟨hk, -⟩ := advance_kept h env
  refine ⟨hk.settings.trans hr.settings, hk.arming.trans hr.arming, fun hn => ?_⟩
  have hempty := hr.scheduler (hk.stand ▸ hn)
  have hticks : (h.appointments env.now).2.scheduler = .empty := by
    have halike := (pollerTicks_alike h env.now).1.trans (orphanTicks_alike (h.pollerTicks env.now).2 env.now).1
    simp only [appointments, taskTicks, halike.scheduler, hempty]
    rfl
  exact ((attendAll_visits env _ _).1.scheduler).trans hticks

theorem obey_resting (hr : Resting s h) (c : Command) : Resting s (h.obey c).value.1 := by
  cases c with
  | start env arrivals =>
    simp only [obey, Run.value_map]
    by_cases hp : h.phase.stand = .new
    · rcases startAmid_cases env arrivals (stand_new hp) hr.arming with ⟨e, ss, he⟩ | ⟨o, ss, hb⟩ | ⟨p, serving, hu⟩
      · rw [he.value]
        exact ⟨hr.settings, hr.arming, hr.scheduler⟩
      · rw [hb.value]
        exact ⟨hr.settings, hr.arming, hr.scheduler⟩
      · rw [hu.value]
        exact ⟨hr.settings, hr.arming, Stand.noConfusion⟩
    · rw [startAmid_over env arrivals hp]
      exact hr
  | stop now arrivals =>
    simp only [obey, Run.value_map]
    rcases stopAmid_host h now arrivals with heq | ⟨ss, heq, -⟩
    · rw [heq]
      exact hr
    · rw [heq]
      exact ⟨hr.settings, hr.arming, Stand.noConfusion⟩
  | add service =>
    simp only [obey, Run.value_map, value_addService]
    exact ⟨hr.settings, hr.arming, hr.scheduler⟩
  | wait env =>
    simp only [obey, Run.value_map]
    exact advance_resting env hr

theorem history_resting (hr : Resting s h) (cs : List Command) : Resting s (h.history cs).value.1 := by
  induction cs generalizing h with
  | nil => exact hr
  | cons c cs ih =>
    rw [history_cons]
    exact ih (obey_resting hr c)

/-! ## While it is up -/

variable (s ds start) in
/-- A host that is up at the moment `m`: all its tasks tick in the rhythm of its start. -/
structure Underway (m : Nat) (h : Host) : Prop where
  settings : h.settings = s
  stand : h.phase.stand = .started
  files : h.keypairFiles? = s.keypairFiles?
  scheduler : h.scheduler = .rhythm ds start m

theorem Underway.kept {h' : Host} (hu : Underway s ds start m h) (hk : Kept h h') (ha : Alike h h') :
    Underway s ds start m h' where
  settings := hk.settings.trans hu.settings
  stand := hk.stand.trans hu.stand
  files := ha.files.trans hu.files
  scheduler := ha.scheduler.trans hu.scheduler

theorem history_turns (pending ds : List (Accepted Duty)) (now : Nat) :
    ((Scheduler.idle pending).history sinks (turns (ds.map (·.1)) now)).value.1 =
      .running ((pending ++ ds).map (Scheduler.entry now)) := by
  induction ds generalizing pending with
  | nil => rw [List.append_nil]; rfl
  | cons d ds ih =>
    have hadd : ((Scheduler.idle pending).obey sinks (.add d.1 now)).value.1 = .idle (pending ++ [d]) := by
      simp only [Scheduler.obey, Scheduler.add, dif_pos d.2]
      rfl
    change ((Scheduler.idle pending).history sinks (.add d.1 now :: turns (ds.map (·.1)) now)).value.1 = _
    rw [(Scheduler.history_cons ..).1, hadd, ih, List.append_assoc]
    rfl

/-- A host that came up is under way, with the tasks that its settings ask for. -/
theorem start_underway {arrivals : Arrivals} (hr : Resting s h) (hok : (h.startAmid env arrivals).value.2 = .ok ()) :
    s.config.IsValid ∧ Begun s env (h.startAmid env arrivals) ∧ ∃ ds : List (Accepted Duty), ds.map (·.1) = s.duties ∧
      Underway s ds env.now env.now (h.startAmid env arrivals).value.1 := by
  by_cases hp : h.phase.stand = .new
  · rcases startAmid_cases env arrivals (stand_new hp) hr.arming with ⟨e, ss, he⟩ | ⟨o, ss, hb⟩ | ⟨p, serving, hu⟩
    · rw [he.value] at hok
      cases hok
    · rw [hb.value] at hok
      cases hok
    · have hbegun := hu.begun (stand_new hp) hr.arming
      have hfaultless := hu.faultless
      have hfits := hu.fits
      rw [hr.settings] at hbegun hfaultless hfits
      have hvalid : s.config.IsValid := valid_of_faultless hfaultless
      obtain ⟨ds, hds⟩ : ∃ ds : List (Accepted Duty), ds.map (·.1) = s.duties :=
        ⟨s.duties.attachWith _ (duties_pos hvalid), List.attachWith_map_subtype_val _⟩
      refine ⟨hvalid, hbegun, ds, hds, ?_, hbegun.stand, hbegun.files, ?_⟩
      · rw [hu.value]
        exact hr.settings
      · have hgiven := congrArg (·.value.1) (startTasks_eq hr.settings hvalid hfits env.now)
        simp only [hr.scheduler hp, ← hds, Scheduler.empty, history_turns, Run.value_map, List.nil_append] at hgiven
        rw [hu.value, ← Scheduler.rhythm_start, hgiven]
        rfl
  · rw [startAmid_over env arrivals hp] at hok
    cases hok

variable (s start) in
/--
  What is done from the moment `m` to the moment `m'` while a host is up: it publishes in
  visits, which find it up and serving its files, and for every duty come at its ticks.
-/
structure Attended (m m' : Nat) (vs : List Visit) (es : List Effect) : Prop where
  published : publishing es = publishing (vs.flatMap Visit.effects)
  found : ∀ v ∈ vs, v.host.settings = s ∧ v.host.keypairFiles? = s.keypairFiles?
  times : ∀ d, (vs.filter (Visit.isFor d)).map Visit.time =
    Line.moments (s.secsBetween d * 1000) start (Line.beats (s.secsBetween d * 1000) start m)
      (Line.beats (s.secsBetween d * 1000) start m')

theorem Attended.nothing {es : List Effect} (he : Unpublished es) : Attended s start m m [] es where
  published := he
  found := List.forall_mem_nil _
  times := fun d => by rw [Line.moments_self]; rfl

theorem Attended.append {m' m'' : Nat} {vs vs' : List Visit} {es es' : List Effect} (hm : m ≤ m') (hm' : m' ≤ m'')
    (ha : Attended s start m m' vs es) (ha' : Attended s start m' m'' vs' es') :
    Attended s start m m'' (vs ++ vs') (es ++ es') where
  published := by
    rw [Effect.publishing_append, ha.published, ha'.published, List.flatMap_append, Effect.publishing_append]
  found := List.forall_mem_append.2 ⟨ha.found, ha'.found⟩
  times := fun d => by
    rw [List.filter_append, List.map_append, ha.times, ha'.times,
      Line.moments_append (Line.beats_mono hm) (Line.beats_mono hm')]

theorem Underway.attends (hu : Underway s ds start m h) (hnow : env.now < Schedule.endOfClock) (as : List Appointment) :
    Underway s ds start (max m env.now) (as.foldlM (attend env) (h.appointments env.now).2).value ∧
      (as.foldlM (attend env) (h.appointments env.now).2).effects =
        (visitsOf env (h.appointments env.now).2 as).flatMap Visit.effects ∧
      ∀ v ∈ visitsOf env (h.appointments env.now).2 as,
        v.host.settings = s ∧ v.host.keypairFiles? = s.keypairFiles? := by
  have hk := appointments_kept h env.now
  obtain ⟨-, hscheduler, hfiles⟩ := appointments_eq hu.scheduler hnow
  have hu' : Underway s ds start (max m env.now) (h.appointments env.now).2 :=
    ⟨hk.settings.trans hu.settings, hk.stand.trans hu.stand, hfiles.trans hu.files, hscheduler⟩
  obtain ⟨halike, heffects, hvisits⟩ := attendAll_visits env (h.appointments env.now).2 as
  refine ⟨hu'.kept (attendAll_kept env _ as).1 halike, heffects, fun v hv => ?_⟩
  obtain ⟨-, hkept, ha⟩ := hvisits v hv
  exact ⟨hkept.settings.trans hu'.settings, ha.files.trans hu'.files⟩

theorem obey_underway (hds : ds.map (·.1) = s.duties) (hu : Underway s ds start m h) {c : Command}
    (hc : c.isStop = false) {last : Nat} (hm : m ≤ last) (hlast : ∀ env, c = .wait env → env.now ≤ last)
    (hend : last < Schedule.endOfClock) :
    ∃ m', m ≤ m' ∧ m' ≤ last ∧ Underway s ds start m' (h.obey c).value.1 ∧
      Attended s start m m' (h.visits [c]) (h.obey c).effects := by
  cases c with
  | stop now arrivals => cases hc
  | start env arrivals =>
    have hover := startAmid_over env arrivals (h := h) (by rw [hu.stand]; exact Stand.noConfusion)
    simp only [obey, Run.value_map, Run.effects_map, hover]
    exact ⟨m, Nat.le_refl m, hm, hu, .nothing rfl⟩
  | add service =>
    simp only [obey, Run.value_map, Run.effects_map, value_addService]
    exact ⟨m, Nat.le_refl m, hm, ⟨hu.settings, hu.stand, hu.files, hu.scheduler⟩,
      .nothing (addService_unpublished h service)⟩
  | wait env =>
    have hle := hlast env rfl
    obtain ⟨hunderway, heffects, hfound⟩ := hu.attends (Nat.lt_of_le_of_lt hle hend) (h.appointments env.now).1
    simp only [obey, Run.value_map, Run.effects_map, advance, visits, List.append_nil]
    refine ⟨max m env.now, Nat.le_max_left .., Nat.max_le.2 ⟨hm, hle⟩, hunderway, ?_, hfound, fun d => ?_⟩
    · rw [heffects]
    · rw [visitsOf_times, appointments_for hu.scheduler (Nat.lt_of_le_of_lt hle hend) hds, Line.beats_max, Line.moments_max]

theorem visits_cons (h : Host) (c : Command) (cs : List Command) :
    h.visits (c :: cs) = h.visits [c] ++ (h.obey c).value.1.visits cs := by
  simp only [visits, List.append_nil]

/-- While a host is up its tasks tick in their rhythm, whatever it is asked. -/
theorem history_underway (hds : ds.map (·.1) = s.duties) (hu : Underway s ds start m h) {cs : List Command}
    (hcs : cs.any Command.isStop = false) {last : Nat} (hm : m ≤ last)
    (hlast : ∀ env, .wait env ∈ cs → env.now ≤ last) (hend : last < Schedule.endOfClock) :
    ∃ m', m ≤ m' ∧ m' ≤ last ∧ Underway s ds start m' (h.history cs).value.1 ∧
      Attended s start m m' (h.visits cs) (h.history cs).effects := by
  induction cs generalizing h m with
  | nil => exact ⟨m, Nat.le_refl m, hm, hu, .nothing rfl⟩
  | cons c cs ih =>
    rw [List.any_cons, Bool.or_eq_false_iff] at hcs
    obtain ⟨m', hle, hle', hu', ha⟩ := obey_underway hds hu hcs.1 hm (fun env hc => hlast env (hc ▸ .head _)) hend
    obtain ⟨m'', hle'', hlast'', hu'', ha'⟩ := ih hu' hcs.2 hle' fun env hmem => hlast env (.tail _ hmem)
    rw [history_cons, visits_cons]
    exact ⟨m'', Nat.le_trans hle hle'', hlast'', hu'', ha.append hle hle'' ha'⟩

end Host

end ServiceHost
