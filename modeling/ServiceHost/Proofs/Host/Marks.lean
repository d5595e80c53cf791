/-
  ServiceHost.Proofs.Host.Marks — the effects that tell of a host's life: announcements,
  fatal errors, addresses released, services closed, and pollers that come and go.

  Most of what a host does is quiet: it leaves no such mark. Most of it also logs to the
  sink it is told and to no other. What does both is plain (`Effect.Plain`). The lemmas here
  say so of the parts that starts, stops and background tasks are made of, and which marks
  the others leave.
-/

import ServiceHost.Host.Clock
import ServiceHost.Host.Stop

namespace ServiceHost

/-! ## What effects tell of -/

namespace Effect

def isArming : Effect → Bool
  | logged _ e => e.area = .reloader && e.message = "Keypair reloader armed"
  | _ => false

def isDisarming : Effect → Bool
  | logged _ e => e.area = .reloader && e.message = "Keypair reloader closed"
  | _ => false

def isFailure : Effect → Bool
  | failed _ => true
  | _ => false

def isRelease : Effect → Bool
  | released _ => true
  | _ => false

def isClosing : Effect → Bool
  | closed .. => true
  | _ => false

/-- Whether an effect announces something, is a fatal error, releases an address or closes a service. -/
def isNews (e : Effect) : Bool := e.isAnnouncement || e.isFailure || e.isRelease || e.isClosing

/-- Announcements, fatal errors, releases and closings, in order. -/
def news (es : List Effect) : List Effect := es.filter isNews

/-- Whether an effect is news, or tells of a poller coming or going. -/
def isMark (e : Effect) : Bool := e.isNews || e.isArming || e.isDisarming

def armings (es : List Effect) : Nat := es.countP isArming

def disarmings (es : List Effect) : Nat := es.countP isDisarming

/-- No effect is a mark. -/
def Quiet (es : List Effect) : Prop := es.filter isMark = []

variable {es es' : List Effect}

@[simp] theorem announcements_append (es es' : List Effect) :
    announcements (es ++ es') = announcements es ++ announcements es' := List.filter_append ..

@[simp] theorem fatals_append (es es' : List Effect) : fatals (es ++ es') = fatals es ++ fatals es' :=
  List.filterMap_append ..

@[simp] theorem releases_append (es es' : List Effect) : releases (es ++ es') = releases es ++ releases es' :=
  List.filterMap_append ..

@[simp] theorem closings_append (es es' : List Effect) : closings (es ++ es') = closings es ++ closings es' :=
  List.filterMap_append ..

@[simp] theorem news_append (es es' : List Effect) : news (es ++ es') = news es ++ news es' := List.filter_append ..

@[simp] theorem armings_append (es es' : List Effect) : armings (es ++ es') = armings es + armings es' :=
  List.countP_append ..

@[simp] theorem disarmings_append (es es' : List Effect) :
    disarmings (es ++ es') = disarmings es + disarmings es' := List.countP_append ..

theorem quiet_iff : Quiet es ↔ ∀ e ∈ es, e.isMark = false := by simp [Quiet]

@[simp] theorem quiet_nil : Quiet [] := rfl

@[simp] theorem quiet_append : Quiet (es ++ es') ↔ Quiet es ∧ Quiet es' := by
  rw [Quiet, List.filter_append, List.append_eq_nil_iff]
  rfl

@[simp] theorem quiet_cons {e : Effect} : Quiet (e :: es) ↔ e.isMark = false ∧ Quiet es := by
  simp only [quiet_iff, List.forall_mem_cons]

theorem Quiet.news (h : Quiet es) : news es = [] :=
  List.filter_eq_nil_iff.2 fun e he => by
    have := quiet_iff.1 h e he
    simp only [isMark, Bool.or_eq_false_iff] at this
    simp [this]

theorem Quiet.armings (h : Quiet es) : armings es = 0 :=
  List.countP_eq_zero.2 fun e he => by
    have := quiet_iff.1 h e he
    simp only [isMark, Bool.or_eq_false_iff] at this
    simp [this]

theorem Quiet.disarmings (h : Quiet es) : disarmings es = 0 :=
  List.countP_eq_zero.2 fun e he => by
    have := quiet_iff.1 h e he
    simp only [isMark, Bool.or_eq_false_iff] at this
    simp [this]

theorem announcements_news (es : List Effect) : announcements (news es) = announcements es := by
  simp only [announcements, news, List.filter_filter]
  congr 1
  funext e
  cases h : e.isAnnouncement <;> simp [isNews, h]

theorem fatals_news (es : List Effect) : fatals (news es) = fatals es := by
  rw [fatals, news, List.filterMap_filter, fatals]
  congr 1
  funext e
  cases e with
  | failed x => rfl
  | _ => exact ite_self _

theorem releases_news (es : List Effect) : releases (news es) = releases es := by
  rw [releases, news, List.filterMap_filter, releases]
  congr 1
  funext e
  cases e with
  | released addr => rfl
  | _ => exact ite_self _

theorem closings_news (es : List Effect) : closings (news es) = closings es := by
  rw [closings, news, List.filterMap_filter, closings]
  congr 1
  funext e
  cases e with
  | closed name serial => rfl
  | _ => exact ite_self _

theorem announcements_of_news (h : news es = []) : announcements es = [] := by
  rw [← announcements_news, h]
  rfl

theorem releases_of_news (h : news es = []) : releases es = [] := by
  rw [← releases_news, h]
  rfl

theorem closings_of_news (h : news es = []) : closings es = [] := by
  rw [← closings_news, h]
  rfl

theorem Quiet.announcements (h : Quiet es) : announcements es = [] := announcements_of_news h.news

theorem Quiet.fatals (h : Quiet es) : fatals es = [] := by
  rw [← fatals_news, h.news]
  rfl

theorem isMark_of_area {e : Effect} {a : Log.Area} (h : e.area? = some a) (hh : a ≠ .host) (hr : a ≠ .reloader) :
    e.isMark = false := by
  cases e with
  | logged s ev =>
    cases h
    simp [isMark, isNews, isAnnouncement, isFailure, isRelease, isClosing, isArming, isDisarming, hh, hr]
  | _ => cases h

@[simp] theorem isMark_logged (sink : Log.Sink) (l : Log.Level) (a : Log.Area) (m : String)
    (fs : List (String × Log.Value)) (hh : a ≠ .host) (hr : a ≠ .reloader) :
    isMark (.logged sink ⟨l, a, m, fs⟩) = false := isMark_of_area rfl hh hr

end Effect

/-! ## Where events go -/

namespace Effect

/-- Whether an effect is no event, or one that went to the sink. -/
def isFor (sink : Log.Sink) : Effect → Bool
  | logged s _ => s = sink
  | _ => true

def To (sink : Log.Sink) (es : List Effect) : Prop := es.all (isFor sink) = true

variable {sink : Log.Sink} {es es' : List Effect}

@[simp] theorem isFor_logged (s : Log.Sink) (e : Log.Event) : (logged s e).isFor sink = decide (s = sink) := rfl

theorem to_iff : To sink es ↔ ∀ e ∈ es, e.isFor sink = true := List.all_eq_true

@[simp] theorem to_nil : To sink [] := rfl

@[simp] theorem to_cons {e : Effect} : To sink (e :: es) ↔ e.isFor sink = true ∧ To sink es := by
  simp only [to_iff, List.forall_mem_cons]

@[simp] theorem to_append : To sink (es ++ es') ↔ To sink es ∧ To sink es' := by
  simp only [to_iff, List.forall_mem_append]

/-- No effect is a mark, and every event went to the sink. -/
structure Plain (sink : Log.Sink) (es : List Effect) : Prop where
  quiet : Quiet es
  told : To sink es

theorem plain_iff : Plain sink es ↔ ∀ e ∈ es, e.isMark = false ∧ e.isFor sink = true := by
  constructor
  · rintro ⟨hquiet, hto⟩ e he
    exact ⟨quiet_iff.1 hquiet e he, to_iff.1 hto e he⟩
  · intro h
    exact ⟨quiet_iff.2 fun e he => (h e he).1, to_iff.2 fun e he => (h e he).2⟩

@[simp] theorem plain_nil : Plain sink [] := ⟨quiet_nil, to_nil⟩

@[simp] theorem plain_cons {e : Effect} :
    Plain sink (e :: es) ↔ (e.isMark = false ∧ e.isFor sink = true) ∧ Plain sink es := by
  simp only [plain_iff, List.forall_mem_cons]

@[simp] theorem plain_append : Plain sink (es ++ es') ↔ Plain sink es ∧ Plain sink es' := by
  simp only [plain_iff, List.forall_mem_append]

def isLog (sink : Log.Sink) : Effect → Bool
  | logged s _ => s = sink
  | _ => false

def Logs (sink : Log.Sink) (es : List Effect) : Prop := es.all (isLog sink) = true

@[simp] theorem isLog_logged (s : Log.Sink) (e : Log.Event) : (logged s e).isLog sink = decide (s = sink) := rfl

theorem logs_iff : Logs sink es ↔ ∀ e ∈ es, e.isLog sink = true := List.all_eq_true

@[simp] theorem logs_nil : Logs sink [] := rfl

@[simp] theorem logs_cons {e : Effect} : Logs sink (e :: es) ↔ e.isLog sink = true ∧ Logs sink es := by
  simp only [logs_iff, List.forall_mem_cons]

@[simp] theorem logs_append : Logs sink (es ++ es') ↔ Logs sink es ∧ Logs sink es' := by
  simp only [logs_iff, List.forall_mem_append]

theorem Logs.all {p : Effect → Bool} (h : Logs sink es) (hp : ∀ e, p (logged sink e) = true) : es.all p = true := by
  refine List.all_eq_true.2 fun e he => ?_
  have hlog := logs_iff.1 h e he
  cases e with
  | logged s event =>
    have hs : s = sink := of_decide_eq_true hlog
    rw [hs]
    exact hp event
  | _ => cases hlog

/-- There is nothing but events for the sink, and none of them is a mark. -/
structure Remarks (sink : Log.Sink) (es : List Effect) : Prop where
  quiet : Quiet es
  logs : Logs sink es

theorem remarks_iff : Remarks sink es ↔ ∀ e ∈ es, e.isMark = false ∧ e.isLog sink = true := by
  constructor
  · rintro ⟨hquiet, hlogs⟩ e he
    exact ⟨quiet_iff.1 hquiet e he, logs_iff.1 hlogs e he⟩
  · intro h
    exact ⟨quiet_iff.2 fun e he => (h e he).1, logs_iff.2 fun e he => (h e he).2⟩

@[simp] theorem remarks_nil : Remarks sink [] := ⟨quiet_nil, logs_nil⟩

@[simp] theorem remarks_cons {e : Effect} :
    Remarks sink (e :: es) ↔ (e.isMark = false ∧ e.isLog sink = true) ∧ Remarks sink es := by
  simp only [remarks_iff, List.forall_mem_cons]

@[simp] theorem remarks_append : Remarks sink (es ++ es') ↔ Remarks sink es ∧ Remarks sink es' := by
  simp only [remarks_iff, List.forall_mem_append]

theorem Remarks.told (h : Remarks sink es) : To sink es := h.logs.all fun _ => decide_eq_true rfl

theorem Remarks.plain (h : Remarks sink es) : Plain sink es := ⟨h.quiet, h.told⟩

end Effect

/-! ## Keypairs -/

namespace Tls

variable {keys : KeyProvider} {fs : Files} {sink : Log.Sink}

namespace Reloader

theorem arm_tells {cert key : String} {interval now : Nat} {ran : Run Reloader}
    (hr : arm keys fs cert key interval now sink = .ok ran) :
    ran.value.isClosed = false ∧
      ∃ fields, ran.effects = [.logged sink ⟨.info, .reloader, "Keypair reloader armed", fields⟩] := by
  obtain ⟨hi, stamps, pair, -, rfl⟩ := arm_ok hr
  exact ⟨rfl, _, rfl⟩

theorem close_disarms {r : Reloader} (sinks : ReloaderSinks) (ho : r.isClosed = false) :
    Effect.news (r.close sinks).effects = [] ∧ Effect.armings (r.close sinks).effects = 0 ∧
      Effect.disarmings (r.close sinks).effects = 1 := by
  cases hp : r.poller? with
  | none => simp [isClosed, hp] at ho
  | some line =>
    have he : (r.close sinks).effects =
        [pollerEnd sinks line,
          .logged sinks.own ⟨.info, .reloader, "Keypair reloader closed", [("cert", .bare r.certPath)]⟩] := by
      simp only [close, hp]
    rw [he, pollerEnd]
    split <;> exact ⟨rfl, rfl, rfl⟩

theorem reload_remarks {r : Reloader} {now : Nat} {ran : Run Reloader} (hr : r.reload keys fs now sink = .ok ran) :
    Effect.Remarks sink ran.effects := by
  obtain ⟨pair, stamps, -, rfl⟩ := reload_ok hr
  exact Effect.remarks_cons.2 ⟨⟨rfl, decide_eq_true rfl⟩, Effect.remarks_nil⟩

theorem poll_remarks (keys : KeyProvider) (r : Reloader) (fs : Files) (now : Nat) (sink : Log.Sink) :
    Effect.Remarks sink (r.poll keys fs now sink).effects := by
  rcases poll_cases keys r fs now sink with hp | ⟨e, hp⟩ | ⟨pair, stamps, -, hp⟩
  · rw [hp]
    exact Effect.remarks_nil
  · rw [hp]
    exact Effect.remarks_cons.2 ⟨⟨rfl, decide_eq_true rfl⟩, Effect.remarks_nil⟩
  · rw [hp]
    exact Effect.remarks_cons.2 ⟨⟨rfl, decide_eq_true rfl⟩, Effect.remarks_nil⟩

end Reloader

theorem Roots.load_remarks {path : String} {ran : Run Roots} (hr : load fs path sink = .ok ran) :
    Effect.Remarks sink ran.effects := by
  unfold load at hr
  cases hl : loadCertificates fs path with
  | error e => simp [hl, bind, Except.bind] at hr
  | ok all =>
    simp only [hl, bind, Except.bind] at hr
    split at hr
    · cases hr
    · cases hr
      split <;> simp [Run.bind, pure, Run.pure]

theorem Serving.make_remarks {ca? : Option String} {clientAuth : Bool} {ran : Run Serving}
    (hr : make fs ca? clientAuth sink = .ok ran) : Effect.Remarks sink ran.effects := by
  unfold make at hr
  cases ca? with
  | none =>
    simp only at hr
    split at hr
    · cases hr
    · cases hr
      exact Effect.remarks_nil
  | some path =>
    cases hl : Roots.load fs path sink with
    | error e => simp [hl, bind, Except.bind] at hr
    | ok roots =>
      simp only [hl, bind, Except.bind, pure, Except.pure, Except.ok.injEq] at hr
      subst hr
      simpa [Run.bind, Run.pure] using Roots.load_remarks hl

end Tls

/-! ## The profiler, the pipeline and the publisher -/

theorem Http.Profiler.start_remarks {fs : Files} {directory process : String} {rate : Decimal.Binary64} {sink : Log.Sink}
    {ran : Run Profiler} (hr : start fs directory process rate sink = .ok ran) : Effect.Remarks sink ran.effects := by
  unfold start at hr
  cases hm : fs.makeDirectory directory with
  | error e =>
    rw [hm] at hr
    cases hr
  | ok fs' =>
    have hmade : (Except.ok fs' : Except IoError Files).mapError (fun e => ProfilerError.mk directory e) = .ok fs' := rfl
    simp only [hm, hmade, bind, Except.bind] at hr
    split at hr
    · cases hr
    · cases hr
      simp [Run.bind, pure, Run.pure]

theorem Publisher.publish_plain (p : Publisher) (now : Int) (sink : Log.Sink) (what : Metrics.Publication) :
    Effect.Plain sink (p.publish now sink what).effects := by
  cases p with
  | embedder => exact Effect.plain_cons.2 ⟨⟨rfl, rfl⟩, Effect.plain_nil⟩
  | gauges =>
    refine Effect.plain_cons.2 ⟨⟨rfl, rfl⟩, ?_⟩
    cases what with
    | heartbeat service uptime => exact Effect.plain_nil
    | certExpiry info role =>
      simp only [Metrics.Publication.warning?]
      split
      · simp
      · exact Effect.plain_nil

/-! ## The scheduler -/

namespace Schedule.Scheduler

variable {Job : Type} {sink : Log.Sink}

theorem add_remarks {s : Scheduler Job} {t : Task Job} {now : Nat} {ran : Run (Scheduler Job)}
    (hr : s.add t now ⟨sink, sink⟩ = .ok ran) : Effect.Remarks sink ran.effects := by
  unfold add at hr
  split at hr
  · split at hr <;> cases hr
    · exact Effect.remarks_nil
    · exact Effect.remarks_nil
    · simp
  · cases hr

theorem start_remarks (s : Scheduler Job) (now : Nat) (sink : Log.Sink) :
    Effect.Remarks sink (s.start now ⟨sink, sink⟩).effects := by
  unfold start
  split
  · simp only [Run.effects_bind, Run.effects_tellAll, Run.effects_log, Run.effects_pure, List.append_nil]
    refine Effect.remarks_append.2 ⟨Effect.remarks_iff.2 ?_, by simp⟩
    intro e he
    obtain ⟨t, -, rfl⟩ := List.mem_map.1 he
    exact ⟨rfl, decide_eq_true rfl⟩
  · exact Effect.remarks_nil

theorem endEvent_remarks (e : Entry Job) (sink : Log.Sink) :
    (endEvent ⟨sink, sink⟩ e).isMark = false ∧ (endEvent ⟨sink, sink⟩ e).isLog sink = true := by
  unfold endEvent
  split <;> exact ⟨rfl, decide_eq_true rfl⟩

theorem stop_remarks (s : Scheduler Job) (now : Nat) (sink : Log.Sink) :
    Effect.Remarks sink (s.stop now ⟨sink, sink⟩).effects := by
  unfold stop
  split
  · exact Effect.remarks_nil
  · simp only [Run.effects_bind, Run.effects_tellAll, Run.effects_log, Run.effects_pure, List.append_nil]
    refine Effect.remarks_append.2 ⟨Effect.remarks_iff.2 ?_, by simp⟩
    intro e he
    obtain ⟨t, -, rfl⟩ := List.mem_map.1 he
    exact endEvent_remarks t sink

end Schedule.Scheduler

/-! ## The host's own work -/

namespace Host

/-- The form in which an audit event comes out. -/
def Settings.announcement (s : Settings) (e : AuditEvent) : Effect :=
  if s.auditor then .audited e else .logged .injected ⟨.info, .host, e.text, []⟩

theorem effects_audit (h : Host) (e : AuditEvent) : (h.audit e).effects = [h.settings.announcement e] := by
  unfold audit Settings.announcement
  split <;> rfl

theorem audit_marks (h : Host) (e : AuditEvent) :
    Effect.news (h.audit e).effects = [h.settings.announcement e] ∧ Effect.armings (h.audit e).effects = 0 ∧
      Effect.disarmings (h.audit e).effects = 0 := by
  rw [effects_audit, Settings.announcement]
  split <;> exact ⟨rfl, rfl, rfl⟩

theorem value_addService (h : Host) (s : Service) :
    (h.addService s).value = { h with registry := h.registry.put s } := by
  unfold addService
  simp only [Run.value_bind, Registry.add]
  split <;> split <;> rfl

theorem addService_quiet (h : Host) (s : Service) : Effect.Quiet (h.addService s).effects := by
  unfold addService
  simp only [Run.effects_bind, Registry.add, Effect.quiet_append]
  refine ⟨?_, ?_⟩
  · split
    · exact Effect.quiet_cons.2 ⟨rfl, Effect.quiet_nil⟩
    · exact Effect.quiet_nil
  · split <;> split <;>
      simp [Effect.isMark, Effect.isNews, Effect.isAnnouncement, Effect.isFailure, Effect.isRelease, Effect.isClosing,
        Effect.isArming, Effect.isDisarming]

theorem publishPair_plain (publisher : Publisher) (env : Surroundings) (now : Nat) (r : Tls.Reloader) :
    Effect.Plain .injected (publishPair publisher env now r).effects := by
  unfold publishPair
  split
  · exact Publisher.publish_plain ..
  · simp

theorem publishExpiry_plain (publisher : Publisher) (env : Surroundings) (now : Nat) (r : Tls.Reloader) :
    Effect.Plain .injected (publishExpiry publisher env now r).effects := by
  simp only [publishExpiry, Run.effects_bind, Run.effects_pure, List.append_nil, Effect.plain_append]
  refine ⟨?_, publishPair_plain ..⟩
  unfold reread
  cases hr : r.reload env.keys env.files now .injected with
  | error e => exact Effect.plain_cons.2 ⟨⟨rfl, rfl⟩, Effect.plain_nil⟩
  | ok ran => exact (Tls.Reloader.reload_remarks hr).plain

theorem publishFirst_plain (publisher : Publisher) (env : Surroundings) (r? : Option Tls.Reloader) :
    Effect.Plain .injected (publishFirst publisher env r?).effects := by
  cases r? with
  | none => exact Effect.plain_nil
  | some r =>
    simp only [publishFirst, Run.effects_map]
    exact publishExpiry_plain ..

theorem addDuty_remarks (s : Schedule.Scheduler Duty) (t : Schedule.Task Duty) (now : Nat) (complaint : String) :
    Effect.Remarks .injected (addDuty s t now complaint).effects := by
  unfold addDuty
  cases hr : s.add t now sinks with
  | error e => exact Effect.remarks_cons.2 ⟨⟨rfl, rfl⟩, Effect.remarks_nil⟩
  | ok ran => exact Schedule.Scheduler.add_remarks hr

theorem startTasks_remarks (h : Host) (tls? : Option PreparedTls) (now : Nat) :
    Effect.Remarks .injected (h.startTasks tls? now).effects := by
  simp only [startTasks, Run.effects_bind, Effect.remarks_append]
  refine ⟨?_, ?_, Schedule.Scheduler.start_remarks _ _ .injected⟩
  · unfold addExpiry
    split
    · exact addDuty_remarks ..
    · exact Effect.remarks_nil
  · unfold addHeartbeat
    split
    · exact addDuty_remarks ..
    · exact Effect.remarks_nil

/-- What closing a service does: it is asked to close, and a failure is logged. -/
def closing (s : Service) : List Effect :=
  [.logged .injected ⟨.debug, .shutdown, "Closing service", [("service", .text s.name)]⟩, .closed s.name s.serial] ++
    (s.closeError?.map fun e => Effect.logged .injected
      ⟨.error, .shutdown, "Service close failed", [("service", .text s.name), ("error", .bare e.message)]⟩).toList

theorem effects_closeService (s : Service) : (closeService s).effects = closing s := by
  cases h : s.closeError? <;> simp [closeService, closing, h]

theorem effects_closeServices (ss : List Service) : (closeServices ss).effects = ss.flatMap closing := by
  induction ss with
  | nil => rfl
  | cons s ss ih => simp only [closeServices, Run.effects_bind, effects_closeService, ih, List.flatMap_cons]

theorem news_closing (ss : List Service) :
    Effect.news (ss.flatMap closing) = ss.map fun s => .closed s.name s.serial := by
  induction ss with
  | nil => rfl
  | cons s ss ih =>
    rw [List.flatMap_cons, Effect.news_append, ih, closing]
    cases s.closeError? <;> rfl

end Host

end ServiceHost
