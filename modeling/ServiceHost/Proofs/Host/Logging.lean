/-
  ServiceHost.Proofs.Host.Logging — a host logs to the logger it was given.

  A host is made and operated: it is started and stopped, gets services, is asked for audit
  events, answers requests, and its background lines run. If its services and its
  authorizer log where they are told, everything it logs goes to its own logger, with two
  exceptions (`Host.spilled`). The registry tells whoever is current just then that a
  service was replaced, besides the host itself; and so does the context layer of a
  certificate it cannot read. The logger that is current hears of these and of nothing else
  (`ambient_spills`).

  A part of a start leaves the settings and logs to the host's own logger
  (`Stage.Discreet`), whatever the host has on it. The invariant of the operations is
  `Contained`.
-/

import ServiceHost.Proofs.Host.Order
import ServiceHost.Proofs.Host.Telling
import ServiceHost.Proofs.Log.Sinks

namespace ServiceHost

open Effect (To)

/-! ## The parts of a start -/

namespace Stage

variable {α : Type} {s : Host.Settings} {x : Stage α}

/-- On a host with these settings the part leaves them, and logs to the host's own logger. -/
def Discreet (s : Host.Settings) (x : Stage α) : Prop :=
  ∀ h : Host, h.settings = s → To .injected (x.exec h).effects ∧ (x.exec h).value.2.settings = s

theorem Tells.discreet (hx : x.Tells (Effect.isFor .injected) s) : x.Discreet s := hx

end Stage

namespace Host

open Stage

variable {s : Settings} {h : Host}

theorem isFor_injected (e : Log.Event) : Effect.isFor .injected (.logged .injected e) = true := rfl

theorem audit_to (h : Host) (e : AuditEvent) : To .injected (h.audit e).effects :=
  audit_tells isFor_injected (fun _ => rfl) h e

theorem commence_tells (env : Surroundings) (p : Prepared) :
    (liftM (commence env p) : Stage (Option Tls.Reloader)).Tells (Effect.isFor .injected) s := by
  refine tells_lift fun h hs => ?_
  rw [commence_eq]
  exact ⟨Effect.to_append.2 ⟨(publishFirst_plain ..).told, Effect.to_append.2 ⟨(startTasks_remarks ..).told, audit_to ..⟩⟩, hs⟩

theorem launch_discreet (hz : s.authorizer.LogsAsTold) (env : Surroundings) : (launch env).Discreet s := by
  have hbuild (p : Prepared) : (buildPipeline env p).Tells (Effect.isFor .injected) s :=
    buildPipeline_tells isFor_injected fun _ _ hb => Http.Pipeline.build_to hz hb
  have hlisten (p : Prepared) : (listen env p).Tells (Effect.isFor .injected) s :=
    listen_tells isFor_injected (fun _ => rfl) env p
  refine Tells.discreet ?_
  exact (prepare_tells isFor_injected env).bind fun p => (hbuild p).bind fun _ => (hlisten p).bind fun _ =>
    (commence_tells env p).bind fun _ => tells_pure _

/-! ## Starting, stopping and waiting -/

theorem start_to (hz : h.settings.authorizer.LogsAsTold) (env : Surroundings) :
    To .injected (h.start env).effects := by
  obtain ⟨hto, -⟩ := launch_discreet hz env h rfl
  unfold start
  split
  · simpa only [Run.effects_bind, Run.effects_pure, List.append_nil] using hto
  · exact Effect.to_nil

theorem stop_to (h : Host) (env : Surroundings) : To .injected (h.stop env).effects := by
  rw [← stopAmid_none]
  exact stopAmid_tells isFor_injected (fun _ => rfl) (fun _ => rfl) (fun _ _ => rfl) h env fun _ _ => rfl

theorem attend_to (env : Surroundings) (h : Host) (a : Appointment) : To .injected (attend env h a).effects := by
  have hover {f : Tls.Reloader → Run Tls.Reloader} (h : Host) (hf : ∀ r, To .injected (f r).effects) :
      To .injected (h.overReloader f).effects := by
    rcases overReloader_cases h f with heq | ⟨serving, r, -, -, heq⟩
    · rw [heq]
      exact Effect.to_nil
    · rw [heq]
      exact hf r
  unfold attend
  cases a.errand with
  | poll => exact hover h fun r => (Tls.Reloader.poll_remarks ..).told
  | orphanPoll i =>
    simp only [overOrphan]
    split
    · simpa using (Tls.Reloader.poll_remarks ..).told
    · exact Effect.to_nil
  | task t =>
    refine Effect.to_cons.2 ⟨rfl, ?_⟩
    unfold perform
    cases t.job with
    | certExpiry => exact hover h fun r => (publishExpiry_plain ..).told
    | heartbeat => simpa using (Publisher.publish_plain ..).told

theorem advance_to (h : Host) (env : Surroundings) : To .injected (h.advance env).effects := by
  have hall (as : List Appointment) (h : Host) : To .injected (as.foldlM (attend env) h).effects := by
    induction as generalizing h with
    | nil => exact Effect.to_nil
    | cons a as ih =>
      simp only [List.foldlM_cons, Run.effects_bind]
      exact Effect.to_append.2 ⟨attend_to env h a, ih _⟩
  exact hall _ _

/-- Of lines that end because the host is let go its own logger hears. -/
theorem release_to (h : Host) : To .injected h.release.effects := by
  refine Effect.to_iff.2 fun e he => ?_
  obtain ⟨x, -, rfl⟩ := List.mem_map.1 he
  have hlogs : Effect.Logs .injected [Schedule.Scheduler.endEvent sinks x] :=
    Effect.logs_cons.2 ⟨(Schedule.Scheduler.endEvent_remarks x .injected).2, Effect.logs_nil⟩
  exact Effect.to_iff.1 (hlogs.all isFor_injected) _ (.head _)

/-! ## Operations -/

/-- What is done with a host, and what happens to it. -/
inductive Operation where
  | start (env : Surroundings)
  | stop (env : Surroundings)
  | add (service : Service)
  | audit (e : AuditEvent)
  | request (now : Nat) (r : Http.Request) (occasion : Occasion)
  /-- Time passes, up to the present of the surroundings. -/
  | wait (env : Surroundings)

/-- A service that is added logs where it is told. -/
def Operation.LogsAsTold : Operation → Prop
  | add service => service.LogsAsTold
  | _ => True

def operate (h : Host) : Operation → Run Host
  | .start env => (·.1) <$> h.start env
  | .stop env => (·.1) <$> h.stop env
  | .add service => h.addService service
  | .audit e => (fun _ => h) <$> h.audit e
  | .request now r occasion =>
    match h.serve? now r occasion with
    | some ran => (fun _ => h) <$> ran
    | none => pure h
  | .wait env => h.advance env

def operateAll (h : Host) : List Operation → Run Host
  | [] => pure h
  | o :: os => do
    let h ← h.operate o
    h.operateAll os

def lived (s : Settings) (os : List Operation) : Run Host := do
  let h ← create s
  h.operateAll os

/-- What an operation tells the logger that is current just then. -/
def spilled (h : Host) : Operation → List Log.Event
  | .add service => if (h.registry.get? service.name).isSome then [Registry.replacedEvent service.name] else []
  | .request _ r _ =>
    if h.phase.stand = .started ∧ Http.Layers.unreadable Tls.Certificate.read? r = true then
      [Http.Layers.unreadableEvent]
    else []
  | _ => []

def spills (h : Host) : List Operation → List Log.Event
  | [] => []
  | o :: os => h.spilled o ++ (h.operate o).value.spills os

variable (s) in
/-- The services of the host and the pipeline it serves with log where they are told. -/
structure Contained (h : Host) : Prop where
  settings : h.settings = s
  arming : h.arming? = none
  services : ∀ x ∈ h.registry.snapshot, x.LogsAsTold
  pipeline : ∀ p, h.phase.pipeline? = some p → p.LogsAsTold ∧ p.settings.readCertificate = Tls.Certificate.read?

theorem made_contained (s : Settings) : Contained s (made s {}) :=
  ⟨rfl, rfl, List.forall_mem_nil _, fun _ hp => nomatch hp⟩

theorem start_contained (hz : s.authorizer.LogsAsTold) (env : Surroundings) (hc : Contained s h) :
    Contained s (h.start env).value.1 := by
  by_cases hp : h.phase.stand = .new
  · rcases start_cases env (stand_new hp) hc.arming with ⟨e, hf⟩ | ⟨o, hb⟩ | ⟨p, serving, hu⟩
    · rw [hf.value]
      exact hc
    · rw [hb.value]
      exact ⟨hc.settings, hc.arming, hc.services, hc.pipeline⟩
    · obtain ⟨es, hbuild⟩ := hu.pipeline
      obtain ⟨-, hsettings, -⟩ := Http.build_ok hbuild
      have hlogs : serving.pipeline.LogsAsTold :=
        Http.Pipeline.build_logs (hc.settings ▸ hz) (fun x hx => hc.services x (Registry.mem_listed.1 hx)) hbuild
      rw [hu.value]
      refine ⟨hc.settings, hc.arming, hc.services, fun q hq => ?_⟩
      cases hq
      refine ⟨hlogs, ?_⟩
      rw [hsettings]
      rfl
  · rw [← startAmid_none, startAmid_over env noArrivals hp]
    exact hc

theorem stop_contained (env : Surroundings) (hc : Contained s h) : Contained s (h.stop env).value.1 := by
  rw [← stopAmid_none]
  rcases stopAmid_host h env noArrivals with heq | ⟨ss, heq, hss⟩
  · rw [heq]
    exact hc
  · rw [heq, hss rfl]
    exact ⟨hc.settings, hc.arming, hc.services, fun _ hq => nomatch hq⟩

theorem add_contained {service : Service} (hs : service.LogsAsTold) (hc : Contained s h) :
    Contained s (h.addService service).value ∧
      Effect.eventsTo .ambient (h.addService service).effects = h.spilled (.add service) := by
  constructor
  · rw [value_addService]
    refine ⟨hc.settings, hc.arming, fun x hx => ?_, hc.pipeline⟩
    rcases Registry.mem_insert hx with rfl | hx
    · exact hs
    · exact hc.services x hx
  · simp only [addService, spilled, Registry.add, Run.effects_bind]
    split <;> split <;> rfl

theorem request_ambient (now : Nat) (r : Http.Request) (occasion : Occasion) (hc : Contained s h) :
    (h.operate (.request now r occasion)).value = h ∧
      Effect.eventsTo .ambient (h.operate (.request now r occasion)).effects =
        h.spilled (.request now r occasion) := by
  simp only [operate, serve?, spilled]
  cases hp : h.phase with
  | started serving =>
    obtain ⟨hlogs, hread⟩ := hc.pipeline serving.pipeline (by rw [hp]; rfl)
    refine ⟨rfl, ?_⟩
    simp only [Run.effects_map, Http.Pipeline.serve_ambient hlogs, hread, Phase.stand, true_and]
  | _ => exact ⟨rfl, rfl⟩

/-- Every operation keeps a host contained, and the current logger hears no more of it than that. -/
theorem operate_contained (hz : s.authorizer.LogsAsTold) {o : Operation} (ho : o.LogsAsTold) (hc : Contained s h) :
    Contained s (h.operate o).value ∧ Effect.eventsTo .ambient (h.operate o).effects = h.spilled o := by
  cases o with
  | start env =>
    simp only [operate, Run.value_map, Run.effects_map]
    exact ⟨start_contained hz env hc, (start_to (hc.settings ▸ hz) env).ambient⟩
  | stop env =>
    simp only [operate, Run.value_map, Run.effects_map]
    exact ⟨stop_contained env hc, (stop_to h env).ambient⟩
  | add service => exact add_contained ho hc
  | audit e =>
    simp only [operate, Run.value_map, Run.effects_map]
    exact ⟨hc, (audit_to h e).ambient⟩
  | request now r occasion =>
    obtain ⟨hvalue, hambient⟩ := request_ambient now r occasion hc
    refine ⟨?_, hambient⟩
    rw [hvalue]
    exact hc
  | wait env =>
    obtain ⟨hk, -⟩ := advance_kept h env
    have hsteady := advance_steady h env
    refine ⟨⟨hk.settings.trans hc.settings, hk.arming.trans hc.arming, ?_, ?_⟩, (advance_to h env).ambient⟩
    · exact hsteady.registry ▸ hc.services
    · exact hsteady.pipeline ▸ hc.pipeline

theorem operateAll_contained (hz : s.authorizer.LogsAsTold) {os : List Operation} (hos : ∀ o ∈ os, o.LogsAsTold)
    (hc : Contained s h) : Effect.eventsTo .ambient (h.operateAll os).effects = h.spills os := by
  induction os generalizing h with
  | nil => rfl
  | cons o os ih =>
    obtain ⟨ho, hos⟩ := List.forall_mem_cons.1 hos
    obtain ⟨hcontained, hambient⟩ := operate_contained hz ho hc
    simp only [operateAll, spills, Run.effects_bind, Effect.eventsTo_append, hambient, ih hos hcontained]

/--
  The logger that is current while a host is made and operated hears of services that
  replace others, of certificates that cannot be read, and of nothing else the host does.
  Everything else goes to the host's own logger, and so does the end of its lines.
-/
theorem ambient_spills (s : Settings) (hz : s.authorizer.LogsAsTold) (os : List Operation)
    (hos : ∀ o ∈ os, o.LogsAsTold) :
    Effect.eventsTo .ambient (lived s os).effects = (made s {}).spills os ∧
      Effect.eventsTo .ambient (lived s os).value.release.effects = [] := by
  refine ⟨?_, (release_to _).ambient⟩
  simp only [lived, Run.effects_bind, Effect.eventsTo_append]
  exact operateAll_contained hz hos (made_contained s)

/-- A hub that comes up, tells its version, gets the service for that anew and is stopped. -/
def hubTalk : List Operation :=
  [.add (Status.service 0), .start vacant, .request 1 { uri := ⟨Status.versionPath, none⟩ } { freshId := "id-2" },
    .wait vacant, .add (Status.service 1), .stop (vacantAt 2)]

/-- Of all that the current logger hears once. -/
theorem ambient_spills_hub :
    (∀ o ∈ hubTalk, o.LogsAsTold) ∧ (made plainHub {}).spills hubTalk = [Registry.replacedEvent "status"] ∧
      Effect.eventsTo .ambient (lived plainHub hubTalk).effects = [Registry.replacedEvent "status"] := by
  have hlogs : ∀ o ∈ hubTalk, o.LogsAsTold := by
    intro o ho
    simp only [hubTalk, List.mem_cons, List.not_mem_nil, or_false] at ho
    rcases ho with rfl | rfl | rfl | rfl | rfl | rfl <;> first | exact Status.service_logs _ | trivial
  have hspills : (made plainHub {}).spills hubTalk = [Registry.replacedEvent "status"] := by decide +kernel
  refine ⟨hlogs, hspills, ?_⟩
  rw [(ambient_spills plainHub Http.Authorizer.byRules_logs hubTalk hlogs).1, hspills]

/-- A host tells the current logger that a service was replaced. -/
theorem replacement_heard :
    Effect.eventsTo .ambient (lived plainHub [.add (Status.service 0), .add (Status.service 1)]).effects =
      [Registry.replacedEvent "status"] := by decide

end Host

end ServiceHost
