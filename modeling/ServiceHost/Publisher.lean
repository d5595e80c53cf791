/-
  ServiceHost.Publisher — where the publications of background tasks go: to the gauges of
  the metrics recorder, or to the embedder.
-/

import ServiceHost.Effect

namespace ServiceHost

inductive Publisher where
  /-- Sets gauges, and warns of certificates that expire soon. -/
  | gauges
  /-- Hands every publication to the embedder. -/
  | embedder
  deriving DecidableEq, Repr

namespace Publisher

/-- Publishes at time `now`, in nanoseconds from the epoch. -/
def publish (p : Publisher) (now : Int) (sink : Log.Sink) (what : Metrics.Publication) : Run Unit :=
  match p with
  | .gauges =>
    Run.tellAll (.measured (what.metric now) :: ((what.warning? now).map (Effect.logged sink)).toList)
  | .embedder => Run.tell (.published what)

end Publisher

end ServiceHost
