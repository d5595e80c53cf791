/-
  ServiceHost.Http.Profiler — the sampling request profiler: where its records go and
  which requests it takes.

  The profile of a process is one file in the profiler's directory, named for the
  process, with a record a line.
-/

import ServiceHost.Effect

namespace ServiceHost.Http

structure Profiler where
  path : String
  /-- The fraction of requests to take. -/
  rate : Decimal.Binary64
  deriving DecidableEq, Repr

structure ProfilerError where
  directory : String
  cause : IoError
  deriving DecidableEq, Repr

def ProfilerError.message (e : ProfilerError) : String :=
  "Profiler directory '" ++ e.directory ++ "' unavailable: " ++ e.cause.message

/-- What becomes of the record of a request that is taken. -/
inductive RecordFate where
  /-- It goes to the writer. -/
  | sent
  /-- It has no text. -/
  | unencodable (error : String)
  /-- The writer is gone. -/
  | unheard
  deriving DecidableEq, Repr

/-- What is measured of a request: when it was answered and how long that took, the sampler's draw, the record's fate. -/
structure Measurement where
  date : String
  elapsedNanos : Nat
  draw : Decimal.Binary64
  fate : RecordFate := .sent

namespace Profiler

def profilePath (directory process : String) : String :=
  Files.within directory ("requests-" ++ process ++ ".jsonl")

/-- A profiler that writes into a directory, which is made if it is not there. -/
def start (fs : Files) (directory process : String) (rate : Decimal.Binary64) (sink : Log.Sink) :
    Except ProfilerError (Run Profiler) := do
  let fs ← (fs.makeDirectory directory).mapError fun e => ⟨directory, e⟩
  let path := profilePath directory process
  if fs.directories.contains path then throw ⟨directory, .isADirectory⟩
  return do
    Run.log sink .info .profiler "Request profiler enabled" [("path", .bare path), ("sample_rate", .real rate)]
    return ⟨path, rate⟩

/-- Whether a request is taken: always at a rate of one, else if its draw falls below the rate. -/
def samples (p : Profiler) (draw : Decimal.Binary64) : Bool :=
  Decimal.Binary64.le .one p.rate || Decimal.Binary64.lt draw p.rate

/-- Hands a record to the writer; one that cannot be handed over is left out, with a warning. -/
def keep (p : Profiler) (fate : RecordFate) (record : ProfileRecord) (sink : Log.Sink) : Run Unit :=
  match fate with
  | .sent => Run.tell (.profiled record)
  | .unencodable error => Run.log sink .warn .profiler "Unable to encode profile record" [("error", .bare error)]
  | .unheard => Run.log sink .warn .profiler "Profile writer gone, record dropped" [("path", .bare p.path)]

end Profiler

end ServiceHost.Http
