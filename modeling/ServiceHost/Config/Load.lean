/-
  ServiceHost.Config.Load — settings from a text or a file, read and validated.
-/

import ServiceHost.Config.Reading
import ServiceHost.Config.Validation
import ServiceHost.Document.Toml
import ServiceHost.Files

namespace ServiceHost.Config

inductive LoadError where
  | io (e : IoError)
  | syntaxOrType
  | invalid (problems : List Problem)
  deriving Repr

def LoadError.message : LoadError → String
  | io e => "IO error: " ++ e.message
  | syntaxOrType => "Parse error"
  | invalid ps => "Validation failed: " ++ Problem.messages ps

def HostConfig.check (c : HostConfig) : Except (List Problem) HostConfig :=
  if c.problems.isEmpty then .ok c else .error c.problems

def parse (content : String) : Except LoadError HostConfig :=
  match (Document.ofToml? content).bind (HostConfig.ofDocument? .toml) with
  | none => .error .syntaxOrType
  | some c => c.check.mapError .invalid

def load (fs : Files) (path : String) : Except LoadError HostConfig := do
  parse (← (fs.readText path).mapError .io)

end ServiceHost.Config
