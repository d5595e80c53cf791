/-
  ServiceHost.Main — the command: it starts a host as the arguments and the settings say,
  keeps it until standard input ends, and stops it. The log goes to standard output.

  It opens no sockets. The host runs on a network where every IPv4 address is free.
-/

import ServiceHost.Session
import Std.Time.DateTime.Timestamp

namespace ServiceHost.Command

open ServiceHost

def found (path : String) : IO Files := do
  try
    let bytes ← IO.FS.readBinFile path
    return { stored := [(path, ⟨bytes.toList, 0⟩)] }
  catch
    | .inappropriateType .. => return { directories := [path] }
    | _ => return {}

def together (a b : Files) : Files := ⟨a.stored ++ b.stored, a.directories ++ b.directories⟩

/-- The files that a run may read: the settings, and what they name. -/
def filesFor (o : CommandLine.Options) : IO Files := do
  let settings ← match o.config? with
    | some path => found path
    | none => pure {}
  match Session.settingsFor o settings with
  | .ok { tls := some tls, .. } =>
    ([tls.certFile, tls.keyFile] ++ tls.trustedCaFile.toList).foldlM (fun fs path => do return together fs (← found path))
      settings
  | _ => return settings

def machine : IO Net.Bind.Machine := do
  let file := "/etc/hostname"
  let text := (← found file).readText file
  return { inEnvironment? := ← IO.getEnv "HOSTNAME", inFile? := text.toOption }

def world (o : CommandLine.Options) : IO World := do
  let epoch := (← Std.Time.Timestamp.now).toNanosecondsSinceUnixEpoch.val
  let contextId := Text.hexOctets (← IO.getRandomBytes 16).toList
  return { files := ← filesFor o, network := { freePort := 49152 }, now := 0, epoch, process := toString epoch
           machine := ← machine, filter? := ← IO.getEnv "RUST_LOG", contextId }

/-- Reads standard input up to its end. -/
partial def waitForEnd (input : IO.FS.Stream) : IO Unit := do
  if (← input.read 4096).isEmpty then return
  waitForEnd input

def report (lines : List String) : IO Unit := do
  lines.forM IO.println
  (← IO.getStdout).flush

def run (o : CommandLine.Options) : IO UInt32 := do
  let w ← world o
  let begun ← IO.monoMsNow
  match Session.start o w with
  | .error out =>
    report out.lines
    IO.eprint out.complaint
    return out.code.toUInt32
  | .ok s =>
    report s.lines
    let ending ← match s.fatal? with
      | some e => pure (.fatal e)
      | none =>
        waitForEnd (← IO.getStdin)
        pure (.signal "SIGTERM")
    let out := s.finish { w with now := (← IO.monoMsNow) - begun } ending
    report (out.lines.drop s.lines.length)
    return out.code.toUInt32

end ServiceHost.Command

def main (args : List String) : IO UInt32 := do
  match ServiceHost.CommandLine.parse {} args with
  | .run o => ServiceHost.Command.run o
  | .help =>
    IO.println ServiceHost.CommandLine.helpText
    return 0
  | .version =>
    IO.println ServiceHost.CommandLine.versionText
    return 0
  | .usage =>
    IO.eprintln ServiceHost.CommandLine.usageText
    return 2
