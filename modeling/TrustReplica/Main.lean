import TrustReplica.Settings.Startup
import TrustReplica.Stream.Frame
import TrustReplica.Store.Replica

/-! The command line program. It puts the settings together, then applies the messages of its standard
    input to a replica, one outcome a line, and tells at the end what the replica holds. -/

namespace TrustReplica.Program

/-- How the program is used. -/
def usage : String :=
  "usage: trust-replica [--config FILE] [--upstream URL] [--port PORT] [--no-server]"

/-- The version of the program. -/
def version : String := "trust-replica 0.1.0"

/-- What is told of a command line that cannot be acted on, and the status to end with. -/
def tellUsage : UsageError → String × UInt32
  | .helpAsked => (usage, 0)
  | .versionAsked => (version, 0)
  | .unknownArgument => ("unexpected argument\n" ++ usage, 2)
  | .missingValue => ("a value is missing\n" ++ usage, 2)
  | .badValue => ("invalid number to listen on\n" ++ usage, 2)
  | .repeated => ("an option was given twice\n" ++ usage, 2)
  | .surplusValue => ("a flag takes no value\n" ++ usage, 2)

/-- What is told of settings that are not accepted. -/
def tellSettings : SettingsError → String
  | .unreadable => "failed to read settings file"
  | .json _ => "failed to parse settings JSON"
  | .invalid e => e.message

/-- What is told of a start that failed. -/
def tellStartup : StartupError → String
  | .load e => "failed to load settings: " ++ tellSettings e
  | .validate e => "invalid settings: " ++ tellSettings e

/-- Looks for a settings file. -/
def readSettingsFile (path : String) : IO FileContent := do
  try
    let bytes ← IO.FS.readBinFile path
    match Text.ofBytes? bytes.data.toList with
    | some s => return .text s
    | none => return .unreadable
  catch
    | .noFileOrDirectory .. => return .missing
    | _ => return .unreadable

/-- The variables of the environment that count, as they are now. -/
def readEnvironment : IO (String → Option String) := do
  let pairs ← Override.all.mapM fun o => do return (o.name, ← IO.getEnv o.name)
  return fun name => (pairs.find? fun p => p.1 == name).bind Prod.snd

/-- Applies the messages of one frame and tells their outcomes. -/
def applyFrame (r : Replica) (frame : String) : Replica × List String :=
  (frameMessages frame).foldl
    (fun acc message =>
      let (outcome, r) := acc.1.receive message
      (r, acc.2 ++ [outcome.label]))
    (r, [])

/-- Applies the lines of the input up to its end. -/
partial def followInput (input : IO.FS.Stream) (r : Replica) : IO Replica := do
  let line ← input.getLine
  if line.isEmpty then return r
  let (r, outcomes) := applyFrame r line
  for outcome in outcomes do
    IO.println outcome
  followInput input r

/-- Runs the program with settings that are valid. -/
def run (s : Settings) : IO UInt32 := do
  let r ← followInput (← IO.getStdin) (Replica.empty s.logCapacity.toNat)
  IO.println r.describe
  return 0

end TrustReplica.Program

open TrustReplica in
/-- Reads the command line and the settings, and runs the program. -/
def main (arguments : List String) : IO UInt32 := do
  match CommandLine.parse arguments with
  | .error e =>
    let (text, status) := Program.tellUsage e
    IO.println text
    return status
  | .ok commandLine =>
    let path := commandLine.settingsFile.getD (Settings.defaultPath (← IO.getEnv "HOME"))
    let file ← Program.readSettingsFile path
    let environment ← Program.readEnvironment
    match Settings.ofLayers file environment commandLine with
    | .error e =>
      IO.eprintln (Program.tellStartup e)
      return 1
    | .ok s => Program.run s
