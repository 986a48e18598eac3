import TrustReplica.Json.Merge
import TrustReplica.Settings.CommandLine
import TrustReplica.Settings.Environment
import TrustReplica.Settings.Validity
import TrustReplica.Logging

/-! Settings from all their layers: the defaults, a file merged over them, the environment and the command
    line, each over the one before. They are validated after the environment, and again at the end. -/

namespace TrustReplica

/-- What is found in the place of a settings file. -/
inductive FileContent where
  | missing
  /-- There is something, but no text can be read from it. -/
  | unreadable
  | text (s : String)
deriving DecidableEq, Repr

/-- Why the program does not start, by the stage that failed. -/
inductive StartupError where
  | load (error : SettingsError)
  | validate (error : SettingsError)
deriving DecidableEq

namespace Settings

/-- Reads settings from a value, or says that it has another shape. -/
def ofJson (v : Json) : Except SettingsError Settings :=
  match read v with
  | some s => .ok s
  | none => .error (.json .mismatch)

/-- The defaults with a value merged over them. -/
def overDefaults (v : Json) : Except SettingsError Settings := ofJson (Json.mergeOver default.toJson v)

/-- The defaults with a file merged over them; a missing file changes nothing. -/
def ofFile : FileContent → Except SettingsError Settings
  | .missing => ofJson default.toJson
  | .unreadable => .error .unreadable
  | .text s =>
    match Json.parse s with
    | .ok v => overDefaults v
    | .error fault => .error (.json fault)

/-- The settings of a file and the environment, if they are valid. -/
def load (file : FileContent) (lookup : String → Option String) : Except SettingsError Settings := do
  let s ← ofFile file
  (s.withEnvironment lookup).validate

/-- The settings of all layers, if they are valid. -/
def ofLayers (file : FileContent) (lookup : String → Option String) (c : CommandLine) :
    Except StartupError Settings :=
  match load file lookup with
  | .error e => .error (.load e)
  | .ok s =>
    match (c.apply s).validate with
    | .error e => .error (.validate e)
    | .ok s => .ok s

/-- A path behind a directory; one that starts at the root stands alone. -/
def joinPath (directory name : String) : String :=
  if directory.isEmpty || directory.endsWith "/" then directory ++ name else directory ++ "/" ++ name

/-- Where settings are looked for when no file is named; `/tmp` stands in for a missing home. -/
def defaultPath (home : Option String) : String :=
  joinPath (joinPath (home.getD "/tmp") ".tafwatch") "settings.json"

/-- What is to be logged; a level that is none is passed over. -/
def logFilter (s : Settings) : LogFilter where
  level := (LogLevel.ofText? s.logging.level).getD .info
  modules := s.logging.modules.toList.filterMap fun m => (LogLevel.ofText? m.2).map fun l => (m.1, l)
  json := s.logging.json

end Settings

end TrustReplica
