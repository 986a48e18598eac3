import TrustReplica.Settings.Basic

/-! The command line. Three options take a value, either attached to them with an equals sign or as the
    next argument; one flag takes none. An option whose value was given as the next argument is settled
    only when the next known option or the end is reached, so that an unknown argument is reported
    before it. -/

namespace TrustReplica

/-- What a command line asks for. -/
structure CommandLine where
  settingsFile : Option String
  baseUrl : Option String
  portNumber : Option UInt16
  noServer : Bool
deriving DecidableEq, Repr

/-- Why there is no command line to act on. -/
inductive UsageError where
  | helpAsked
  | versionAsked
  | unknownArgument
  | missingValue
  | badValue
  | repeated
  | surplusValue
deriving DecidableEq, Repr

/-- The options that take a value. -/
inductive ValueOption where
  | settingsFile
  | baseUrl
  | portNumber
deriving DecidableEq, Repr

/-- What an argument with two dashes may name. -/
inductive LongOption where
  | taking (option : ValueOption)
  | noServer
  | help
  | version
deriving DecidableEq, Repr

/-- The option of a name. -/
def LongOption.ofName? : String → Option LongOption
  | "config" => some (taking .settingsFile)
  | "upstream" => some (taking .baseUrl)
  | "port" => some (taking .portNumber)
  | "no-server" => some noServer
  | "help" => some help
  | "version" => some version
  | _ => none

/-- An argument by its form; a single dash alone is a plain one. -/
inductive Argument where
  | divider
  | long (name : String) (value : Option String)
  | short (first : Char)
  | plain (text : String)
deriving DecidableEq, Repr

/-- The form of an argument. -/
def Argument.ofText (s : String) : Argument :=
  match s.toList with
  | ['-', '-'] => divider
  | '-' :: '-' :: rest =>
    let (name, value) := Text.cutAt '=' rest
    long (String.ofList name) (value.map String.ofList)
  | '-' :: c :: _ => short c
  | _ => plain s

namespace CommandLine

/-- The command line that asks for nothing. -/
def empty : CommandLine := ⟨none, none, none, false⟩

/-- Reads the number to listen on: an optional sign and digits. -/
def portNumber? (s : String) : Option UInt16 := do
  let n ← Decimal.parseSigned? s
  if 0 ≤ n ∧ n ≤ 65535 then some (UInt16.ofNat n.toNat) else none

/-- Gives an option its value; it may have one only once. -/
def set (c : CommandLine) (option : ValueOption) (value : String) : Except UsageError CommandLine :=
  match option with
  | .settingsFile =>
    if c.settingsFile.isSome then .error .repeated
    else if value.isEmpty then .error .missingValue
    else .ok { c with settingsFile := some value }
  | .baseUrl => if c.baseUrl.isSome then .error .repeated else .ok { c with baseUrl := some value }
  | .portNumber =>
    if c.portNumber.isSome then .error .repeated
    else
      match portNumber? value with
      | some n => .ok { c with portNumber := some n }
      | none => .error .badValue

/-- How far a command line has been read. -/
structure Progress where
  settled : CommandLine
  /-- The last option, with its value if that was the next argument. -/
  pending : Option (ValueOption × Option String)
  /-- Whether a divider was passed; behind it everything is plain. -/
  divided : Bool

namespace Progress

/-- The options settled when nothing is pending any more. -/
def settle (p : Progress) : Except UsageError CommandLine :=
  match p.pending with
  | none => .ok p.settled
  | some (_, none) => .error .missingValue
  | some (option, some value) => p.settled.set option value

/-- Takes one argument with two dashes. -/
def takeLong (p : Progress) (name : String) (value : Option String) : Except UsageError Progress :=
  match LongOption.ofName? name with
  | none => .error .unknownArgument
  | some (.taking option) => do
    let settled ← p.settle
    match value with
    | some value => return { p with settled := ← settled.set option value, pending := none }
    | none => return { p with settled, pending := some (option, none) }
  | some flag =>
    if value.isSome then .error .surplusValue
    else do
      let settled ← p.settle
      match flag with
      | .help => throw .helpAsked
      | .version => throw .versionAsked
      | _ =>
        if settled.noServer then throw .repeated
        else return { p with settled := { settled with noServer := true }, pending := none }

/-- Takes an argument with one dash. -/
def takeShort (p : Progress) (first : Char) : Except UsageError Progress :=
  if first = 'h' then p.takeLong "help" none
  else if first = 'V' then p.takeLong "version" none
  else .error .unknownArgument

/-- Takes a plain argument, which can only be the value of a pending option. -/
def takePlain (p : Progress) (text : String) : Except UsageError Progress :=
  match p.pending with
  | some (option, none) => .ok { p with pending := some (option, some text) }
  | _ => .error .unknownArgument

/-- Takes one argument. -/
def take (p : Progress) (argument : String) : Except UsageError Progress :=
  if p.divided then .error .unknownArgument
  else
    match Argument.ofText argument with
    | .divider => .ok { p with divided := true }
    | .long name value => p.takeLong name value
    | .short first => p.takeShort first
    | .plain text => p.takePlain text

end Progress

/-- Reads a command line; the first problem from the left is reported. -/
def parse (arguments : List String) : Except UsageError CommandLine := do
  let p ← arguments.foldlM Progress.take ⟨empty, none, false⟩
  p.settle

/-- Settings with what the command line asks for. -/
def apply (c : CommandLine) (s : Settings) : Settings :=
  { s with
    assessor := { s.assessor with baseUrl := c.baseUrl.getD s.assessor.baseUrl }
    server := { s.server with
      portNumber := c.portNumber.getD s.server.portNumber
      enabled := s.server.enabled && !c.noServer } }

end CommandLine

end TrustReplica
