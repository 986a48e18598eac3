import TrustReplica.Decimal.Whole
import TrustReplica.Text.Blank

/-! Levels of logging, and filters that say what is logged, with their text. The first filter of a
    process is installed, any later one is not. -/

namespace TrustReplica

/-- How much is logged, from the least to the most. -/
inductive LogLevel where
  | error
  | warn
  | info
  | debug
  | trace
deriving DecidableEq, Repr

namespace LogLevel

/-- All levels; the number of a level is its position, counted from one. -/
def all : List LogLevel := [error, warn, info, debug, trace]

/-- The name of a level in lower case. -/
def label : LogLevel → String
  | error => "error"
  | warn => "warn"
  | info => "info"
  | debug => "debug"
  | trace => "trace"

/-- The name of a level in upper case. -/
def title (l : LogLevel) : String := String.ofList (l.label.toList.map Char.toUpper)

/-- The level of a number, which starts at one. -/
def ofNumber? : Nat → Option LogLevel
  | 0 => none
  | n + 1 => all[n]?

/-- Reads a level, by its name in any case or by its number; blanks around it do not count. -/
def ofText? (s : String) : Option LogLevel :=
  let word := Text.trim s
  match Decimal.parse? Decimal.maxWord word with
  | some n => ofNumber? n
  | none => all.find? fun l => l.label == String.ofList (word.toList.map Char.toLower)

end LogLevel

/-- What is logged: a level, levels of single modules, and whether lines are written as JSON. -/
structure LogFilter where
  level : LogLevel
  modules : List (String × LogLevel)
  json : Bool
deriving DecidableEq, Repr

/-- A filter as text: its level, then the modules with theirs. -/
def LogFilter.text (f : LogFilter) : String :=
  f.modules.foldl (fun text m => text ++ "," ++ m.1 ++ "=" ++ m.2.label) f.level.label

/-- What became of a filter: whether it was installed, and the levels it asks for. -/
structure LogInstallation where
  installed : Bool
  modules : List (String × LogLevel)
deriving DecidableEq, Repr

/-- What becomes of filters that are installed one after the other in a fresh process. -/
def LogInstallation.ofFilters : List LogFilter → List LogInstallation
  | [] => []
  | first :: rest => ⟨true, first.modules⟩ :: rest.map fun c => ⟨false, c.modules⟩

end TrustReplica
