import TrustReplica.Decimal.Shortest
import TrustReplica.Settings.Basic
import TrustReplica.Text.Blank

/-! Which settings the program can run with. `Settings.validate` reports the first of five faults, in
    their order, and accepts settings that have none. -/

namespace TrustReplica

/-- A fault of settings that can be read. -/
inductive InvalidSetting where
  | emptyBaseUrl
  | emptyPushUrl
  | smallMultiplier (x : Float)
  | jitterOutOfRange (x : Float)
  | reconnectWindow
deriving DecidableEq

/-- Why settings were not accepted. -/
inductive SettingsError where
  /-- The file is there, but cannot be read. -/
  | unreadable
  | json (fault : Json.Fault)
  | invalid (fault : InvalidSetting)
deriving DecidableEq

/-- A float as it stands in messages. -/
def floatText (x : Float) : String := Decimal.plainLayout.write x

/-- What is wrong with a setting. -/
def InvalidSetting.reason : InvalidSetting → String
  | emptyBaseUrl => "upstream.baseUrl is empty"
  | emptyPushUrl => "upstream.wsUrl is empty"
  | smallMultiplier x => "retry.backoffMultiplier must be >= 1.0, got " ++ floatText x
  | jitterOutOfRange x => "retry.jitterFactor must be within [0, 1], got " ++ floatText x
  | reconnectWindow => "reconnect.initialDelayMs exceeds reconnect.maxDelayMs"

/-- What a message says about a setting. -/
def InvalidSetting.message (e : InvalidSetting) : String := "invalid settings value: " ++ e.reason

namespace Settings

/-- The first fault of settings, if there is one. -/
def fault? (s : Settings) : Option InvalidSetting :=
  if Text.allBlank s.assessor.baseUrl then some .emptyBaseUrl
  else if Text.allBlank s.assessor.pushUrl then some .emptyPushUrl
  else if s.retry.multiplier < 1.0 then some (.smallMultiplier s.retry.multiplier)
  else if !(0.0 ≤ s.retry.jitterFactor && s.retry.jitterFactor ≤ 1.0) then
    some (.jitterOutOfRange s.retry.jitterFactor)
  else if s.reconnect.maxDelay < s.reconnect.initialDelay then some .reconnectWindow
  else none

/-- Settings that have no fault. -/
def validate (s : Settings) : Except SettingsError Settings :=
  match s.fault? with
  | some fault => .error (.invalid fault)
  | none => .ok s

end Settings

end TrustReplica
