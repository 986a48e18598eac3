import TrustReplica.Settings.Basic
import TrustReplica.Text.Blank

/-! Settings taken from the environment. Each `Override` reads one variable and sets one member; a text
    that it does not accept is passed over, as if the variable were not there. -/

namespace TrustReplica

/-- Reads a truth value, in any case of its letters. -/
def parseFlag? (s : String) : Option Bool :=
  match String.ofList (s.toList.map Char.toLower) with
  | "true" => some true
  | "1" => some true
  | "yes" => some true
  | "on" => some true
  | "false" => some false
  | "0" => some false
  | "no" => some false
  | "off" => some false
  | _ => none

/-- Reads a text that is not empty. -/
def nonEmpty? (s : String) : Option String := if s.isEmpty then none else some s

/-- A variable of the environment and the change of settings that its text asks for. -/
structure Override where
  name : String
  change? : String → Option (Settings → Settings)

namespace Override

/-- A variable whose text, once it is read, sets a member. -/
def setting {α : Type} (name : String) (read? : String → Option α)
    (set : α → Settings → Settings) : Override :=
  ⟨name, fun text => (read? text).map set⟩

/-- All variables that count. -/
def all : List Override := [
  setting "TAFWATCH_UPSTREAM_URL" nonEmpty? fun v s =>
    { s with assessor := { s.assessor with baseUrl := v } },
  setting "TAFWATCH_UPSTREAM_WS_URL" nonEmpty? fun v s =>
    { s with assessor := { s.assessor with pushUrl := v } },
  setting "TAFWATCH_REQUEST_TIMEOUT_MS" (Decimal.parseWithin? 100 600000) fun n s =>
    { s with assessor := { s.assessor with requestTimeout := UInt64.ofNat n } },
  setting "TAFWATCH_HYDRATE" parseFlag? fun b s =>
    { s with assessor := { s.assessor with fullResync := b } },
  setting "TAFWATCH_MAX_RETRIES" (Decimal.parseWithin? 0 100) fun n s =>
    { s with retry := { s.retry with maxRetries := UInt32.ofNat n } },
  setting "TAFWATCH_RECONNECT_MAX_MS" (Decimal.parseWithin? 100 3600000) fun n s =>
    { s with reconnect := { s.reconnect with maxDelay := UInt64.ofNat n } },
  setting "TAFWATCH_EVENT_LOG_CAPACITY" (Decimal.parseWithin? 0 1000000) fun n s =>
    { s with logCapacity := UInt64.ofNat n },
  setting "TAFWATCH_SERVER_ENABLED" parseFlag? fun b s =>
    { s with server := { s.server with enabled := b } },
  setting "TAFWATCH_HOST" nonEmpty? fun v s => { s with server := { s.server with host := v } },
  setting "TAFWATCH_PORT" (Decimal.parseWithin? 0 65535) fun n s =>
    { s with server := { s.server with portNumber := UInt16.ofNat n } },
  setting "TAFWATCH_LOG_LEVEL" nonEmpty? fun v s => { s with logging := { s.logging with level := v } },
  setting "TAFWATCH_LOG_JSON" parseFlag? fun b s => { s with logging := { s.logging with json := b } }]

/-- Applies one override, if its variable is there with a text that it accepts. -/
def apply (lookup : String → Option String) (s : Settings) (o : Override) : Settings :=
  match (lookup o.name).bind o.change? with
  | some change => change s
  | none => s

end Override

/-- Settings with the variables of an environment applied. -/
def Settings.withEnvironment (s : Settings) (lookup : String → Option String) : Settings :=
  Override.all.foldl (Override.apply lookup) s

end TrustReplica
