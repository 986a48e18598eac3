import TrustReplica.Fetch.Retrying
import TrustReplica.Json.Maps

/-! The settings of the program in their sections, with their default values. Every member may be left
    out of a settings file, and so may every section; `Settings.read` puts the defaults in their places.
    Delays are in milliseconds. -/

namespace TrustReplica

/-- Where the server is, and how it is asked. -/
structure AssessorSettings where
  baseUrl : String
  pushUrl : String
  requestTimeout : UInt64
  fullResync : Bool
deriving DecidableEq

/-- Delays between connections to the push stream. -/
structure ReconnectSettings where
  initialDelay : UInt64
  maxDelay : UInt64
deriving DecidableEq

/-- The read API. -/
structure ServerSettings where
  enabled : Bool
  host : String
  portNumber : UInt16
deriving DecidableEq

/-- What is logged; the levels are texts. -/
structure LoggingSettings where
  level : String
  modules : NameMap String
  json : Bool
deriving DecidableEq

/-- All settings. -/
structure Settings where
  assessor : AssessorSettings
  retry : RetryPolicy
  reconnect : ReconnectSettings
  logCapacity : UInt64
  server : ServerSettings
  logging : LoggingSettings

open Json

namespace AssessorSettings

/-- A server on this machine. -/
def default : AssessorSettings := ⟨"http://127.0.0.1:8080/api/", "ws://127.0.0.1:8080/ws", 10000, true⟩

/-- The section as a record. -/
def toJson (u : AssessorSettings) : Json :=
  .object [("baseUrl", .text u.baseUrl), ("hydrateOnResync", .flag u.fullResync),
    ("requestTimeoutMs", .natural u.requestTimeout), ("wsUrl", .text u.pushUrl)]

/-- Reads the section. -/
def read (v : Json) : Option AssessorSettings :=
  if v.isRecord 4 then do
    let baseUrl ← defaulted default.baseUrl readText (v.member 0 "baseUrl")
    let pushUrl ← defaulted default.pushUrl readText (v.member 1 "wsUrl")
    let requestTimeout ← defaulted default.requestTimeout readNatural (v.member 2 "requestTimeoutMs")
    let fullResync ← defaulted default.fullResync readFlag (v.member 3 "hydrateOnResync")
    return ⟨baseUrl, pushUrl, requestTimeout, fullResync⟩
  else none

end AssessorSettings

namespace RetryPolicy

/-- Three retries, with delays from half a second to ten. -/
def default : RetryPolicy := ⟨3, 500, 10000, 2.0, 0.2⟩

/-- The section as a record. -/
def toJson (p : RetryPolicy) : Json :=
  .object [("backoffMultiplier", .ofFloat p.multiplier), ("baseDelayMs", .natural p.baseDelay),
    ("jitterFactor", .ofFloat p.jitterFactor), ("maxDelayMs", .natural p.maxDelay),
    ("maxRetries", .natural p.maxRetries.toUInt64)]

/-- Reads a number of 32 bits. -/
def readCount (v : Json) : Option UInt32 := (readUpTo (UInt32.size - 1) v).map UInt32.ofNat

/-- Reads the section. -/
def read (v : Json) : Option RetryPolicy :=
  if v.isRecord 5 then do
    let maxRetries ← defaulted default.maxRetries readCount (v.member 0 "maxRetries")
    let baseDelay ← defaulted default.baseDelay readNatural (v.member 1 "baseDelayMs")
    let maxDelay ← defaulted default.maxDelay readNatural (v.member 2 "maxDelayMs")
    let multiplier ← defaulted default.multiplier readFloat (v.member 3 "backoffMultiplier")
    let jitterFactor ← defaulted default.jitterFactor readFloat (v.member 4 "jitterFactor")
    return ⟨maxRetries, baseDelay, maxDelay, multiplier, jitterFactor⟩
  else none

end RetryPolicy

namespace ReconnectSettings

/-- Delays from one second to thirty. -/
def default : ReconnectSettings := ⟨1000, 30000⟩

/-- The section as a record. -/
def toJson (r : ReconnectSettings) : Json :=
  .object [("initialDelayMs", .natural r.initialDelay), ("maxDelayMs", .natural r.maxDelay)]

/-- Reads the section. -/
def read (v : Json) : Option ReconnectSettings :=
  if v.isRecord 2 then do
    let initialDelay ← defaulted default.initialDelay readNatural (v.member 0 "initialDelayMs")
    let maxDelay ← defaulted default.maxDelay readNatural (v.member 1 "maxDelayMs")
    return ⟨initialDelay, maxDelay⟩
  else none

end ReconnectSettings

namespace ServerSettings

/-- Served on this machine only. -/
def default : ServerSettings := ⟨true, "127.0.0.1", 8090⟩

/-- The section as a record. -/
def toJson (s : ServerSettings) : Json :=
  .object [("enabled", .flag s.enabled), ("host", .text s.host), ("port", .natural s.portNumber.toUInt64)]

/-- Reads a number of 16 bits. -/
def readPort (v : Json) : Option UInt16 := (readUpTo (UInt16.size - 1) v).map UInt16.ofNat

/-- Reads the section. -/
def read (v : Json) : Option ServerSettings :=
  if v.isRecord 3 then do
    let enabled ← defaulted default.enabled readFlag (v.member 0 "enabled")
    let host ← defaulted default.host readText (v.member 1 "host")
    let portNumber ← defaulted default.portNumber readPort (v.member 2 "port")
    return ⟨enabled, host, portNumber⟩
  else none

end ServerSettings

namespace LoggingSettings

/-- The middle level, as text. -/
def default : LoggingSettings := ⟨"info", ∅, false⟩

/-- The section as a record. -/
def toJson (l : LoggingSettings) : Json :=
  .object [("json", .flag l.json), ("level", .text l.level), ("modules", ofNames .text l.modules)]

/-- Reads the section. -/
def read (v : Json) : Option LoggingSettings :=
  if v.isRecord 3 then do
    let level ← defaulted default.level readText (v.member 0 "level")
    let modules ← defaulted default.modules (readNames readText) (v.member 1 "modules")
    let json ← defaulted default.json readFlag (v.member 2 "json")
    return ⟨level, modules, json⟩
  else none

end LoggingSettings

namespace Settings

/-- The number of logged events when none is chosen. -/
def defaultLogCapacity : UInt64 := 1000

/-- The settings when nothing is chosen. -/
def default : Settings := ⟨.default, .default, .default, defaultLogCapacity, .default, .default⟩

/-- The section of the replica as a record. -/
def replicaToJson (logCapacity : UInt64) : Json := .object [("eventLogCapacity", .natural logCapacity)]

/-- Reads the section of the replica. -/
def readReplica (v : Json) : Option UInt64 :=
  if v.isRecord 1 then defaulted defaultLogCapacity readNatural (v.member 0 "eventLogCapacity") else none

/-- All settings as a record of sections. -/
def toJson (s : Settings) : Json :=
  .object [("logging", s.logging.toJson), ("reconnect", s.reconnect.toJson),
    ("replica", replicaToJson s.logCapacity), ("retry", s.retry.toJson), ("server", s.server.toJson),
    ("upstream", s.assessor.toJson)]

/-- Reads settings. -/
def read (v : Json) : Option Settings :=
  if v.isRecord 6 then do
    let assessor ← defaulted default.assessor AssessorSettings.read (v.member 0 "upstream")
    let retry ← defaulted default.retry RetryPolicy.read (v.member 1 "retry")
    let reconnect ← defaulted default.reconnect ReconnectSettings.read (v.member 2 "reconnect")
    let logCapacity ← defaulted default.logCapacity readReplica (v.member 3 "replica")
    let server ← defaulted default.server ServerSettings.read (v.member 4 "server")
    let logging ← defaulted default.logging LoggingSettings.read (v.member 5 "logging")
    return ⟨assessor, retry, reconnect, logCapacity, server, logging⟩
  else none

end Settings

end TrustReplica
