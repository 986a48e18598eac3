import TrustReplica.Fetch.Source
import TrustReplica.Text.Quoted
import TrustReplica.Url.Basic

/-! Fetching snapshots over HTTP. An `Endpoint` is the root of a fetch API; paths are resolved relative
    to it. How a server is reached is left to a `Transport`, so that a server may be a program, a script
    or another replica. Redirections are followed, but not without end. -/

namespace TrustReplica

/-- What comes of one request. -/
inductive Reply where
  | answered (status : UInt16) (location : Option String) (body : String)
  | unreachable
  | silent

/-- A way to reach servers, with state of its own. -/
structure Transport (σ : Type) where
  get : Url → σ → Reply × σ

/-- The root of a fetch API, and how long an answer may take. -/
structure Endpoint where
  base : Url
  timeout : Duration
deriving DecidableEq, Repr

namespace Endpoint

/-- A text that ends in a slash. -/
def closed (s : String) : String := if s.toList.getLast? = some '/' then s else s ++ "/"

/-- The endpoint at a URL, which stands for the directory it names. -/
def ofText (s : String) (timeout : Duration) : Except FetchError Endpoint :=
  match Url.parse? (closed s) with
  | some base => .ok ⟨base, timeout⟩
  | none => .error (.invalidRequest ("bad base URL " ++ Text.quoted s))

/-- Whether a status sends the reader on to another place. -/
def isRedirect (status : UInt16) : Bool :=
  status == 301 || status == 302 || status == 303 || status == 307 || status == 308

/-- The largest number of redirections that are followed. -/
def maxRedirects : Nat := 10

/-- Whether a URL can be fetched. -/
def isFetchable (u : Url) : Bool := u.scheme == "http".toList || u.scheme == "https".toList

variable {σ α : Type}

/-- The content at a URL, after at most `left` redirections. -/
def load (transport : Transport σ) (timeout : Duration) (left : Nat) (u : Url) (world : σ) :
    Except FetchError String × σ :=
  if isFetchable u then
    match transport.get u world with
    | (.unreachable, world) => (.error (.network "no connection"), world)
    | (.silent, world) => (.error (.timeout timeout), world)
    | (.answered status location body, world) =>
      match (location.filter fun _ => isRedirect status).bind u.join?, left with
      | some next, left + 1 => load transport timeout left next world
      | some _, 0 => (.error (.network "too many redirections"), world)
      | none, _ =>
        if 200 ≤ status ∧ status ≤ 299 then (.ok body, world)
        else (.error (.ofStatus status body), world)
  else (.error (.invalidRequest "URL scheme is not allowed"), world)
termination_by left

/-- What is found at a path, read as a value of some format. -/
def fetchJson (e : Endpoint) (transport : Transport σ) (format : Json.Format α) (path : String)
    (world : σ) : Except FetchError α × σ :=
  match e.base.join? path with
  | none => (.error (.invalidRequest ("bad path " ++ Text.quoted path)), world)
  | some u =>
    match load transport e.timeout maxRedirects u world with
    | (.error e, world) => (.error e, world)
    | (.ok body, world) =>
      match format.ofText body with
      | .ok a => (.ok a, world)
      | .error _ => (.error (.undecodable path), world)

/-- The endpoint as a source of snapshots. -/
def source (e : Endpoint) (transport : Transport σ) : Source σ where
  list := e.fetchJson transport Listing.format listingPath
  fetch request := e.fetchJson transport Detail.format request.path

end Endpoint

end TrustReplica
