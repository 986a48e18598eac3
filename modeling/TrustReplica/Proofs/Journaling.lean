import TrustReplica.Proofs.EventFormat
import TrustReplica.Proofs.Operations

/-! What a journal holds of everything that was done to its replica. The messages that were received are
    numbered from one, in the order of their arrival, and what the entry of one has to tell is said without
    the reader of events (`JournalEntry.Records`); the journal has an entry for each of the newest messages,
    as many as its capacity allows (`Journal.Holds`). One message more takes the entries of the messages
    before it to those with it, and nothing else that is done to a replica touches the journal. -/

namespace TrustReplica

/-- One thing that is done to a replica: an operation, or many events that are applied at once. -/
inductive Action : Type 1 where
  | one (o : Operation)
  | applyAll (events : List Event)

namespace Replica

/-- A replica after an action. -/
def act (r : Replica) : Action → Replica
  | .one o => r.perform o
  | .applyAll events => (r.applyAllCounting events).2

/-- A replica after many actions, in their order. -/
def actAll (r : Replica) (actions : List Action) : Replica := actions.foldl act r

/-- The message that an action receives, with the answer to it. -/
def message? (r : Replica) : Action → Option (String × Outcome)
  | .one (.receive raw) => some (raw, (r.receive raw).1)
  | _ => none

/-- The messages that many actions receive, in their order, with the answers to them. -/
def messages (r : Replica) : List Action → List (String × Outcome)
  | [] => []
  | a :: actions => (r.message? a).toList ++ (r.act a).messages actions

end Replica

/-! ### Entries -/

/-- The value that a message writes, or the message itself as a text if it writes none. -/
def Json.ofMessage (raw : String) : Json :=
  match parse raw with
  | .ok payload => payload
  | .error _ => .text raw

/-- The entry of a message that arrived with a number and got an answer. It has the tag that the value of the
    message carries, and none if that carries none. -/
structure JournalEntry.Records (e : JournalEntry) (m : (String × Outcome) × Nat) : Prop where
  seq : e.seq = m.2
  eventType : ∀ tag, e.eventType = some tag ↔ Event.Carries (.ofMessage m.1.1) tag
  outcome : e.outcome = m.1.2.label
  payload : e.payload = .ofMessage m.1.1

namespace Journal

/-- The newest of some messages with their numbers, the last one first, as many as a capacity allows; the
    first message has number one. -/
def newestOf (capacity : Nat) (messages : List (String × Outcome)) : List ((String × Outcome) × Nat) :=
  (messages.zipIdx 1).reverse.take capacity

/-- A journal holds the entries of some messages and no others. -/
structure Holds (j : Journal) (capacity : Nat) (messages : List (String × Outcome)) : Prop where
  capacity_eq : j.capacity = capacity
  entries : List.Forall₂ JournalEntry.Records j.entries (newestOf capacity messages)
  nextSeq : j.nextSeq = messages.length + 1

theorem holds_empty (capacity : Nat) : (empty capacity).Holds capacity [] :=
  ⟨rfl, by simp [empty, newestOf], rfl⟩

/-- One more message comes in front, and what no longer fits drops out at the end. -/
theorem newestOf_concat (capacity : Nat) (messages : List (String × Outcome)) (m : String × Outcome) :
    newestOf capacity (messages ++ [m]) =
      ((m, messages.length + 1) :: newestOf capacity messages).take capacity := by
  have hnumbered : (messages ++ [m]).zipIdx 1 = messages.zipIdx 1 ++ [(m, messages.length + 1)] := by
    rw [List.zipIdx_append, Nat.add_comm 1]
    rfl
  simp only [newestOf, hnumbered, List.reverse_append, List.reverse_cons, List.reverse_nil,
    List.nil_append, List.singleton_append]
  cases capacity with
  | zero => rfl
  | succ n => simp [List.take_take]

theorem length_newestOf (capacity : Nat) (messages : List (String × Outcome)) :
    (newestOf capacity messages).length = min messages.length capacity := by
  simp [newestOf, Nat.min_comm]

variable {j : Journal} {capacity : Nat} {messages : List (String × Outcome)}

/-- Recording a message takes the messages before it to the messages with it. -/
theorem Holds.record (h : j.Holds capacity messages) (raw : String) (outcome : Outcome) :
    (j.record (Event.tagOf? (.ofMessage raw)) outcome.label (.ofMessage raw)).Holds capacity
      (messages ++ [(raw, outcome)]) where
  capacity_eq := h.capacity_eq
  entries := by
    have hnew : JournalEntry.Records
        ⟨j.nextSeq, Event.tagOf? (.ofMessage raw), outcome.label, .ofMessage raw⟩
        ((raw, outcome), messages.length + 1) :=
      ⟨h.nextSeq, fun _ => Event.tagOf?_eq_some, rfl, rfl⟩
    rw [newestOf_concat, ← h.capacity_eq]
    exact List.forall₂_take _ (.cons hnew (h.capacity_eq ▸ h.entries))
  nextSeq := by
    simp [Journal.record, h.nextSeq]

end Journal

/-! ### Runs -/

namespace Replica

/-- A message is recorded with the value that it writes and with the answer to it. -/
theorem journal_receive (r : Replica) (raw : String) : (r.receive raw).2.journal =
    r.journal.record (Event.tagOf? (.ofMessage raw)) (r.receive raw).1.label (.ofMessage raw) := by
  rw [receive, Json.ofMessage]
  cases Json.parse raw with
  | error _ => rfl
  | ok payload =>
    simp only [applyJson]
    cases Event.ofJson payload <;> rfl

theorem journal_act (r : Replica) {a : Action} (h : r.message? a = none) :
    (r.act a).journal = r.journal := by
  cases a with
  | applyAll events => rfl
  | one o =>
    cases o with
    | receive raw => exact absurd h (Option.some_ne_none _)
    | apply | fetchListing | fetchTmi | fetchEvery => rfl

theorem holds_act {r : Replica} {capacity : Nat} {before : List (String × Outcome)}
    (h : r.journal.Holds capacity before) (a : Action) :
    (r.act a).journal.Holds capacity (before ++ (r.message? a).toList) := by
  cases hm : r.message? a with
  | none =>
    rw [journal_act r hm]
    simpa using h
  | some m =>
    rcases a with o | events
    · cases o with
      | receive raw =>
        obtain rfl := Option.some_inj.mp hm
        have hjournal : (r.act (.one (.receive raw))).journal = _ := r.journal_receive raw
        rw [hjournal]
        exact h.record raw _
      | apply | fetchListing | fetchTmi | fetchEvery => exact absurd hm (Option.some_ne_none m).symm
    · exact absurd hm (Option.some_ne_none m).symm

/-- A run takes the messages before it to those and the messages of the run. -/
theorem holds_actAll {r : Replica} {capacity : Nat} {before : List (String × Outcome)}
    (h : r.journal.Holds capacity before) (actions : List Action) :
    (r.actAll actions).journal.Holds capacity (before ++ r.messages actions) := by
  induction actions generalizing r before with
  | nil => simpa [messages, actAll] using h
  | cons a actions ih =>
    have hrun := ih (holds_act h a)
    rw [List.append_assoc] at hrun
    exact hrun

/-- The journal is an exact record of the messages, whatever is done to a replica that started empty: it holds
    an entry for each of the newest ones, as many as fit, with its number, its tag, its value and the answer to
    it. And that answer is the one to the event that the message writes. -/
theorem journal_actAll (capacity : Nat) (actions : List Action) :
    let messages := (empty capacity).messages actions
    let journal := ((empty capacity).actAll actions).journal
    List.Forall₂ JournalEntry.Records journal.entries (Journal.newestOf capacity messages) ∧
      journal.size = min messages.length capacity ∧
      (∀ limit, journal.newest limit = journal.entries.take (min limit journal.size)) ∧
      ∀ (r : Replica) (raw : String), ((r.receive raw).1, (r.receive raw).2.store) =
        match Event.ofText raw with
        | .ok e => r.store.apply e
        | .error _ => (.malformed, r.store) := by
  intro messages journal
  have hholds : journal.Holds capacity messages := by
    have hrun := holds_actAll (r := empty capacity) (Journal.holds_empty capacity) actions
    rwa [List.nil_append] at hrun
  refine ⟨hholds.entries, ?_, fun limit => ?_, receive_eq_apply⟩
  · rw [Journal.size, hholds.entries.length_eq, Journal.length_newestOf]
  · rw [Journal.newest, Journal.size, List.take_eq_take_min]

end Replica

end TrustReplica
