import TrustReplica.Proofs.Framing
import TrustReplica.Proofs.Operations
import TrustReplica.Proofs.Utf8
import TrustReplica.Stream.Subscription

/-! What one connection does to a replica. Of a stream counts what comes before its end, and of that the
    messages that the frames of text hold; this is said without the reader of frames (`StreamItem.Delivers`).
    Reading the stream frame by frame takes every such message once and in order, however frames, blank
    frames and other items alternate (`Replica.follow_eq`). So a connection comes to a resync and then to
    receiving these messages, and its report counts the answers to them. -/

namespace TrustReplica

/-! ### Streams -/

namespace StreamItem

/-- How an item ends its stream, if it does. -/
def ending? : StreamItem → Option (Except StreamError Unit)
  | close | closed => some (.ok ())
  | failure detail => some (.error (.broken detail))
  | text _ | binary _ | ping | pong | raw => none

/-- How a stream ends: by the first item that ends it, or because nothing more comes. -/
def ending (items : List StreamItem) : Except StreamError Unit := (items.findSome? ending?).getD (.ok ())

/-- The messages that an item holds: those of the frame, if it is text or the bytes of one; nothing else
    holds any. -/
inductive Holds : StreamItem → List String → Prop
  | text {s : String} {messages : List String} : FrameHolds s.toList messages → Holds (.text s) messages
  | encoded {s : String} {messages : List String} : FrameHolds s.toList messages →
      Holds (.binary (Text.toBytes s)) messages
  | noText {bytes : List UInt8} : (∀ s, Text.toBytes s ≠ bytes) → Holds (.binary bytes) []
  | ping : Holds .ping []
  | pong : Holds .pong []
  | raw : Holds .raw []

/-- The messages that a stream delivers: those of its items up to the one that ends it. -/
inductive Delivers : List StreamItem → List String → Prop
  | nothing : Delivers [] []
  | ended {item : StreamItem} {result : Except StreamError Unit} {items : List StreamItem} :
      item.ending? = some result → Delivers (item :: items) []
  | item {item : StreamItem} {items : List StreamItem} {messages messages' : List String} :
      item.ending? = none → item.Holds messages → Delivers items messages' →
        Delivers (item :: items) (messages ++ messages')

/-- The messages that are read of an item. -/
def lines : StreamItem → List String
  | text s => frameMessages s
  | binary bytes => ((Text.ofBytes? bytes).map frameMessages).getD []
  | ping | pong | raw | close | closed | failure _ => []

/-- The messages that are read of a stream before it ends. -/
def delivered (items : List StreamItem) : List String :=
  (items.takeWhile fun item => item.ending?.isNone).flatMap lines

theorem signal_of_ending?_none {item : StreamItem} (h : item.ending? = none) :
    item.signal = .messages item.lines := by
  cases item with
  | binary bytes => rw [signal, lines]; cases Text.ofBytes? bytes <;> rfl
  | text | ping | pong | raw => rfl
  | close | closed | failure => exact absurd h (Option.some_ne_none _)

theorem delivered_cons_of_none {item : StreamItem} (h : item.ending? = none) (items : List StreamItem) :
    delivered (item :: items) = item.lines ++ delivered items := by
  simp [delivered, h]

theorem delivered_cons_of_some {item : StreamItem} {result : Except StreamError Unit}
    (h : item.ending? = some result) (items : List StreamItem) : delivered (item :: items) = [] := by
  simp [delivered, h]

theorem Holds.lines_eq {item : StreamItem} {messages : List String} (h : item.Holds messages) :
    item.lines = messages := by
  cases h with
  | text hframe => exact frameMessages_eq_iff.mpr hframe
  | encoded hframe =>
    rw [lines, Text.ofBytes?_eq_some_iff.mpr rfl, Option.map_some, Option.getD_some]
    exact frameMessages_eq_iff.mpr hframe
  | @noText bytes hnone =>
    have hunread : Text.ofBytes? bytes = none := by
      rw [Option.eq_none_iff_forall_ne_some]
      exact fun s hs => hnone s (Text.ofBytes?_eq_some_iff.mp hs)
    rw [lines, hunread]
    rfl
  | ping | pong | raw => rfl

/-- An item that does not end its stream holds the messages that are read of it. -/
theorem holds_lines {item : StreamItem} (h : item.ending? = none) : item.Holds item.lines := by
  cases item with
  | text s => exact .text (frameMessages_eq_iff.mp rfl)
  | binary bytes =>
    cases hread : Text.ofBytes? bytes with
    | none =>
      rw [lines, hread]
      refine .noText fun s hs => ?_
      rw [Text.ofBytes?_eq_some_iff.mpr hs] at hread
      exact Option.some_ne_none s hread
    | some s =>
      obtain rfl := Text.ofBytes?_eq_some_iff.mp hread
      rw [lines, hread]
      exact .encoded (frameMessages_eq_iff.mp rfl)
  | ping => exact .ping
  | pong => exact .pong
  | raw => exact .raw
  | close | closed | failure => exact absurd h (Option.some_ne_none _)

/-- A stream delivers just what is read of it. -/
theorem delivers_iff {items : List StreamItem} {messages : List String} :
    Delivers items messages ↔ messages = delivered items := by
  constructor
  · intro h
    induction h with
    | nothing => rfl
    | ended hend => rw [delivered_cons_of_some hend]
    | item hend hholds _ ih => rw [delivered_cons_of_none hend, hholds.lines_eq, ih]
  · rintro rfl
    induction items with
    | nil => exact .nothing
    | cons item items ih =>
      cases hend : item.ending? with
      | none =>
        rw [delivered_cons_of_none hend]
        exact .item hend (holds_lines hend) ih
      | some result =>
        rw [delivered_cons_of_some hend]
        exact .ended hend

end StreamItem

namespace Replica

open StreamItem

/-- A frame is followed by the rest of the stream, whether or not it holds any lines. -/
theorem follow_cons_of_messages {item : StreamItem} {messages : List String}
    (h : item.signal = .messages messages) (acc : Tally × Replica) (items : List StreamItem) :
    follow acc (item :: items) = follow (messages.foldl receiveCounting acc) items := by
  cases messages with
  | nil =>
    have htake : takeMessages (item :: items) = takeMessages items := by simp [takeMessages, h]
    rw [follow, follow, htake]
    rfl
  | cons m ms =>
    have htake : takeMessages (item :: items) = (.ok (some (m :: ms)), items) := by
      simp [takeMessages, h]
    rw [follow, htake]

theorem follow_of_take_none {items rest : List StreamItem} (h : takeMessages items = (.ok none, rest))
    (acc : Tally × Replica) : follow acc items = (.ok acc.1, acc.2) := by
  rw [follow, h]

theorem follow_of_take_error {items rest : List StreamItem} {e : StreamError}
    (h : takeMessages items = (.error e, rest)) (acc : Tally × Replica) :
    follow acc items = (.error e, acc.2) := by
  rw [follow, h]

/-- Following a stream receives every line that it delivers, one after the other, and ends as it ends. -/
theorem follow_eq (acc : Tally × Replica) (items : List StreamItem) :
    follow acc items = ((ending items).map fun _ => ((delivered items).foldl receiveCounting acc).1,
      ((delivered items).foldl receiveCounting acc).2) := by
  induction items generalizing acc with
  | nil => exact follow_of_take_none rfl acc
  | cons item items ih =>
    cases hend : item.ending? with
    | none =>
      have hending : ending (item :: items) = ending items := by simp [ending, hend]
      rw [follow_cons_of_messages (signal_of_ending?_none hend), ih, hending,
        delivered_cons_of_none hend, List.foldl_append]
    | some result =>
      have hending : ending (item :: items) = result := by simp [ending, hend]
      rw [hending, delivered_cons_of_some hend]
      cases item with
      | close | closed =>
        obtain rfl := Option.some_inj.mp hend
        exact follow_of_take_none rfl acc
      | failure detail =>
        obtain rfl := Option.some_inj.mp hend
        exact follow_of_take_error rfl acc
      | text | binary | ping | pong | raw => exact absurd hend (Option.some_ne_none result).symm

end Replica

/-! ### Answers and their counts -/

namespace Tally

/-- The count of the outcomes of one kind. -/
def of (t : Tally) : Outcome → Nat
  | .applied => t.applied
  | .deferred _ => t.deferred
  | .duplicate => t.duplicate
  | .unknownEntity => t.unknownEntity
  | .ignored => t.ignored
  | .unrecognized => t.unrecognized
  | .malformed => t.malformed

theorem of_zero (kind : Outcome) : zero.of kind = 0 := by
  cases kind <;> rfl

theorem total_zero : zero.total = 0 := rfl

theorem of_count (t : Tally) (o kind : Outcome) :
    (t.count o).of kind = t.of kind + if o.label = kind.label then 1 else 0 := by
  cases o <;> cases kind <;> simp [count, of, Outcome.label]

theorem total_count (t : Tally) (o : Outcome) : (t.count o).total = t.total + 1 := by
  cases o <;> simp only [count, total] <;> omega

theorem of_foldl_count (t : Tally) (outcomes : List Outcome) (kind : Outcome) :
    (outcomes.foldl count t).of kind =
      t.of kind + outcomes.countP fun o => o.label = kind.label := by
  induction outcomes generalizing t with
  | nil => rfl
  | cons o outcomes ih =>
    rw [List.foldl_cons, ih, of_count, List.countP_cons]
    simp only [decide_eq_true_eq]
    omega

theorem total_foldl_count (t : Tally) (outcomes : List Outcome) :
    (outcomes.foldl count t).total = t.total + outcomes.length := by
  induction outcomes generalizing t with
  | nil => rfl
  | cons o outcomes ih =>
    rw [List.foldl_cons, ih, total_count, List.length_cons]
    omega

end Tally

namespace Replica

/-- The answers to messages, in their order. -/
def answers (r : Replica) : List String → List Outcome
  | [] => []
  | raw :: raws => (r.receive raw).1 :: (r.receive raw).2.answers raws

theorem length_answers (r : Replica) (raws : List String) : (r.answers raws).length = raws.length := by
  induction raws generalizing r with
  | nil => rfl
  | cons raw raws ih => rw [answers, List.length_cons, ih, List.length_cons]

/-- Receiving messages one after the other counts the answers to them. -/
theorem foldl_receiveCounting (acc : Tally × Replica) (raws : List String) :
    raws.foldl receiveCounting acc =
      ((acc.2.answers raws).foldl Tally.count acc.1, acc.2.performAll (raws.map .receive)) := by
  induction raws generalizing acc with
  | nil => rfl
  | cons raw raws ih => exact ih (receiveCounting acc raw)

/-! ### The connection -/

variable {σ : Type}

/-- A replica after a resync, and its source: the listing is fetched, and then every TMI if that is wished
    and the listing was loaded and names any. -/
def resynced (source : Source σ) (full : Bool) (r : Replica) (world : σ) : Replica × σ :=
  let listed := r.fetchListing source world
  if full && listed.1.toOption.any fun listing => !listing.isEmpty then
    (listed.2.1.fetchEvery source listed.2.2).2
  else listed.2

theorem resync_eq (source : Source σ) (full : Bool) (r : Replica) (world : σ) :
    r.resync source full world =
      ((r.fetchListing source world).1.isOk, r.resynced source full world) := by
  rw [resync, resynced]
  rcases r.fetchListing source world with ⟨listing | listing, after, world'⟩
  · cases full <;> rfl
  · have hnames : (Except.ok listing : Except LoadError Listing).toOption.any
        (fun listing => !listing.isEmpty) = !listing.isEmpty := rfl
    simp only [hnames]
    split_ifs <;> rfl

/-- A stream delivers its messages in one way only. One connection receives each of them, exactly once and in
    order, after the resync; and it reports whether the listing was loaded and how each message was answered,
    unless the stream failed. -/
theorem watchStream_delivered (source : Source σ) (full : Bool) (r : Replica) (world : σ)
    (items : List StreamItem) :
    let start := r.resynced source full world
    ∃ messages, (∀ messages', StreamItem.Delivers items messages' ↔ messages' = messages) ∧
      (r.watchStream source full world items).2 =
        (start.1.performAll (messages.map .receive), start.2) ∧
      match StreamItem.ending items with
      | .ok () => ∃ tally,
        (r.watchStream source full world items).1 = .ok ⟨(r.fetchListing source world).1.isOk, tally⟩ ∧
          (∀ kind, tally.of kind = (start.1.answers messages).countP fun o => o.label = kind.label) ∧
          tally.total = messages.length
      | .error e => (r.watchStream source full world items).1 = .error e := by
  intro start
  have hwatch : r.watchStream source full world items =
      ((StreamItem.ending items).map fun _ => ⟨(r.fetchListing source world).1.isOk,
          (start.1.answers (StreamItem.delivered items)).foldl Tally.count Tally.zero⟩,
        start.1.performAll ((StreamItem.delivered items).map .receive), start.2) := by
    simp only [watchStream, resync_eq, follow_eq, foldl_receiveCounting]
    cases StreamItem.ending items <;> rfl
  refine ⟨StreamItem.delivered items, fun _ => StreamItem.delivers_iff, congrArg Prod.snd hwatch, ?_⟩
  rw [hwatch]
  cases StreamItem.ending items with
  | error e => rfl
  | ok u =>
    refine ⟨_, rfl, fun kind => ?_, ?_⟩
    · rw [Tally.of_foldl_count, Tally.of_zero, Nat.zero_add]
    · rw [Tally.total_foldl_count, length_answers, Tally.total_zero, Nat.zero_add]

end Replica

end TrustReplica
