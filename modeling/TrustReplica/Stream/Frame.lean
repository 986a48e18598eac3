import TrustReplica.Text.Blank
import TrustReplica.Text.Hexadecimal
import TrustReplica.Text.Split

/-! What a push stream delivers. A frame of text holds messages on lines of their own, trimmed and
    without blank lines (`frameMessages`). `takeMessages` reads up to the next frame that holds any, and
    tells the end of the stream from its failure. -/

namespace TrustReplica

/-- One item of a push stream. -/
inductive StreamItem where
  | text (s : String)
  | binary (bytes : List UInt8)
  | ping
  | pong
  /-- A frame that was not put together to a message. -/
  | raw
  /-- The peer says that it closes the stream. -/
  | close
  /-- The connection was closed before. -/
  | closed
  | failure (detail : String)
deriving DecidableEq, Repr

/-- Why a push stream failed. -/
inductive StreamError where
  | connect (url reason : String)
  | broken (detail : String)
deriving DecidableEq, Repr

namespace StreamError

/-- What a message about a failed connection says before it gives the reason. -/
def connectPrefix (url : String) : String := "connect to " ++ url ++ " failed: "

/-- What a message says about a push stream that failed. -/
def message : StreamError → String
  | connect url reason => connectPrefix url ++ reason
  | broken detail => "push stream error: " ++ detail

end StreamError

/-- The messages of a frame: its lines without blanks around them, and without blank lines. -/
def frameMessages (frame : String) : List String :=
  (((Text.splitOn '\n' frame.toList).map Text.trimChars).filter fun line => !line.isEmpty).map String.ofList

/-- What an item means to a reader. -/
inductive Signal where
  | messages (list : List String)
  | ended
  | failed (error : StreamError)
deriving DecidableEq, Repr

/-- The meaning of an item; a binary frame counts if it is text, and other frames are passed over. -/
def StreamItem.signal : StreamItem → Signal
  | text s => .messages (frameMessages s)
  | binary bytes =>
    match Text.ofBytes? bytes with
    | some s => .messages (frameMessages s)
    | none => .messages []
  | ping => .messages []
  | pong => .messages []
  | raw => .messages []
  | close => .ended
  | closed => .ended
  | failure detail => .failed (.broken detail)

/-- The messages of the next frame that holds any, or nothing at the end of the stream; and what is left. -/
def takeMessages : List StreamItem → Except StreamError (Option (List String)) × List StreamItem
  | [] => (.ok none, [])
  | item :: rest =>
    match item.signal with
    | .messages [] => takeMessages rest
    | .messages (m :: ms) => (.ok (some (m :: ms)), rest)
    | .ended => (.ok none, rest)
    | .failed e => (.error e, rest)

/-- Reading messages uses up at least one item. -/
theorem takeMessages_length {items rest : List StreamItem} {ms : List String}
    (h : takeMessages items = (.ok (some ms), rest)) : rest.length < items.length := by
  induction items with
  | nil => simp [takeMessages] at h
  | cons item items ih =>
    unfold takeMessages at h
    split at h
    · exact Nat.lt_succ_of_lt (ih h)
    · obtain ⟨-, rfl⟩ := Prod.mk.inj h
      simp
    · simp at h
    · simp at h

end TrustReplica
