import Mathlib.Data.List.TakeWhile
import TrustReplica.Proofs.Splitting
import TrustReplica.Stream.Frame

/-! Messages on lines of their own. What may stand on a line is said without the reader (`LineHolds`): blanks
    only, or one message with blanks around it; and a frame is lines with line feeds between them, each with a
    carriage return in front or without (`FrameHolds`). A line feed ends a line wherever it stands and blanks
    are taken off at both ends, so a frame is read as just the messages that it holds
    (`frameMessages_eq_iff`). That nothing but blanks is left out follows from the form of a frame, by
    induction on its lines. -/

namespace TrustReplica

namespace Text

variable {cs before after : List Char}

/-! ### Trimming -/

/-- Every character is blank. -/
def AllBlank (cs : List Char) : Prop := ∀ c ∈ cs, isBlank c = true

/-- There is no blank at either end. -/
structure IsTrimmed (cs : List Char) : Prop where
  first : ∀ c, cs.head? = some c → isBlank c = false
  last : ∀ c, cs.getLast? = some c → isBlank c = false

theorem AllBlank.append (hbefore : AllBlank before) (hafter : AllBlank after) :
    AllBlank (before ++ after) := by
  intro c hc
  rcases List.mem_append.mp hc with hc | hc
  · exact hbefore c hc
  · exact hafter c hc

theorem isBlank_of_head?_dropWhile {c : Char} (h : (cs.dropWhile isBlank).head? = some c) :
    isBlank c = false := by
  have hfirst := List.head?_dropWhile_not isBlank cs
  rwa [h] at hfirst

theorem dropWhile_isBlank_eq_self (h : ∀ c, cs.head? = some c → isBlank c = false) :
    cs.dropWhile isBlank = cs := by
  cases cs with
  | nil => rfl
  | cons c rest => exact List.dropWhile_cons_of_neg (by simp [h c rfl])

theorem trimEnd_append (h : AllBlank after) (cs : List Char) : trimEnd (cs ++ after) = trimEnd cs := by
  have hreverse : ∀ c ∈ after.reverse, isBlank c = true := by
    intro c hc
    exact h c (List.mem_reverse.mp hc)
  rw [trimEnd, List.reverse_append, List.dropWhile_append_of_pos hreverse, trimEnd]

theorem trimChars_of_allBlank (h : AllBlank cs) : trimChars cs = [] := by
  have hdropped : (cs ++ []).dropWhile isBlank = [] := List.dropWhile_append_of_pos h
  rw [List.append_nil] at hdropped
  rw [trimChars, hdropped]
  rfl

/-- Blanks around a text without blanks at its ends are taken off, and nothing else is. -/
theorem trimChars_of_isTrimmed (hbefore : AllBlank before) (hafter : AllBlank after) (hne : cs ≠ [])
    (h : IsTrimmed cs) : trimChars (before ++ cs ++ after) = cs := by
  have hdropped : (before ++ cs ++ after).dropWhile isBlank = cs ++ after := by
    rw [List.append_assoc, List.dropWhile_append_of_pos hbefore]
    refine dropWhile_isBlank_eq_self fun c hc => h.first c ?_
    cases cs with
    | nil => exact absurd rfl hne
    | cons first rest => exact hc
  have hlast : cs.reverse.dropWhile isBlank = cs.reverse := by
    refine dropWhile_isBlank_eq_self fun c hc => h.last c ?_
    rwa [List.head?_reverse] at hc
  rw [trimChars, hdropped, trimEnd_append hafter, trimEnd, hlast, List.reverse_reverse]

/-- Trimming at the end takes off blanks only. -/
theorem exists_blanks_behind (cs : List Char) : ∃ after, AllBlank after ∧ cs = trimEnd cs ++ after := by
  refine ⟨(cs.reverse.takeWhile isBlank).reverse, ?_, ?_⟩
  · intro c hc
    exact List.mem_takeWhile_imp (List.mem_reverse.mp hc)
  · rw [trimEnd, ← List.reverse_append, List.takeWhile_append_dropWhile, List.reverse_reverse]

/-- A text is what is left of it by trimming, with blanks around it. -/
theorem exists_blanks_around (cs : List Char) :
    ∃ before after, AllBlank before ∧ AllBlank after ∧ cs = before ++ trimChars cs ++ after := by
  obtain ⟨after, hafter, hdropped⟩ := exists_blanks_behind (cs.dropWhile isBlank)
  refine ⟨cs.takeWhile isBlank, after, ?_, hafter, ?_⟩
  · intro c hc
    exact List.mem_takeWhile_imp hc
  · rw [trimChars, List.append_assoc, ← hdropped, List.takeWhile_append_dropWhile]

theorem isTrimmed_trimChars (cs : List Char) : IsTrimmed (trimChars cs) := by
  constructor
  · intro c hc
    obtain ⟨after, -, hdropped⟩ := exists_blanks_behind (cs.dropWhile isBlank)
    have hhead := congrArg List.head? hdropped
    rw [List.head?_append, ← trimChars, hc] at hhead
    exact isBlank_of_head?_dropWhile hhead
  · intro c hc
    rw [trimChars, trimEnd, List.getLast?_reverse] at hc
    exact isBlank_of_head?_dropWhile hc

end Text

/-! ### Lines -/

/-- A text that can be a message: it is not empty and has no line feed, and no blank at either end. -/
structure IsMessage (m : String) : Prop where
  nonempty : m ≠ ""
  unbroken : '\n' ∉ m.toList
  trimmed : Text.IsTrimmed m.toList

/-- Blanks that do not end a line. -/
structure IsPadding (cs : List Char) : Prop where
  blank : Text.AllBlank cs
  unbroken : '\n' ∉ cs

/-- A line with blanks only, or with one message and blanks around it. -/
inductive LineHolds : List Char → List String → Prop
  | blank {padding : List Char} : IsPadding padding → LineHolds padding []
  | message {before after : List Char} {m : String} : IsPadding before → IsPadding after → IsMessage m →
      LineHolds (before ++ m.toList ++ after) [m]

/-- What ends a line. -/
inductive IsLineEnd : List Char → Prop
  | lineFeed : IsLineEnd ['\n']
  | carriageReturn : IsLineEnd ['\r', '\n']

/-- A frame of lines, the last of which need not be ended, and the messages on them. -/
inductive FrameHolds : List Char → List String → Prop
  | last {line : List Char} {messages : List String} : LineHolds line messages → FrameHolds line messages
  | line {line ending rest : List Char} {messages messages' : List String} : LineHolds line messages →
      IsLineEnd ending → FrameHolds rest messages' →
        FrameHolds (line ++ ending ++ rest) (messages ++ messages')

/-- The message on a line, unless there are only blanks. -/
def lineMessages (line : List Char) : List String :=
  if Text.trimChars line = [] then [] else [String.ofList (Text.trimChars line)]

variable {line frame rest : List Char} {messages messages' : List String}

theorem frameMessages_eq (frame : String) :
    frameMessages frame = (Text.splitOn '\n' frame.toList).flatMap lineMessages := by
  rw [frameMessages]
  induction Text.splitOn '\n' frame.toList with
  | nil => rfl
  | cons line lines ih =>
    rw [List.map_cons, List.flatMap_cons, ← ih, lineMessages]
    by_cases hempty : Text.trimChars line = []
    · simp [hempty]
    · simp [hempty]

theorem IsPadding.append {before after : List Char} (hbefore : IsPadding before) (hafter : IsPadding after) :
    IsPadding (before ++ after) where
  blank := hbefore.blank.append hafter.blank
  unbroken := by simp [hbefore.unbroken, hafter.unbroken]

theorem LineHolds.unbroken (h : LineHolds line messages) : '\n' ∉ line := by
  cases h with
  | blank hpadding => exact hpadding.unbroken
  | message hbefore hafter hm => simp [hbefore.unbroken, hafter.unbroken, hm.unbroken]

/-- More blanks at its end do not change what a line holds. -/
theorem LineHolds.append {padding : List Char} (h : LineHolds line messages) (hpadding : IsPadding padding) :
    LineHolds (line ++ padding) messages := by
  cases h with
  | blank hline => exact .blank (hline.append hpadding)
  | message hbefore hafter hm =>
    rw [List.append_assoc]
    exact .message hbefore (hafter.append hpadding) hm

/-- A line is read as what it holds. -/
theorem LineHolds.lineMessages_eq (h : LineHolds line messages) : lineMessages line = messages := by
  cases h with
  | blank hpadding => rw [lineMessages, if_pos (Text.trimChars_of_allBlank hpadding.blank)]
  | @message before after m hbefore hafter hm =>
    have hne : m.toList ≠ [] := by simpa using hm.nonempty
    rw [lineMessages, Text.trimChars_of_isTrimmed hbefore.blank hafter.blank hne hm.trimmed, if_neg hne,
      String.ofList_toList]

/-- A line holds what is read of it. -/
theorem lineHolds_lineMessages (h : '\n' ∉ line) : LineHolds line (lineMessages line) := by
  obtain ⟨before, after, hbefore, hafter, hline⟩ := Text.exists_blanks_around line
  have hparts : '\n' ∉ before ∧ '\n' ∉ Text.trimChars line ∧ '\n' ∉ after := by
    rw [hline] at h
    simpa [not_or, and_assoc] using h
  obtain ⟨hunbroken_before, hunbroken, hunbroken_after⟩ := hparts
  by_cases hempty : Text.trimChars line = []
  · rw [hempty, List.append_nil] at hline
    rw [lineMessages, if_pos hempty, hline]
    exact .blank (IsPadding.append ⟨hbefore, hunbroken_before⟩ ⟨hafter, hunbroken_after⟩)
  · have hm : IsMessage (String.ofList (Text.trimChars line)) := by
      refine ⟨by simpa using hempty, ?_, ?_⟩
      · rwa [String.toList_ofList]
      · rw [String.toList_ofList]
        exact Text.isTrimmed_trimChars line
    have hholds := LineHolds.message ⟨hbefore, hunbroken_before⟩ ⟨hafter, hunbroken_after⟩ hm
    rw [String.toList_ofList, ← hline] at hholds
    rwa [lineMessages, if_neg hempty]

/-! ### Frames -/

/-- The end of a line is a line feed behind blanks. -/
theorem IsLineEnd.eq_append {ending : List Char} (h : IsLineEnd ending) :
    ∃ padding, IsPadding padding ∧ ending = padding ++ ['\n'] := by
  cases h with
  | lineFeed => exact ⟨[], ⟨by simp [Text.AllBlank], by simp⟩, rfl⟩
  | carriageReturn => exact ⟨['\r'], ⟨by simp [Text.AllBlank, Text.isBlank], by decide⟩, rfl⟩

theorem IsLineEnd.allBlank {ending : List Char} (h : IsLineEnd ending) : Text.AllBlank ending := by
  obtain ⟨padding, hpadding, rfl⟩ := h.eq_append
  exact hpadding.blank.append (by simp [Text.AllBlank, Text.isBlank])

/-- A frame is read as the messages that it holds. -/
theorem FrameHolds.flatMap_lineMessages (h : FrameHolds frame messages) :
    (Text.splitOn '\n' frame).flatMap lineMessages = messages := by
  induction h with
  | last hline => simp [Text.splitOn_of_not_mem hline.unbroken, hline.lineMessages_eq]
  | @line line ending rest messages messages' hline hending hrest ih =>
    obtain ⟨padding, hpadding, rfl⟩ := hending.eq_append
    have hpadded := hline.append hpadding
    have hcut : line ++ (padding ++ ['\n']) ++ rest = (line ++ padding) ++ '\n' :: rest := by simp
    rw [hcut, Text.splitOn_append hpadded.unbroken, List.flatMap_cons, ih, hpadded.lineMessages_eq]

/-- Lines that are joined by line feeds hold what is read of each of them. -/
theorem frameHolds_joinWith {lines : List (List Char)} (hne : lines ≠ [])
    (h : ∀ line ∈ lines, '\n' ∉ line) :
    FrameHolds (Text.joinWith '\n' lines) (lines.flatMap lineMessages) := by
  induction lines with
  | nil => exact absurd rfl hne
  | cons first lines ih =>
    obtain ⟨hfirst, hlines⟩ := List.forall_mem_cons.mp h
    have hholds := lineHolds_lineMessages hfirst
    cases lines with
    | nil =>
      rw [List.flatMap_cons, List.flatMap_nil, List.append_nil]
      exact .last hholds
    | cons second lines =>
      have hframe := FrameHolds.line hholds .lineFeed (ih (List.cons_ne_nil _ _) hlines)
      rw [List.append_assoc, List.singleton_append] at hframe
      rwa [Text.joinWith_cons_cons, List.flatMap_cons]

/-- A frame holds just the messages that it is read as. -/
theorem frameMessages_eq_iff {frame : String} {messages : List String} :
    frameMessages frame = messages ↔ FrameHolds frame.toList messages := by
  rw [frameMessages_eq]
  constructor
  · rintro rfl
    have hholds := frameHolds_joinWith (Text.splitOn_ne_nil '\n' frame.toList)
      fun line hline => Text.not_mem_of_mem_splitOn hline
    rwa [Text.joinWith_splitOn] at hholds
  · exact FrameHolds.flatMap_lineMessages

theorem LineHolds.isMessage (h : LineHolds line messages) : ∀ m ∈ messages, IsMessage m := by
  cases h with
  | blank => simp
  | message _ _ hm => simpa using hm

theorem FrameHolds.isMessage (h : FrameHolds frame messages) : ∀ m ∈ messages, IsMessage m := by
  induction h with
  | last hline => exact hline.isMessage
  | line hline _ _ ih =>
    intro m hm
    rcases List.mem_append.mp hm with hm | hm
    · exact hline.isMessage m hm
    · exact ih m hm

/-! ### What is left out -/

/-- A text consists of messages, one after the other, and of blanks before, between and behind them. -/
inductive ConsistsOf : List Char → List String → Prop
  | blank {gap : List Char} : Text.AllBlank gap → ConsistsOf gap []
  | message {gap rest : List Char} {m : String} {messages : List String} : Text.AllBlank gap →
      ConsistsOf rest messages → ConsistsOf (gap ++ m.toList ++ rest) (m :: messages)

/-- Blanks in front of a text do not change what it consists of. -/
theorem ConsistsOf.blank_append {gap : List Char} (hgap : Text.AllBlank gap) (h : ConsistsOf rest messages) :
    ConsistsOf (gap ++ rest) messages := by
  cases h with
  | blank hrest => exact .blank (hgap.append hrest)
  | message hgap' hrest =>
    rw [← List.append_assoc, ← List.append_assoc]
    exact .message (hgap.append hgap') hrest

theorem ConsistsOf.append (h : ConsistsOf frame messages) (h' : ConsistsOf rest messages') :
    ConsistsOf (frame ++ rest) (messages ++ messages') := by
  induction h with
  | blank hgap => exact h'.blank_append hgap
  | message hgap _ ih =>
    rw [List.append_assoc]
    exact .message hgap ih

theorem LineHolds.consistsOf (h : LineHolds line messages) : ConsistsOf line messages := by
  cases h with
  | blank hpadding => exact .blank hpadding.blank
  | message hbefore hafter _ => exact .message hbefore.blank (.blank hafter.blank)

theorem FrameHolds.consistsOf (h : FrameHolds frame messages) : ConsistsOf frame messages := by
  induction h with
  | last hline => exact hline.consistsOf
  | line hline hending _ ih =>
    have hblank := hending.allBlank
    rw [List.append_assoc]
    exact hline.consistsOf.append (ih.blank_append hblank)

/-- A frame is read by its lines: as just those messages that it was written with, each of them on a line of
    its own; and nothing but blanks is left out. -/
structure IsReadByLines (frame : String) : Prop where
  written : ∀ messages, FrameHolds frame.toList messages ↔ frameMessages frame = messages
  messages : ∀ m ∈ frameMessages frame, IsMessage m
  leftOut : ConsistsOf frame.toList (frameMessages frame)

theorem isReadByLines (frame : String) : IsReadByLines frame := by
  have hholds := frameMessages_eq_iff.mp (rfl : frameMessages frame = frameMessages frame)
  exact ⟨fun _ => frameMessages_eq_iff.symm, hholds.isMessage, hholds.consistsOf⟩

example : frameMessages "\u2003a\n\r\n  b \r c  \r\n" = ["a", "b \r c"] := by decide

end TrustReplica
