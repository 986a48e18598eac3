import Mathlib.Tactic
import TrustReplica.Text.Split

/-! Texts that are cut at a separator. Cutting and joining undo each other (`splitOn_joinWith`,
    `joinWith_splitOn`), so a text is cut into the segments that it joins if none has the separator in it, and
    into no others (`pieces_eq_iff`). Of a text that is cut once, the first part has no separator and is where
    the text begins. -/

namespace TrustReplica.Text

variable {sep : Char} {piece cs : List Char} {parts : List (List Char)}

/-! ### Cutting and joining -/

theorem splitOn_of_not_mem (h : sep ∉ piece) : splitOn sep piece = [piece] := by
  induction piece with
  | nil => rfl
  | cons c piece ih =>
    obtain ⟨hc, hrest⟩ := not_or.mp (List.mem_cons.not.mp h)
    rw [splitOn, if_neg (Ne.symm hc), ih hrest, consPiece]

/-- What stands before a separator is the first piece. -/
theorem splitOn_append (h : sep ∉ piece) (rest : List Char) :
    splitOn sep (piece ++ sep :: rest) = piece :: splitOn sep rest := by
  induction piece with
  | nil => rw [List.nil_append, splitOn, if_pos rfl]
  | cons c piece ih =>
    obtain ⟨hc, hrest⟩ := not_or.mp (List.mem_cons.not.mp h)
    rw [List.cons_append, splitOn, if_neg (Ne.symm hc), ih hrest, consPiece]

theorem splitOn_ne_nil (sep : Char) (cs : List Char) : splitOn sep cs ≠ [] := by
  cases cs with
  | nil => exact List.cons_ne_nil _ _
  | cons c cs =>
    rw [splitOn]
    split_ifs
    · exact List.cons_ne_nil _ _
    · cases splitOn sep cs <;> exact List.cons_ne_nil _ _

theorem joinWith_cons_cons (sep : Char) (first second : List Char) (rest : List (List Char)) :
    joinWith sep (first :: second :: rest) = first ++ sep :: joinWith sep (second :: rest) := by
  rw [joinWith]
  exact List.cons_ne_nil _ _

theorem joinWith_nil_cons (sep : Char) (h : parts ≠ []) :
    joinWith sep ([] :: parts) = sep :: joinWith sep parts := by
  rw [joinWith, List.nil_append]
  exact h

/-- Joining the pieces gives back what was cut. -/
theorem joinWith_splitOn (sep : Char) (cs : List Char) : joinWith sep (splitOn sep cs) = cs := by
  induction cs with
  | nil => rfl
  | cons c cs ih =>
    rw [splitOn]
    cases hpieces : splitOn sep cs with
    | nil => exact absurd hpieces (splitOn_ne_nil sep cs)
    | cons piece rest =>
      rw [hpieces] at ih
      split_ifs with hc
      · rw [joinWith_nil_cons _ (List.cons_ne_nil _ _), ih, hc]
      · rw [consPiece]
        cases rest with
        | nil => exact congrArg (c :: ·) ih
        | cons piece' rest => exact congrArg (c :: ·) ih

theorem not_mem_of_mem_splitOn (h : piece ∈ splitOn sep cs) : sep ∉ piece := by
  induction cs generalizing piece with
  | nil =>
    obtain rfl := List.mem_singleton.mp h
    exact List.not_mem_nil
  | cons c cs ih =>
    rw [splitOn] at h
    split_ifs at h with hc
    · rcases List.mem_cons.mp h with rfl | h
      · exact List.not_mem_nil
      · exact ih h
    · cases hpieces : splitOn sep cs with
      | nil => exact absurd hpieces (splitOn_ne_nil sep cs)
      | cons first rest =>
        rw [hpieces, consPiece] at h
        rw [hpieces] at ih
        rcases List.mem_cons.mp h with rfl | h
        · have hfirst := ih (List.mem_cons_self ..)
          exact fun hmem => (List.mem_cons.mp hmem).elim (fun heq => hc heq.symm) hfirst
        · exact ih (List.mem_cons_of_mem _ h)

/-- Cutting gives back the pieces that were joined, if none of them has the separator in it. -/
theorem splitOn_joinWith (hne : parts ≠ []) (h : ∀ piece ∈ parts, sep ∉ piece) :
    splitOn sep (joinWith sep parts) = parts := by
  induction parts with
  | nil => exact absurd rfl hne
  | cons first rest ih =>
    obtain ⟨hfirst, hrest⟩ := List.forall_mem_cons.mp h
    cases rest with
    | nil => exact splitOn_of_not_mem hfirst
    | cons second rest =>
      rw [joinWith_cons_cons, splitOn_append hfirst, ih (List.cons_ne_nil _ _) hrest]

/-- A text is cut into the segments that it joins. -/
theorem pieces_of_toList {s : String} {segments : List String} (hne : segments ≠ [])
    (hs : s.toList = joinWith sep (segments.map String.toList))
    (h : ∀ segment ∈ segments, sep ∉ segment.toList) : pieces sep s = segments := by
  have hmaps : segments.map String.toList ≠ [] := fun hmap => hne (List.map_eq_nil_iff.mp hmap)
  rw [pieces, hs, splitOn_joinWith hmaps (List.forall_mem_map.mpr h), List.map_map]
  simp

theorem joinWith_eq_intercalate (sep : Char) (parts : List (List Char)) :
    joinWith sep parts = [sep].intercalate parts := by
  induction parts with
  | nil => simp [joinWith]
  | cons first rest ih =>
    cases rest with
    | nil => simp [joinWith]
    | cons second rest =>
      rw [joinWith_cons_cons, ih, List.intercalate_cons_cons]
      simp

/-- A text is cut into no other segments than those that it joins. -/
theorem pieces_eq_iff {s : String} {segments : List String} : pieces sep s = segments ↔
    segments ≠ [] ∧ s = (String.singleton sep).intercalate segments ∧
      ∀ segment ∈ segments, sep ∉ segment.toList := by
  have hjoined : s = (String.singleton sep).intercalate segments ↔
      s.toList = joinWith sep (segments.map String.toList) := by
    rw [joinWith_eq_intercalate, ← String.toList_inj, String.toList_intercalate, String.toList_singleton]
  rw [hjoined]
  constructor
  · intro h
    subst h
    have hlists : (pieces sep s).map String.toList = splitOn sep s.toList := by simp [pieces]
    refine ⟨?_, ?_, ?_⟩
    · intro hnil
      simp [pieces, splitOn_ne_nil] at hnil
    · rw [hlists, joinWith_splitOn]
    · intro segment hsegment
      have hmem := List.mem_map_of_mem (f := String.toList) hsegment
      rw [hlists] at hmem
      exact not_mem_of_mem_splitOn hmem
  · rintro ⟨hne, hs, hsep⟩
    exact pieces_of_toList hne hs hsep

/-! ### Characters of joined pieces -/

theorem mem_joinWith {c : Char} (h : c ∈ joinWith sep parts) : c = sep ∨ ∃ piece ∈ parts, c ∈ piece := by
  induction parts with
  | nil => exact absurd h List.not_mem_nil
  | cons first rest ih =>
    cases rest with
    | nil => exact Or.inr ⟨first, List.mem_cons_self .., h⟩
    | cons second rest =>
      rw [joinWith_cons_cons, List.mem_append, List.mem_cons] at h
      rcases h with h | h | h
      · exact Or.inr ⟨first, List.mem_cons_self .., h⟩
      · exact Or.inl h
      · rcases ih h with rfl | ⟨piece, hpiece, hc⟩
        · exact Or.inl rfl
        · exact Or.inr ⟨piece, List.mem_cons_of_mem _ hpiece, hc⟩

theorem subset_joinWith (h : piece ∈ parts) : piece ⊆ joinWith sep parts := by
  induction parts with
  | nil => exact absurd h List.not_mem_nil
  | cons first rest ih =>
    cases rest with
    | nil =>
      obtain rfl := List.mem_singleton.mp h
      exact List.Subset.refl _
    | cons second rest =>
      rw [joinWith_cons_cons]
      rcases List.mem_cons.mp h with rfl | h
      · exact List.subset_append_left _ _
      · exact List.subset_append_of_subset_right _ (List.subset_cons_of_subset _ (ih h))

/-! ### Cutting once -/

theorem cutAt_of_not_mem (h : sep ∉ cs) : cutAt sep cs = (cs, none) := by
  induction cs with
  | nil => rfl
  | cons c cs ih =>
    obtain ⟨hc, hrest⟩ := not_or.mp (List.mem_cons.not.mp h)
    rw [cutAt, if_neg (Ne.symm hc), ih hrest]

theorem isPrefix_cutAt (sep : Char) (cs : List Char) : (cutAt sep cs).1 <+: cs := by
  induction cs with
  | nil => exact List.nil_prefix
  | cons c cs ih =>
    rw [cutAt]
    split_ifs
    · exact List.nil_prefix
    · exact (List.prefix_cons_inj c).mpr ih

theorem not_mem_cutAt (sep : Char) (cs : List Char) : sep ∉ (cutAt sep cs).1 := by
  induction cs with
  | nil => exact List.not_mem_nil
  | cons c cs ih =>
    rw [cutAt]
    split_ifs with hc
    · exact List.not_mem_nil
    · intro hmem
      rcases List.mem_cons.mp hmem with heq | hmem
      · exact hc heq.symm
      · exact ih hmem

/-! ### Beginnings -/

/-- What stands before a separator is a part of what stands before the last one. -/
theorem isPrefix_of_append_sep {xs ys v w : List Char} (h : xs ++ sep :: v <+: ys ++ sep :: w)
    (hw : sep ∉ w) : xs <+: ys := by
  have hxs : xs <+: ys ++ sep :: w := (List.prefix_append _ _).trans h
  rcases List.prefix_or_prefix_of_prefix hxs (List.prefix_append _ _) with hle | ⟨r, rfl⟩
  · exact hle
  · rw [List.append_assoc, List.prefix_append_right_inj] at h
    cases r with
    | nil => rw [List.append_nil]
    | cons c r =>
      have hrest : r ++ sep :: v <+: w := (List.cons_prefix_cons.mp h).2
      exact absurd (hrest.subset (List.mem_append_right _ (List.mem_cons_self ..))) hw

/-- A part of a text that is not shorter is all of it. -/
theorem eq_of_isPrefix_toList {x y : String} (h : x.toList <+: y.toList)
    (hle : y.utf8ByteSize ≤ x.utf8ByteSize) : x = y := by
  obtain ⟨r, hr⟩ := h
  have hy : y = x ++ String.ofList r := by
    rw [← String.toList_inj, String.toList_append, String.toList_ofList, hr]
  rw [hy, String.utf8ByteSize_append] at hle
  have hempty : String.ofList r = "" := String.utf8ByteSize_eq_zero_iff.mp (by omega)
  rw [hy, hempty, String.append_empty]

end TrustReplica.Text
