import TrustReplica.Identifier
import TrustReplica.Proofs.Splitting

/-! Identifiers and what they name. Cutting at a separator undoes joining, so a canonical identifier of fields
    without slashes has just these fields for segments (`segments_canonical`), and names them if none is empty
    (`IsCanonical.identity`). Any other identifier is told by its segments too: four of them are the fields
    (`fields_of_identity`), the first that is missing is reported (`identity_of_isLeast`), and an identifier is
    the canonical one of its fields just if it is two slashes and four segments (`canonical_eq_iff`). -/

namespace TrustReplica

/-- The fields of an identity in the order in which an identifier has them. -/
def Identity.fields (named : Identity) : List String :=
  [named.application, named.session.text, named.template, named.id]

namespace TmiId

/-- A text that can be a field of a full identifier. -/
structure IsField (s : String) : Prop where
  nonempty : s ≠ ""
  noSlash : '/' ∉ s.toList

/-- A full identifier is the canonical one of some fields. -/
structure IsCanonical (f : TmiId) (identity : Identity) : Prop where
  application : IsField identity.application
  session : IsField identity.session.text
  template : IsField identity.template
  id : IsField identity.id
  eq : f = canonical identity.application identity.session.text identity.template identity.id

theorem segments_canonical {application session template id : String}
    (ha : '/' ∉ application.toList) (hs : '/' ∉ session.toList) (ht : '/' ∉ template.toList)
    (hi : '/' ∉ id.toList) :
    (canonical application session template id).segments =
      ["", "", application, session, template, id] := by
  refine Text.pieces_of_toList (List.cons_ne_nil _ _) ?_ ?_
  · simp [canonical, Text.joinWith, String.toList_append]
  · simp [ha, hs, ht, hi]

variable {f : TmiId} {named : Identity}

theorem IsCanonical.segments (h : f.IsCanonical named) : f.segments =
    ["", "", named.application, named.session.text, named.template, named.id] := by
  rw [h.eq]
  exact segments_canonical h.application.noSlash h.session.noSlash h.template.noSlash h.id.noSlash

theorem IsCanonical.application? (h : f.IsCanonical named) :
    f.application? = some named.application := by
  rw [TmiId.application?, h.segments]; rfl

theorem IsCanonical.session? (h : f.IsCanonical named) : f.session? = some named.session := by
  rw [TmiId.session?, h.segments]; rfl

theorem requiredField_of_isField {index : Nat} {s : String} (hs : IsField s)
    (h : f.segments[index]? = some s) : f.requiredField index = .ok s := by
  rw [requiredField, h]
  exact if_neg fun he => hs.nonempty (String.isEmpty_iff.mp he)

/-- A canonical identifier names the fields that it is made of. -/
theorem IsCanonical.identity (h : f.IsCanonical named) : f.identity = .ok named := by
  rw [TmiId.identity, requiredField_of_isField h.application (by rw [h.segments]; rfl),
    requiredField_of_isField h.session (by rw [h.segments]; rfl),
    requiredField_of_isField h.template (by rw [h.segments]; rfl),
    requiredField_of_isField h.id (by rw [h.segments]; rfl)]
  rfl

/-! ### Any identifier -/

/-- A segment of an identifier is there and not empty. -/
def HasField (f : TmiId) (index : Nat) : Prop := ∃ s, f.segments[index]? = some s ∧ s ≠ ""

/-- The positions at which an identifier has no field, though it should. -/
def lacking (f : TmiId) : Set Nat := {index ∈ Set.Icc 2 5 | ¬f.HasField index}

theorem requiredField_eq_ok_iff {index : Nat} {s : String} :
    f.requiredField index = .ok s ↔ f.segments[index]? = some s ∧ s ≠ "" := by
  unfold requiredField
  cases f.segments[index]? with
  | none => simp
  | some found =>
    dsimp only
    by_cases hempty : found = ""
    · rw [if_pos (String.isEmpty_iff.mpr hempty)]
      simp only [reduceCtorEq, Option.some.injEq, false_iff]
      rintro ⟨rfl, hne⟩
      exact hne hempty
    · simp only [String.isEmpty_iff, hempty, if_false, Except.ok.injEq, Option.some.injEq, iff_self_and]
      rintro rfl
      exact hempty

theorem requiredField_of_not_hasField {index : Nat} (h : ¬f.HasField index) :
    f.requiredField index = .error ⟨f.text, index⟩ := by
  rw [requiredField]
  split
  · next s hs =>
    refine if_pos (String.isEmpty_iff.mpr ?_)
    by_contra hne
    exact h ⟨s, hs, hne⟩
  · rfl

theorem HasField.exists_requiredField {index : Nat} (h : f.HasField index) :
    ∃ s, f.requiredField index = .ok s := by
  obtain ⟨s, hs⟩ := h
  exact ⟨s, requiredField_eq_ok_iff.mpr hs⟩

/-- An identifier has the fields that it names at their places, and each of them can be a field. -/
theorem fields_of_identity (h : f.identity = .ok named) :
    (∀ k < 4, f.segments[k + 2]? = named.fields[k]?) ∧ ∀ field ∈ named.fields, IsField field := by
  have hfound {index : Nat} {s : String} (hs : f.requiredField index = .ok s) :
      f.segments[index]? = some s ∧ IsField s := by
    obtain ⟨hsegment, hne⟩ := requiredField_eq_ok_iff.mp hs
    obtain ⟨-, -, hslash⟩ := Text.pieces_eq_iff.mp (rfl : Text.pieces '/' f.text = f.segments)
    exact ⟨hsegment, hne, hslash s (List.mem_of_getElem? hsegment)⟩
  rw [identity] at h
  rcases ha : f.requiredField applicationField with e | a
  · simp [ha, bind, Except.bind] at h
  rcases hs : f.requiredField sessionField with e | s
  · simp [ha, hs, bind, Except.bind] at h
  rcases ht : f.requiredField templateField with e | t
  · simp [ha, hs, ht, bind, Except.bind] at h
  rcases hi : f.requiredField idField with e | i
  · simp [ha, hs, ht, hi, bind, Except.bind] at h
  simp only [ha, hs, ht, hi, bind, Except.bind, pure, Except.pure, Except.ok.injEq] at h
  subst h
  obtain ⟨ha, hfield_a⟩ := hfound ha
  obtain ⟨hs, hfield_s⟩ := hfound hs
  obtain ⟨ht, hfield_t⟩ := hfound ht
  obtain ⟨hi, hfield_i⟩ := hfound hi
  refine ⟨?_, by simp [Identity.fields, hfield_a, hfield_s, hfield_t, hfield_i]⟩
  intro k hk
  interval_cases k
  · exact ha
  · exact hs
  · exact ht
  · exact hi

/-- An identifier with all four fields names an identity. -/
theorem exists_identity (h : ∀ index ∈ Set.Icc 2 5, f.HasField index) : ∃ named, f.identity = .ok named := by
  obtain ⟨a, ha⟩ := (h 2 (by simp)).exists_requiredField
  obtain ⟨s, hs⟩ := (h 3 (by simp)).exists_requiredField
  obtain ⟨t, ht⟩ := (h 4 (by simp)).exists_requiredField
  obtain ⟨i, hi⟩ := (h 5 (by simp)).exists_requiredField
  refine ⟨⟨a, ⟨s⟩, t, i⟩, ?_⟩
  simp only [identity, applicationField, sessionField, templateField, idField, ha, hs, ht, hi]
  rfl

/-- The field that is reported missing is the first one. -/
theorem identity_of_isLeast {index : Nat} (h : IsLeast f.lacking index) :
    f.identity = .error ⟨f.text, index⟩ := by
  obtain ⟨⟨⟨hlow, hhigh⟩, hnone⟩, hleast⟩ := h
  -- the fields before the first that is missing are there
  have hbefore (before : Nat) (hfrom : 2 ≤ before) (hlt : before < index) :
      ∃ s, f.requiredField before = .ok s := by
    by_contra habsent
    have hmem : before ∈ f.lacking :=
      ⟨⟨hfrom, by omega⟩, fun hfield => habsent hfield.exists_requiredField⟩
    have := hleast hmem
    omega
  have herror := requiredField_of_not_hasField hnone
  simp only [identity, applicationField, sessionField, templateField, idField]
  interval_cases index
  · rw [herror]
    rfl
  · obtain ⟨a, ha⟩ := hbefore 2 (by omega) (by omega)
    rw [ha, herror]
    rfl
  · obtain ⟨a, ha⟩ := hbefore 2 (by omega) (by omega)
    obtain ⟨s, hs⟩ := hbefore 3 (by omega) (by omega)
    rw [ha, hs, herror]
    rfl
  · obtain ⟨a, ha⟩ := hbefore 2 (by omega) (by omega)
    obtain ⟨s, hs⟩ := hbefore 3 (by omega) (by omega)
    obtain ⟨t, ht⟩ := hbefore 4 (by omega) (by omega)
    rw [ha, hs, ht, herror]
    rfl

/-- An identifier lacks a first field unless it has all of them. -/
theorem exists_isLeast_lacking (h : ¬∀ index ∈ Set.Icc 2 5, f.HasField index) :
    ∃ index, IsLeast f.lacking index := by
  classical
  push Not at h
  obtain ⟨index, hrange, hnone⟩ := h
  have hlacking : ∃ index, index ∈ f.lacking := ⟨index, hrange, hnone⟩
  exact ⟨Nat.find hlacking, Nat.isLeast_find hlacking⟩

/-- An identifier is told by its segments. -/
theorem ext_segments {f g : TmiId} (h : f.segments = g.segments) : f = g := by
  obtain ⟨-, hf, -⟩ := Text.pieces_eq_iff.mp h
  obtain ⟨-, hg, -⟩ := Text.pieces_eq_iff.mp (rfl : Text.pieces '/' g.text = g.segments)
  cases f
  cases g
  exact congrArg TmiId.mk (hf.trans hg.symm)

/-- The fields that an identifier names make it up just if it is two slashes and four segments. -/
theorem canonical_eq_iff (h : f.identity = .ok named) :
    canonical named.application named.session.text named.template named.id = f ↔
      "//".toList <+: f.text.toList ∧ f.segments.length = 6 := by
  obtain ⟨hsegments, hfields⟩ := fields_of_identity h
  simp only [Identity.fields, List.forall_mem_cons] at hfields
  obtain ⟨ha, hs, ht, hi, -⟩ := hfields
  constructor
  · intro heq
    have hsix := segments_canonical ha.noSlash hs.noSlash ht.noSlash hi.noSlash
    rw [heq] at hsix
    refine ⟨?_, by simp [hsix]⟩
    rw [← heq, canonical]
    simp [String.toList_append]
  · rintro ⟨⟨rest, hrest⟩, hlength⟩
    have hslashes : f.segments = "" :: "" :: (Text.splitOn '/' rest).map String.ofList := by
      rw [segments, Text.pieces, ← hrest]
      rfl
    obtain ⟨a, s, t, i, hfour⟩ : ∃ a s t i, (Text.splitOn '/' rest).map String.ofList = [a, s, t, i] := by
      rw [← List.length_eq_four]
      simpa [hslashes] using hlength
    rw [hfour] at hslashes
    have hnamed : [a, s, t, i] = named.fields := by
      refine List.ext_getElem? fun k => ?_
      by_cases hk : k < 4
      · rw [← hsegments k hk, hslashes]
        rfl
      · rw [List.getElem?_eq_none (by simpa using hk),
          List.getElem?_eq_none (by simpa [Identity.fields] using hk)]
    simp only [Identity.fields, List.cons.injEq, and_true] at hnamed
    obtain ⟨rfl, rfl, rfl, rfl⟩ := hnamed
    refine ext_segments ?_
    rw [segments_canonical ha.noSlash hs.noSlash ht.noSlash hi.noSlash, hslashes]

/-! ### Splitting and building -/

/-- What an identifier names is told by its segments. -/
structure IsSplit (f : TmiId) : Prop where
  /-- The segments are the only texts without slashes that make up the identifier with slashes between. -/
  segments : ∀ parts, f.segments = parts ↔
    parts ≠ [] ∧ f.text = "/".intercalate parts ∧ ∀ part ∈ parts, '/' ∉ part.toList
  named : (∃ named, f.identity = .ok named) ↔ ∀ index ∈ Set.Icc 2 5, f.HasField index
  /-- It is the first of the missing fields that is reported. -/
  missing : ∀ e, f.identity = .error e ↔ e.raw = f.text ∧ IsLeast f.lacking e.field
  fields : ∀ named, f.identity = .ok named →
    (∀ k < 4, f.segments[k + 2]? = named.fields[k]?) ∧ ∀ field ∈ named.fields, IsField field
  accessors : ∀ named, f.identity = .ok named →
    f.application? = some named.application ∧ f.session? = some named.session
  rebuilt : ∀ named, f.identity = .ok named →
    (canonical named.application named.session.text named.template named.id = f ↔
      "//".toList <+: f.text.toList ∧ f.segments.length = 6)

theorem isSplit (f : TmiId) : f.IsSplit where
  segments := fun parts => Text.pieces_eq_iff
  named := by
    constructor
    · rintro ⟨named, hnamed⟩
      by_contra hlacking
      obtain ⟨index, hleast⟩ := exists_isLeast_lacking hlacking
      rw [identity_of_isLeast hleast] at hnamed
      cases hnamed
    · exact exists_identity
  missing := by
    intro e
    constructor
    · intro herror
      have hlacking : ¬∀ index ∈ Set.Icc 2 5, f.HasField index := by
        intro hall
        obtain ⟨named, hnamed⟩ := exists_identity hall
        rw [hnamed] at herror
        cases herror
      obtain ⟨index, hleast⟩ := exists_isLeast_lacking hlacking
      rw [identity_of_isLeast hleast] at herror
      cases herror
      exact ⟨rfl, hleast⟩
    · rintro ⟨hraw, hleast⟩
      rw [identity_of_isLeast hleast, ← hraw]
  fields := fun named h => fields_of_identity h
  accessors := by
    intro named h
    obtain ⟨hsegments, -⟩ := fields_of_identity h
    have happlication := hsegments 0 (by omega)
    have hsession := hsegments 1 (by omega)
    simp only [Identity.fields] at happlication hsession
    exact ⟨happlication, by rw [session?, sessionField, hsession]; rfl⟩
  rebuilt := fun named h => canonical_eq_iff h

/-- Splitting an identifier gives back the fields that it was built from, so no two quadruples of fields
    build the same one; and every identifier names just what its segments say. -/
theorem identity_canonical_and_isSplit :
    (∀ a s t i, (∀ field ∈ [a, s, t, i], IsField field) →
      (canonical a s t i).identity = .ok ⟨a, ⟨s⟩, t, i⟩ ∧
      ∀ a' s' t' i', (∀ field ∈ [a', s', t', i'], IsField field) →
        canonical a s t i = canonical a' s' t' i' → [a, s, t, i] = [a', s', t', i']) ∧
    ∀ f : TmiId, f.IsSplit := by
  have hnamed {a s t i : String} (h : ∀ field ∈ [a, s, t, i], IsField field) :
      (canonical a s t i).IsCanonical ⟨a, ⟨s⟩, t, i⟩ := by
    simp only [List.forall_mem_cons] at h
    obtain ⟨ha, hs, ht, hi, -⟩ := h
    exact ⟨ha, hs, ht, hi, rfl⟩
  refine ⟨?_, isSplit⟩
  intro a s t i h
  refine ⟨(hnamed h).identity, ?_⟩
  intro a' s' t' i' h' heq
  have hsegments := (hnamed h).segments
  rw [heq, (hnamed h').segments] at hsegments
  simpa [eq_comm] using hsegments

/-- Four fields are split again, an identifier of another scheme names fields that do not make it up, and one
    that ends early lacks its template. -/
theorem identity_ofBuilt_ofOtherScheme_ofShort :
    (canonical "app" "sess1" "tmpl" "abc").identity = .ok ⟨"app", ⟨"sess1"⟩, "tmpl", "abc"⟩ ∧
    (⟨"tmi:/x/a/s/t/i"⟩ : TmiId).identity = .ok ⟨"a", ⟨"s"⟩, "t", "i"⟩ ∧
    canonical "a" "s" "t" "i" ≠ ⟨"tmi:/x/a/s/t/i"⟩ ∧
    (⟨"//app/sess1"⟩ : TmiId).identity = .error ⟨"//app/sess1", 4⟩ := by
  obtain ⟨hbuilt, hsplit⟩ := identity_canonical_and_isSplit
  have hfields : ∀ field ∈ ["app", "sess1", "tmpl", "abc"], IsField field := by
    simp only [List.forall_mem_cons]
    exact ⟨⟨by decide, by decide⟩, ⟨by decide, by decide⟩, ⟨by decide, by decide⟩,
      ⟨by decide, by decide⟩, by simp⟩
  have hother : (⟨"tmi:/x/a/s/t/i"⟩ : TmiId).identity = .ok ⟨"a", ⟨"s"⟩, "t", "i"⟩ := by decide
  refine ⟨(hbuilt _ _ _ _ hfields).1, hother, ?_, ?_⟩
  · intro heq
    have hslashes := (((hsplit _).rebuilt _ hother).mp heq).1
    exact absurd hslashes (by decide)
  · have hsegments : (⟨"//app/sess1"⟩ : TmiId).segments = ["", "", "app", "sess1"] := by decide
    refine ((hsplit _).missing _).mpr ⟨rfl, ⟨by simp, ?_⟩, ?_⟩
    · rintro ⟨s, hs, -⟩
      simp [hsegments] at hs
    · rintro index ⟨⟨hlow, hhigh⟩, hnone⟩
      by_contra hle
      have hlt : index < 4 := not_le.mp hle
      have hrange : index = 2 ∨ index = 3 := by omega
      rcases hrange with rfl | rfl
      · exact hnone ⟨"app", by rw [hsegments]; rfl, by decide⟩
      · exact hnone ⟨"sess1", by rw [hsegments]; rfl, by decide⟩

end TmiId

end TrustReplica
