import TrustReplica.Json.Merge
import TrustReplica.Proofs.RoundTrip

/-! Members of objects by name. Putting in a member changes the look-up of its name alone and keeps names in
    ascending order, so every value that is read from a text is canonical (`Json.canonical_of_parse`). In a
    canonical value no name stands twice, and merging one object over another is told by its look-ups: a
    member that is missing or null leaves the target alone, any other is merged over the one of its name
    (`Json.lookup_mergeMembers`). -/

namespace TrustReplica

/-- What a computation needs that succeeds: its first step succeeds, and so does the rest with what that
    step gave. -/
theorem exists_ok_of_bind {ε α β : Type} {x : Except ε α} {f : α → Except ε β} {b : β}
    (h : x >>= f = .ok b) : ∃ a, x = .ok a ∧ f a = .ok b := by
  cases x with
  | error e => exact absurd h (by simp [bind, Except.bind])
  | ok a => exact ⟨a, rfl, h⟩

namespace Json

variable {members source : List (String × Json)} {name key : String} {value : Json}

/-! ### One member more -/

theorem lookup_insertMember (name key : String) (value : Json) (members : List (String × Json)) :
    lookup name (insertMember key value members) =
      if key = name then some value else lookup name members := by
  induction members with
  | nil => rw [insertMember, lookup_cons]
  | cons m rest ih =>
    obtain ⟨k, v⟩ := m
    by_cases heq : key = k
    · rw [insertMember, if_pos heq, lookup_cons, lookup_cons, ← heq]
      split_ifs <;> rfl
    · by_cases hlt : key < k
      · rw [insertMember, if_neg heq, if_pos hlt, lookup_cons]
      · rw [insertMember, if_neg heq, if_neg hlt, lookup_cons, lookup_cons, ih]
        by_cases hname : key = name
        · subst hname
          rw [if_neg (Ne.symm heq), if_pos rfl, if_pos rfl]
        · rw [if_neg hname, if_neg hname]

theorem mem_of_mem_insertMember {m : String × Json} (h : m ∈ insertMember key value members) :
    m = (key, value) ∨ m ∈ members := by
  induction members with
  | nil => exact Or.inl (List.mem_singleton.mp h)
  | cons m' rest ih =>
    rw [insertMember] at h
    split_ifs at h
    · exact (List.mem_cons.mp h).imp_right (List.mem_cons_of_mem _)
    · exact List.mem_cons.mp h
    · rcases List.mem_cons.mp h with rfl | h
      · exact Or.inr (List.mem_cons_self ..)
      · exact (ih h).imp_right (List.mem_cons_of_mem _)

/-- The names of members ascend. -/
def Ascends (members : List (String × Json)) : Prop := members.Pairwise fun m m' => m.1 < m'.1

theorem Ascends.insertMember (h : Ascends members) (key : String) (value : Json) :
    Ascends (insertMember key value members) := by
  induction members with
  | nil => exact List.pairwise_singleton _ _
  | cons m rest ih =>
    obtain ⟨hfirst, hrest⟩ := List.pairwise_cons.mp h
    rw [Json.insertMember]
    split_ifs with heq hlt
    · exact List.pairwise_cons.mpr ⟨fun m' hm' => heq ▸ hfirst m' hm', hrest⟩
    · refine List.pairwise_cons.mpr ⟨List.forall_mem_cons.mpr ⟨hlt, fun m' hm' => ?_⟩, h⟩
      exact lt_trans hlt (hfirst m' hm')
    · refine List.pairwise_cons.mpr ⟨fun m' hm' => ?_, ih hrest⟩
      rcases mem_of_mem_insertMember hm' with rfl | hm'
      · exact lt_of_le_of_ne (not_lt.mp hlt) (Ne.symm heq)
      · exact hfirst m' hm'

/-- A member whose name comes after all others is put at the end. -/
theorem insertMember_of_forall_lt (h : ∀ m ∈ members, m.1 < key) (value : Json) :
    insertMember key value members = members ++ [(key, value)] := by
  induction members with
  | nil => rfl
  | cons m rest ih =>
    obtain ⟨hm, hrest⟩ := List.forall_mem_cons.mp h
    rw [insertMember, if_neg hm.ne', if_neg hm.not_gt, ih hrest, List.cons_append]

theorem lookup_of_forall_ne (h : ∀ m ∈ members, m.1 ≠ name) : lookup name members = none := by
  rw [lookup, Option.map_eq_none_iff, List.find?_eq_none]
  exact fun m hm => by simpa using h m hm

/-! ### Values that are read -/

theorem canonicalMembers_iff : CanonicalMembers members ↔ ∀ m ∈ members, m.2.Canonical := by
  induction members with
  | nil => exact iff_of_true trivial fun m hm => absurd hm List.not_mem_nil
  | cons m rest ih => rw [List.forall_mem_cons, ← ih]; rfl

theorem canonical_object : (object members).Canonical ↔ Ascends members ∧ ∀ m ∈ members, m.2.Canonical := by
  rw [Canonical, canonicalMembers_iff, List.pairwise_map]
  rfl

theorem canonical_foldl_insertMember (hmembers : ∀ m ∈ members, m.2.Canonical)
    {acc : List (String × Json)} (hacc : (object acc).Canonical) :
    (object (members.foldl (fun acc m => insertMember m.1 m.2 acc) acc)).Canonical := by
  induction members generalizing acc with
  | nil => exact hacc
  | cons m rest ih =>
    obtain ⟨hm, hrest⟩ := List.forall_mem_cons.mp hmembers
    obtain ⟨hascends, hvalues⟩ := canonical_object.mp hacc
    refine ih hrest (canonical_object.mpr ⟨hascends.insertMember m.1 m.2, fun m' hm' => ?_⟩)
    rcases mem_of_mem_insertMember hm' with rfl | hm'
    · exact hm
    · exact hvalues m' hm'

theorem canonical_ofMembers (h : ∀ m ∈ members, m.2.Canonical) : (ofMembers members).Canonical :=
  canonical_foldl_insertMember h ⟨List.Pairwise.nil, trivial⟩

mutual

theorem canonical_of_read : ∀ {d : Document} {v : Json}, d.read = .ok v → v.Canonical
  | .null, v, h | .flag _, v, h | .number _, v, h | .text _, v, h => by
    rw [Document.read] at h
    cases h
    trivial
  | .array items ending _, v, h => by
    rw [Document.read] at h
    obtain ⟨values, hitems, h⟩ := exists_ok_of_bind h
    cases ending with
    | none => cases h; exact canonicalItems_of_read hitems
    | some f => cases h
  | .object members ending, v, h => by
    rw [Document.read] at h
    obtain ⟨values, hmembers, h⟩ := exists_ok_of_bind h
    cases ending with
    | none => cases h; exact canonical_ofMembers (canonicalMembers_of_read hmembers)
    | some f => cases h
  | .unread f _, v, h => by
    rw [Document.read] at h
    cases h

theorem canonicalItems_of_read : ∀ {items : List Document} {values : List Json},
    readItems items = .ok values → CanonicalItems values
  | [], values, h => by
    rw [readItems] at h
    cases h
    trivial
  | d :: rest, values, h => by
    rw [readItems] at h
    obtain ⟨v, hd, h⟩ := exists_ok_of_bind h
    obtain ⟨vs, hrest, h⟩ := exists_ok_of_bind h
    cases h
    exact ⟨canonical_of_read hd, canonicalItems_of_read hrest⟩

theorem canonicalMembers_of_read : ∀ {members : List (Key × Document)} {values : List (String × Json)},
    readMembers members = .ok values → ∀ m ∈ values, m.2.Canonical
  | [], values, h => by
    rw [readMembers] at h
    cases h
    exact fun m hm => absurd hm List.not_mem_nil
  | (key, d) :: rest, values, h => by
    rw [readMembers] at h
    obtain ⟨name, _, h⟩ := exists_ok_of_bind h
    obtain ⟨v, hd, h⟩ := exists_ok_of_bind h
    obtain ⟨vs, hrest, h⟩ := exists_ok_of_bind h
    cases h
    exact List.forall_mem_cons.mpr ⟨canonical_of_read hd, canonicalMembers_of_read hrest⟩

end

/-- A value that is read from a text is canonical. -/
theorem canonical_of_parse {s : String} {v : Json} (h : parse s = .ok v) : v.Canonical := by
  rw [parse, readWithin] at h
  obtain ⟨w, hread, h⟩ := exists_ok_of_bind h
  obtain rfl : w = v := by
    split at h
    · exact Except.ok.inj h
    · exact absurd h (by simp [throw, throwThe, MonadExceptOf.throw])
  exact canonical_of_read hread

/-! ### Merged members -/

/-- The value of a member that is there and not null. -/
def told? (name : String) (members : List (String × Json)) : Option Json :=
  (lookup name members).filter fun v => !v.isNull

theorem told?_cons (name : String) (m : String × Json) (rest : List (String × Json)) :
    told? name (m :: rest) =
      if m.1 = name then (some m.2).filter fun v => !v.isNull else told? name rest := by
  rw [told?, lookup_cons]
  split_ifs <;> rfl

theorem told?_of_forall_lt (h : ∀ m ∈ members, name < m.1) : told? name members = none := by
  rw [told?, lookup_of_forall_ne fun m hm => (h m hm).ne']
  rfl

theorem mergeOver_object (members source : List (String × Json)) :
    mergeOver (object members) (object source) = object (mergeMembers members source) := by rw [mergeOver]

/-- Merging in one member: a null changes nothing, any other value is put over what stands at its name. -/
theorem mergeMembers_cons (members : List (String × Json)) (m : String × Json) (rest : List (String × Json)) :
    mergeMembers members (m :: rest) =
      mergeMembers (if m.2.isNull then members else
        insertMember m.1 ((lookup m.1 members).elim m.2 fun old => mergeOver old m.2) members) rest := by
  rw [mergeMembers]
  split_ifs
  · rfl
  · cases lookup m.1 members <;> rfl

/-- What stands at a name after merging: what the source tells, merged over what stood there before. -/
theorem lookup_mergeMembers (hascends : Ascends source) (members : List (String × Json)) (name : String) :
    lookup name (mergeMembers members source) =
      (told? name source).elim (lookup name members) fun v =>
        some ((lookup name members).elim v fun old => mergeOver old v) := by
  induction source generalizing members with
  | nil => rw [mergeMembers]; rfl
  | cons m rest ih =>
    obtain ⟨key, value⟩ := m
    obtain ⟨hfirst, hrest⟩ := List.pairwise_cons.mp hascends
    rw [mergeMembers_cons, ih hrest, told?_cons]
    by_cases hname : key = name
    · subst hname
      rw [told?_of_forall_lt hfirst, if_pos rfl]
      cases hnull : value.isNull with
      | true => simp [Option.filter, hnull]
      | false => simp [Option.filter, hnull, lookup_insertMember]
    · rw [if_neg hname]
      split_ifs
      · rfl
      · rw [lookup_insertMember, if_neg hname]

/-- Members whose names come after all others are put behind them, but for those that are null. -/
theorem mergeMembers_of_ascends (h : Ascends (members ++ source)) :
    mergeMembers members source = members ++ source.filter fun m => !m.2.isNull := by
  induction source generalizing members with
  | nil => rw [mergeMembers, List.filter_nil, List.append_nil]
  | cons m rest ih =>
    obtain ⟨key, value⟩ := m
    obtain ⟨hmembers, hsource, hacross⟩ := List.pairwise_append.mp h
    obtain ⟨hfirst, hrest⟩ := List.pairwise_cons.mp hsource
    have hlt : ∀ m ∈ members, m.1 < key := fun m hm => hacross m hm _ (List.mem_cons_self ..)
    have hnone : lookup key members = none := lookup_of_forall_ne fun m hm => (hlt m hm).ne
    rw [mergeMembers_cons, hnone, Option.elim_none]
    cases hnull : value.isNull with
    | true =>
      rw [if_pos rfl, ih, List.filter_cons_of_neg (by simp [hnull])]
      exact List.pairwise_append.mpr ⟨hmembers, hrest, fun m hm m' hm' =>
        hacross m hm m' (List.mem_cons_of_mem _ hm')⟩
    | false =>
      have happend : members ++ (key, value) :: rest = members ++ [(key, value)] ++ rest := by simp
      rw [if_neg Bool.false_ne_true, insertMember_of_forall_lt hlt, ih (happend ▸ h),
        List.filter_cons_of_pos (by simp [hnull]), List.append_assoc]
      rfl

end Json

end TrustReplica
