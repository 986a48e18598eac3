import TrustReplica.Proofs.JsonMembers

/-! What merging one value over another keeps of the two. A value is seen through the paths of names that lead
    into it (`Json.at?`). As long as both values are objects, a step of a path is one look-up among merged
    members: what the source tells of the name is merged over what the target has there
    (`Json.at?_mergeOver_of_told`), and a name that it is silent on is left alone
    (`Json.at?_mergeOver_of_untold`), so what is found at a path follows by induction on the path. Values in
    which the names ascend are told by their look-ups (`Json.Ascends.ext`), so merging the same value again, or
    a value over itself, changes nothing. -/

namespace TrustReplica.Json

variable {members members' source : List (String × Json)} {name : String} {path : List String}
  {t s v : Json}

/-! ### Paths -/

/-- What is found at a path of names, one object after the other. -/
def at? : List String → Json → Option Json
  | [], v => some v
  | name :: path, v => (v.get? name).bind (at? path)

/-- A value that is no object. -/
def IsLeaf (v : Json) : Prop := ∀ members, v ≠ object members

theorem at?_cons_object (name : String) (path : List String) (members : List (String × Json)) :
    at? (name :: path) (object members) = (lookup name members).bind (at? path) := rfl

/-- Only an object has anything below it. -/
theorem exists_of_at?_cons (h : at? (name :: path) t = some v) :
    ∃ members old, t = object members ∧ lookup name members = some old ∧ at? path old = some v := by
  cases t with
  | object members =>
    obtain ⟨old, hold, hv⟩ := Option.bind_eq_some_iff.mp h
    exact ⟨members, old, rfl, hold, hv⟩
  | null | flag | number | text | array => simp [at?, get?] at h

theorem isLeaf_or_eq_object (v : Json) : v.IsLeaf ∨ ∃ members, v = object members := by
  by_cases h : ∃ members, v = object members
  · exact Or.inr h
  · exact Or.inl fun members heq => h ⟨members, heq⟩

/-- Nothing but null is found where a null is. -/
theorem isNull_eq_false_of_at? (h : at? path t = some v) (hv : v ≠ null) : t.isNull = false := by
  cases t with
  | null =>
    cases path with
    | nil => exact absurd (Option.some_inj.mp h).symm hv
    | cons name path => simp [at?, get?] at h
  | flag | number | text | array | object => rfl

/-! ### Look-ups -/

theorem canonical_of_lookup (h : (object members).Canonical) (hv : lookup name members = some v) :
    v.Canonical := by
  obtain ⟨m, hm, rfl⟩ := Option.map_eq_some_iff.mp hv
  exact (canonical_object.mp h).2 m (List.mem_of_find?_eq_some hm)

theorem told?_eq_some_iff : told? name source = some v ↔ lookup name source = some v ∧ v.isNull = false := by
  simp [told?, Option.filter_eq_some_iff]

theorem told?_eq_none_iff :
    told? name source = none ↔ lookup name source = none ∨ lookup name source = some null := by
  rw [told?]
  cases lookup name source with
  | none => simp
  | some v => cases v <;> simp [Option.filter, isNull]

/-! ### Merging along a path -/

theorem mergeOver_of_isLeaf_source (h : s.IsLeaf) (t : Json) : mergeOver t s = s := by
  cases s with
  | object source => exact absurd rfl (h source)
  | null | flag | number | text | array => rfl

theorem mergeOver_of_isLeaf_target (h : t.IsLeaf) (s : Json) : mergeOver t s = s := by
  cases t with
  | object members => exact absurd rfl (h members)
  | null | flag | number | text | array => cases s <;> rfl

/-- The source takes the place of the target unless both are objects. -/
theorem mergeOver_cases (t s : Json) :
    mergeOver t s = s ∨ ∃ members source, t = object members ∧ s = object source := by
  rcases isLeaf_or_eq_object s with hleaf | ⟨source, rfl⟩
  · exact Or.inl (mergeOver_of_isLeaf_source hleaf t)
  rcases isLeaf_or_eq_object t with hleaf | ⟨members, rfl⟩
  · exact Or.inl (mergeOver_of_isLeaf_target hleaf _)
  · exact Or.inr ⟨members, source, rfl, rfl⟩

/-- What the source tells of a name is merged over what the target has there, or put in its place. -/
theorem at?_mergeOver_of_told (hs : (object source).Canonical) (htold : told? name source = some v)
    (path : List String) : at? (name :: path) (mergeOver (object members) (object source)) =
      at? path ((lookup name members).elim v fun old => mergeOver old v) := by
  rw [mergeOver_object, at?_cons_object, lookup_mergeMembers (canonical_object.mp hs).1, htold]
  rfl

/-- Where the source tells nothing of a name, the target is left alone. -/
theorem at?_mergeOver_of_untold (hs : (object source).Canonical) (hnone : told? name source = none)
    (path : List String) : at? (name :: path) (mergeOver (object members) (object source)) =
      at? (name :: path) (object members) := by
  rw [mergeOver_object, at?_cons_object, lookup_mergeMembers (canonical_object.mp hs).1, hnone]
  rfl

/-- A leaf of the source that is not null is found where it was. -/
theorem at?_mergeOver_of_source (hs : s.Canonical) (h : at? path s = some v) (hnull : v ≠ null)
    (hleaf : v.IsLeaf) (t : Json) : at? path (mergeOver t s) = some v := by
  induction path generalizing t s with
  | nil =>
    obtain rfl := Option.some_inj.mp h
    rw [mergeOver_of_isLeaf_source hleaf]
    rfl
  | cons name path ih =>
    obtain ⟨source, next, rfl, hnext, hrest⟩ := exists_of_at?_cons h
    rcases isLeaf_or_eq_object t with ht | ⟨members, rfl⟩
    · rw [mergeOver_of_isLeaf_target ht, h]
    · have htold := told?_eq_some_iff.mpr ⟨hnext, isNull_eq_false_of_at? hrest hnull⟩
      rw [at?_mergeOver_of_told hs htold]
      cases lookup name members with
      | none => exact hrest
      | some old => exact ih (canonical_of_lookup hs hnext) hrest old

/-- The source is silent on a path: following it ends at a name that is missing or null. -/
def IsSilentOn (s : Json) (path : List String) : Prop :=
  ∃ before name after source, path = before ++ name :: after ∧ at? before s = some (object source) ∧
    (lookup name source = none ∨ lookup name source = some null)

/-- Where the source is silent, everything of the target is found as it was. -/
theorem at?_mergeOver_of_silent (hs : s.Canonical) (h : at? path t = some v) (hsilent : s.IsSilentOn path) :
    at? path (mergeOver t s) = some v := by
  obtain ⟨before, name, after, source, rfl, hsource, hnone⟩ := hsilent
  induction before generalizing t s with
  | nil =>
    obtain rfl := Option.some_inj.mp hsource
    obtain ⟨members, old, rfl, -⟩ := exists_of_at?_cons h
    rw [List.nil_append, at?_mergeOver_of_untold hs (told?_eq_none_iff.mpr hnone)]
    exact h
  | cons first before ih =>
    obtain ⟨source', next, rfl, hnext, hrest⟩ := exists_of_at?_cons hsource
    obtain ⟨members, old, rfl, hold, hv⟩ := exists_of_at?_cons h
    have htold := told?_eq_some_iff.mpr ⟨hnext, isNull_eq_false_of_at? hrest (by simp)⟩
    rw [List.cons_append, at?_mergeOver_of_told hs htold, hold]
    exact ih (canonical_of_lookup hs hnext) hv hrest

/-- Every leaf was a leaf of one of the two at the same path. -/
theorem at?_of_mergeOver (hs : s.Canonical) (h : at? path (mergeOver t s) = some v) (hleaf : v.IsLeaf) :
    at? path s = some v ∨ at? path t = some v := by
  induction path generalizing t s with
  | nil =>
    rcases mergeOver_cases t s with hplace | ⟨members, source, rfl, rfl⟩
    · rw [hplace] at h
      exact Or.inl h
    · rw [mergeOver_object] at h
      exact absurd (Option.some_inj.mp h).symm (hleaf _)
  | cons name path ih =>
    rcases mergeOver_cases t s with hplace | ⟨members, source, rfl, rfl⟩
    · rw [hplace] at h
      exact Or.inl h
    cases htold : told? name source with
    | none =>
      rw [at?_mergeOver_of_untold hs htold] at h
      exact Or.inr h
    | some next =>
      rw [at?_mergeOver_of_told hs htold] at h
      obtain ⟨hnext, -⟩ := told?_eq_some_iff.mp htold
      rw [at?_cons_object, at?_cons_object, hnext]
      cases hold : lookup name members with
      | none =>
        rw [hold] at h
        exact Or.inl h
      | some old =>
        rw [hold] at h
        exact ih (canonical_of_lookup hs hnext) h

/-! ### Merging again -/

theorem Ascends.mergeMembers (h : Ascends members) (source : List (String × Json)) :
    Ascends (mergeMembers members source) := by
  induction source generalizing members with
  | nil =>
    rw [Json.mergeMembers]
    exact h
  | cons m rest ih =>
    rw [mergeMembers_cons]
    split_ifs
    · exact ih h
    · exact ih (h.insertMember _ _)

/-- A member of an ascending list is the one that is looked up by its name. -/
theorem Ascends.mem_iff (h : Ascends members) (m : String × Json) :
    m ∈ members ↔ lookup m.1 members = some m.2 := by
  induction members with
  | nil => simp [lookup]
  | cons first rest ih =>
    obtain ⟨hfirst, hrest⟩ := List.pairwise_cons.mp h
    rw [lookup_cons, List.mem_cons, ih hrest]
    split_ifs with hname
    · have hnone : lookup m.1 rest = none :=
        lookup_of_forall_ne fun m' hm' => hname ▸ (hfirst m' hm').ne'
      simp [hnone, Prod.ext_iff, hname, eq_comm]
    · have hne : m ≠ first := by
        rintro rfl
        exact hname rfl
      simp [hne]

/-- Ascending members are told by their look-ups. -/
theorem Ascends.ext (h : Ascends members) (h' : Ascends members')
    (hlookup : ∀ name, lookup name members = lookup name members') : members = members' := by
  have hnodup {l : List (String × Json)} (hl : Ascends l) : l.Nodup := by
    refine List.Pairwise.imp (fun hlt heq => ?_) hl
    exact absurd (congrArg Prod.fst heq) hlt.ne
  have hperm : members.Perm members' := by
    rw [List.perm_ext_iff_of_nodup (hnodup h) (hnodup h')]
    intro m
    rw [h.mem_iff, h'.mem_iff, hlookup]
  exact hperm.eq_of_pairwise (fun a b _ _ hab hba => absurd hab hba.not_gt) h h'

/-- What holds of every leaf, and of an object if it holds of its members, holds of every value. -/
@[elab_as_elim]
theorem object_induction {motive : Json → Prop} (leaf : ∀ v : Json, v.IsLeaf → motive v)
    (object : ∀ members, (∀ m ∈ members, motive m.2) → motive (object members)) : ∀ v, motive v
  | .object members => object members fun m hm => object_induction leaf object m.2
  | .null => leaf _ (by simp [IsLeaf])
  | .flag b => leaf _ (by simp [IsLeaf])
  | .number n => leaf _ (by simp [IsLeaf])
  | .text s => leaf _ (by simp [IsLeaf])
  | .array items => leaf _ (by simp [IsLeaf])
termination_by v => sizeOf v
decreasing_by
  have hlist := List.sizeOf_lt_of_mem hm
  have hmember : sizeOf m.2 < sizeOf m := by
    cases m
    simp
  simp only [Json.object.sizeOf_spec]
  omega

/-- A value merged over itself is itself. -/
theorem mergeOver_self (h : v.Canonical) : mergeOver v v = v := by
  induction v using object_induction with
  | leaf v hleaf => exact mergeOver_of_isLeaf_source hleaf v
  | object members ih =>
    obtain ⟨hascends, hvalues⟩ := canonical_object.mp h
    rw [mergeOver_object]
    refine congrArg object ((hascends.mergeMembers members).ext hascends fun name => ?_)
    rw [lookup_mergeMembers hascends]
    cases htold : told? name members with
    | none => rfl
    | some w =>
      obtain ⟨hw, -⟩ := told?_eq_some_iff.mp htold
      have hmem := (hascends.mem_iff (name, w)).mpr hw
      rw [hw, Option.elim_some, Option.elim_some, ih _ hmem (hvalues _ hmem)]

/-- Merging the same value over what it was merged over changes nothing. -/
theorem mergeOver_again (ht : t.Canonical) (hs : s.Canonical) :
    mergeOver (mergeOver t s) s = mergeOver t s := by
  induction s using object_induction generalizing t with
  | leaf s hleaf => rw [mergeOver_of_isLeaf_source hleaf, mergeOver_of_isLeaf_source hleaf]
  | object source ih =>
    rcases isLeaf_or_eq_object t with hleaf | ⟨members, rfl⟩
    · rw [mergeOver_of_isLeaf_target hleaf, mergeOver_self hs]
    obtain ⟨hascends, hvalues⟩ := canonical_object.mp hs
    have hmerged := (canonical_object.mp ht).1.mergeMembers source
    rw [mergeOver_object, mergeOver_object]
    refine congrArg object ((hmerged.mergeMembers source).ext hmerged fun name => ?_)
    rw [lookup_mergeMembers hascends, lookup_mergeMembers hascends]
    cases htold : told? name source with
    | none => rfl
    | some w =>
      obtain ⟨hw, -⟩ := told?_eq_some_iff.mp htold
      have hmem := (hascends.mem_iff (name, w)).mpr hw
      cases hold : lookup name members with
      | none => simp [mergeOver_self (hvalues _ hmem)]
      | some old => simp [ih _ hmem (canonical_of_lookup ht hold) (hvalues _ hmem)]

/-! ### What is kept -/

/-- What a value that was merged over another keeps of the two. -/
structure KeepsLeaves (t s : Json) : Prop where
  /-- A leaf of the source that is not null is found where it was. -/
  source : ∀ path v, s.at? path = some v → v ≠ null → v.IsLeaf → (mergeOver t s).at? path = some v
  /-- Where the source is silent, everything of the target is found as it was. -/
  target : ∀ path v, t.at? path = some v → s.IsSilentOn path → (mergeOver t s).at? path = some v
  /-- There are no other leaves than those of the two. -/
  leaves : ∀ path v, (mergeOver t s).at? path = some v → v.IsLeaf →
    s.at? path = some v ∨ t.at? path = some v
  again : mergeOver (mergeOver t s) s = mergeOver t s

/-- Merging keeps the leaves of the source and what the source is silent on, adds nothing to them, and has
    nothing left to do once it is done. -/
theorem keepsLeaves_and_mergeOver_self (t s : Json) (ht : t.Canonical) (hs : s.Canonical) :
    KeepsLeaves t s ∧ mergeOver t t = t where
  left := {
    source := fun _ _ h hnull hleaf => at?_mergeOver_of_source hs h hnull hleaf t
    target := fun _ _ h hsilent => at?_mergeOver_of_silent hs h hsilent
    leaves := fun _ _ h hleaf => at?_of_mergeOver hs h hleaf
    again := mergeOver_again ht hs }
  right := mergeOver_self ht

/-- A server with a host and a port. -/
def hostAndPort : Json := object [("server", object [("host", text "h"), ("port", natural 1)])]

/-- A server with another port and without a host. -/
def portWithoutHost : Json := object [("server", object [("host", null), ("port", natural 2)])]

/-- The port is the one of the source, and the host stays, since the source has a null there. -/
theorem keepsLeaves_portWithoutHost : hostAndPort.Canonical ∧ portWithoutHost.Canonical ∧
    (mergeOver hostAndPort portWithoutHost).at? ["server", "port"] = some (natural 2) ∧
    (mergeOver hostAndPort portWithoutHost).at? ["server", "host"] = some (text "h") ∧
    mergeOver (mergeOver hostAndPort portWithoutHost) portWithoutHost =
      mergeOver hostAndPort portWithoutHost := by
  have ht : hostAndPort.Canonical := by
    simp only [hostAndPort, Canonical, CanonicalMembers, natural]
    decide
  have hs : portWithoutHost.Canonical := by
    simp only [portWithoutHost, Canonical, CanonicalMembers, natural]
    decide
  obtain ⟨hkeeps, -⟩ := keepsLeaves_and_mergeOver_self hostAndPort portWithoutHost ht hs
  refine ⟨ht, hs, ?_, ?_, hkeeps.again⟩
  · exact hkeeps.source _ _ rfl (by simp [natural]) (by simp [IsLeaf, natural])
  · exact hkeeps.target _ _ rfl ⟨["server"], "host", [], _, rfl, rfl, Or.inr rfl⟩

end TrustReplica.Json
