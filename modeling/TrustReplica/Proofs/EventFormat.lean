import TrustReplica.Proofs.RoundTrip

/-! The format of events. Three tables of tags have to agree: the tags that are known
    (`EventKind.knownTags`), the tags under which a decoder finds the variants (`EventKind.variantTag`) and
    the tags that events carry (`Event.tag`). Since they do, a known tag never leads to an unknown variant,
    and the tag of a value alone decides what kind of answer its decoding gives. A decoded event has
    finite numbers and no null for an update (`Event.IsWritable`), so it is written in a form that is read
    back; `Event.DecodesExactly` puts these together. -/

namespace TrustReplica

open Json

/-! ### Tables of tags -/

namespace EventKind

/-- The tags that are known. -/
def knownTags : List String :=
  ["SESSION_CREATED", "SESSION_TORNDOWN", "TRUST_MODEL_INSTANCE_SPAWNED", "TRUST_MODEL_INSTANCE_UPDATED",
    "TRUST_MODEL_INSTANCE_DELETED", "ATL_UPDATED", "ATL_REMOVED"]

/-- The name of the variant that holds events of a kind. -/
def variantName : EventKind → String
  | sessionCreated => "SessionCreated"
  | sessionTorndown => "SessionTorndown"
  | spawned => "TrustModelInstanceSpawned"
  | updated => "TrustModelInstanceUpdated"
  | deleted => "TrustModelInstanceDeleted"
  | atlUpdated => "AtlUpdated"
  | atlRemoved => "AtlRemoved"

/-- A tag that a variant is given in place of the one that its name would give. -/
def givenTag? : EventKind → Option String
  | atlUpdated => some "ATL_UPDATED"
  | atlRemoved => some "ATL_REMOVED"
  | _ => none

/-- A name in capital letters, with a low line before each word but the first. -/
def spellInCapitals (name : String) : String :=
  match name.toList with
  | [] => ""
  | c :: rest =>
    String.ofList (c.toUpper :: rest.flatMap fun c => if c.isUpper then ['_', c] else [c.toUpper])

/-- The tag under which a decoder finds the variant of a kind. -/
def variantTag (kind : EventKind) : String := kind.givenTag?.getD (spellInCapitals kind.variantName)

theorem variantTag_eq_tag (kind : EventKind) : kind.variantTag = kind.tag := by
  cases kind <;> decide

theorem knownTags_eq_map_tag : knownTags = all.map tag := rfl

theorem ofTag?_eq_some {s : String} {kind : EventKind} : ofTag? s = some kind ↔ kind.tag = s := by
  constructor
  · intro h
    have htag := List.find?_some h
    exact eq_of_beq htag
  · rintro rfl
    cases kind <;> decide

theorem ofTag?_eq_none {s : String} : ofTag? s = none ↔ s ∉ knownTags := by
  rw [knownTags_eq_map_tag, ofTag?, List.find?_eq_none, List.mem_map]
  constructor
  · rintro h ⟨kind, hk, rfl⟩
    exact h kind hk (beq_self_eq_true _)
  · intro h kind hk hs
    exact h ⟨kind, hk, eq_of_beq hs⟩

/-- The variant of a tag is found among the known kinds. -/
theorem find?_variantTag (s : String) : all.find? (fun kind => kind.variantTag == s) = ofTag? s := by
  simp only [variantTag_eq_tag, ofTag?]

end EventKind

/-! ### Decoding by the tag -/

/-- Why a value is not read as the variant of a tag. -/
inductive VariantFault where
  | unknownVariant (tag : String)
  | members (kind : EventKind)
deriving DecidableEq, Repr

namespace Event

/-- Reads a value as the variant of a tag, which is looked up among the tags of the variants. -/
def readVariant (s : String) (v : Json) : Except VariantFault Event :=
  match EventKind.all.find? fun kind => kind.variantTag == s with
  | none => .error (.unknownVariant s)
  | some kind =>
    match readKind kind v with
    | none => .error (.members kind)
    | some e => .ok e

/-- A value is an object with a tag for its `EventType`. -/
def Carries (v : Json) (s : String) : Prop :=
  ∃ members, v = .object members ∧ lookup "EventType" members = some (.text s)

variable {v : Json} {s : String} {e : Event} {kind : EventKind}

theorem tagOf?_eq_some : tagOf? v = some s ↔ Carries v s := by
  constructor
  · intro h
    obtain ⟨w, hw, hs⟩ := Option.bind_eq_some_iff.mp h
    cases v with
    | object members =>
      cases w with
      | text s' => exact ⟨members, rfl, by rw [← Option.some_inj.mp hs]; exact hw⟩
      | null | flag | number | array | object => exact absurd hs (Option.some_ne_none s).symm
    | null | flag | number | text | array => exact absurd hw (Option.some_ne_none w).symm
  · rintro ⟨members, rfl, hs⟩
    rw [tagOf?, get?, hs]
    rfl

/-- The events of a kind carry its tag. -/
theorem tag_of_kind? (h : e.kind? = some kind) : e.tag = kind.tag := by
  cases e <;> cases h <;> rfl

theorem ofJson_of_not_carries (h : ¬∃ s, Carries v s) : ofJson v = .error .missingEventType := by
  cases ht : tagOf? v with
  | none => rw [ofJson, ht]
  | some s => exact absurd ⟨s, tagOf?_eq_some.mp ht⟩ h

/-- A value with an unknown tag is kept as that tag. -/
theorem ofJson_of_unknown (h : Carries v s) (hs : s ∉ EventKind.knownTags) :
    ofJson v = .ok (unrecognized s) := by
  simp only [ofJson, tagOf?_eq_some.mpr h, EventKind.ofTag?_eq_none.mpr hs]

/-- The members of a value with a known tag decide whether it is an event. -/
theorem ofJson_of_kind (h : Carries v kind.tag) :
    ofJson v = (readKind kind v).elim (.error (.malformed kind.tag)) .ok := by
  simp only [ofJson, tagOf?_eq_some.mpr h, EventKind.ofTag?_eq_some.mpr rfl]
  cases readKind kind v <;> rfl

theorem readVariant_of_kind (kind : EventKind) (v : Json) :
    readVariant kind.tag v = (readKind kind v).elim (.error (.members kind)) .ok := by
  simp only [readVariant, EventKind.find?_variantTag, EventKind.ofTag?_eq_some.mpr rfl]
  cases readKind kind v <;> rfl

/-- A value has no tag, an unknown one, or a known one that its members fit or do not fit. -/
theorem ofJson_cases (v : Json) :
    ((¬∃ s, Carries v s) ∧ ofJson v = .error .missingEventType) ∨
      (∃ s, Carries v s ∧ s ∉ EventKind.knownTags ∧ ofJson v = .ok (unrecognized s)) ∨
      (∃ kind : EventKind, Carries v kind.tag ∧ readKind kind v = none ∧
        ofJson v = .error (.malformed kind.tag)) ∨
      ∃ (kind : EventKind) (e : Event), Carries v kind.tag ∧ readKind kind v = some e ∧
        ofJson v = .ok e := by
  by_cases hv : ∃ s, Carries v s
  · obtain ⟨s, hv⟩ := hv
    by_cases hs : s ∈ EventKind.knownTags
    · obtain ⟨kind, _, rfl⟩ := List.mem_map.mp (EventKind.knownTags_eq_map_tag ▸ hs)
      have hof := ofJson_of_kind hv
      cases hread : readKind kind v with
      | none => exact Or.inr (Or.inr (Or.inl ⟨kind, hv, hread, by rw [hof, hread]; rfl⟩))
      | some e => exact Or.inr (Or.inr (Or.inr ⟨kind, e, hv, hread, by rw [hof, hread]; rfl⟩))
    · exact Or.inr (Or.inl ⟨s, hv, hs, ofJson_of_unknown hv hs⟩)
  · exact Or.inl ⟨hv, ofJson_of_not_carries hv⟩

theorem ofJson_eq_missingEventType : ofJson v = .error .missingEventType ↔ ¬∃ s, Carries v s := by
  refine ⟨fun h => ?_, ofJson_of_not_carries⟩
  rcases ofJson_cases v with ⟨hv, _⟩ | ⟨s, _, _, hof⟩ | ⟨kind, _, _, hof⟩ | ⟨kind, e, _, _, hof⟩
  · exact hv
  · exact absurd (hof.symm.trans h) (by simp)
  · exact absurd (hof.symm.trans h) (by simp)
  · exact absurd (hof.symm.trans h) (by simp)

/-- An event comes from a value with an unknown tag, or was read as the kind that it is of. -/
theorem ofJson_ok_cases (h : ofJson v = .ok e) :
    (∃ s, e = unrecognized s ∧ Carries v s ∧ s ∉ EventKind.knownTags) ∨
      ∃ kind, e.kind? = some kind ∧ readKind kind v = some e := by
  rcases ofJson_cases v with ⟨_, hof⟩ | ⟨s, hv, hs, hof⟩ | ⟨_, _, _, hof⟩ | ⟨kind, e', _, hread, hof⟩
  · exact absurd (hof.symm.trans h) (by simp)
  · exact Or.inl ⟨s, (Except.ok.inj (hof.symm.trans h)).symm, hv, hs⟩
  · exact absurd (hof.symm.trans h) (by simp)
  · obtain rfl : e' = e := Except.ok.inj (hof.symm.trans h)
    exact Or.inr ⟨kind, (isReadAs_of_readKind hread).kind, hread⟩

theorem ofJson_eq_unrecognized :
    ofJson v = .ok (unrecognized s) ↔ Carries v s ∧ s ∉ EventKind.knownTags := by
  refine ⟨fun h => ?_, fun h => ofJson_of_unknown h.1 h.2⟩
  rcases ofJson_ok_cases h with ⟨s', he, hv, hs⟩ | ⟨kind, hk, _⟩
  · obtain rfl := Event.unrecognized.inj he
    exact ⟨hv, hs⟩
  · exact absurd hk (Option.some_ne_none kind).symm

/-- Under a known tag a variant is found, and its members are read or do not fit it. -/
theorem ofJson_of_known (hv : Carries v s) (hs : s ∈ EventKind.knownTags) :
    ∃ kind : EventKind, kind.variantTag = s ∧
      ((readVariant s v = .error (.members kind) ∧ ofJson v = .error (.malformed s)) ∨
        ∃ e, readVariant s v = .ok e ∧ ofJson v = .ok e ∧ e.kind? = some kind ∧ e.tag = s) := by
  obtain ⟨kind, _, rfl⟩ := List.mem_map.mp (EventKind.knownTags_eq_map_tag ▸ hs)
  refine ⟨kind, kind.variantTag_eq_tag, ?_⟩
  rw [readVariant_of_kind, ofJson_of_kind hv]
  cases hread : readKind kind v with
  | none => exact Or.inl ⟨rfl, rfl⟩
  | some e =>
    have hk := (isReadAs_of_readKind hread).kind
    exact Or.inr ⟨e, rfl, rfl, hk, tag_of_kind? hk⟩

/-! ### Events that can be written -/

/-- An event that is read back once it is written: its numbers are finite, and what it tells of an update
    cannot be taken for nothing. -/
structure IsWritable (e : Event) : Prop where
  finite : e.IsFinite
  update : ∀ sn ∈ e.snapshot?, sn.update ≠ some .null

end Event

namespace Json

variable {α : Type} {read : Json → Option α} {write : α → Json}

/-- A value that is not written as null is told from one that is missing. -/
theorem optional_orNull {o : Option α} (h : ∀ a ∈ o, read (write a) = some a) (hnull : ∀ a, write a ≠ .null) :
    Json.optional read (some (Snapshot.orNull write o)) = some o := by
  cases o with
  | none => rfl
  | some a =>
    rw [Snapshot.orNull, Json.optional, h a rfl]
    · rfl
    · exact hnull a

theorem optional_some_ne_null {m u : Option Json} (h : Json.optional some m = some u) : u ≠ some .null := by
  rintro rfl
  unfold Json.optional at h
  split at h
  · exact absurd (Option.some_inj.mp h) (Option.some_ne_none _).symm
  · exact absurd (Option.some_inj.mp h) (Option.some_ne_none _).symm
  · next v hv =>
    exact hv (Option.some_inj.mp (Option.some_inj.mp h))

end Json

theorem Snapshot.update_ne_null_of_read {v : Json} {sn : Snapshot} (h : Snapshot.read v = some sn) :
    sn.update ≠ some .null := by
  obtain ⟨_, _, _, hupdate⟩ := optionals_of_read h
  exact optional_some_ne_null hupdate

/-- The members of a snapshot are read back, whatever tag stands before them. -/
theorem Snapshot.read_toMembers {sn : Snapshot} (h : sn.state.IsFinite) (hu : sn.update ≠ some .null)
    (tag : String) : Snapshot.read (.object (("EventType", .text tag) :: sn.toMembers)) = some sn := by
  have hvalues : Json.optional readRelationships (some (orNull relationshipsToJson sn.values)) =
      some sn.values := by
    refine optional_orNull (fun m hm => readRelationships_toJson ?_) fun _ => Json.noConfusion
    have hstate : sn.state.values = m := by rw [state, hm]; rfl
    exact hstate ▸ h.values
  have hrtls : Json.optional readOpinions (some (orNull opinionsToJson sn.rtls)) = some sn.rtls := by
    refine optional_orNull (fun m hm => readOpinions_toJson ?_) fun _ => Json.noConfusion
    have hstate : sn.state.rtls = m := by rw [state, hm]; rfl
    exact hstate ▸ h.rtls
  obtain ⟨fullId, id, version, fingerprint, graph, values, rtls, update⟩ := sn
  -- An update that is missing is left out, so the members that are written differ.
  cases update with
  | none =>
    have hnone : Json.optional (fun u => some u) none = some none := rfl
    simp [Snapshot.read, toMembers, Detail.memberOf, isRecord, member, lookup, required, defaulted,
      readText, readNatural, Json.natural, Number.natural?, TmiId.read, TrustGraph.read_toJson, hvalues,
      hrtls, hnone]
  | some u =>
    have hupdate : Json.optional some (some u) = some (some u) := by
      cases u with
      | null => exact absurd rfl hu
      | flag | number | text | array | object => rfl
    simp [Snapshot.read, toMembers, Detail.memberOf, isRecord, member, lookup, required, defaulted,
      readText, readNatural, Json.natural, Number.natural?, TmiId.read, TrustGraph.read_toJson, hvalues,
      hrtls, hupdate]

namespace Event

variable {v : Json} {e : Event} {kind : EventKind}

theorem isWritable_of_readKind (h : readKind kind v = some e) : e.IsWritable :=
  ⟨isFinite_of_readKind h, fun sn hs =>
    Snapshot.update_ne_null_of_read ((isReadAs_of_readKind h).snapshot sn hs)⟩

/-- What is written of an event is read back as one of its kind. -/
theorem readKind_toMembers (h : e.IsWritable) (hk : e.kind? = some kind) (tag : String) :
    ∃ members, e.toMembers? = some members ∧
      readKind kind (.object (("EventType", .text tag) :: members)) = some e := by
  cases e with
  | unrecognized s => exact absurd hk (Option.some_ne_none kind).symm
  | sessionCreated session client template =>
    obtain rfl := Option.some_inj.mp hk
    refine ⟨_, rfl, ?_⟩
    simp [readKind, get?, lookup, required, defaulted, readText]
  | sessionTorndown session =>
    obtain rfl := Option.some_inj.mp hk
    refine ⟨_, rfl, ?_⟩
    simp [readKind, get?, lookup, required, readText]
  | spawned sn =>
    obtain rfl := Option.some_inj.mp hk
    refine ⟨_, rfl, ?_⟩
    rw [readKind, Snapshot.read_toMembers (h.finite.state sn rfl) (h.update sn rfl)]
    rfl
  | updated sn =>
    obtain rfl := Option.some_inj.mp hk
    refine ⟨_, rfl, ?_⟩
    rw [readKind, Snapshot.read_toMembers (h.finite.state sn rfl) (h.update sn rfl)]
    rfl
  | deleted f =>
    obtain rfl := Option.some_inj.mp hk
    refine ⟨_, rfl, ?_⟩
    simp [readKind, get?, lookup, required, TmiId.read, readText]
  | atlUpdated f nominal bundle =>
    obtain rfl := Option.some_inj.mp hk
    have hbundle : AtlBundle.read bundle.toJson = some bundle :=
      AtlBundle.read_toJson (h.finite.bundle bundle rfl)
    have hnominal : Json.optional readNatural (some (Snapshot.orNull .natural nominal)) = some nominal :=
      optional_orNull (fun _ _ => rfl) fun _ => Json.noConfusion
    refine ⟨_, rfl, ?_⟩
    simp [readKind, get?, lookup, required, TmiId.read, readText, hbundle, hnominal]
  | atlRemoved f =>
    obtain rfl := Option.some_inj.mp hk
    have hf : Json.optional TmiId.read (some (Snapshot.orNull (fun f : TmiId => .text f.text) f)) = some f :=
      optional_orNull (fun _ _ => rfl) fun _ => Json.noConfusion
    refine ⟨_, rfl, ?_⟩
    simp [readKind, get?, lookup, hf]

/-- An event that can be written is read back from what is written, under the tag of its variant. -/
theorem ofJson_toJson (h : e.IsWritable) (hk : e.kind? = some kind) :
    ∃ w, e.toJson? = some w ∧ Carries w kind.variantTag ∧ ofJson w = .ok e := by
  obtain ⟨members, hmembers, hread⟩ := readKind_toMembers h hk e.tag
  have htag : Carries (.object (("EventType", .text e.tag) :: members)) kind.tag :=
    ⟨_, rfl, by rw [← tag_of_kind? hk]; rfl⟩
  refine ⟨_, by rw [toJson?, hmembers]; rfl, ?_, ?_⟩
  · rw [EventKind.variantTag_eq_tag]
    exact htag
  · rw [ofJson_of_kind htag, hread]
    rfl

/-! ### What decoding gives -/

/-- The answer of a decoder to a value, as the tag of the value decides it. -/
structure DecodesExactly (v : Json) : Prop where
  missing : ofJson v = .error .missingEventType ↔ ¬∃ s, Carries v s
  unrecognized : ∀ s, ofJson v = .ok (.unrecognized s) ↔ Carries v s ∧ s ∉ EventKind.knownTags
  /-- A known tag is the tag of a variant, and only the members can fail to fit it. -/
  known : ∀ s, Carries v s → s ∈ EventKind.knownTags → ∃ kind : EventKind, kind.variantTag = s ∧
    ((readVariant s v = .error (.members kind) ∧ ofJson v = .error (.malformed s)) ∨
      ∃ e, readVariant s v = .ok e ∧ ofJson v = .ok e ∧ e.kind? = some kind ∧ e.tag = s)
  roundTrips : ∀ e kind, ofJson v = .ok e → e.kind? = some kind →
    ∃ w, e.toJson? = some w ∧ Carries w kind.variantTag ∧ ofJson w = .ok e

/-- A decoder answers by the tag of a value, and what it reads as an event of a known kind is written and
    read back unchanged. It reads every event that can be written. -/
theorem decodesExactly :
    (∀ v, DecodesExactly v) ∧ ∀ (e : Event) (kind : EventKind), e.IsWritable → e.kind? = some kind →
      ∃ w, e.toJson? = some w ∧ Carries w kind.variantTag ∧ ofJson w = .ok e := by
  refine ⟨fun v => ?_, fun e kind h hk => ofJson_toJson h hk⟩
  refine ⟨ofJson_eq_missingEventType, fun s => ofJson_eq_unrecognized, fun s hv hs => ofJson_of_known hv hs,
    fun e kind h hk => ?_⟩
  rcases ofJson_ok_cases h with ⟨s, rfl, _, _⟩ | ⟨kind', _, hread⟩
  · exact absurd hk (Option.some_ne_none kind).symm
  · exact ofJson_toJson (isWritable_of_readKind hread) hk

/-- A spawn that tells of no graph, no values and no update, beside a member that means nothing. -/
def sparseSpawn : Json :=
  .object [("EventType", .text "TRUST_MODEL_INSTANCE_SPAWNED"), ("FullTMI", .text "//a/s/t/i"),
    ("Timestamp", .text "now"), ("Update", .null), ("Values", .null), ("Version", .natural 3)]

/-- A sparse spawn is read with its defaults, and so is what is written of it. -/
theorem decodesExactly_sparseSpawn : ∃ e w, ofJson sparseSpawn = .ok e ∧ e.kind? = some .spawned ∧
    e.toJson? = some w ∧ ofJson w = .ok e := by
  have hread : ofJson sparseSpawn =
      .ok (.spawned ⟨⟨"//a/s/t/i"⟩, "", 3, 0, .empty, none, none, none⟩) := rfl
  obtain ⟨w, hw, -, hof⟩ := (decodesExactly.1 sparseSpawn).roundTrips _ .spawned hread rfl
  exact ⟨_, w, hread, rfl, hw, hof⟩

end Event

end TrustReplica
