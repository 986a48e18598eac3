import TrustReplica.Proofs.EventFormat

/-! The state of a TMI is read alike where it is pushed and where it is fetched. A snapshot keeps its maps as
    members that may be left out, a state has empty maps in their place; once the snapshot is taken for its
    state, both are read by the same steps, but for the names of the TMI that only a snapshot needs
    (`Snapshot.map_state_read`). So a snapshot is read just if a state is and the TMI is named, from an object
    of its own as well as from a spawn or an update. -/

namespace TrustReplica

open Json

namespace Json

variable {α : Type}

/-- A member that may be null is one that may be left out, with a value to stand in for it. -/
theorem nullable_eq_map_optional (absent : α) (read : Json → Option α) (m : Option Json) :
    nullable absent read m = (Json.optional read m).map fun a => a.getD absent := by
  unfold nullable Json.optional
  split
  · rfl
  · rfl
  · next v _ => cases read v <;> rfl

/-- Whatever stands in a member is taken as it is, and null as nothing. -/
theorem exists_optional_some (m : Option Json) : ∃ o, Json.optional some m = some o := by
  unfold Json.optional
  split <;> exact ⟨_, rfl⟩

theorem isSome_required_text {m : Option Json} :
    (required TmiId.read m).isSome ↔ ∃ s, m = some (.text s) := by
  rw [required]
  cases m with
  | none => simp
  | some v => cases v <;> simp [TmiId.read, readText]

theorem isSome_defaulted_text {m : Option Json} :
    (defaulted "" readText m).isSome ↔ m = none ∨ ∃ s, m = some (.text s) := by
  cases m with
  | none => simp [defaulted]
  | some v => cases v <;> simp [defaulted, readText]

end Json

namespace Snapshot

variable {members : List (String × Json)} {sn : Snapshot}

/-- Behind the names of the TMI, the state of a snapshot is read as a state. -/
theorem map_state_read (members : List (String × Json)) :
    (Snapshot.read (.object members)).map state =
      (required TmiId.read (lookup "FullTMI" members)).bind fun _ =>
        (defaulted "" readText (lookup "ID" members)).bind fun _ => TmiState.read (.object members) := by
  obtain ⟨update, hupdate⟩ := exists_optional_some (lookup "Update" members)
  simp only [Snapshot.read, TmiState.read, isRecord, member, if_true, hupdate, nullable_eq_map_optional,
    Option.bind_eq_bind, Option.pure_def, Option.bind_some, Option.map_bind, Option.bind_map,
    Function.comp_def, Option.map_some, state]

/-- An object names a TMI: by a text for its full identifier, and by one for its own unless that is left
    out. -/
structure NamesTmi (members : List (String × Json)) : Prop where
  fullId : ∃ s, lookup "FullTMI" members = some (.text s)
  id : lookup "ID" members = none ∨ ∃ s, lookup "ID" members = some (.text s)

/-- What comes of an object that is decoded as a snapshot: there is one just if the object is read as a state
    and names a TMI, and it tells of that state. -/
structure ReadsState (members : List (String × Json)) (decoded : Option Snapshot) : Prop where
  isSome : decoded.isSome ↔ (TmiState.read (.object members)).isSome ∧ NamesTmi members
  state : ∀ sn, decoded = some sn → TmiState.read (.object members) = some sn.state

theorem readsState_read (members : List (String × Json)) :
    ReadsState members (Snapshot.read (.object members)) := by
  have hstate := map_state_read members
  constructor
  · have hnames : NamesTmi members ↔ (required TmiId.read (lookup "FullTMI" members)).isSome ∧
        (defaulted "" readText (lookup "ID" members)).isSome := by
      rw [isSome_required_text, isSome_defaulted_text]
      exact ⟨fun h => ⟨h.fullId, h.id⟩, fun h => ⟨h.1, h.2⟩⟩
    rw [← Option.isSome_map (f := state), hstate, hnames]
    cases required TmiId.read (lookup "FullTMI" members) with
    | none => simp
    | some fullId => cases defaulted "" readText (lookup "ID" members) <;> simp
  · intro sn hsn
    rw [hsn, Option.map_some] at hstate
    obtain ⟨_, _, hrest⟩ := Option.bind_eq_some_iff.mp hstate.symm
    obtain ⟨_, _, hread⟩ := Option.bind_eq_some_iff.mp hrest
    exact hread

end Snapshot

namespace Event

/-- The kinds of events that hold a snapshot of a TMI. -/
def IsPush (kind : EventKind) : Prop := kind = .spawned ∨ kind = .updated

/-- The snapshot of the event that a value is decoded as. -/
def decodedSnapshot? (v : Json) : Option Snapshot := (ofJson v).toOption.bind snapshot?

/-- Under the tag of a spawn or an update, a value is an event just if it is a snapshot. -/
theorem ofJson_of_isPush {v : Json} {kind : EventKind} (hkind : IsPush kind) (hv : Carries v kind.tag) :
    ∃ event : Snapshot → Event, (∀ sn, (event sn).kind? = some kind ∧ (event sn).snapshot? = some sn) ∧
      ofJson v = (Snapshot.read v).elim (.error (.malformed kind.tag)) fun sn => .ok (event sn) := by
  rw [ofJson_of_kind hv]
  rcases hkind with rfl | rfl
  · refine ⟨spawned, fun sn => ⟨rfl, rfl⟩, ?_⟩
    rw [readKind]
    cases Snapshot.read v <;> rfl
  · refine ⟨updated, fun sn => ⟨rfl, rfl⟩, ?_⟩
    rw [readKind]
    cases Snapshot.read v <;> rfl

/-- A snapshot is read just if the same object is read as a state and names a TMI, and it tells of that
    state; and so does the snapshot of a spawn or an update, which are decoded just if there is one. -/
theorem readsState_of_push (members : List (String × Json)) :
    Snapshot.ReadsState members (Snapshot.read (.object members)) ∧
      ∀ kind, IsPush kind → Carries (.object members) kind.tag →
        Snapshot.ReadsState members (decodedSnapshot? (.object members)) ∧
        ((decodedSnapshot? (.object members)).isSome ↔
          ∃ e, ofJson (.object members) = .ok e ∧ e.kind? = some kind) := by
  have hread := Snapshot.readsState_read members
  refine ⟨hread, fun kind hkind hv => ?_⟩
  obtain ⟨event, hevent, hof⟩ := ofJson_of_isPush hkind hv
  have hdecoded : decodedSnapshot? (.object members) = Snapshot.read (.object members) := by
    rw [decodedSnapshot?, hof]
    cases Snapshot.read (.object members) with
    | none => rfl
    | some sn => exact (hevent sn).2
  rw [hdecoded, hof]
  refine ⟨hread, ?_⟩
  cases Snapshot.read (.object members) with
  | none => simp
  | some sn => simp [(hevent sn).1]

/-- The members of an update that leaves out its own identifier, the graph and the values, has null for the
    opinions, and tells of an update. -/
def barePush : List (String × Json) :=
  [("EventType", .text "TRUST_MODEL_INSTANCE_UPDATED"), ("FullTMI", .text "//a/s/t/i"), ("RTLs", .null),
    ("Update", .flag true), ("Version", .natural 4)]

/-- A bare update is read with the state that is read of its members alone. -/
theorem readsState_barePush :
    Carries (.object barePush) EventKind.updated.tag ∧
      ∃ sn, decodedSnapshot? (.object barePush) = some sn ∧ sn.fullId = ⟨"//a/s/t/i"⟩ ∧
        TmiState.read (.object barePush) = some sn.state ∧ sn.state = ⟨4, 0, .empty, ∅, ∅⟩ := by
  have hcarries : Carries (.object barePush) EventKind.updated.tag := ⟨barePush, rfl, rfl⟩
  obtain ⟨hreads, -⟩ := (readsState_of_push barePush).2 .updated (Or.inr rfl) hcarries
  obtain ⟨sn, hsn⟩ : ∃ sn, decodedSnapshot? (.object barePush) = some sn := ⟨_, rfl⟩
  refine ⟨hcarries, sn, hsn, ?_, hreads.state sn hsn, ?_⟩
  · rw [← Option.some_inj.mp hsn]
  · rw [← Option.some_inj.mp hsn]
    rfl

end Event

end TrustReplica
