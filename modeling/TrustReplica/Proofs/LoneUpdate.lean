import TrustReplica.Proofs.FetchFormat
import TrustReplica.Proofs.Reporting

/-! The update of one version as a bare object. The form of an object tells whether it is one payload or
    maps versions to lists of payloads, and it maps versions just if all its names are versions and all its
    values are lists (`Json.MapsVersions`); so the empty object does. An object of the other form is kept as
    the only payload of its version, but one that maps versions leaves the payloads as they were. -/

namespace TrustReplica

open Json

/-- The members of an object that maps versions to lists. -/
def Json.MapsVersions (members : List (String × Json)) : Prop :=
  ∀ m ∈ members, (∃ v : Version, m.1 = v.toText) ∧ ∃ payloads, m.2 = .array payloads

namespace UpdateContent

theorem isSome_readList_some {v : Json} : (readList some v).isSome ↔ ∃ payloads, v = .array payloads := by
  cases v with
  | array items =>
    have hitems : (items.mapM some).isSome := isSome_mapM.mpr fun _ _ => rfl
    exact iff_of_true hitems ⟨items, rfl⟩
  | null | flag | number | text | object => simp [readList]

/-- An object is read as payloads by version just if it maps versions to lists. -/
theorem isSome_readByVersion {members : List (String × Json)} :
    (readByVersion (.object members)).isSome ↔ MapsVersions members := by
  rw [readByVersion, readVersions, Option.isSome_map, readEntries, isSome_mapM]
  refine forall₂_congr fun m _ => ?_
  have hname : (∃ v : Version, m.1 = v.toText) ↔ (Version.ofText? m.1).isSome := by
    simp only [Option.isSome_iff_exists, Version.ofText?_eq_some_iff]
  rw [hname, ← isSome_readList_some]
  cases Version.ofText? m.1 with
  | none => simp
  | some v => cases readList some m.2 <;> simp

/-- The payloads that a bare object brings for a version: itself, unless it maps versions. -/
theorem updatesOfVersion_ofJson (members : List (String × Json)) :
    (MapsVersions members → Tmi.updatesOfVersion (some (ofJson (.object members))) = none) ∧
    (¬MapsVersions members →
      Tmi.updatesOfVersion (some (ofJson (.object members))) = some [.object members]) := by
  rw [← isSome_readByVersion, ofJson]
  cases readByVersion (.object members) with
  | none => exact ⟨fun h => absurd h (by simp), fun _ => rfl⟩
  | some payloads => exact ⟨fun _ => rfl, fun h => absurd rfl h⟩

end UpdateContent

/-- The updates of a detail are read from the member that writes them, if it is not null. -/
theorem Detail.updates_of_read {body : Json} {d : Detail} {members : List (String × Json)}
    (hread : Detail.read body = some d) (hupdates : body.member 8 "updates" = some (.object members)) :
    d.updates = some (.ofJson (.object members)) := by
  have h := (optionals_of_read hread).updates
  rw [hupdates] at h
  exact (Option.some_inj.mp h).symm

namespace Replica

/-- What becomes of a bare object that comes as the update of a version. -/
structure KeepsLoneUpdate (members : List (String × Json)) (v : Version) (held merged : Tmi) : Prop where
  others : ∀ w, w ≠ v → merged.updates[w]? = held.updates[w]?
  kept : ¬MapsVersions members → merged.updates[v]? = some [.object members]
  dropped : MapsVersions members → merged.updates[v]? = held.updates[v]?

/-- An update that comes as a bare object with the state of a version is kept as the only payload of the
    version, unless it maps versions; then the payloads stay as they were. -/
theorem keepsLoneUpdate {σ : Type} (source : Source σ) (world : σ) (request : Request) {body : Json}
    {d : Detail} {st : TmiState} {members : List (String × Json)} (hread : Detail.read body = some d)
    (hstate : d.state = some st) (hupdates : body.member 8 "updates" = some (.object members))
    (hanswer : (source.fetch request world).1 = .ok d) {r : Replica} {held : Tmi}
    (hheld : r.store.tmi? d.fullId = some held) :
    ∃ merged, (r.fetchTmi source world request).1 = .ok merged ∧ merged.fullId = held.fullId ∧
      (r.fetchTmi source world request).2.1.store.tmi? merged.fullId = some merged ∧
      KeepsLoneUpdate members st.version held merged ∧
      (merged.updates[st.version]? = some [.object members] ↔
        ¬MapsVersions members ∨ held.updates[st.version]? = some [.object members]) := by
  have hfetch := Store.fetchTmi_of_known r.store hanswer hheld
  have hmerged : (held.merge d).updates = (Tmi.updatesOfVersion (some (.ofJson (.object members)))).elim
      held.updates fun payloads => held.updates.insert st.version payloads := by
    rw [Tmi.merge_of_state held hstate, Detail.updates_of_read hread hupdates]
  obtain ⟨hmaps, hbare⟩ := UpdateContent.updatesOfVersion_ofJson members
  have hkeeps : KeepsLoneUpdate members st.version held (held.merge d) := by
    refine ⟨fun w hw => ?_, fun h => ?_, fun h => ?_⟩
    · rw [hmerged]
      cases Tmi.updatesOfVersion (some (.ofJson (.object members))) with
      | none => rfl
      | some payloads => rw [Option.elim_some, Maps.getElem?_insert, if_neg hw.symm]
    · rw [hmerged, hbare h, Option.elim_some, Maps.getElem?_insert, if_pos rfl]
    · rw [hmerged, hmaps h, Option.elim_none]
  refine ⟨held.merge d, ?_, Tmi.fullId_merge held d, ?_, hkeeps, ?_⟩
  · rw [fetchTmi, hfetch]
  · rw [fetchTmi, hfetch, Store.tmi?_insertTmi, if_pos rfl]
  · by_cases h : MapsVersions members
    · rw [hkeeps.dropped h, or_iff_right (not_not_intro h)]
    · exact iff_of_true (hkeeps.kept h) (Or.inl h)

end Replica

/-- What is fetched of version 5, with a bare object for the update. -/
def Json.loneUpdate (members : List (String × Json)) : Json :=
  .object [("fullTMI", .text "//a/s/t/i"), ("id", .text "i"), ("state", .object [("Version", .natural 5)]),
    ("updates", .object members)]

/-- What is read of it. -/
def Detail.loneUpdate (members : List (String × Json)) : Detail :=
  { fullId := ⟨"//a/s/t/i"⟩, id := "i", template := "", active := false, latestVersion := 0, atls := none
    state := some ⟨5, 0, .empty, ∅, ∅⟩, states := none, updates := some (.ofJson (.object members)) }

theorem Detail.read_loneUpdate (members : List (String × Json)) :
    Detail.read (.loneUpdate members) = some (.loneUpdate members) := rfl

namespace Replica

/-- What a replica that knows the TMI returns when it fetches version 5. -/
def fetchLone (members : List (String × Json)) : Except LoadError Tmi :=
  (ofSpawnFive.fetchTmi (.constant (.ok ∅) (.ok (.loneUpdate members))) () ⟨"a", "s", "t", "i", .at 5⟩).1

/-- An update with a word for a name is kept. -/
theorem keepsLoneUpdate_word :
    Detail.read (.loneUpdate [("op", .text "set")]) = some (.loneUpdate [("op", .text "set")]) ∧
    (∃ held, ofSpawnFive.store.tmi? ⟨"//a/s/t/i"⟩ = some held) ∧
    ∃ merged, fetchLone [("op", .text "set")] = .ok merged ∧
      merged.updates[(5 : Version)]? = some [.object [("op", .text "set")]] := by
  have hread := Detail.read_loneUpdate [("op", .text "set")]
  obtain ⟨held, hheld⟩ : ∃ held, ofSpawnFive.store.tmi? ⟨"//a/s/t/i"⟩ = some held := ⟨_, rfl⟩
  have hword : ¬MapsVersions [("op", .text "set")] := by
    intro h
    obtain ⟨-, payloads, hpayloads⟩ := h _ (List.mem_singleton.mpr rfl)
    exact Json.noConfusion hpayloads
  obtain ⟨merged, hmerged, -, -, hkeeps, -⟩ := keepsLoneUpdate
    (.constant (.ok ∅) (.ok (.loneUpdate [("op", .text "set")]))) () ⟨"a", "s", "t", "i", .at 5⟩ hread rfl rfl
    rfl hheld
  exact ⟨hread, ⟨held, hheld⟩, merged, hmerged, hkeeps.kept hword⟩

/-- The empty object and one with a number for a name are not kept. -/
theorem not_keepsLoneUpdate_number :
    (Detail.read (.loneUpdate []) = some (.loneUpdate []) ∧
      ∃ merged, fetchLone [] = .ok merged ∧ merged.updates[(5 : Version)]? = none) ∧
    Detail.read (.loneUpdate [("2024", .array [.text "lane 1"])]) =
        some (.loneUpdate [("2024", .array [.text "lane 1"])]) ∧
      ∃ merged, fetchLone [("2024", .array [.text "lane 1"])] = .ok merged ∧
        merged.updates[(5 : Version)]? = none :=
  ⟨⟨Detail.read_loneUpdate _, _, rfl, rfl⟩, Detail.read_loneUpdate _, _, rfl, rfl⟩

end Replica

end TrustReplica
