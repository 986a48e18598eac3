import TrustReplica.Proofs.RoundTrip

/-! The fetch format. A detail is written with its payloads untagged, and their kinds are told by their
    form when it is read. What was read itself is finite, and a value that is kept as it is has no other
    form (`Detail.isWritable_of_read`); what a replica tells of a TMI, at one version or at all of them, has
    payloads of the plain kinds only. So each of these is read back as it was, and so is every listing.
    Versions stand in the names of members as decimal numbers, and are read as the same versions. -/

namespace TrustReplica

open Json

/-! ### What was read -/

theorem BundleContent.isFinite_of_read {v : Json} {c : BundleContent} (h : read v = some c) :
    c.IsFinite := by
  rw [read] at h
  split_ifs at h
  · obtain ⟨b, hb, rfl⟩ := Option.map_eq_some_iff.mp h
    exact AtlBundle.isFinite_of_read hb
  · obtain ⟨m, hm, rfl⟩ := Option.map_eq_some_iff.mp h
    intro v b hb
    obtain ⟨item, hitem⟩ := exists_read_of_readVersions hm hb
    exact AtlBundle.isFinite_of_read hitem

theorem UpdateContent.isTold_ofJson {v : Json} (h : v ≠ .null) : (ofJson v).IsTold := by
  cases v with
  | null => exact absurd rfl h
  | object members =>
    rw [ofJson]
    cases hm : readByVersion (.object members) with
    | some payloads => trivial
    | none => exact hm
  | array | flag | number | text => trivial

namespace Detail

/-- Where the optional parts of a detail come from that was read. -/
structure OptionalsOf (d : Detail) (v : Json) : Prop where
  atls : optional BundleContent.read (v.member 5 "atls") = some d.atls
  state : optional TmiState.read (v.member 6 "state") = some d.state
  states : optional (readVersions TmiState.read) (v.member 7 "states") = some d.states
  updates : optional (fun u => some (UpdateContent.ofJson u)) (v.member 8 "updates") = some d.updates

theorem optionals_of_read {v : Json} {d : Detail} (h : read v = some d) : d.OptionalsOf v := by
  rw [read] at h
  split_ifs at h
  obtain ⟨fullId, _, h⟩ := Option.bind_eq_some_iff.mp h
  obtain ⟨id, _, h⟩ := Option.bind_eq_some_iff.mp h
  obtain ⟨template, _, h⟩ := Option.bind_eq_some_iff.mp h
  obtain ⟨active, _, h⟩ := Option.bind_eq_some_iff.mp h
  obtain ⟨latestVersion, _, h⟩ := Option.bind_eq_some_iff.mp h
  obtain ⟨atls, hatls, h⟩ := Option.bind_eq_some_iff.mp h
  obtain ⟨state, hstate, h⟩ := Option.bind_eq_some_iff.mp h
  obtain ⟨states, hstates, h⟩ := Option.bind_eq_some_iff.mp h
  obtain ⟨updates, hupdates, h⟩ := Option.bind_eq_some_iff.mp h
  rw [← Option.some_inj.mp h]
  exact ⟨hatls, hstate, hstates, hupdates⟩

/-- A detail that was read can be written so that it is read back. -/
theorem isWritable_of_read {v : Json} {d : Detail} (h : read v = some d) : d.IsWritable := by
  obtain ⟨hatls, hstate, hstates, hupdates⟩ := optionals_of_read h
  refine ⟨fun c hc => ?_, fun st hst => ?_, fun m hm v st hst => ?_, fun u hu => ?_⟩
  · obtain ⟨item, _, hitem⟩ := exists_read_of_optional (hatls.trans (congrArg some hc))
    exact BundleContent.isFinite_of_read hitem
  · obtain ⟨item, _, hitem⟩ := exists_read_of_optional (hstate.trans (congrArg some hst))
    exact TmiState.isFinite_of_read hitem
  · obtain ⟨items, _, hitems⟩ := exists_read_of_optional (hstates.trans (congrArg some hm))
    obtain ⟨item, hitem⟩ := exists_read_of_readVersions hitems hst
    exact TmiState.isFinite_of_read hitem
  · obtain ⟨item, hnull, hitem⟩ := exists_read_of_optional (hupdates.trans (congrArg some hu))
    rw [← Option.some_inj.mp hitem]
    exact UpdateContent.isTold_ofJson hnull

end Detail

/-! ### Names of versions -/

/-- The names of the members of an object. -/
def Json.names : Json → List String
  | .object members => members.map Prod.fst
  | _ => []

/-- The keys of a map by version as decimal numbers, in ascending order of the versions. -/
def VersionMap.decimals {α : Type} (m : VersionMap α) : List String :=
  m.keys.map fun v => Nat.repr v.toNat

theorem Json.names_ofVersions {α : Type} (write : α → Json) (m : VersionMap α) :
    (ofVersions write m).names = m.decimals := by
  rw [ofVersions, names, VersionMap.decimals, ← Std.ExtTreeMap.map_fst_toList_eq_keys, List.map_map,
    List.map_map]
  rfl

namespace Detail

/-- The maps by version in a detail are written with the decimal numbers of their versions for names. They
    stand in the order of the versions, as they are written; no reader looks at their order. -/
structure NamesVersions (d : Detail) : Prop where
  states : ∀ m, d.states = some m → (d.toJson.get? "states").map names = some m.decimals
  atls : ∀ m, d.atls = some (.byVersion m) → (d.toJson.get? "atls").map names = some m.decimals
  updates : ∀ m, d.updates = some (.byVersion m) → (d.toJson.get? "updates").map names = some m.decimals

theorem namesVersions (d : Detail) : d.NamesVersions := by
  refine ⟨fun m hm => ?_, fun m hm => ?_, fun m hm => ?_⟩
  · have hstates : d.toJson.get? "states" = d.states.map (ofVersions TmiState.toJson) := by
      simp [toJson, get?, lookup_cons, lookup_append, lookup_memberOf]
    rw [hstates, hm, Option.map_some, Option.map_some, names_ofVersions]
  · have hatls : d.toJson.get? "atls" = d.atls.map BundleContent.toJson := by
      simp [toJson, get?, lookup_cons, lookup_append, lookup_memberOf]
    rw [hatls, hm, Option.map_some, Option.map_some, BundleContent.toJson, names_ofVersions]
  · have hupdates : d.toJson.get? "updates" = d.updates.map UpdateContent.toJson := by
      simp [toJson, get?, lookup_cons, lookup_append, lookup_memberOf]
    rw [hupdates, hm, Option.map_some, Option.map_some, UpdateContent.toJson, names_ofVersions]

/-- Every detail that was read, every detail that a replica tells of a TMI and every listing is read back as
    it was, each payload as the kind that it is; and versions are written as decimal numbers that are read
    as these versions. -/
theorem readsBack :
    (∀ v d, Detail.read v = some d → Detail.read d.toJson = some d) ∧
    (∀ t : Tmi, t.IsFinite → Detail.read (complete t).toJson = some (complete t)) ∧
    (∀ (t : Tmi) (v : Version) (d : Detail), t.IsFinite → atVersion? t v = some d →
      Detail.read d.toJson = some d) ∧
    (∀ l : Listing, Listing.read l.toJson = some l) ∧
    (∀ d : Detail, d.NamesVersions) ∧
    ∀ v : Version, Version.ofText? (Nat.repr v.toNat) = some v := by
  refine ⟨fun v d h => read_toJson (isWritable_of_read h), fun t h => read_complete h, fun t v d h hd => ?_,
    Listing.read_toJson, namesVersions, Version.ofText?_toText⟩
  exact read_toJson (isWritable_atVersion? h hd)

end Detail

/-- The largest version. -/
def Version.last : Version := UInt64.ofNat Decimal.maxWord

/-- What is fetched of one version, with an empty map of bundles and a bare object for the update. -/
def Json.bareUpdate : Json :=
  .object [("atls", .object []), ("fullTMI", .text "//a/s/t/i"), ("id", .text "i"),
    ("state", .object [("Version", .natural 5)]), ("updates", .object [("op", .text "set")])]

/-- What is read of it: the bundles by version, and the update as the value that it is. -/
def Detail.bareUpdate : Detail :=
  { fullId := ⟨"//a/s/t/i"⟩, id := "i", template := "", active := false, latestVersion := 0
    atls := some (.byVersion ∅)
    state := some ⟨5, 0, .empty, ∅, ∅⟩
    states := none
    updates := some (.other (.object [("op", .text "set")])) }

/-- A TMI with a state of the last version, and a payload at a version that has no state. -/
def Tmi.ofLastVersion : Tmi :=
  { Tmi.empty ⟨"//a/s/t/i"⟩ ⟨"a", ⟨"s"⟩, "t", "i"⟩ true .last with
    states := .ofList [(Version.last, TmiState.mk .last 0 .empty ∅ ∅)]
    updates := .ofList [((5 : Version), [Json.flag true])] }

theorem Tmi.isFinite_ofLastVersion : Tmi.ofLastVersion.IsFinite := by
  refine ⟨fun v st h => ?_, fun v b h => absurd h (by simp [ofLastVersion, empty])⟩
  obtain ⟨_, rfl⟩ := Prod.mk.inj (List.mem_singleton.mp (Maps.mem_of_getElem?_ofList h))
  exact ⟨fun name rs hm => absurd hm (by simp), fun name o hm => absurd hm (by simp)⟩

/-- A bare update and an empty map are read back as such, and so is what is told of a TMI at the last
    version and at all. -/
theorem Detail.readsBack_bareUpdate :
    (Detail.read Json.bareUpdate = some bareUpdate ∧
      Detail.read bareUpdate.toJson = some bareUpdate) ∧
    (Tmi.ofLastVersion.IsFinite ∧
      Detail.read (complete .ofLastVersion).toJson = some (complete .ofLastVersion)) ∧
    ∃ d, atVersion? .ofLastVersion .last = some d ∧
      Detail.read d.toJson = some d := by
  have hread : Detail.read Json.bareUpdate = some bareUpdate := rfl
  obtain ⟨d, hd⟩ : ∃ d, atVersion? .ofLastVersion .last = some d := ⟨_, rfl⟩
  exact ⟨⟨hread, readsBack.1 _ _ hread⟩,
    ⟨Tmi.isFinite_ofLastVersion, readsBack.2.1 _ Tmi.isFinite_ofLastVersion⟩,
    d, hd, readsBack.2.2.1 _ _ d Tmi.isFinite_ofLastVersion hd⟩

end TrustReplica
