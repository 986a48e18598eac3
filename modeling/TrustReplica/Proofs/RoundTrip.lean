import TrustReplica.Proofs.Finiteness

/-! What is written is read back. Each writer is undone by the reader beside it, as long as the floats are
    finite: from opinions and graphs up to the listing and the details of a TMI. -/

namespace TrustReplica

open Json

/-! ### Opinions and graphs -/

theorem ofFloat_of_isFinite {x : Float} (h : x.isFinite = true) : ofFloat x = .number (.float x h) :=
  dif_pos h

theorem readFloat_ofFloat {x : Float} (h : x.isFinite = true) : readFloat (ofFloat x) = some x := by
  rw [ofFloat_of_isFinite h]; rfl

theorem readScore_ofFloat {x : Float} (h : x.isFinite = true) : readScore (ofFloat x) = some x := by
  rw [ofFloat_of_isFinite h]; rfl

theorem Opinion.read_toJson {o : Opinion} (h : o.IsFinite) : Opinion.read o.toJson = some o := by
  obtain ⟨hb, hd, hu, hr⟩ := h
  simp [Opinion.read, toJson, isRecord, member, lookup, required, readFloat_ofFloat, hb, hd, hu, hr]

theorem Adjacency.read_toJson (a : Adjacency) : Adjacency.read a.toJson = some a := by
  have htargets : readList readText (.array (a.targets.map .text)) = some a.targets :=
    readList_map fun _ _ => rfl
  simp [Adjacency.read, toJson, isRecord, member, lookup, required, defaulted, readText, htargets]

theorem TrustGraph.read_toJson (g : TrustGraph) : TrustGraph.read g.toJson = some g := by
  have hadjacency : readList Adjacency.read (.array (g.adjacency.map Adjacency.toJson)) =
      some g.adjacency := readList_map fun a _ => a.read_toJson
  simp [TrustGraph.read, toJson, isRecord, member, lookup, defaulted, readText, hadjacency]

theorem Relationship.read_toJson {r : Relationship} (h : r.opinion.IsFinite) :
    Relationship.read r.toJson = some r := by
  simp [Relationship.read, toJson, isRecord, member, lookup, required, readText, Opinion.read_toJson h]

/-! ### States and bundles -/

theorem readRelationships_toJson {m : NameMap (List Relationship)}
    (h : ∀ (name : String) (rs : List Relationship), m[name]? = some rs → ∀ r ∈ rs, r.opinion.IsFinite) :
    readRelationships (relationshipsToJson m) = some m :=
  readNames_ofNames fun name rs hm => readList_map fun r hr => Relationship.read_toJson (h name rs hm r hr)

theorem readOpinions_toJson {m : NameMap Opinion}
    (h : ∀ (name : String) (o : Opinion), m[name]? = some o → o.IsFinite) :
    readOpinions (opinionsToJson m) = some m :=
  readNames_ofNames fun name o hm => Opinion.read_toJson (h name o hm)

theorem readScores_toJson {m : NameMap Float}
    (h : ∀ (name : String) (x : Float), m[name]? = some x → x.isFinite = true) :
    readScores (scoresToJson m) = some m :=
  readNames_ofNames fun name x hm => readScore_ofFloat (h name x hm)

/-- A map that is written is an object, so it is not taken for one that is missing. -/
theorem nullable_ofNames {α : Type} {read : Json → Option (NameMap α)} {write : α → Json} {m : NameMap α}
    (h : read (ofNames write m) = some m) : nullable ∅ read (some (ofNames write m)) = some m := h

theorem TmiState.read_toJson {s : TmiState} (h : s.IsFinite) : TmiState.read s.toJson = some s := by
  have hvalues : nullable ∅ readRelationships (some (relationshipsToJson s.values)) = some s.values :=
    nullable_ofNames (readRelationships_toJson h.values)
  have hrtls : nullable ∅ readOpinions (some (opinionsToJson s.rtls)) = some s.rtls :=
    nullable_ofNames (readOpinions_toJson h.rtls)
  simp [TmiState.read, toJson, isRecord, member, lookup, required, defaulted, readNatural, Json.natural,
    Number.natural?, TrustGraph.read_toJson, hvalues, hrtls]

theorem AtlBundle.read_toJson {a : AtlBundle} (h : a.IsFinite) : AtlBundle.read a.toJson = some a := by
  have hopinions : nullable ∅ readOpinions (some (opinionsToJson a.opinions)) = some a.opinions :=
    nullable_ofNames (readOpinions_toJson h.opinions)
  have hprobabilities : nullable ∅ readScores (some (scoresToJson a.probabilities)) =
      some a.probabilities := nullable_ofNames (readScores_toJson h.probabilities)
  have hdecisions : nullable ∅ readScores (some (scoresToJson a.decisions)) = some a.decisions :=
    nullable_ofNames (readScores_toJson h.decisions)
  simp [AtlBundle.read, toJson, isRecord, member, lookup, required, defaulted, readText, readNatural,
    Json.natural, Number.natural?, hopinions, hprobabilities, hdecisions]

/-! ### The listing -/

theorem Summary.read_toJson (s : Summary) : Summary.read s.toJson = some s := by
  simp [Summary.read, toJson, isRecord, member, lookup, required, defaulted, readText, readFlag,
    readNatural, Json.natural, Number.natural?, TmiId.read]

theorem Listing.read_toJson (l : Listing) : Listing.read l.toJson = some l :=
  readNames_ofNames fun _ s _ => s.read_toJson

/-! ### The detail -/

namespace Json

theorem lookup_cons (name : String) (m : String × Json) (rest : List (String × Json)) :
    lookup name (m :: rest) = if m.1 = name then some m.2 else lookup name rest := by
  by_cases h : m.1 = name <;> simp [lookup, h]

theorem lookup_append (name : String) (members rest : List (String × Json)) :
    lookup name (members ++ rest) = (lookup name members).or (lookup name rest) := by
  rw [lookup, lookup, lookup, List.find?_append, Option.map_or]

section Members

variable {α : Type} {write : α → Json} {read : Json → Option α} {o : Option α}

theorem lookup_memberOf (name name' : String) :
    lookup name (Detail.memberOf name' write o) = if name' = name then o.map write else none := by
  cases o with
  | none => exact (ite_self none).symm
  | some a => exact lookup_cons name (name', write a) []

/-- A member that may be left out is read back, unless it is written as null. -/
theorem optional_map (h : ∀ a ∈ o, read (write a) = some a ∧ write a ≠ .null) :
    Json.optional read (o.map write) = some o := by
  cases o with
  | none => rfl
  | some a =>
    obtain ⟨hread, hnull⟩ := h a rfl
    rw [Option.map_some, Json.optional, hread]
    · rfl
    · exact hnull

end Members

end Json

namespace BundleContent

/-- The bundles of a payload can be written in JSON. -/
def IsFinite : BundleContent → Prop
  | single bundle => bundle.IsFinite
  | byVersion bundles => ∀ (v : Version) (b : AtlBundle), bundles[v]? = some b → b.IsFinite

/-- No version is the name of a member, so bundles by version are not taken for one bundle. -/
theorem read_byVersion {m : VersionMap AtlBundle}
    (h : ∀ (v : Version) (b : AtlBundle), m[v]? = some b → b.IsFinite) :
    read (byVersion m).toJson = some (byVersion m) := by
  have hversion : (ofVersions AtlBundle.toJson m).get? "Version" = none := by
    rw [ofVersions, get?, lookup, Option.map_eq_none_iff, List.find?_eq_none]
    intro e he
    obtain ⟨e, _, rfl⟩ := List.mem_map.mp he
    rw [beq_iff_eq]
    exact Version.toText_ne_of_letter (c := 'V') (by decide) (by decide) e.1
  have hread : readVersions AtlBundle.read (ofVersions AtlBundle.toJson m) = some m :=
    readVersions_ofVersions fun v b hb => AtlBundle.read_toJson (h v b hb)
  rw [read, toJson, hversion, hread]
  rfl

/-- A bundle is written with its version, so it is not taken for bundles by version. -/
theorem read_single {b : AtlBundle} (h : b.IsFinite) : read (single b).toJson = some (single b) := by
  have hversion : b.toJson.get? "Version" = some (.natural b.version) := rfl
  rw [read, toJson, hversion, AtlBundle.read_toJson h]
  rfl

theorem read_toJson {c : BundleContent} (h : c.IsFinite) : read c.toJson = some c := by
  cases c with
  | single b => exact read_single h
  | byVersion m => exact read_byVersion h

theorem toJson_ne_null (c : BundleContent) : c.toJson ≠ .null := by
  cases c <;> exact Json.noConfusion

end BundleContent

namespace UpdateContent

/-- The kind of a payload can be told from what is written: a value that is kept as it is has the form of
    no other kind, and is not null. -/
def IsTold : UpdateContent → Prop
  | other .null => False
  | other (.array _) => False
  | other (.object members) => readByVersion (.object members) = none
  | _ => True

theorem readByVersion_ofVersions (m : VersionMap (List Json)) :
    readByVersion (ofVersions .array m) = some m :=
  readVersions_ofVersions fun v l _ => by
    have hl : readList some (.array (l.map id)) = some l := readList_map fun _ _ => rfl
    rwa [List.map_id] at hl

theorem ofJson_toJson {u : UpdateContent} (h : u.IsTold) : ofJson u.toJson = u := by
  cases u with
  | list payloads => rfl
  | byVersion m =>
    have hobject : (byVersion m).toJson = .object (m.toList.map fun e => (e.1.toText, .array e.2)) := rfl
    have hmembers : readByVersion (.object (m.toList.map fun e => (e.1.toText, .array e.2))) = some m :=
      readByVersion_ofVersions m
    rw [hobject, ofJson, hmembers]
  | other value =>
    cases value with
    | null => exact h.elim
    | array items => exact h.elim
    | object members =>
      have hmembers : readByVersion (.object members) = none := h
      rw [toJson, ofJson, hmembers]
    | flag | number | text => rfl

theorem toJson_ne_null {u : UpdateContent} (h : u.IsTold) : u.toJson ≠ .null := by
  cases u with
  | list | byVersion => exact Json.noConfusion
  | other value =>
    rintro rfl
    exact h

end UpdateContent

namespace Detail

/-- A detail that can be written in JSON so that the kind of each payload is told. -/
structure IsWritable (d : Detail) : Prop where
  atls : ∀ c ∈ d.atls, c.IsFinite
  state : ∀ st ∈ d.state, st.IsFinite
  states : ∀ m ∈ d.states, ∀ (v : Version) (st : TmiState), m[v]? = some st → st.IsFinite
  updates : ∀ u ∈ d.updates, u.IsTold

/-- A detail is read back as it was written, with the kinds of its payloads. -/
theorem read_toJson {d : Detail} (h : d.IsWritable) : read d.toJson = some d := by
  have hatls : Json.optional BundleContent.read (d.atls.map BundleContent.toJson) = some d.atls :=
    optional_map fun c hc => ⟨BundleContent.read_toJson (h.atls c hc), c.toJson_ne_null⟩
  have hstate : Json.optional TmiState.read (d.state.map TmiState.toJson) = some d.state :=
    optional_map fun st hst => ⟨TmiState.read_toJson (h.state st hst), Json.noConfusion⟩
  have hstates : Json.optional (readVersions TmiState.read)
      (d.states.map (ofVersions TmiState.toJson)) = some d.states :=
    optional_map fun m hm => ⟨readVersions_ofVersions fun v st hst =>
      TmiState.read_toJson (h.states m hm v st hst), Json.noConfusion⟩
  have hupdates : Json.optional (fun u => some (UpdateContent.ofJson u))
      (d.updates.map UpdateContent.toJson) = some d.updates :=
    optional_map fun u hu => ⟨congrArg some (UpdateContent.ofJson_toJson (h.updates u hu)),
      UpdateContent.toJson_ne_null (h.updates u hu)⟩
  simp [read, toJson, isRecord, member, lookup_cons, lookup_append, lookup_memberOf, required, defaulted,
    readText, readFlag, readNatural, Json.natural, Number.natural?, TmiId.read, hatls, hstate, hstates,
    hupdates]

theorem isWritable_complete {t : Tmi} (h : t.IsFinite) : (complete t).IsWritable where
  atls c hc := by
    obtain rfl := Option.some_inj.mp hc
    exact h.atls
  state st hst := absurd hst (Option.not_mem_none st)
  states m hm := by
    obtain rfl := Option.some_inj.mp hm
    exact h.states
  updates u hu := by
    obtain rfl := Option.some_inj.mp hu
    trivial

theorem isWritable_atVersion? {t : Tmi} (h : t.IsFinite) {v : Version} {d : Detail}
    (hd : atVersion? t v = some d) : d.IsWritable := by
  obtain ⟨st, hst, rfl⟩ := Option.map_eq_some_iff.mp hd
  refine ⟨fun c hc => ?_, fun st' hst' => ?_, fun m hm => absurd hm (Option.not_mem_none m), fun u hu => ?_⟩
  · obtain ⟨b, hb, rfl⟩ := Option.map_eq_some_iff.mp hc
    exact h.atls v b hb
  · obtain rfl := Option.some_inj.mp hst'
    exact h.states v st hst
  · obtain rfl := Option.some_inj.mp hu
    trivial

/-- The complete detail of a TMI is read back. -/
theorem read_complete {t : Tmi} (h : t.IsFinite) : read (complete t).toJson = some (complete t) :=
  read_toJson (isWritable_complete h)

end Detail

end TrustReplica
