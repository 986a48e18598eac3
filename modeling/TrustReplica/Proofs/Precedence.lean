import TrustReplica.Proofs.Reporting

/-! What a fetch of one TMI leaves in its record. The record that an answer is merged into is the one that
    is held, or an empty one that the answer names itself (`Store.IsBase`). Which part of the answer wins is
    told field by field, through look-ups (`Tmi.FollowsPrecedence`): a bundle that comes alone goes to its
    version; a single state goes to its version, and nothing else of the answer counts but the payloads for
    it; otherwise a map of states replaces all, and so do payloads and bundles by version. An answer is
    refused just if the TMI is not held and its identifier names no place (`TmiId.IsPlaceless`). -/

namespace TrustReplica

/-! ### The record that is merged into -/

/-- The identifier lacks its application or its session, or has one of them empty. -/
def TmiId.IsPlaceless (f : TmiId) : Prop :=
  (∀ application, f.application? = some application → application = "") ∨
    ∀ session, f.session? = some session → session.text = ""

/-- The record that a detail is merged into. -/
inductive Store.IsBase (s : Store) (d : Detail) : Tmi → Prop where
  /-- A TMI that is known is merged into as it stands. -/
  | known {t : Tmi} (held : s.tmi? d.fullId = some t) : s.IsBase d t
  /-- A TMI that is not known has application and session by its identifier, all else by the detail. -/
  | first {application : String} {session : SessionId} (missing : s.tmi? d.fullId = none)
      (inApplication : d.fullId.application? = some application)
      (inSession : d.fullId.session? = some session) :
      s.IsBase d ⟨d.id, d.fullId, application, session, d.template, d.active, d.latestVersion, ∅, ∅, ∅⟩

/-- A TMI that is not known is not loaded just if its identifier names no place. -/
theorem Detail.identity_cases (d : Detail) :
    (d.fullId.IsPlaceless ∧ d.identity = .error (.malformedIdentifier d.fullId)) ∨
      ¬ d.fullId.IsPlaceless ∧ ∃ application session, d.fullId.application? = some application ∧
        d.fullId.session? = some session ∧ d.identity = .ok ⟨application, session, d.template, d.id⟩ := by
  rw [identity, TmiId.IsPlaceless]
  cases ha : d.fullId.application? with
  | none => exact Or.inl ⟨Or.inl fun _ h => absurd h (Option.some_ne_none _).symm, rfl⟩
  | some application =>
    cases hs : d.fullId.session? with
    | none => exact Or.inl ⟨Or.inr fun _ h => absurd h (Option.some_ne_none _).symm, rfl⟩
    | some session =>
      simp only [Option.some.injEq, forall_eq', Bool.or_eq_true, String.isEmpty_iff]
      split_ifs with hempty
      · exact Or.inl ⟨hempty, rfl⟩
      · exact Or.inr ⟨hempty, application, session, rfl, rfl, rfl⟩

theorem Store.baseFor_cases (s : Store) (d : Detail) :
    ((s.tmi? d.fullId = none ∧ d.fullId.IsPlaceless) ∧
        s.baseFor d = .error (.malformedIdentifier d.fullId)) ∨
      ¬ (s.tmi? d.fullId = none ∧ d.fullId.IsPlaceless) ∧ ∃ base, s.IsBase d base ∧ s.baseFor d = .ok base := by
  rw [baseFor]
  cases ht : s.tmi? d.fullId with
  | some t => exact Or.inr ⟨fun h => absurd h.1 (Option.some_ne_none t), t, .known ht, rfl⟩
  | none =>
    rcases d.identity_cases with ⟨hplace, hid⟩ | ⟨hplace, application, session, ha, hs, hid⟩
    · rw [hid]
      exact Or.inl ⟨⟨rfl, hplace⟩, rfl⟩
    · rw [hid]
      exact Or.inr ⟨fun h => hplace h.2, _, .first ht ha hs, rfl⟩

/-! ### The precedence -/

/-- A map that has one value more than another one, or a new value at one version. -/
def VersionMap.IsSetAt {α : Type} (m : VersionMap α) (v : Version) (a : α) (m' : VersionMap α) : Prop :=
  ∀ w, m'[w]? = if w = v then some a else m[w]?

/-- The larger one of a version and the versions of a map. -/
structure Version.IsRaisedTo {α : Type} (latest : Version) (m : VersionMap α) (v : Version) : Prop where
  latest_le : latest ≤ v
  le : ∀ w ∈ m, w ≤ v
  eq_or_mem : v = latest ∨ v ∈ m

/-- What a record is after a detail is merged into it, field by field. -/
structure Tmi.FollowsPrecedence (base : Tmi) (d : Detail) (merged : Tmi) : Prop where
  names : merged.names = base.names
  active : merged.active = base.active
  /-- A single state goes to its version, before a map of states replaces all. -/
  states : match d.state, d.states with
    | some st, _ => base.states.IsSetAt st.version st merged.states
    | none, some states => merged.states = states
    | none, none => merged.states = base.states
  latest : match d.state, d.states with
    | some st, _ => merged.latestVersion = max base.latestVersion st.version
    | none, some states => base.latestVersion.IsRaisedTo states merged.latestVersion
    | none, none => merged.latestVersion = base.latestVersion
  /-- Payloads for a single state are a list or one bare object; those by version come with all states. -/
  updates : match d.state, d.states, d.updates with
    | some st, _, some (.list payloads) => base.updates.IsSetAt st.version payloads merged.updates
    | some st, _, some (.other (.object members)) =>
      base.updates.IsSetAt st.version [.object members] merged.updates
    | none, some _, some (.byVersion payloads) => merged.updates = payloads
    | _, _, _ => merged.updates = base.updates
  /-- A bundle that comes alone goes to its version; those by version come with all states. -/
  atls : match d.state, d.states, d.atls with
    | _, _, some (.single bundle) => base.atls.IsSetAt bundle.version bundle merged.atls
    | none, some _, some (.byVersion bundles) => merged.atls = bundles
    | _, _, _ => merged.atls = base.atls

theorem VersionMap.isSetAt_insert {α : Type} (m : VersionMap α) (v : Version) (a : α) :
    m.IsSetAt v a (m.insert v a) := by
  intro w
  rw [Maps.getElem?_insert]
  simp only [eq_comm]

theorem Version.isRaisedTo_maxKey? {α : Type} (latest : Version) (m : VersionMap α) :
    latest.IsRaisedTo m (m.maxKey?.elim latest fun v => max latest v) := by
  cases hmax : m.maxKey? with
  | none =>
    rw [Std.ExtTreeMap.maxKey?_eq_none_iff] at hmax
    subst hmax
    exact ⟨UInt64.le_refl latest, fun w hw => absurd hw Std.ExtTreeMap.not_mem_empty, Or.inl rfl⟩
  | some top =>
    refine ⟨le_max_left latest top, fun w hw => ?_, ?_⟩
    · have htop := (Std.ExtTreeMap.maxKey?_eq_some_iff_mem_and_forall.mp hmax).2 w hw
      exact UInt64.le_trans (Std.isLE_compare.mp htop) (le_max_right latest top)
    · have hchoice : max latest top = if latest ≤ top then top else latest := rfl
      rw [Option.elim_some, hchoice]
      split_ifs
      · exact Or.inr (Std.ExtTreeMap.maxKey?_mem hmax)
      · exact Or.inl rfl

/-- Merging follows the precedence. -/
theorem Tmi.followsPrecedence_merge (base : Tmi) (d : Detail) :
    base.FollowsPrecedence d (base.merge d) := by
  obtain ⟨fullId, id, template, active, latestVersion, atls, state, states, updates⟩ := d
  cases state with
  | some st =>
    rw [merge_of_state base rfl]
    refine ⟨rfl, rfl, VersionMap.isSetAt_insert _ _ _, rfl, ?_, ?_⟩
    · rcases updates with _ | payloads | payloads | value
      · rfl
      · exact VersionMap.isSetAt_insert _ _ _
      · rfl
      · cases value with
        | object members => exact VersionMap.isSetAt_insert _ _ _
        | null | flag | number | text | array => rfl
    · rcases atls with _ | bundle | bundles
      · rfl
      · exact VersionMap.isSetAt_insert _ _ _
      · rfl
  | none =>
    cases states with
    | some states =>
      rw [merge_of_states base rfl rfl]
      refine ⟨rfl, rfl, rfl, Version.isRaisedTo_maxKey? _ _, ?_, ?_⟩
      · rcases updates with _ | payloads | payloads | value <;> rfl
      · rcases atls with _ | bundle | bundles
        · rfl
        · exact VersionMap.isSetAt_insert _ _ _
        · rfl
    | none =>
      rw [merge_of_no_state base rfl rfl]
      refine ⟨rfl, rfl, rfl, rfl, ?_, ?_⟩
      · rcases updates with _ | payloads | payloads | value <;> rfl
      · rcases atls with _ | bundle | bundles
        · rfl
        · exact VersionMap.isSetAt_insert _ _ _
        · rfl

/-! ### A fetch -/

/-- What becomes of an answer to a fetch of one TMI: the result, and the replica after it. -/
structure Replica.AdoptsByPrecedence (r : Replica) (d : Detail) (result : Except LoadError Tmi)
    (after : Replica) : Prop where
  refused : result = .error (.malformedIdentifier d.fullId) ↔
    r.store.tmi? d.fullId = none ∧ d.fullId.IsPlaceless
  failed : ∀ e, result = .error e → e = .malformedIdentifier d.fullId ∧ after = r
  /-- The record that is returned is the one that is stored, and the only one that changes. -/
  merged : ∀ t, result = .ok t → ∃ base, r.store.IsBase d base ∧ base.FollowsPrecedence d t ∧
    after.store.tmi? t.fullId = some t ∧ r.store.DiffersAtMost after.store (some t.fullId) none ∧
    after.journal = r.journal ∧ (r.store.IsFiled → t.fullId = d.fullId)

/-- An answer to a fetch of one TMI is merged by the precedence, whatever the replica holds, and every
    replica that started empty has each TMI under its own identifier. -/
theorem Replica.adoptsByPrecedence {σ : Type} (source : Source σ) (world : σ) (request : Request) {d : Detail}
    (hanswer : (source.fetch request world).1 = .ok d) :
    (∀ r : Replica, r.AdoptsByPrecedence d (r.fetchTmi source world request).1
      (r.fetchTmi source world request).2.1) ∧
    ∀ (capacity : Nat) (ops : List Operation), ((empty capacity).performAll ops).store.IsFiled := by
  refine ⟨fun r => ?_, fun capacity ops f t ht => ((isSound_performAll capacity ops).tmis f t ht).fullId⟩
  have hresult : (r.fetchTmi source world request).1 = (r.store.adoptDetail d).1 := by
    change (r.store.adoptAnswer (source.fetch request world).1).1 = _
    rw [hanswer, Store.adoptAnswer]
  have hafter : (r.fetchTmi source world request).2.1 = { r with store := (r.store.adoptDetail d).2 } := by
    change Replica.mk (r.store.adoptAnswer (source.fetch request world).1).2 r.journal = _
    rw [hanswer, Store.adoptAnswer]
  rw [hresult, hafter]
  rcases r.store.baseFor_cases d with ⟨hrefused, hbase⟩ | ⟨hadopted, base, hisBase, hbase⟩
  · have hadopt : r.store.adoptDetail d = (.error (.malformedIdentifier d.fullId), r.store) := by
      rw [Store.adoptDetail, hbase]
    rw [hadopt]
    refine ⟨⟨fun _ => hrefused, fun _ => rfl⟩, fun e he => ⟨(Except.error.inj he).symm, rfl⟩, fun t ht => ?_⟩
    exact absurd ht (by simp)
  · have hadopt : r.store.adoptDetail d = (.ok (base.merge d), r.store.insertTmi (base.merge d)) := by
      rw [Store.adoptDetail, hbase]
    rw [hadopt]
    refine ⟨⟨fun h => absurd h (by simp), fun h => absurd h hadopted⟩, fun e he => absurd he (by simp),
      fun t ht => ?_⟩
    obtain rfl := Except.ok.inj ht
    refine ⟨base, hisBase, base.followsPrecedence_merge d, ?_, Store.differsAtMost_insertTmi _ _, rfl,
      fun hfiled => ?_⟩
    · rw [Store.tmi?_insertTmi, if_pos rfl]
    · rw [Tmi.fullId_merge]
      exact Store.fullId_of_baseFor hfiled hbase

/-- A detail with more than counts: beside a single state there are all states, the bundle is of another
    version, and the update is a bare object. -/
def Detail.stateBesideStates : Detail :=
  { fullId := ⟨"//a/s/t/i"⟩, id := "i", template := "t", active := true, latestVersion := 3
    atls := some (.single ⟨"i", 9, ∅, ∅, ∅⟩)
    state := some ⟨3, 0, .empty, ∅, ∅⟩
    states := some (.ofList [((7 : Version), TmiState.mk 7 0 .empty ∅ ∅)])
    updates := some (.other (.object [("op", .text "set")])) }

/-- The bundle goes to its own version, the bare object to the version of the state, and the other states do
    not count; a TMI whose identifier names no place is not loaded. -/
theorem Replica.adoptsByPrecedence_stateBesideStates :
    let source (d : Detail) : Source Unit := .constant (.ok ∅) (.ok d)
    let request : Request := ⟨"a", "s", "t", "i", .at 3⟩
    ((source .stateBesideStates).fetch request ()).1 = .ok .stateBesideStates ∧
    (∃ t base, (ofSpawnFive.fetchTmi (source .stateBesideStates) () request).1 = .ok t ∧
      ofSpawnFive.store.IsBase .stateBesideStates base ∧ t.latestVersion = max base.latestVersion 3 ∧
      t.states[(7 : Version)]? = base.states[(7 : Version)]? ∧
      t.updates[(3 : Version)]? = some [.object [("op", .text "set")]] ∧
      t.atls[(9 : Version)]? = some ⟨"i", 9, ∅, ∅, ∅⟩) ∧
    ((source namelessDetail).fetch request ()).1 = .ok namelessDetail ∧
    ofSpawnFive.store.tmi? namelessDetail.fullId = none ∧ namelessDetail.fullId.IsPlaceless ∧
    (ofSpawnFive.fetchTmi (source namelessDetail) () request).2.1 = ofSpawnFive := by
  intro source request
  have hboth (d : Detail) := (adoptsByPrecedence (source d) () request (d := d) rfl).1 ofSpawnFive
  obtain ⟨t, ht⟩ : ∃ t, (ofSpawnFive.fetchTmi (source .stateBesideStates) () request).1 = .ok t := ⟨_, rfl⟩
  obtain ⟨base, hbase, hprecedence, -⟩ := (hboth .stateBesideStates).merged t ht
  have hrefused : (ofSpawnFive.fetchTmi (source namelessDetail) () request).1 =
    .error (.malformedIdentifier namelessDetail.fullId) := rfl
  obtain ⟨hmissing, hplaceless⟩ := (hboth namelessDetail).refused.mp hrefused
  exact ⟨rfl, ⟨t, base, ht, hbase, hprecedence.latest, hprecedence.states 7, hprecedence.updates 3,
    hprecedence.atls 9⟩, rfl, hmissing, hplaceless, ((hboth namelessDetail).failed _ hrefused).2⟩

end TrustReplica
