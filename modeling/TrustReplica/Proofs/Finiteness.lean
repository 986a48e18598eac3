import TrustReplica.Proofs.FiniteFloat
import TrustReplica.Proofs.FirstSpawn
import TrustReplica.Proofs.Readers

/-! What is decoded holds finite floats only: every float of an opinion, a state, a bundle or an event is
    read from a number or from a truth value (`Event.isFinite_of_ofJson`). What a TMI holds comes from the
    events of its history, so it is finite as well. -/

namespace TrustReplica

open Json

/-! ### Members of a record -/

section Members

variable {α : Type} {read : Json → Option α} {m : Option Json} {a : α}

theorem exists_read_of_required (h : required read m = some a) : ∃ v, read v = some a := by
  obtain ⟨v, _, hv⟩ := Option.bind_eq_some_iff.mp h
  exact ⟨v, hv⟩

theorem exists_read_of_optional (h : Json.optional read m = some (some a)) :
    ∃ v, v ≠ .null ∧ read v = some a := by
  unfold Json.optional at h
  split at h
  · exact absurd (Option.some_inj.mp h) (Option.some_ne_none a).symm
  · exact absurd (Option.some_inj.mp h) (Option.some_ne_none a).symm
  · next v hv =>
    obtain ⟨b, hb, he⟩ := Option.map_eq_some_iff.mp h
    exact ⟨v, hv, hb.trans he⟩

theorem exists_read_of_nullable {absent : α} (h : nullable absent read m = some a) :
    a = absent ∨ ∃ v, read v = some a := by
  unfold nullable at h
  split at h
  · exact Or.inl (Option.some_inj.mp h).symm
  · exact Or.inl (Option.some_inj.mp h).symm
  · exact Or.inr ⟨_, h⟩

end Members

theorem isFinite_of_readFloat {v : Json} {x : Float} (h : readFloat v = some x) : x.isFinite = true := by
  cases v with
  | number n => rw [← Option.some_inj.mp h]; exact n.toFloat_isFinite
  | null | flag | text | array | object => exact absurd h (Option.some_ne_none x).symm

theorem isFinite_of_readScore {v : Json} {x : Float} (h : readScore v = some x) : x.isFinite = true := by
  cases v with
  | number n => rw [← Option.some_inj.mp h]; exact n.toFloat_isFinite
  | flag b => rw [← Option.some_inj.mp h]; cases b <;> decide
  | null | text | array | object => exact absurd h (Option.some_ne_none x).symm

/-! ### Opinions, states and bundles -/

/-- All opinions of a state can be written in JSON. -/
structure TmiState.IsFinite (s : TmiState) : Prop where
  values : ∀ (name : String) (rs : List Relationship), s.values[name]? = some rs →
    ∀ r ∈ rs, r.opinion.IsFinite
  rtls : ∀ (name : String) (o : Opinion), s.rtls[name]? = some o → o.IsFinite

/-- All numbers of a bundle can be written in JSON. -/
structure AtlBundle.IsFinite (a : AtlBundle) : Prop where
  opinions : ∀ (name : String) (o : Opinion), a.opinions[name]? = some o → o.IsFinite
  probabilities : ∀ (name : String) (x : Float), a.probabilities[name]? = some x → x.isFinite = true
  decisions : ∀ (name : String) (x : Float), a.decisions[name]? = some x → x.isFinite = true

theorem Opinion.isFinite_of_read {v : Json} {o : Opinion} (h : Opinion.read v = some o) : o.IsFinite := by
  have hfinite : ∀ {m x}, required readFloat m = some x → x.isFinite = true := by
    intro m x hx
    obtain ⟨v, hv⟩ := exists_read_of_required hx
    exact isFinite_of_readFloat hv
  rw [Opinion.read] at h
  split_ifs at h
  obtain ⟨belief, hb, h⟩ := Option.bind_eq_some_iff.mp h
  obtain ⟨disbelief, hd, h⟩ := Option.bind_eq_some_iff.mp h
  obtain ⟨uncertainty, hu, h⟩ := Option.bind_eq_some_iff.mp h
  obtain ⟨baseRate, hr, h⟩ := Option.bind_eq_some_iff.mp h
  rw [← Option.some_inj.mp h]
  exact ⟨hfinite hb, hfinite hd, hfinite hu, hfinite hr⟩

theorem Relationship.isFinite_of_read {v : Json} {r : Relationship} (h : Relationship.read v = some r) :
    r.opinion.IsFinite := by
  rw [Relationship.read] at h
  split_ifs at h
  obtain ⟨source, _, h⟩ := Option.bind_eq_some_iff.mp h
  obtain ⟨destination, _, h⟩ := Option.bind_eq_some_iff.mp h
  obtain ⟨opinion, ho, h⟩ := Option.bind_eq_some_iff.mp h
  obtain ⟨v, hv⟩ := exists_read_of_required ho
  rw [← Option.some_inj.mp h]
  exact Opinion.isFinite_of_read hv

theorem isFinite_of_readRelationships {v : Json} {m : NameMap (List Relationship)}
    (h : readRelationships v = some m) (name : String) (rs : List Relationship)
    (hm : m[name]? = some rs) : ∀ r ∈ rs, r.opinion.IsFinite := by
  obtain ⟨item, hitem⟩ := exists_read_of_readNames h hm
  intro r hr
  obtain ⟨v, hv⟩ := exists_read_of_readList hitem r hr
  exact Relationship.isFinite_of_read hv

theorem isFinite_of_readOpinions {v : Json} {m : NameMap Opinion} (h : readOpinions v = some m)
    (name : String) (o : Opinion) (hm : m[name]? = some o) : o.IsFinite := by
  obtain ⟨item, hitem⟩ := exists_read_of_readNames h hm
  exact Opinion.isFinite_of_read hitem

theorem isFinite_of_readScores {v : Json} {m : NameMap Float} (h : readScores v = some m)
    (name : String) (x : Float) (hm : m[name]? = some x) : x.isFinite = true := by
  obtain ⟨item, hitem⟩ := exists_read_of_readNames h hm
  exact isFinite_of_readScore hitem

theorem TmiState.isFinite_of_read {v : Json} {s : TmiState} (h : TmiState.read v = some s) :
    s.IsFinite := by
  rw [TmiState.read] at h
  split_ifs at h
  obtain ⟨version, _, h⟩ := Option.bind_eq_some_iff.mp h
  obtain ⟨fingerprint, _, h⟩ := Option.bind_eq_some_iff.mp h
  obtain ⟨graph, _, h⟩ := Option.bind_eq_some_iff.mp h
  obtain ⟨values, hvalues, h⟩ := Option.bind_eq_some_iff.mp h
  obtain ⟨rtls, hrtls, h⟩ := Option.bind_eq_some_iff.mp h
  rw [← Option.some_inj.mp h]
  constructor
  · intro name rs hm
    rcases exists_read_of_nullable hvalues with rfl | ⟨v, hv⟩
    · exact absurd hm (by simp)
    · exact isFinite_of_readRelationships hv name rs hm
  · intro name o hm
    rcases exists_read_of_nullable hrtls with rfl | ⟨v, hv⟩
    · exact absurd hm (by simp)
    · exact isFinite_of_readOpinions hv name o hm

theorem AtlBundle.isFinite_of_read {v : Json} {a : AtlBundle} (h : AtlBundle.read v = some a) :
    a.IsFinite := by
  have hscores : ∀ {m scores}, nullable ∅ readScores m = some scores →
      ∀ (name : String) (x : Float), scores[name]? = some x → x.isFinite = true := by
    intro m scores hs name x hx
    rcases exists_read_of_nullable hs with rfl | ⟨v, hv⟩
    · exact absurd hx (by simp)
    · exact isFinite_of_readScores hv name x hx
  rw [AtlBundle.read] at h
  split_ifs at h
  obtain ⟨tmiId, _, h⟩ := Option.bind_eq_some_iff.mp h
  obtain ⟨version, _, h⟩ := Option.bind_eq_some_iff.mp h
  obtain ⟨opinions, ho, h⟩ := Option.bind_eq_some_iff.mp h
  obtain ⟨probabilities, hp, h⟩ := Option.bind_eq_some_iff.mp h
  obtain ⟨decisions, hd, h⟩ := Option.bind_eq_some_iff.mp h
  rw [← Option.some_inj.mp h]
  refine ⟨fun name o hm => ?_, hscores hp, hscores hd⟩
  rcases exists_read_of_nullable ho with rfl | ⟨v, hv⟩
  · exact absurd hm (by simp)
  · exact isFinite_of_readOpinions hv name o hm

/-! ### Events -/

/-- The states and bundles of an event can be written in JSON. -/
structure Event.IsFinite (e : Event) : Prop where
  state : ∀ sn ∈ e.snapshot?, sn.state.IsFinite
  bundle : ∀ b ∈ e.carriedBundle?, b.IsFinite

/-- What a snapshot tells of its maps and of its update was read as members that may be missing. -/
theorem Snapshot.optionals_of_read {v : Json} {sn : Snapshot} (h : Snapshot.read v = some sn) :
    (∃ m, Json.optional readRelationships m = some sn.values) ∧
      (∃ m, Json.optional readOpinions m = some sn.rtls) ∧ ∃ m, Json.optional some m = some sn.update := by
  rw [Snapshot.read] at h
  split_ifs at h
  obtain ⟨fullId, _, h⟩ := Option.bind_eq_some_iff.mp h
  obtain ⟨id, _, h⟩ := Option.bind_eq_some_iff.mp h
  obtain ⟨version, _, h⟩ := Option.bind_eq_some_iff.mp h
  obtain ⟨fingerprint, _, h⟩ := Option.bind_eq_some_iff.mp h
  obtain ⟨graph, _, h⟩ := Option.bind_eq_some_iff.mp h
  obtain ⟨values, hvalues, h⟩ := Option.bind_eq_some_iff.mp h
  obtain ⟨rtls, hrtls, h⟩ := Option.bind_eq_some_iff.mp h
  obtain ⟨update, hupdate, h⟩ := Option.bind_eq_some_iff.mp h
  rw [← Option.some_inj.mp h]
  exact ⟨⟨_, hvalues⟩, ⟨_, hrtls⟩, ⟨_, hupdate⟩⟩

theorem Snapshot.isFinite_of_read {v : Json} {sn : Snapshot} (h : Snapshot.read v = some sn) :
    sn.state.IsFinite := by
  obtain ⟨⟨_, hvalues⟩, ⟨_, hrtls⟩, _⟩ := optionals_of_read h
  constructor
  · intro name rs hm
    cases hv : sn.values with
    | none => exact absurd hm (by simp [state, hv])
    | some m =>
      obtain ⟨v, _, hread⟩ := exists_read_of_optional (hvalues.trans (congrArg some hv))
      rw [state, hv] at hm
      exact isFinite_of_readRelationships hread name rs hm
  · intro name o hm
    cases hr : sn.rtls with
    | none => exact absurd hm (by simp [state, hr])
    | some m =>
      obtain ⟨v, _, hread⟩ := exists_read_of_optional (hrtls.trans (congrArg some hr))
      rw [state, hr] at hm
      exact isFinite_of_readOpinions hread name o hm

/-- Where the parts of an event come from that was read as one of a kind. -/
structure Event.IsReadAs (kind : EventKind) (v : Json) (e : Event) : Prop where
  kind : e.kind? = some kind
  snapshot : ∀ sn ∈ e.snapshot?, Snapshot.read v = some sn
  bundle : ∀ b ∈ e.carriedBundle?, ∃ item, AtlBundle.read item = some b

theorem Event.isReadAs_of_readKind {kind : EventKind} {v : Json} {e : Event}
    (h : readKind kind v = some e) : e.IsReadAs kind v := by
  have hplain : ∀ {e : Event}, e.kind? = some kind → e.snapshot? = none → e.carriedBundle? = none →
      e.IsReadAs kind v :=
    fun hk hs hb => ⟨hk, fun sn h => absurd (hs ▸ h) (Option.not_mem_none sn),
      fun b h => absurd (hb ▸ h) (Option.not_mem_none b)⟩
  have hsnapshot : ∀ {e : Event} {sn : Snapshot}, Snapshot.read v = some sn → e.kind? = some kind →
      e.snapshot? = some sn → e.carriedBundle? = none → e.IsReadAs kind v := by
    intro e sn hr hk hs hb
    refine ⟨hk, fun sn' h => ?_, fun b h => absurd (hb ▸ h) (Option.not_mem_none b)⟩
    rw [← Option.some_inj.mp (hs.symm.trans h)]
    exact hr
  cases kind with
  | sessionCreated =>
    obtain ⟨session, _, h⟩ := Option.bind_eq_some_iff.mp h
    obtain ⟨client, _, h⟩ := Option.bind_eq_some_iff.mp h
    obtain ⟨template, _, h⟩ := Option.bind_eq_some_iff.mp h
    rw [← Option.some_inj.mp h]
    exact hplain rfl rfl rfl
  | sessionTorndown =>
    obtain ⟨session, _, h⟩ := Option.bind_eq_some_iff.mp h
    rw [← Option.some_inj.mp h]
    exact hplain rfl rfl rfl
  | spawned =>
    obtain ⟨sn, hr, rfl⟩ := Option.map_eq_some_iff.mp h
    exact hsnapshot hr rfl rfl rfl
  | updated =>
    obtain ⟨sn, hr, rfl⟩ := Option.map_eq_some_iff.mp h
    exact hsnapshot hr rfl rfl rfl
  | deleted =>
    obtain ⟨f, _, h⟩ := Option.bind_eq_some_iff.mp h
    rw [← Option.some_inj.mp h]
    exact hplain rfl rfl rfl
  | atlUpdated =>
    obtain ⟨f, _, h⟩ := Option.bind_eq_some_iff.mp h
    obtain ⟨nominal, _, h⟩ := Option.bind_eq_some_iff.mp h
    obtain ⟨bundle, hb, h⟩ := Option.bind_eq_some_iff.mp h
    rw [← Option.some_inj.mp h]
    refine ⟨rfl, fun sn hs => absurd hs (Option.not_mem_none sn), fun b hb' => ?_⟩
    rw [← Option.some_inj.mp hb']
    exact exists_read_of_required hb
  | atlRemoved =>
    obtain ⟨f, _, h⟩ := Option.bind_eq_some_iff.mp h
    rw [← Option.some_inj.mp h]
    exact hplain rfl rfl rfl

theorem Event.isFinite_of_readKind {kind : EventKind} {v : Json} {e : Event}
    (h : readKind kind v = some e) : e.IsFinite := by
  have hread := isReadAs_of_readKind h
  constructor
  · intro sn hs
    exact Snapshot.isFinite_of_read (hread.snapshot sn hs)
  · intro b hb
    obtain ⟨item, hitem⟩ := hread.bundle b hb
    exact AtlBundle.isFinite_of_read hitem

/-- An event that is decoded is finite. -/
theorem Event.isFinite_of_ofJson {v : Json} {e : Event} (h : ofJson v = .ok e) : e.IsFinite := by
  rw [ofJson] at h
  split at h
  · exact absurd h (by simp)
  · split at h
    · obtain rfl := Except.ok.inj h
      exact ⟨fun sn hs => absurd hs (Option.not_mem_none sn),
        fun b hb => absurd hb (Option.not_mem_none b)⟩
    · split at h
      · next hk => obtain rfl := Except.ok.inj h; exact isFinite_of_readKind hk
      · exact absurd h (by simp)

/-- The states and bundles of a TMI can be written in JSON. -/
structure Tmi.IsFinite (t : Tmi) : Prop where
  states : ∀ (v : Version) (st : TmiState), t.states[v]? = some st → st.IsFinite
  atls : ∀ (v : Version) (b : AtlBundle), t.atls[v]? = some b → b.IsFinite

/-- What events tell of a TMI is finite if they are. -/
theorem TellsOf.isFinite {f : TmiId} {events : List Event} {t : Tmi} (h : TellsOf f events t)
    (hfinite : ∀ e ∈ events, e.IsFinite) : t.IsFinite := by
  constructor
  · intro v st hst
    rw [h.states] at hst
    obtain ⟨sn, hsn, rfl⟩ := Option.map_eq_some_iff.mp hst
    obtain ⟨e, he, hsn⟩ := List.mem_filterMap.mp (List.mem_of_find?_eq_some hsn)
    exact (hfinite e he).state sn hsn
  · intro v b hb
    rw [h.atls] at hb
    obtain ⟨e, he, hb⟩ := List.mem_filterMap.mp (List.mem_of_mem_filter (List.mem_of_getLast? hb))
    exact (hfinite e he).bundle b hb

end TrustReplica
