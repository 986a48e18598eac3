import TrustReplica.Proofs.FirstSpawn
import TrustReplica.Proofs.Operations
import TrustReplica.Proofs.Updates

/-! What holds of a store after any operations. Every session and every TMI stands under its own
    identifier, a session lists just TMIs that name it and each of them once, and no state is above the
    latest version (`Store.IsSound`). A change makes every record anew from the one that was held, or from
    an empty one, by an event or by a merge (`Change.onTmi_induction`), so it is enough to look at these.
    States and bundles stand under their own versions, too (`Store.IsKeyed`), if those do that come by
    version in the details that are merged. -/

namespace TrustReplica

/-- What holds of the session under an identifier. -/
structure Session.IsSound (id : SessionId) (session : Session) : Prop where
  id_eq : session.id = id
  nodup : session.tmis.Nodup
  named : ∀ f ∈ session.tmis, ∃ identity, f.identity = .ok identity ∧ identity.session = id

/-- What holds of the TMI under an identifier. -/
structure Tmi.IsSound (f : TmiId) (t : Tmi) : Prop where
  fullId : t.fullId = f
  latest : ∀ v ∈ t.states, v ≤ t.latestVersion

/-- What holds of a store. -/
structure Store.IsSound (s : Store) : Prop where
  sessions : ∀ id session, s.session? id = some session → session.IsSound id
  tmis : ∀ f t, s.tmi? f = some t → t.IsSound f

/-- Everything in a map stands under its own version. -/
def KeyedBy {α : Type} (version : α → Version) (m : VersionMap α) : Prop :=
  ∀ v a, m[v]? = some a → version a = v

/-- States and bundles stand under their own versions. -/
structure Tmi.IsKeyed (t : Tmi) : Prop where
  states : KeyedBy TmiState.version t.states
  atls : KeyedBy AtlBundle.version t.atls

/-- States and bundles of all TMIs stand under their own versions. -/
def Store.IsKeyed (s : Store) : Prop := ∀ f t, s.tmi? f = some t → t.IsKeyed

/-- Where the states of a detail replace all states, these and the bundles that come with them stand under
    their own versions. -/
def Detail.IsKeyed (d : Detail) : Prop :=
  d.state = none → ∀ states, d.states = some states →
    KeyedBy TmiState.version states ∧
      ∀ bundles, d.atls = some (.byVersion bundles) → KeyedBy AtlBundle.version bundles

namespace Store

/-- The detail that a change merges. -/
def merged? (s : Store) : Change → Option Detail
  | .detail (.ok d) => if (s.adoptDetail d).1.isOk then some d else none
  | _ => none

/-- The details that many changes merge. -/
def merges (s : Store) : List Change → List Detail
  | [] => []
  | c :: changes => (s.merged? c).toList ++ (s.take c).merges changes

end Store

/-! ### Records -/

namespace Event

variable {f : TmiId} {e : Event}

/-- A version that an event claims anew is not above the latest version. -/
theorem le_latestVersion_of_claims {t : Tmi} {v : Version} (hnew : v ∉ t.states)
    (h : e.claims f v = true) : v ≤ (e.actOn f t).latestVersion := by
  cases e with
  | spawned sn =>
    rw [claims, claim?] at h
    rw [actOn]
    split_ifs at h ⊢
    · obtain rfl : sn.version = v := of_decide_eq_true h
      exact (Tmi.le_latestVersion_raiseLatest (t.claimState sn.state) sn.version).1
    · exact absurd h Bool.false_ne_true
  | updated sn =>
    rw [claims, claim?] at h
    rw [actOn]
    split_ifs at h ⊢
    · obtain rfl : sn.version = v := of_decide_eq_true h
      rw [Tmi.update_of_unclaimed t sn hnew]
      exact (Tmi.le_latestVersion_raiseLatest _ sn.version).1
    · exact absurd h Bool.false_ne_true
  | sessionCreated | sessionTorndown | deleted | atlUpdated | atlRemoved | unrecognized =>
    exact absurd h Bool.false_ne_true

end Event

theorem Tmi.ofSummary_eq_empty (key : String) (summary : Summary) :
    ∃ identity, ofSummary key summary =
      .empty summary.fullId identity summary.active summary.latestVersion :=
  ⟨_, rfl⟩

/-- The record of a listing under an identifier is an empty one of it. -/
theorem Listing.eq_empty_of_records {l : Listing} {f : TmiId} {t : Tmi} (h : l.records[f]? = some t) :
    ∃ identity active v, t = .empty f identity active v := by
  rw [getElem?_records] at h
  obtain ⟨⟨key, summary⟩, hlast, rfl⟩ := Option.map_eq_some_iff.mp h
  have hf : summary.fullId = f := by
    have hmem := List.mem_of_mem_getLast? hlast
    simpa using (List.mem_filter.mp hmem).2
  obtain ⟨identity, heq⟩ := Tmi.ofSummary_eq_empty key summary
  exact ⟨identity, summary.active, summary.latestVersion, by rw [heq, hf]⟩

/-- What holds of an empty record, and is kept by the event of a change or by its merge, holds of the record
    that the change leaves. -/
theorem Change.onTmi_induction {P : Tmi → Prop} {f : TmiId} {c : Change} {held : Option Tmi}
    (hempty : ∀ identity active v, P (.empty f identity active v))
    (hevent : ∀ e, c = .event e → ∀ t, P t → P (e.actOn f t))
    (hmerge : ∀ d, c = .detail (.ok d) → d.fullId = f → held.isSome ∨ d.identity.isOk →
      ∀ t, P t → P (t.merge d))
    (hheld : ∀ t, held = some t → P t) : ∀ t, c.onTmi f held = some t → P t := by
  intro t ht
  cases c with
  | event e =>
    cases held with
    | some u =>
      rw [onTmi, Event.onTmi_some] at ht
      rw [← Option.some_inj.mp ht]
      exact hevent e rfl u (hheld u rfl)
    | none =>
      obtain ⟨sn, identity, rfl, rfl⟩ := Event.onTmi_none_cases ht
      exact hevent e rfl _ (hempty _ _ _)
  | listing answer =>
    cases answer with
    | error _ => exact hheld t ht
    | ok l =>
      obtain ⟨identity, active, v, rfl⟩ := Listing.eq_empty_of_records ht
      exact hempty identity active v
  | detail answer =>
    cases answer with
    | error _ => exact hheld t ht
    | ok d =>
      rw [onTmi, Detail.onTmi] at ht
      split_ifs at ht with hf
      · cases held with
        | some u =>
          rw [← Option.some_inj.mp ht]
          exact hmerge d rfl hf (Or.inl rfl) u (hheld u rfl)
        | none =>
          rw [Option.elim_none, Detail.firstRecord?] at ht
          cases hid : d.identity with
          | error _ =>
            rw [hid] at ht
            exact absurd ht (Option.some_ne_none t).symm
          | ok identity =>
            rw [hid] at ht
            rw [← Option.some_inj.mp ht, hf]
            exact hmerge d rfl hf (Or.inr (by rw [hid]; rfl)) _ (hempty identity d.active d.latestVersion)
      · exact hheld t ht

/-! ### Own identifiers and latest versions -/

namespace Tmi.IsSound

variable {f : TmiId} {t : Tmi}

theorem empty (identity : Identity) (active : Bool) (v : Version) :
    (Tmi.empty f identity active v).IsSound f :=
  ⟨rfl, fun _ hv => absurd hv Std.ExtTreeMap.not_mem_empty⟩

theorem actOn (h : t.IsSound f) (e : Event) : (e.actOn f t).IsSound f := by
  refine ⟨?_, fun v hv => ?_⟩
  · have hnames := congrArg Prod.fst (Event.names_actOn f e t)
    exact hnames.trans h.fullId
  · have hgrows := Event.latestVersion_le_actOn f e t
    by_cases hold : v ∈ t.states
    · exact UInt64.le_trans (h.latest v hold) hgrows
    · rw [← Tmi.isClaimed_iff, Event.isClaimed_actOn, Bool.or_eq_true, Tmi.isClaimed_iff] at hv
      exact Event.le_latestVersion_of_claims hold (hv.resolve_left hold)

theorem merge (h : t.IsSound f) (d : Detail) : (t.merge d).IsSound f :=
  ⟨(Tmi.fullId_merge t d).trans h.fullId, Tmi.le_latestVersion_merge t d h.latest⟩

end Tmi.IsSound

namespace Session.IsSound

variable {id : SessionId} {session : Session}

theorem link (h : session.IsSound id) {f : TmiId} {identity : Identity} (hid : f.identity = .ok identity)
    (hsession : identity.session = id) : (session.link f).IsSound id := by
  rw [Session.link]
  split_ifs with hmem
  · exact h
  · refine ⟨h.id_eq, ?_, fun g hg => ?_⟩
    · rw [List.nodup_append_comm]
      exact List.nodup_cons.mpr ⟨hmem, h.nodup⟩
    · rcases List.mem_append.mp hg with hg | hg
      · exact h.named g hg
      · rw [List.mem_singleton.mp hg]
        exact ⟨identity, hid, hsession⟩

theorem onSession {held : Option Session} (hheld : ∀ session, held = some session → session.IsSound id)
    (e : Event) : ∀ session, e.onSession id held = some session → session.IsSound id := by
  intro session hs
  cases e with
  | sessionCreated i client template =>
    rw [Event.onSession] at hs
    split_ifs at hs with hi
    · rw [← Option.some_inj.mp hs, hi]
      exact ⟨rfl, List.nodup_nil, fun f hf => absurd hf List.not_mem_nil⟩
    · exact hheld session hs
  | sessionTorndown i =>
    rw [Event.onSession] at hs
    split_ifs at hs with hi
    · obtain ⟨old, hold, rfl⟩ := Option.map_eq_some_iff.mp hs
      have h := hheld old hold
      exact ⟨h.id_eq, h.nodup, h.named⟩
    · exact hheld session hs
  | spawned sn =>
    rw [Event.onSession] at hs
    cases hid : sn.fullId.identity with
    | error _ =>
      rw [hid] at hs
      exact hheld session hs
    | ok identity =>
      rw [hid] at hs
      simp only at hs
      split_ifs at hs with hi
      · obtain ⟨old, hold, rfl⟩ := Option.map_eq_some_iff.mp hs
        exact (hheld old hold).link hid hi
      · exact hheld session hs
  | updated | deleted | atlUpdated | atlRemoved | unrecognized => exact hheld session hs

end Session.IsSound

namespace Store

theorem isSound_empty : Store.empty.IsSound :=
  ⟨fun _ _ h => absurd h (by simp [session?, empty]), fun _ _ h => absurd h (by simp [tmi?, empty])⟩

variable {s : Store}

theorem IsSound.tmi?_take (h : s.IsSound) (c : Change) (f : TmiId) :
    (s.take c).tmi? f = c.onTmi f (s.tmi? f) :=
  Store.tmi?_take s c (fun g t ht => (h.tmis g t ht).fullId) f

/-- Every change keeps a store sound. -/
theorem IsSound.take (h : s.IsSound) (c : Change) : (s.take c).IsSound := by
  refine ⟨fun id session hs => ?_, fun f t ht => ?_⟩
  · rw [session?_take] at hs
    cases c with
    | event e => exact Session.IsSound.onSession (h.sessions id) e session hs
    | listing answer => exact h.sessions id session hs
    | detail answer => exact h.sessions id session hs
  · rw [h.tmi?_take] at ht
    refine Change.onTmi_induction ?_ ?_ ?_ (h.tmis f) t ht
    · exact Tmi.IsSound.empty
    · exact fun e _ t ht => ht.actOn e
    · exact fun d _ _ _ t ht => ht.merge d

theorem IsSound.takeAll (h : s.IsSound) (changes : List Change) : (s.takeAll changes).IsSound := by
  induction changes generalizing s with
  | nil => exact h
  | cons c changes ih => exact ih (h.take c)

end Store

/-- A replica that started empty is sound, whatever was done to it. -/
theorem Replica.isSound_performAll (capacity : Nat) (ops : List Operation) :
    ((Replica.empty capacity).performAll ops).store.IsSound := by
  rw [store_performAll]
  exact Store.isSound_empty.takeAll _

/-! ### Own versions -/

namespace KeyedBy

variable {α : Type} {version : α → Version} {m : VersionMap α}

theorem empty : KeyedBy version ∅ := by
  intro v a h
  simp at h

theorem insert (h : KeyedBy version m) (a : α) : KeyedBy version (m.insert (version a) a) := by
  intro v b hb
  rw [Maps.getElem?_insert] at hb
  split_ifs at hb with hv
  · rw [← Option.some_inj.mp hb, hv]
  · exact h v b hb

theorem insertIfNew (h : KeyedBy version m) (a : α) :
    KeyedBy version (m.insertIfNew (version a) a) := by
  by_cases hmem : version a ∈ m
  · rwa [Maps.insertIfNew_of_mem hmem]
  · rw [Maps.insertIfNew_of_not_mem hmem]
    exact h.insert a

end KeyedBy

namespace Tmi.IsKeyed

variable {t : Tmi}

theorem empty (f : TmiId) (identity : Identity) (active : Bool) (v : Version) :
    (Tmi.empty f identity active v).IsKeyed := ⟨KeyedBy.empty, KeyedBy.empty⟩

theorem actOn (h : t.IsKeyed) (f : TmiId) (e : Event) : (e.actOn f t).IsKeyed := by
  constructor
  · rw [Event.states_actOn]
    cases e.claim? f with
    | none => exact h.states
    | some st => exact h.states.insertIfNew st
  · rw [Event.atls_actOn]
    cases e.bundle? f with
    | none => exact h.atls
    | some bundle => exact h.atls.insert bundle

/-- Only states and bundles that replace all others can stand under versions that are not their own. -/
theorem merge (h : t.IsKeyed) {d : Detail} (hd : d.IsKeyed) : (t.merge d).IsKeyed := by
  have hbundle : KeyedBy AtlBundle.version
      (d.bundle?.elim t.atls fun b => t.atls.insert b.version b) := by
    cases d.bundle? with
    | none => exact h.atls
    | some b => exact h.atls.insert b
  cases hstate : d.state with
  | some st =>
    rw [merge_of_state t hstate]
    exact ⟨h.states.insert st, hbundle⟩
  | none =>
    cases hstates : d.states with
    | some states =>
      rw [merge_of_states t hstate hstates]
      obtain ⟨hown, hownBundles⟩ := hd hstate states hstates
      refine ⟨hown, ?_⟩
      rw [Detail.bundles?]
      split
      · next bundles hatls => exact hownBundles bundles hatls
      · exact hbundle
    | none =>
      rw [merge_of_no_state t hstate hstates]
      exact ⟨h.states, hbundle⟩

end Tmi.IsKeyed

namespace Store

variable {s : Store}

theorem isOk_adoptDetail (s : Store) (d : Detail) :
    (s.adoptDetail d).1.isOk = ((s.tmi? d.fullId).isSome || d.identity.isOk) := by
  rw [adoptDetail, baseFor]
  cases s.tmi? d.fullId with
  | some t => rfl
  | none => cases d.identity <;> rfl

/-- A change keeps states and bundles under their own versions, if the detail that it merges, if any, has
    its own so. -/
theorem IsKeyed.take (h : s.IsKeyed) (hs : s.IsSound) {c : Change}
    (hc : ∀ d, s.merged? c = some d → d.IsKeyed) : (s.take c).IsKeyed := by
  intro f t ht
  rw [hs.tmi?_take] at ht
  refine Change.onTmi_induction (P := Tmi.IsKeyed) ?_ ?_ ?_ (h f) t ht
  · exact Tmi.IsKeyed.empty f
  · exact fun e _ t ht => ht.actOn f e
  · rintro d rfl rfl hmerged t ht
    refine ht.merge (hc d ?_)
    rw [merged?, isOk_adoptDetail, if_pos]
    simpa using hmerged

theorem IsKeyed.takeAll (h : s.IsKeyed) (hs : s.IsSound) {changes : List Change}
    (hmerges : ∀ d ∈ s.merges changes, d.IsKeyed) : (s.takeAll changes).IsKeyed := by
  induction changes generalizing s with
  | nil => exact h
  | cons c changes ih =>
    rw [merges, List.forall_mem_append] at hmerges
    refine ih (h.take hs fun d hd => ?_) (hs.take c) hmerges.2
    exact hmerges.1 d (by rw [hd]; exact List.mem_singleton_self d)

end Store

/-- The invariant of a store. Whatever is done to a replica that started empty, its store stays sound, and
    states and bundles stand under their own versions if they do so in the details that were merged. -/
theorem Replica.isSound_and_isKeyed (capacity : Nat) (ops : List Operation) :
    ((Replica.empty capacity).performAll ops).store.IsSound ∧
    ((∀ d ∈ Store.empty.merges ((Replica.empty capacity).changes ops), d.IsKeyed) →
      ((Replica.empty capacity).performAll ops).store.IsKeyed) := by
  refine ⟨isSound_performAll capacity ops, fun hmerges => ?_⟩
  have hkeyed : Store.empty.IsKeyed := fun f t ht => absurd ht (by simp [Store.tmi?, Store.empty])
  rw [store_performAll]
  exact hkeyed.takeAll Store.isSound_empty hmerges

/-- A source that gives the same answers again and again. -/
def Source.constant (listing : Except FetchError Listing) (detail : Except FetchError Detail) : Source Unit :=
  ⟨fun world => (listing, world), fun _ world => (detail, world)⟩

/-- A detail of all versions of a TMI: a state of one version and a bundle of another. -/
def Detail.twoVersions : Detail :=
  { fullId := ⟨"//a/s/t/i"⟩
    id := "i"
    template := "t"
    active := true
    latestVersion := 1
    atls := some (.byVersion ((∅ : VersionMap AtlBundle).insert 3 ⟨"i", 3, ∅, ∅, ∅⟩))
    state := none
    states := some ((∅ : VersionMap TmiState).insert 7 ⟨7, 0, .empty, ∅, ∅⟩)
    updates := none }

/-- A spawn, a resync from a listing whose key is not the identifier of its entry, and a fetch of all
    versions. -/
def Operation.spawnResyncFetch : List Operation :=
  [.apply (.spawned (.bare ⟨"//a/s/t/i"⟩ 5 none)),
    .fetchListing (.constant (.ok ((∅ : Listing).insert "x" ⟨"i", ⟨"//a/s/t/i"⟩, "t", true, 2⟩))
      (.error (.network "down"))) (),
    .fetchEvery (.constant (.error (.network "down")) (.ok .twoVersions)) ()]

theorem Replica.isSound_and_isKeyed_spawnResyncFetch :
    (∀ d ∈ Store.empty.merges ((Replica.empty 10).changes Operation.spawnResyncFetch), d.IsKeyed) ∧
    Detail.twoVersions ∈ Store.empty.merges ((Replica.empty 10).changes Operation.spawnResyncFetch) ∧
    ((Replica.empty 10).performAll Operation.spawnResyncFetch).store.IsSound ∧
    ((Replica.empty 10).performAll Operation.spawnResyncFetch).store.IsKeyed := by
  have hmerges : Store.empty.merges ((Replica.empty 10).changes Operation.spawnResyncFetch) =
      [Detail.twoVersions] := rfl
  have hkeyed : ∀ d ∈ [Detail.twoVersions], d.IsKeyed := by
    intro d hd
    rw [List.mem_singleton.mp hd]
    intro _ states hstates
    obtain rfl := Option.some_inj.mp hstates
    refine ⟨KeyedBy.empty.insert (⟨7, 0, .empty, ∅, ∅⟩ : TmiState), fun bundles hbundles => ?_⟩
    obtain rfl := BundleContent.byVersion.inj (Option.some_inj.mp hbundles)
    exact KeyedBy.empty.insert (⟨"i", 3, ∅, ∅, ∅⟩ : AtlBundle)
  rw [hmerges]
  obtain ⟨hsound, hall⟩ := Replica.isSound_and_isKeyed 10 Operation.spawnResyncFetch
  exact ⟨hkeyed, List.mem_singleton_self _, hsound, hall (hmerges ▸ hkeyed)⟩

end TrustReplica
