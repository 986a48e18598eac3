import TrustReplica.Proofs.Soundness

/-! What outlasts the operations on a replica. A session stays known for good, and fetches leave sessions
    alone. A TMI stays known, keeps its identity and never loses its latest version (`Tmi.Continues`), until
    a listing is fetched: that drops just the TMIs that no entry of it is about. Each of these is shown of one
    change and carried along the changes of a run. -/

namespace TrustReplica

/-- The listing by which an operation replaces all TMIs, if it does. -/
def Operation.resync? : Operation → Option Listing
  | fetchListing source world => (source.list world).1.toOption
  | _ => none

/-- Whether an operation fetches. -/
def Operation.isFetch : Operation → Bool
  | apply _ | receive _ => false
  | fetchListing _ _ | fetchTmi _ _ _ | fetchEvery _ _ => true

/-- A later record is still one of the same TMI, and its latest version has not gone back. -/
structure Tmi.Continues (t t' : Tmi) : Prop where
  names : t'.names = t.names
  latest : t.latestVersion ≤ t'.latestVersion

theorem Tmi.Continues.refl (t : Tmi) : t.Continues t := ⟨rfl, UInt64.le_refl _⟩

theorem Tmi.Continues.trans {t u v : Tmi} (h : t.Continues u) (h' : u.Continues v) : t.Continues v :=
  ⟨h'.names.trans h.names, UInt64.le_trans h.latest h'.latest⟩

/-! ### One change -/

namespace Change

/-- Whether a change comes from a fetch. -/
def isFetched : Change → Bool
  | event _ => false
  | listing _ | detail _ => true

/-- The listing by which a change replaces all TMIs, if it does. -/
def resync? : Change → Option Listing
  | listing answer => answer.toOption
  | event _ | detail _ => none

/-- A TMI that is known goes on, unless all TMIs are replaced. -/
theorem continues_onTmi {c : Change} (h : c.resync? = none) (f : TmiId) (t : Tmi) :
    ∃ t', c.onTmi f (some t) = some t' ∧ t.Continues t' := by
  cases c with
  | event e =>
    refine ⟨e.actOn f t, Event.onTmi_some f e t, ?_⟩
    exact ⟨Event.names_actOn f e t, Event.latestVersion_le_actOn f e t⟩
  | listing answer =>
    cases answer with
    | error _ => exact ⟨t, rfl, .refl t⟩
    | ok l => exact absurd h (Option.some_ne_none l)
  | detail answer =>
    cases answer with
    | error _ => exact ⟨t, rfl, .refl t⟩
    | ok d =>
      by_cases hf : d.fullId = f
      · refine ⟨t.merge d, if_pos hf, ?_⟩
        exact ⟨Tmi.names_merge t d, Tmi.latestVersion_le_merge t d⟩
      · exact ⟨t, if_neg hf, .refl t⟩

theorem isSome_onSession (c : Change) (id : SessionId) {held : Option Session} (h : held.isSome) :
    (c.onSession id held).isSome := by
  obtain ⟨session, rfl⟩ := Option.isSome_iff_exists.mp h
  cases c with
  | event e =>
    cases e with
    | sessionCreated i client template => rw [onSession, Event.onSession]; split_ifs <;> rfl
    | sessionTorndown i => rw [onSession, Event.onSession]; split_ifs <;> rfl
    | spawned sn =>
      rw [onSession, Event.onSession]
      cases sn.fullId.identity with
      | error _ => rfl
      | ok identity => simp only; split_ifs <;> rfl
    | updated | deleted | atlUpdated | atlRemoved | unrecognized => rfl
  | listing answer => rfl
  | detail answer => rfl

end Change

/-! ### Many changes -/

namespace Store

variable {s : Store} {changes : List Change}

theorem isSome_session?_takeAll {id : SessionId} (h : (s.session? id).isSome) (changes : List Change) :
    ((s.takeAll changes).session? id).isSome := by
  induction changes generalizing s with
  | nil => exact h
  | cons c changes ih =>
    refine ih ?_
    rw [session?_take]
    exact c.isSome_onSession id h

theorem sessions_takeAll (h : ∀ c ∈ changes, c.isFetched) : (s.takeAll changes).sessions = s.sessions := by
  induction changes generalizing s with
  | nil => rfl
  | cons c changes ih =>
    obtain ⟨hc, hrest⟩ := List.forall_mem_cons.mp h
    have hkeep : (s.take c).sessions = s.sessions := by
      cases c with
      | event e => exact absurd hc Bool.false_ne_true
      | listing answer => exact s.sessions_adoptListing answer
      | detail answer => exact s.sessions_adoptAnswer answer
    exact (ih hrest).trans hkeep

/-- A TMI that is known goes on, as long as not all TMIs are replaced. -/
theorem continues_takeAll (hs : s.IsSound) (h : ∀ c ∈ changes, c.resync? = none) {f : TmiId} {t : Tmi}
    (ht : s.tmi? f = some t) : ∃ t', (s.takeAll changes).tmi? f = some t' ∧ t.Continues t' := by
  induction changes generalizing s t with
  | nil => exact ⟨t, ht, .refl t⟩
  | cons c changes ih =>
    obtain ⟨hc, hrest⟩ := List.forall_mem_cons.mp h
    obtain ⟨u, hu, hcont⟩ := Change.continues_onTmi hc f t
    rw [← ht, ← hs.tmi?_take] at hu
    obtain ⟨t', ht', hcont'⟩ := ih (hs.take c) hrest hu
    exact ⟨t', ht', hcont.trans hcont'⟩

end Store

/-! ### Operations -/

namespace Operation

variable {o : Operation}

theorem isFetched_of_mem_changes (h : o.isFetch) (s : Store) : ∀ c ∈ o.changes s, c.isFetched := by
  intro c hc
  cases o with
  | apply | receive => exact absurd h Bool.false_ne_true
  | fetchListing source world => rw [List.mem_singleton.mp hc]; rfl
  | fetchTmi source world request => rw [List.mem_singleton.mp hc]; rfl
  | fetchEvery source world =>
    obtain ⟨answer, _, rfl⟩ := List.mem_map.mp hc
    rfl

theorem resync?_of_mem_changes (h : o.resync? = none) (s : Store) :
    ∀ c ∈ o.changes s, c.resync? = none := by
  intro c hc
  cases o with
  | apply e => rw [List.mem_singleton.mp hc]; rfl
  | receive raw =>
    obtain ⟨e, _, rfl⟩ := List.mem_map.mp hc
    rfl
  | fetchListing source world => rw [List.mem_singleton.mp hc]; exact h
  | fetchTmi source world request => rw [List.mem_singleton.mp hc]; rfl
  | fetchEvery source world =>
    obtain ⟨answer, _, rfl⟩ := List.mem_map.mp hc
    rfl

/-- An operation that replaces all TMIs by a listing leaves the records of the listing. -/
theorem tmis_perform_of_resync? {l : Listing} (h : o.resync? = some l) (r : Replica) :
    (r.perform o).store.tmis = l.records := by
  cases o with
  | fetchListing source world =>
    have hlist : (source.list world).1 = .ok l := by
      rw [resync?] at h
      cases hanswer : (source.list world).1 with
      | ok l' => rw [hanswer] at h; exact congrArg Except.ok (Option.some_inj.mp h)
      | error _ => rw [hanswer] at h; exact absurd h (Option.some_ne_none l).symm
    rw [Replica.store_perform, changes, hlist]
    rfl
  | apply | receive | fetchTmi | fetchEvery => exact absurd h (Option.some_ne_none l).symm

end Operation

namespace Replica

theorem resync?_of_mem_changes {ops : List Operation} (h : ∀ o ∈ ops, o.resync? = none) (r : Replica) :
    ∀ c ∈ r.changes ops, c.resync? = none := by
  induction ops generalizing r with
  | nil => exact fun c hc => absurd hc List.not_mem_nil
  | cons o ops ih =>
    obtain ⟨ho, hrest⟩ := List.forall_mem_cons.mp h
    rw [changes, List.forall_mem_append]
    exact ⟨Operation.resync?_of_mem_changes ho r.store, ih hrest (r.perform o)⟩

/-- What outlasts operations on a replica. -/
structure Persists (r : Replica) (after : List Operation) : Prop where
  /-- A session that is known stays known. -/
  session : ∀ id, (r.store.session? id).isSome → ((r.performAll after).store.session? id).isSome
  /-- A fetch leaves the sessions alone. -/
  fetch : ∀ o, o.isFetch → (r.perform o).store.sessions = r.store.sessions
  /-- A TMI goes on, unless all TMIs are replaced by a listing. -/
  tmi : (∀ o ∈ after, o.resync? = none) → ∀ f t, r.store.tmi? f = some t →
    ∃ t', (r.performAll after).store.tmi? f = some t' ∧ t.Continues t'
  /-- A listing drops just the TMIs that none of its entries is about. -/
  resync : ∀ o l, o.resync? = some l → ∀ f t, r.store.tmi? f = some t →
    ((r.perform o).store.tmi? f = none ↔
      ∀ (key : String) (summary : Summary), l[key]? = some summary → summary.fullId ≠ t.fullId)

/-- Nothing disappears and no latest version goes back, save by a resync, whatever is done to a replica that
    started empty. -/
theorem persists_performAll (capacity : Nat) (before after : List Operation) :
    ((Replica.empty capacity).performAll before).Persists after := by
  have hsound := isSound_performAll capacity before
  set r := (Replica.empty capacity).performAll before
  refine ⟨fun id hid => ?_, fun o ho => ?_, fun hops f t ht => ?_, fun o l ho f t ht => ?_⟩
  · rw [store_performAll]
    exact Store.isSome_session?_takeAll hid _
  · rw [store_perform]
    exact Store.sessions_takeAll (Operation.isFetched_of_mem_changes ho r.store)
  · rw [store_performAll]
    exact Store.continues_takeAll hsound (resync?_of_mem_changes hops r) ht
  · rw [Store.tmi?, Operation.tmis_perform_of_resync? ho, (hsound.tmis f t ht).fullId,
      ← Option.not_isSome_iff_eq_none, Std.ExtTreeMap.isSome_getElem?_iff_mem, Listing.mem_records]
    push Not
    exact Iff.rfl

end Replica

namespace Operation

/-- A session is created and a TMI is spawned in it. -/
def spawnInSession : List Operation :=
  [.apply (.sessionCreated ⟨"s"⟩ ⟨"c"⟩ "t"), .apply (.spawned (.bare ⟨"//a/s/t/i"⟩ 9 none))]

/-- A fetch whose versions are all lower than that of the spawn. -/
def staleFetch : Operation :=
  .fetchTmi (.constant (.ok ∅) (.ok .twoVersions)) () ⟨"a", "s", "t", "i", .all⟩

/-- A resync from an empty listing. -/
def emptyResync : Operation := .fetchListing (.constant (.ok ∅) (.ok .twoVersions)) ()

end Operation

open Operation in
theorem Replica.persists_spawnInSession :
    ((empty 10).performAll spawnInSession).store.tmi? ⟨"//a/s/t/i"⟩ =
      some (.ofSpawn (.bare ⟨"//a/s/t/i"⟩ 9 none) ⟨"a", ⟨"s"⟩, "t", "i"⟩) ∧
    (∃ t, (((empty 10).performAll spawnInSession).performAll [staleFetch]).store.tmi? ⟨"//a/s/t/i"⟩ = some t ∧
      t.id = "i" ∧ 9 ≤ t.latestVersion) ∧
    (((empty 10).performAll spawnInSession).perform emptyResync).store.tmi? ⟨"//a/s/t/i"⟩ = none ∧
    (((empty 10).performAll spawnInSession).performAll [emptyResync]).store.session? ⟨"s"⟩ ≠ none := by
  have hknown : ((empty 10).performAll spawnInSession).store.tmi? ⟨"//a/s/t/i"⟩ =
      some (.ofSpawn (.bare ⟨"//a/s/t/i"⟩ 9 none) ⟨"a", ⟨"s"⟩, "t", "i"⟩) := rfl
  have hstale : ∀ o ∈ [staleFetch], o.resync? = none := by
    intro o ho
    rw [List.mem_singleton.mp ho]
    rfl
  obtain ⟨t, ht, hcont⟩ := (persists_performAll 10 spawnInSession [staleFetch]).tmi hstale _ _ hknown
  have hresync := persists_performAll 10 spawnInSession [emptyResync]
  refine ⟨hknown, ⟨t, ht, ?_, hcont.latest⟩, ?_, ?_⟩
  · exact congrArg (fun names => names.2.id) hcont.names
  · refine (hresync.resync emptyResync ∅ rfl _ _ hknown).mpr fun key summary h => ?_
    simp at h
  · exact Option.isSome_iff_ne_none.mp (hresync.session ⟨"s"⟩ rfl)

end TrustReplica
