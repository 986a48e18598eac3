import TrustReplica.Proofs.Soundness

/-! A replica answers what has happened to it. An event is answered as about something unknown just when
    the store lacks what it names (`Store.Lacks`). Whatever is not applied leaves the store as it was, save
    a payload that is put off to another version; and what is applied changes the one TMI and the one
    session that the event is about (`Store.AnswersTruly`). A fetch that fails leaves the whole replica as
    it was, and one that succeeds changes the TMI that the answer names (`Replica.FetchesAtomically`). -/

namespace TrustReplica

/-! ### What an event is about -/

namespace Event

/-- The session that an event is about, if there is one. -/
def session? : Event → Option SessionId
  | sessionCreated id _ _ => some id
  | sessionTorndown id => some id
  | spawned sn => sn.fullId.identity.toOption.map Identity.session
  | _ => none

variable {e : Event}

theorem onTmi_of_not_about {f : TmiId} (h : e.tmi? ≠ some f) (held : Option Tmi) :
    e.onTmi f held = held := by
  cases held with
  | some t => rw [onTmi_some, actOn_of_not_about f h]
  | none =>
    refine onTmi_none f (Or.inl ?_)
    cases hs : e.spawns f with
    | false => rfl
    | true =>
      obtain ⟨sn, rfl, hf⟩ := eq_spawned_of_spawns hs
      exact absurd (congrArg some hf) h

theorem onSession_of_not_about {id : SessionId} (h : e.session? ≠ some id) (held : Option Session) :
    e.onSession id held = held := by
  cases e with
  | sessionCreated i client template => exact if_neg fun hi => h (congrArg some hi)
  | sessionTorndown i => exact if_neg fun hi => h (congrArg some hi)
  | spawned sn =>
    simp only [onSession]
    cases hid : sn.fullId.identity with
    | error _ => rfl
    | ok identity =>
      have hne : identity.session ≠ id := by
        rintro rfl
        exact h (by rw [session?, hid]; rfl)
      exact if_neg hne
  | updated | deleted | atlUpdated | atlRemoved | unrecognized => rfl

/-- A spawn changes of a session the list of its TMIs at most. -/
theorem onSession_spawned (sn : Snapshot) (id : SessionId) (held : Option Session) :
    ∃ tmis, (spawned sn).onSession id held = held.map fun session => { session with tmis } := by
  cases held with
  | none =>
    refine ⟨[], ?_⟩
    simp only [onSession]
    cases sn.fullId.identity with
    | error _ => rfl
    | ok identity => simp
  | some session =>
    simp only [onSession]
    cases sn.fullId.identity with
    | error _ => exact ⟨session.tmis, rfl⟩
    | ok identity =>
      by_cases hi : identity.session = id
      · simp only [hi, if_true, Option.map_some, Session.link]
        split_ifs
        · exact ⟨session.tmis, rfl⟩
        · exact ⟨session.tmis ++ [sn.fullId], rfl⟩
      · exact ⟨session.tmis, if_neg hi⟩

end Event

/-! ### Answers to events -/

/-- An update is put off, says nothing new, or is applied. -/
theorem Tmi.update_cases (t : Tmi) (sn : Snapshot) :
    (∃ payload, t.update sn = (.deferred sn.version.next, t.addUpdate sn.version.next payload)) ∨
      t.update sn = (.duplicate, t) ∨ (t.update sn).1 = .applied := by
  rw [update]
  split_ifs
  · cases sn.update with
    | some payload => exact Or.inl ⟨payload, rfl⟩
    | none => exact Or.inr (Or.inl rfl)
  · exact Or.inr (Or.inr rfl)

namespace Store

/-- An event names a session or a TMI that has to be known and is not. What is created or spawned need not
    be known, and a removal of bundles is passed over, whatever it names. -/
def Lacks (s : Store) : Event → Prop
  | .sessionTorndown id => s.session? id = none
  | .updated sn => s.tmi? sn.fullId = none
  | .deleted f => s.tmi? f = none
  | .atlUpdated f _ _ => s.tmi? f = none
  | .sessionCreated _ _ _ | .spawned _ | .atlRemoved _ | .unrecognized _ => False

/-- Two stores are the same but for one TMI and one session at most. -/
structure DiffersAtMost (s s' : Store) (f : Option TmiId) (id : Option SessionId) : Prop where
  tmis : ∀ g, f ≠ some g → s'.tmi? g = s.tmi? g
  sessions : ∀ i, id ≠ some i → s'.session? i = s.session? i

/-- What the answer to an event tells of the store before it and after it. -/
structure AnswersTruly (s : Store) (e : Event) : Prop where
  unknown : (s.apply e).1 = .unknownEntity ↔ s.Lacks e
  /-- What is neither applied nor put off does nothing. -/
  unchanged : (s.apply e).1 ∈ [.unknownEntity, .duplicate, .ignored, .unrecognized, .malformed] →
    (s.apply e).2 = s
  /-- What is applied changes the TMI and the session that the event is about. -/
  applied : (s.apply e).1 = .applied → s.DiffersAtMost (s.apply e).2 e.tmi? e.session?
  /-- Of a session a spawn changes the list of TMIs alone. -/
  linked : ∀ sn, e = .spawned sn → ∀ id,
    ∃ tmis, (s.apply e).2.session? id = (s.session? id).map fun session => { session with tmis }
  /-- What is put off changes the update payloads of the version that the answer names. -/
  deferred : ∀ n, (s.apply e).1 = .deferred n → ∃ f t payloads, e.tmi? = some f ∧ s.tmi? f = some t ∧
    (s.apply e).2 = { s with tmis := s.tmis.insert f { t with updates := t.updates.insert n payloads } }

variable (s : Store)

/-- A change of a TMI finds it and writes back what it makes of it, or finds nothing. -/
theorem changeTmi_cases (f : TmiId) (change : Tmi → Outcome × Tmi) :
    (s.tmi? f = none ∧ s.changeTmi f change = (.unknownEntity, s)) ∨
      ∃ t, s.tmi? f = some t ∧
        s.changeTmi f change = ((change t).1, { s with tmis := s.tmis.insert f (change t).2 }) := by
  cases ht : s.tmi? f with
  | none => exact Or.inl ⟨rfl, by rw [changeTmi, ht]⟩
  | some t => exact Or.inr ⟨t, rfl, by rw [changeTmi, ht]⟩

theorem fst_changeTmi_eq_unknownEntity (f : TmiId) {change : Tmi → Outcome × Tmi}
    (h : ∀ t, (change t).1 ≠ .unknownEntity) :
    (s.changeTmi f change).1 = .unknownEntity ↔ s.tmi? f = none := by
  rcases s.changeTmi_cases f change with ⟨hnone, heq⟩ | ⟨t, ht, heq⟩
  · simp [heq, hnone]
  · simp [heq, ht, h t]

theorem fst_apply_eq_unknownEntity (e : Event) : (s.apply e).1 = .unknownEntity ↔ s.Lacks e := by
  cases e with
  | sessionTorndown id =>
    rw [apply, tearDownSession, Lacks]
    cases s.session? id <;> simp
  | spawned sn =>
    rw [apply, spawnTmi, Lacks]
    cases sn.fullId.identity <;> simp
  | updated sn =>
    refine s.fst_changeTmi_eq_unknownEntity sn.fullId fun t => ?_
    rcases t.update_cases sn with ⟨payload, heq⟩ | heq | heq <;> simp [heq]
  | deleted f => exact s.fst_changeTmi_eq_unknownEntity f fun t => by simp
  | atlUpdated f nominal bundle => exact s.fst_changeTmi_eq_unknownEntity f fun t => by simp
  | sessionCreated | atlRemoved | unrecognized => simp [apply, createSession, Lacks]

/-- A change that is answered neither as applied nor as put off writes back what was there. -/
theorem changeTmi_unchanged {f : TmiId} {change : Tmi → Outcome × Tmi}
    (h : ∀ t, (change t).1 = .applied ∨ (∃ n, (change t).1 = .deferred n) ∨ (change t).2 = t)
    (happlied : (s.changeTmi f change).1 ≠ .applied)
    (hdeferred : ∀ n, (s.changeTmi f change).1 ≠ .deferred n) : (s.changeTmi f change).2 = s := by
  rcases s.changeTmi_cases f change with ⟨-, heq⟩ | ⟨t, ht, heq⟩
  · rw [heq]
  · rw [heq] at happlied hdeferred ⊢
    rcases h t with hout | ⟨n, hout⟩ | hsame
    · exact absurd hout happlied
    · exact absurd hout (hdeferred n)
    · have hback : s.tmis.insert f t = s.tmis := Maps.insert_of_getElem? ht
      rw [hsame, hback]

theorem snd_apply_of_unchanged {e : Event} (happlied : (s.apply e).1 ≠ .applied)
    (hdeferred : ∀ n, (s.apply e).1 ≠ .deferred n) : (s.apply e).2 = s := by
  cases e with
  | sessionCreated id client template => exact absurd rfl happlied
  | sessionTorndown id =>
    rw [apply, tearDownSession] at happlied ⊢
    cases hs : s.session? id with
    | some session => rw [hs] at happlied; exact absurd rfl happlied
    | none => rfl
  | spawned sn =>
    rw [apply, spawnTmi] at happlied ⊢
    cases hid : sn.fullId.identity with
    | ok identity => rw [hid] at happlied; exact absurd rfl happlied
    | error _ => rfl
  | updated sn =>
    refine s.changeTmi_unchanged (fun t => ?_) happlied hdeferred
    rcases t.update_cases sn with ⟨payload, heq⟩ | heq | heq <;> simp [heq]
  | deleted f => exact s.changeTmi_unchanged (fun t => Or.inl rfl) happlied hdeferred
  | atlUpdated f nominal bundle =>
    exact s.changeTmi_unchanged (fun t => Or.inl rfl) happlied hdeferred
  | atlRemoved f => rfl
  | unrecognized tag => rfl

/-- An event changes the TMI and the session that it is about, and no other. -/
theorem differsAtMost_apply (e : Event) : s.DiffersAtMost (s.apply e).2 e.tmi? e.session? := by
  refine ⟨fun g hg => ?_, fun id hid => ?_⟩
  · rw [tmi?_apply, Event.onTmi_of_not_about hg]
  · rw [session?_apply, Event.onSession_of_not_about hid]

/-- Only an update is put off, and what it brings is filed under another version. -/
theorem apply_of_deferred {e : Event} {n : Version} (h : (s.apply e).1 = .deferred n) :
    ∃ f t payloads, e.tmi? = some f ∧ s.tmi? f = some t ∧
      (s.apply e).2 = { s with tmis := s.tmis.insert f { t with updates := t.updates.insert n payloads } } := by
  by_cases hupdate : ∃ sn, e = .updated sn
  · obtain ⟨sn, rfl⟩ := hupdate
    rcases s.changeTmi_cases sn.fullId fun t => t.update sn with ⟨-, heq⟩ | ⟨t, ht, heq⟩
    · rw [apply, heq] at h
      exact Outcome.noConfusion h
    · rw [apply, heq] at h ⊢
      rcases t.update_cases sn with ⟨payload, hup⟩ | hup | hup
      · rw [hup] at h ⊢
        obtain rfl := Outcome.deferred.inj h
        exact ⟨sn.fullId, t, _, rfl, ht, rfl⟩
      · rw [hup] at h
        exact Outcome.noConfusion h
      · rw [hup] at h
        exact Outcome.noConfusion h
  · exact absurd h (s.apply_ne_deferred (fun sn hsn => hupdate ⟨sn, hsn⟩) n)

theorem answersTruly (e : Event) : s.AnswersTruly e where
  unknown := s.fst_apply_eq_unknownEntity e
  unchanged := by
    intro h
    refine s.snd_apply_of_unchanged (fun happlied => ?_) fun n hdeferred => ?_
    · rw [happlied] at h
      simp at h
    · rw [hdeferred] at h
      simp at h
  applied := fun _ => s.differsAtMost_apply e
  linked := by
    rintro sn rfl id
    rw [session?_apply]
    exact Event.onSession_spawned sn id _
  deferred := fun _ h => s.apply_of_deferred h

end Store

/-! ### Results of fetches -/

/-- Every TMI stands under its own identifier. -/
def Store.IsFiled (s : Store) : Prop := ∀ f t, s.tmi? f = some t → t.fullId = f

/-- What the result of a fetch tells of the replica before it and after it, whatever the source answers. -/
structure Replica.FetchesAtomically (r : Replica) : Prop where
  /-- A listing that is not loaded changes nothing. -/
  listing : ∀ {σ : Type} (source : Source σ) (world : σ) (e : LoadError),
    (r.fetchListing source world).1 = .error e → (r.fetchListing source world).2.1 = r
  /-- A TMI that is not loaded changes nothing. -/
  failed : ∀ {σ : Type} (source : Source σ) (world : σ) (request : Request) (e : LoadError),
    (r.fetchTmi source world request).1 = .error e → (r.fetchTmi source world request).2.1 = r
  /-- A TMI that is loaded is the only one that changes, and it is the one that the answer names, in a store
      that has every TMI under its own identifier. -/
  merged : ∀ {σ : Type} (source : Source σ) (world : σ) (request : Request) (t : Tmi),
    (r.fetchTmi source world request).1 = .ok t → ∃ d, (source.fetch request world).1 = .ok d ∧
      (r.fetchTmi source world request).2.1.journal = r.journal ∧
      r.store.DiffersAtMost (r.fetchTmi source world request).2.1.store (some t.fullId) none ∧
      (r.store.IsFiled → t.fullId = d.fullId)

namespace Store

variable {s : Store}

theorem adoptListing_of_error {answer : Except FetchError Listing} {e : LoadError}
    (h : (s.adoptListing answer).1 = .error e) : (s.adoptListing answer).2 = s := by
  cases answer with
  | ok listing => exact absurd h (by simp [adoptListing])
  | error _ => rfl

theorem differsAtMost_insertTmi (s : Store) (t : Tmi) :
    s.DiffersAtMost (s.insertTmi t) (some t.fullId) none := by
  refine ⟨fun g hg => ?_, fun _ _ => rfl⟩
  rw [tmi?_insertTmi]
  exact if_neg fun ht => hg (congrArg some ht)

theorem fullId_of_baseFor {d : Detail} {base : Tmi} (hfiled : s.IsFiled) (h : s.baseFor d = .ok base) :
    base.fullId = d.fullId := by
  rw [baseFor] at h
  cases ht : s.tmi? d.fullId with
  | some t =>
    rw [ht] at h
    obtain rfl := Except.ok.inj h
    exact hfiled _ _ ht
  | none =>
    rw [ht] at h
    cases hid : d.identity with
    | ok identity =>
      rw [hid] at h
      rw [← Except.ok.inj h]
      rfl
    | error _ =>
      rw [hid] at h
      exact absurd h (by simp [Except.map])

/-- A merge changes nothing, or puts in one record, of the TMI that the answer names. -/
theorem adoptAnswer_cases (s : Store) (answer : Except FetchError Detail) :
    (∃ e, s.adoptAnswer answer = (.error e, s)) ∨
      ∃ d t, answer = .ok d ∧ s.adoptAnswer answer = (.ok t, s.insertTmi t) ∧
        (s.IsFiled → t.fullId = d.fullId) := by
  cases answer with
  | error e => exact Or.inl ⟨.fetch e, rfl⟩
  | ok d =>
    rw [adoptAnswer, adoptDetail]
    cases hbase : s.baseFor d with
    | error e => exact Or.inl ⟨e, rfl⟩
    | ok base =>
      refine Or.inr ⟨d, base.merge d, rfl, rfl, fun hfiled => ?_⟩
      rw [Tmi.fullId_merge]
      exact fullId_of_baseFor hfiled hbase

end Store

theorem Replica.fetchesAtomically (r : Replica) : r.FetchesAtomically where
  listing := by
    intro σ source world e h
    have hstore : (r.store.adoptListing (source.list world).1).2 = r.store := Store.adoptListing_of_error h
    exact congrArg (fun store => { r with store }) hstore
  failed := by
    intro σ source world request e h
    have hresult : (r.store.adoptAnswer (source.fetch request world).1).1 = .error e := h
    have hstore : (r.store.adoptAnswer (source.fetch request world).1).2 = r.store := by
      rcases r.store.adoptAnswer_cases (source.fetch request world).1 with ⟨_, hsame⟩ | ⟨d, t, _, hput, _⟩
      · rw [hsame]
      · rw [hput] at hresult
        exact absurd hresult (by simp)
    exact congrArg (fun store => { r with store }) hstore
  merged := by
    intro σ source world request t h
    have hresult : (r.store.adoptAnswer (source.fetch request world).1).1 = .ok t := h
    have hafter : (r.fetchTmi source world request).2.1.store =
        (r.store.adoptAnswer (source.fetch request world).1).2 := rfl
    rcases r.store.adoptAnswer_cases (source.fetch request world).1 with
      ⟨_, hsame⟩ | ⟨d, u, hanswer, hput, hnamed⟩
    · rw [hsame] at hresult
      exact absurd hresult (by simp)
    · rw [hput] at hresult
      obtain rfl := Except.ok.inj hresult
      refine ⟨d, hanswer, rfl, ?_, hnamed⟩
      rw [hafter, hput]
      exact Store.differsAtMost_insertTmi r.store u

/-- What is answered is what has happened, and what fails does nothing: for every event in every store, and
    for every fetch into every replica. The TMI that a fetch names is the one that it changes, since whatever
    is done to a replica that started empty leaves every TMI under its own identifier. -/
theorem Replica.answersTruly_and_fetchesAtomically :
    (∀ (s : Store) (e : Event), s.AnswersTruly e) ∧ (∀ r : Replica, r.FetchesAtomically) ∧
      ∀ (capacity : Nat) (ops : List Operation), ((empty capacity).performAll ops).store.IsFiled := by
  refine ⟨Store.answersTruly, fetchesAtomically, fun capacity ops f t ht => ?_⟩
  exact ((isSound_performAll capacity ops).tmis f t ht).fullId

namespace Replica

/-- A replica that was told of one TMI, by a spawn of version five. -/
def ofSpawnFive : Replica := (empty 10).performAll [.apply (.spawned (.bare ⟨"//a/s/t/i"⟩ 5 none))]

/-- A detail of a TMI whose identifier names none of its fields. -/
def namelessDetail : Detail := ⟨⟨"x"⟩, "i", "t", true, 1, none, none, none, none⟩

/-- A second update of version five is put off to the next one, and a TMI that cannot be named is not
    loaded. -/
theorem answersTruly_ofSpawnFive :
    (ofSpawnFive.store.apply (.updated (.bare ⟨"//a/s/t/i"⟩ 5 (some (.flag true))))).1 = .deferred 6 ∧
    (∃ t payloads, ofSpawnFive.store.tmi? ⟨"//a/s/t/i"⟩ = some t ∧
      (ofSpawnFive.store.apply (.updated (.bare ⟨"//a/s/t/i"⟩ 5 (some (.flag true))))).2.tmi? ⟨"//a/s/t/i"⟩ =
        some { t with updates := t.updates.insert 6 payloads }) ∧
    (ofSpawnFive.fetchTmi (.constant (.ok ∅) (.ok namelessDetail)) () ⟨"", "", "", "", .all⟩).1 =
      .error (.malformedIdentifier ⟨"x"⟩) ∧
    (ofSpawnFive.fetchTmi (.constant (.ok ∅) (.ok namelessDetail)) () ⟨"", "", "", "", .all⟩).2.1 =
      ofSpawnFive := by
  obtain ⟨htruly, hatomically, -⟩ := answersTruly_and_fetchesAtomically
  have hdeferred : (ofSpawnFive.store.apply
      (.updated (.bare ⟨"//a/s/t/i"⟩ 5 (some (.flag true))))).1 = .deferred 6 := rfl
  have hmalformed : (ofSpawnFive.fetchTmi (.constant (.ok ∅) (.ok namelessDetail)) ()
      ⟨"", "", "", "", .all⟩).1 = .error (.malformedIdentifier ⟨"x"⟩) := rfl
  obtain ⟨f, t, payloads, hf, ht, hafter⟩ := (htruly _ _).deferred 6 hdeferred
  obtain rfl : ⟨"//a/s/t/i"⟩ = f := Option.some_inj.mp hf
  refine ⟨hdeferred, ⟨t, payloads, ht, ?_⟩, hmalformed, ?_⟩
  · rw [hafter]
    simp [Store.tmi?]
  · exact (hatomically ofSpawnFive).failed _ _ _ _ hmalformed

end Replica

end TrustReplica
