import TrustReplica.Proofs.Redelivery

/-! A session as its events tell it. Creating a session forgets what was known of it, so only the events
    after the last creation matter (`Event.last_creation`). Each of them acts on the session alone, and what
    it holds is a closed form of them (`Session.TellsOf`): the client and the template of the creation,
    whether it was torn down since, and the TMIs spawned in it in the order of their first spawns. The
    map of TMIs runs on its own; a TMI that a session lists is in it, because the spawn that links a TMI
    to its session also makes it known. -/

namespace TrustReplica

/-! ### Lists without repeats -/

section

variable {α : Type} [DecidableEq α] (l : List α) (a : α)

theorem eraseDups_concat : (l ++ [a]).eraseDups = if a ∈ l then l.eraseDups else l.eraseDups ++ [a] := by
  rw [List.eraseDups_append]
  split_ifs with h <;> simp [List.removeAll, h, List.eraseDups_cons]

theorem nodup_eraseDups : l.eraseDups.Nodup := by
  induction l using List.reverseRecOn with
  | nil => exact List.nodup_nil
  | append_singleton l a ih =>
    rw [eraseDups_concat]
    split_ifs with h
    · exact ih
    · rw [← List.concat_eq_append]
      exact ih.concat fun ha => h (List.mem_eraseDups.mp ha)

end

/-! ### The last creation -/

namespace Event

variable (id : SessionId)

theorem eq_sessionCreated_of_creates {e : Event} (h : e.creates id = true) :
    ∃ client template, e = sessionCreated id client template := by
  cases e with
  | sessionCreated i client template =>
    have hi : i = id := of_decide_eq_true h
    exact ⟨client, template, by rw [hi]⟩
  | sessionTorndown | spawned | updated | deleted | atlUpdated | atlRemoved | unrecognized =>
    exact absurd h Bool.false_ne_true

theorem eq_sessionTorndown_of_tears {e : Event} (h : e.tears id = true) : e = sessionTorndown id := by
  cases e with
  | sessionTorndown i => rw [show i = id from of_decide_eq_true h]
  | sessionCreated | spawned | updated | deleted | atlUpdated | atlRemoved | unrecognized =>
    exact absurd h Bool.false_ne_true

theorem eq_spawned_of_linked? {e : Event} {f : TmiId} (h : e.linked? id = some f) :
    ∃ sn identity, e = spawned sn ∧ sn.fullId = f ∧ f.identity = .ok identity ∧ identity.session = id := by
  cases e with
  | spawned sn =>
    rw [linked?] at h
    cases hid : sn.fullId.identity with
    | error _ => rw [hid] at h; exact absurd h (Option.some_ne_none f).symm
    | ok identity =>
      rw [hid] at h
      obtain ⟨hs, hf⟩ := Option.ite_none_right_eq_some.mp h
      obtain rfl : sn.fullId = f := Option.some_inj.mp hf
      exact ⟨sn, identity, rfl, rfl, hid, hs⟩
  | sessionCreated | sessionTorndown | updated | deleted | atlUpdated | atlRemoved | unrecognized =>
    exact absurd h (Option.some_ne_none f).symm

/-- Events that create a session are cut at the last one that does. -/
theorem last_creation (events : List Event) : (∀ e ∈ events, e.creates id = false) ∨
    ∃ before client template later, events = before ++ sessionCreated id client template :: later ∧
      ∀ e ∈ later, e.creates id = false := by
  induction events with
  | nil => exact Or.inl fun e he => absurd he List.not_mem_nil
  | cons e events ih =>
    rcases ih with hnone | ⟨before, client, template, later, rfl, hlater⟩
    · cases he : e.creates id with
      | false => exact Or.inl (List.forall_mem_cons.mpr ⟨he, hnone⟩)
      | true =>
        obtain ⟨client, template, rfl⟩ := eq_sessionCreated_of_creates id he
        exact Or.inr ⟨[], client, template, events, rfl, hnone⟩
    · exact Or.inr ⟨e :: before, client, template, later, rfl, hlater⟩

end Event

/-! ### After the last creation -/

/-- What a session holds that was created and then went through `later` events. -/
structure Session.TellsOf (id : SessionId) (client : ClientId) (template : String) (later : List Event)
    (session : Session) : Prop where
  ownId : session.id = id
  client : session.client = client
  template : session.template = template
  active : session.active = true ↔ .sessionTorndown id ∉ later
  tmis : session.tmis = (later.filterMap (Event.linked? id)).eraseDups

namespace Session

theorem link_eq (session : Session) (f : TmiId) : session.link f =
    { session with tmis := if f ∈ session.tmis then session.tmis else session.tmis ++ [f] } := by
  rw [link]; split_ifs <;> rfl

namespace TellsOf

variable {id : SessionId} {client : ClientId} {template : String} {later : List Event} {session : Session}

theorem create : (Session.create id client template).TellsOf id client template [] :=
  ⟨rfl, rfl, rfl, iff_of_true rfl List.not_mem_nil, rfl⟩

/-- A session that is not torn down is active after an event as it was before. -/
theorem active_concat (h : session.TellsOf id client template later) {e : Event}
    (he : e.tears id = false) :
    session.active = true ↔ .sessionTorndown id ∉ later ++ [e] := by
  have hne : .sessionTorndown id ≠ e := by
    rintro rfl
    exact of_decide_eq_false he rfl
  rw [h.active, List.mem_append, List.mem_singleton, not_or]
  exact (and_iff_left hne).symm

/-- A spawn in a session lists its TMI, unless it is listed. -/
theorem link (h : session.TellsOf id client template later) {e : Event} {f : TmiId}
    (hf : e.linked? id = some f) : (session.link f).TellsOf id client template (later ++ [e]) := by
  have hlinked : (later ++ [e]).filterMap (Event.linked? id) = later.filterMap (Event.linked? id) ++ [f] := by
    rw [List.filterMap_append, List.filterMap_cons_some hf, List.filterMap_nil]
  have hlisted : f ∈ session.tmis ↔ f ∈ later.filterMap (Event.linked? id) := by
    rw [h.tmis, List.mem_eraseDups]
  have htears : e.tears id = false := by
    obtain ⟨sn, _, rfl, _⟩ := Event.eq_spawned_of_linked? id hf
    rfl
  rw [Session.link_eq]
  refine ⟨h.ownId, h.client, h.template, h.active_concat htears, ?_⟩
  rw [hlinked, eraseDups_concat, ← h.tmis]
  exact if_congr hlisted rfl rfl

/-- One more event tells one more thing of a session. -/
theorem inSession (h : session.TellsOf id client template later) (e : Event) :
    (e.inSession id session).TellsOf id client template (later ++ [e]) := by
  rw [Event.inSession]
  cases hl : e.linked? id with
  | some f => exact h.link hl
  | none =>
    have htmis : session.tmis = ((later ++ [e]).filterMap (Event.linked? id)).eraseDups := by
      rw [List.filterMap_append, List.filterMap_cons_none hl, List.filterMap_nil, List.append_nil]
      exact h.tmis
    rw [Option.elim_none]
    split_ifs with ht
    · have hmem : .sessionTorndown id ∈ later ++ [e] := by
        rw [Event.eq_sessionTorndown_of_tears id ht]
        exact List.mem_append_right _ (List.mem_singleton_self _)
      exact ⟨h.ownId, h.client, h.template, iff_of_false Bool.false_ne_true (not_not_intro hmem), htmis⟩
    · exact ⟨h.ownId, h.client, h.template, h.active_concat (Bool.eq_false_of_not_eq_true ht), htmis⟩

theorem foldl_inSession (id : SessionId) (client : ClientId) (template : String) (later : List Event) :
    (later.foldl (fun session e => e.inSession id session)
      (Session.create id client template)).TellsOf id client template later := by
  induction later using List.reverseRecOn with
  | nil => exact create
  | append_singleton later e ih =>
    rw [List.foldl_append, List.foldl_cons, List.foldl_nil]
    exact ih.inSession e

end TellsOf

end Session

namespace Store

/-- A session that was never created is unknown. -/
theorem session?_applyAll_of_not_creates {events : List Event} {id : SessionId}
    (h : ∀ e ∈ events, e.creates id = false) : (empty.applyAll events).session? id = none := by
  rw [session?_applyAll, Event.foldl_onSession_of_not_creates id h]
  rfl

/-- From its last creation on, a session is what the events make of a new one. -/
theorem session?_applyAll_of_creation (before : List Event) {later : List Event} {id : SessionId}
    (client : ClientId) (template : String) (h : ∀ e ∈ later, e.creates id = false) (s : Store) :
    (s.applyAll (before ++ .sessionCreated id client template :: later)).session? id =
      some (later.foldl (fun session e => e.inSession id session) (.create id client template)) := by
  rw [session?_applyAll, List.foldl_append, List.foldl_cons, Event.onSession, if_pos rfl,
    Event.foldl_onSession_of_not_creates id h, Option.map_some]

/-! ### The TMIs of a session -/

/-- A spawn under an identifier that names its fields makes its TMI known, and it stays so. -/
theorem isSome_tmi?_of_spawned {events : List Event} {sn : Snapshot} {identity : Identity}
    (hmem : .spawned sn ∈ events) (hid : sn.fullId.identity = .ok identity) (s : Store) :
    ((s.applyAll events).tmi? sn.fullId).isSome := by
  obtain ⟨before, later, rfl⟩ := List.append_of_mem hmem
  rw [tmi?_applyAll, List.foldl_append, List.foldl_cons, Event.onTmi, if_pos rfl, hid]
  rw [Event.foldl_onTmi_some]
  rfl

theorem mem_tmisOf {s : Store} {f : TmiId} {t : Tmi} {id : SessionId} (h : s.tmi? f = some t)
    (hsession : t.session = id) : t ∈ s.tmisOf id := by
  have hlist : (f, t) ∈ s.tmis.toList := Std.ExtTreeMap.mem_toList_iff_getElem?_eq_some.mpr h
  exact List.mem_filter.mpr ⟨List.mem_map.mpr ⟨(f, t), hlist, rfl⟩, beq_iff_eq.mpr hsession⟩

/-- A TMI that was spawned in a session is known and names the session. -/
theorem tmi?_of_linked {events : List Event} {e : Event} {id : SessionId} {f : TmiId} (he : e ∈ events)
    (hf : e.linked? id = some f) : ∃ t, (empty.applyAll events).tmi? f = some t ∧ t.session = id := by
  obtain ⟨sn, identity, rfl, rfl, hid, hsession⟩ := Event.eq_spawned_of_linked? id hf
  obtain ⟨t, ht⟩ := Option.isSome_iff_exists.mp (isSome_tmi?_of_spawned he hid empty)
  obtain ⟨_, _, _, hnames, _⟩ := (tellsOf_of_tmi? ht).names
  have hidentity := Except.ok.inj (hid.symm.trans hnames)
  exact ⟨t, ht, (congrArg Identity.session hidentity).symm.trans hsession⟩

/-- A session is known when it was created, and it holds what the events after the last creation tell of
    it. Each TMI that it lists is known and names the session. -/
theorem created_iff_session_tellsOf (events : List Event) (id : SessionId) :
    (((empty.applyAll events).session? id).isSome ↔
      ∃ client template, .sessionCreated id client template ∈ events) ∧
    ∀ session, (empty.applyAll events).session? id = some session →
      (∃ before client template later, events = before ++ .sessionCreated id client template :: later ∧
        (∀ client' template', .sessionCreated id client' template' ∉ later) ∧
        session.TellsOf id client template later) ∧
      session.tmis.Nodup ∧
      ∀ f ∈ session.tmis, ∃ t, (empty.applyAll events).tmi? f = some t ∧ t.session = id ∧
        t ∈ (empty.applyAll events).tmisOf id := by
  rcases Event.last_creation id events with hnone | ⟨before, client, template, later, rfl, hlater⟩
  · have hunknown := session?_applyAll_of_not_creates hnone
    rw [hunknown]
    refine ⟨iff_of_false Bool.false_ne_true ?_, fun session h => absurd h (Option.some_ne_none session).symm⟩
    rintro ⟨client, template, hmem⟩
    exact of_decide_eq_false (hnone _ hmem) rfl
  -- the session is what the later events make of a new one, whatever came before
  · have hknown := session?_applyAll_of_creation before client template hlater empty
    have hcreated : .sessionCreated id client template ∈
        before ++ Event.sessionCreated id client template :: later :=
      List.mem_append_right before (List.mem_cons_self ..)
    refine ⟨iff_of_true (by rw [hknown]; rfl) ⟨client, template, hcreated⟩, fun session hsession => ?_⟩
    have htells := Session.TellsOf.foldl_inSession id client template later
    rw [Option.some_inj.mp (hknown.symm.trans hsession)] at htells
    refine ⟨⟨before, client, template, later, rfl, fun _ _ hmem => ?_, htells⟩, ?_, fun f hf => ?_⟩
    · exact of_decide_eq_false (hlater _ hmem) rfl
    · rw [htells.tmis]
      exact nodup_eraseDups _
    · rw [htells.tmis, List.mem_eraseDups] at hf
      obtain ⟨e, he, hlinked⟩ := List.mem_filterMap.mp hf
      have hin := List.mem_append_right before (List.mem_cons_of_mem (.sessionCreated id client template) he)
      obtain ⟨t, ht, hsession⟩ := tmi?_of_linked hin hlinked
      exact ⟨t, ht, hsession, mem_tmisOf ht hsession⟩

end Store

end TrustReplica
