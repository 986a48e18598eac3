import TrustReplica.Proofs.Soundness

/-! The two ways in which a TMI is written, events and fetches, do not get in each other's way. An update,
    a bundle and a fetched state each edit one record (`Edit.act`): they take in a state, take in a bundle,
    and refile the payloads of one version. Which version that is depends on whether the version of the edit
    is claimed, and an edit of another version has no say in that (`Edit.Apart.slot?_act`). So two edits that
    are apart commute (`Edit.Apart.act_comm`), and independent edits come to the same record in any order,
    except that payloads filed under one version may change places (`Edit.foldl_act_perm`). -/

namespace TrustReplica

/-- What an event or a fetch does to the record of a TMI, other than making it known, active or inactive. -/
inductive Edit where
  | update (sn : Snapshot)
  | bundle (b : AtlBundle)
  | fetched (st : TmiState) (payloads : Option (List Json)) (b : Option AtlBundle)

namespace Edit

/-- The version of the state that an edit brings. -/
def version? : Edit → Option Version
  | update sn => some sn.version
  | bundle _ => none
  | fetched st _ _ => some st.version

/-- The version behind that of an update. -/
def next? : Edit → Option Version
  | update sn => some sn.version.next
  | bundle _ | fetched _ _ _ => none

/-- The version of a state that was fetched. -/
def fetched? : Edit → Option Version
  | fetched st _ _ => some st.version
  | update _ | bundle _ => none

/-- The bundle that an edit brings. -/
def bundle? : Edit → Option AtlBundle
  | update _ => none
  | bundle b => some b
  | fetched _ _ b => b

/-- The state that a record takes in: an update brings one for a version that is not claimed. -/
def taken? (t : Tmi) : Edit → Option TmiState
  | update sn => if t.isClaimed sn.version then none else some sn.state
  | bundle _ => none
  | fetched st _ _ => some st

/-- The version whose payloads an edit refiles: that of its state, or the next one if an update finds its
    version claimed. -/
def slot? (t : Tmi) : Edit → Option Version
  | update sn => sn.update.map fun _ => if t.isClaimed sn.version then sn.version.next else sn.version
  | bundle _ => none
  | fetched st payloads _ => payloads.map fun _ => st.version

/-- What an edit makes of the payloads of that version: an update adds one, a fetch replaces all. -/
def refile (payloads : List Json) : Edit → List Json
  | update sn => payloads ++ sn.update.toList
  | bundle _ => payloads
  | fetched _ news _ => news.getD payloads

/-- A record after an edit. -/
def act (t : Tmi) (e : Edit) : Tmi :=
  { t with
    states := (e.taken? t).elim t.states fun st => t.states.insert st.version st
    atls := e.bundle?.elim t.atls fun b => t.atls.insert b.version b
    updates := (e.slot? t).elim t.updates fun v => t.updates.insert v (e.refile (t.updatesAt v))
    latestVersion := (e.taken? t).elim t.latestVersion fun st => max t.latestVersion st.version }

/-- No two edits bring states of one version or bundles of one version, and no update may be put off to a
    version that is fetched. -/
structure Independent (edits : List Edit) : Prop where
  versions : (edits.filterMap version?).Nodup
  bundles : (edits.filterMap fun e => e.bundle?.map AtlBundle.version).Nodup
  next : ∀ v ∈ edits.filterMap next?, v ∉ edits.filterMap fetched?

/-- Two edits that are independent of each other. -/
structure Apart (e e' : Edit) : Prop where
  versions : ∀ v ∈ e.version?, ∀ v' ∈ e'.version?, v ≠ v'
  bundles : ∀ b ∈ e.bundle?, ∀ b' ∈ e'.bundle?, b.version ≠ b'.version
  ahead : ∀ v ∈ e.next?, ∀ v' ∈ e'.fetched?, v ≠ v'
  behind : ∀ v ∈ e.fetched?, ∀ v' ∈ e'.next?, v ≠ v'

theorem Apart.symm {e e' : Edit} (h : e.Apart e') : e'.Apart e where
  versions v hv v' hv' := (h.versions v' hv' v hv).symm
  bundles b hb b' hb' := (h.bundles b' hb' b hb).symm
  ahead v hv v' hv' := (h.behind v' hv' v hv).symm
  behind v hv v' hv' := (h.ahead v' hv' v hv).symm

theorem Independent.pairwise {edits : List Edit} (h : Independent edits) : edits.Pairwise Apart := by
  have hversions := List.pairwise_filterMap.mp h.versions
  have hbundles := List.pairwise_filterMap.mp h.bundles
  have hnext {e e' : Edit} (he : e ∈ edits) (he' : e' ∈ edits) :
      ∀ v ∈ e.next?, ∀ v' ∈ e'.fetched?, v ≠ v' := by
    intro v hv v' hv' hvv
    rw [← hvv] at hv'
    exact h.next v (List.mem_filterMap.mpr ⟨e, he, hv⟩) (List.mem_filterMap.mpr ⟨e', he', hv'⟩)
  refine (hversions.and hbundles).imp_of_mem fun {e e'} he he' hee => ⟨hee.1, ?_, hnext he he', ?_⟩
  · intro b hb b' hb'
    exact hee.2 _ (Option.mem_map_of_mem _ hb) _ (Option.mem_map_of_mem _ hb')
  · exact fun v hv v' hv' => (hnext he' he v' hv' v hv).symm

end Edit

/-! ### Two edits -/

/-- Two records that differ at most in the order of the payloads under a version. -/
structure Tmi.SameUpToOrder (t t' : Tmi) : Prop where
  names : t.names = t'.names
  active : t.active = t'.active
  latest : t.latestVersion = t'.latestVersion
  states : t.states = t'.states
  atls : t.atls = t'.atls
  mem_updates : ∀ v, v ∈ t.updates ↔ v ∈ t'.updates
  updatesAt : ∀ v, (t.updatesAt v).Perm (t'.updatesAt v)

theorem Tmi.SameUpToOrder.refl (t : Tmi) : t.SameUpToOrder t :=
  ⟨rfl, rfl, rfl, rfl, rfl, fun _ => Iff.rfl, fun _ => List.Perm.refl _⟩

theorem Tmi.SameUpToOrder.trans {t u v : Tmi} (h : t.SameUpToOrder u) (h' : u.SameUpToOrder v) :
    t.SameUpToOrder v where
  names := h.names.trans h'.names
  active := h.active.trans h'.active
  latest := h.latest.trans h'.latest
  states := h.states.trans h'.states
  atls := h.atls.trans h'.atls
  mem_updates w := (h.mem_updates w).trans (h'.mem_updates w)
  updatesAt w := (h.updatesAt w).trans (h'.updatesAt w)

theorem Tmi.SameUpToOrder.isClaimed {t t' : Tmi} (h : t.SameUpToOrder t') {e : Edit} :
    ∀ v ∈ e.version?, t.isClaimed v = t'.isClaimed v :=
  fun v _ => congrArg (fun states => states.contains v) h.states

/-- What two values of different versions leave in a map does not depend on their order. -/
theorem VersionMap.elim_insert_comm {α : Type} {version : α → Version} {o o' : Option α}
    (h : ∀ a ∈ o, ∀ a' ∈ o', version a ≠ version a') (m : VersionMap α) :
    (o'.elim (o.elim m fun a => m.insert (version a) a) fun a' =>
        (o.elim m fun a => m.insert (version a) a).insert (version a') a') =
      o.elim (o'.elim m fun a' => m.insert (version a') a') fun a =>
        (o'.elim m fun a' => m.insert (version a') a').insert (version a) a := by
  cases o with
  | none => rfl
  | some a =>
    cases o' with
    | none => rfl
    | some a' => exact Maps.insert_comm (h a rfl a' rfl) m a a'

namespace Edit

variable {e e' : Edit} (t : Tmi)

theorem version?_of_taken? {st : TmiState} (h : e.taken? t = some st) : e.version? = some st.version := by
  cases e with
  | update sn =>
    rw [taken?] at h
    split_ifs at h
    rw [← Option.some_inj.mp h]
    rfl
  | bundle b => exact absurd h (Option.some_ne_none st).symm
  | fetched s payloads b => rw [← Option.some_inj.mp h]; rfl

theorem states_act : (e.act t).states =
    (e.taken? t).elim t.states fun st => t.states.insert st.version st := rfl

/-- An edit leaves the version of its state claimed, whether the state is taken in or not. -/
theorem mem_states_act (v : Version) : v ∈ (e.act t).states ↔ v ∈ e.version? ∨ v ∈ t.states := by
  have hinsert (st : TmiState) : v ∈ t.states.insert st.version st ↔ st.version = v ∨ v ∈ t.states := by
    rw [Std.ExtTreeMap.mem_insert, Std.LawfulEqOrd.compare_eq_iff_eq]
  cases e with
  | update sn =>
    rw [states_act, taken?, version?, Option.mem_some]
    split_ifs with hc
    · refine (or_iff_right_of_imp fun hown => ?_).symm
      rw [← hown]
      exact (Tmi.isClaimed_iff t _).mp hc
    · exact hinsert sn.state
  | bundle b => exact (or_iff_right (Option.not_mem_none v)).symm
  | fetched st payloads b =>
    rw [states_act, taken?, version?, Option.mem_some]
    exact hinsert st

/-- An edit claims no version but its own. -/
theorem isClaimed_act {v : Version} (h : v ∉ e.version?) : (e.act t).isClaimed v = t.isClaimed v := by
  rw [Bool.eq_iff_iff, Tmi.isClaimed_iff, Tmi.isClaimed_iff, mem_states_act]
  exact or_iff_right h

variable {t} {t' : Tmi}

/-- The state that a record takes in depends only on whether the version of the edit is claimed. -/
theorem taken?_congr (h : ∀ v ∈ e.version?, t.isClaimed v = t'.isClaimed v) : e.taken? t = e.taken? t' := by
  cases e with
  | update sn => rw [taken?, taken?, h _ rfl]
  | bundle | fetched => rfl

/-- Where an edit refiles payloads depends only on whether its version is claimed. -/
theorem slot?_congr (h : ∀ v ∈ e.version?, t.isClaimed v = t'.isClaimed v) : e.slot? t = e.slot? t' := by
  cases e with
  | update sn => rw [slot?, slot?, h _ rfl]
  | bundle | fetched => rfl

variable (t)

theorem Apart.isClaimed_act (h : e.Apart e') :
    ∀ v ∈ e'.version?, (e.act t).isClaimed v = t.isClaimed v := by
  intro v hv
  exact Edit.isClaimed_act t fun hv' => h.versions v hv' v hv rfl

theorem Apart.taken?_act (h : e.Apart e') : e'.taken? (e.act t) = e'.taken? t :=
  taken?_congr (h.isClaimed_act t)

theorem Apart.slot?_act (h : e.Apart e') : e'.slot? (e.act t) = e'.slot? t :=
  slot?_congr (h.isClaimed_act t)

theorem updatesAt_act (v : Version) : (e.act t).updatesAt v =
    if e.slot? t = some v then e.refile (t.updatesAt v) else t.updatesAt v := by
  rw [Tmi.updatesAt, act]
  cases e.slot? t with
  | none => rfl
  | some w =>
    rw [Option.elim_some, Maps.getElem?_insert]
    by_cases h : w = v
    · rw [if_pos h, if_pos (congrArg some h), h]; rfl
    · rw [if_neg h, if_neg fun hw => h (Option.some_inj.mp hw)]; rfl

theorem mem_updates_act (v : Version) :
    v ∈ (e.act t).updates ↔ e.slot? t = some v ∨ v ∈ t.updates := by
  rw [act]
  cases e.slot? t with
  | none => simp
  | some w =>
    rw [Option.elim_some, Std.ExtTreeMap.mem_insert, Std.LawfulEqOrd.compare_eq_iff_eq, Option.some_inj]

theorem mem_version?_or_next?_of_slot? {v : Version} (h : e.slot? t = some v) :
    v ∈ e.version? ∨ v ∈ e.next? := by
  cases e with
  | update sn =>
    obtain ⟨_, _, rfl⟩ := Option.map_eq_some_iff.mp h
    split_ifs
    · exact Or.inr rfl
    · exact Or.inl rfl
  | bundle b => exact absurd h (Option.some_ne_none v).symm
  | fetched st payloads b =>
    obtain ⟨_, _, rfl⟩ := Option.map_eq_some_iff.mp h
    exact Or.inl rfl

/-- A fetch and an edit apart from it refile the payloads of different versions. -/
theorem Apart.slot?_ne_of_fetched {st : TmiState} {payloads : Option (List Json)} {b : Option AtlBundle}
    (h : e.Apart (fetched st payloads b)) : e.slot? t ≠ some st.version := by
  intro hslot
  rcases mem_version?_or_next?_of_slot? t hslot with hown | hnext
  · exact h.versions _ hown _ rfl rfl
  · exact h.ahead _ hnext _ rfl rfl

/-- Where two edits that are apart refile the payloads of one version, both add to them. -/
theorem Apart.refile_perm (h : e.Apart e') {v : Version} (hv : e.slot? t = some v)
    (hv' : e'.slot? t = some v) (payloads : List Json) :
    (e'.refile (e.refile payloads)).Perm (e.refile (e'.refile payloads)) := by
  cases e with
  | bundle b => exact absurd hv (Option.some_ne_none v).symm
  | fetched st payloads' b =>
    obtain ⟨_, _, rfl⟩ := Option.map_eq_some_iff.mp hv
    exact absurd hv' (h.symm.slot?_ne_of_fetched t)
  | update sn =>
    cases e' with
    | bundle b => exact absurd hv' (Option.some_ne_none v).symm
    | fetched st payloads' b =>
      obtain ⟨_, _, rfl⟩ := Option.map_eq_some_iff.mp hv'
      exact absurd hv (h.slot?_ne_of_fetched t)
    | update sn' =>
      simp only [refile, List.append_assoc]
      exact List.perm_append_comm.append_left payloads

theorem Apart.updatesAt_act_act (h : e.Apart e') (v : Version) :
    ((e'.act (e.act t)).updatesAt v).Perm ((e.act (e'.act t)).updatesAt v) := by
  simp only [updatesAt_act, h.slot?_act, h.symm.slot?_act]
  -- the order shows only where both edits refile the version, and then both are updates
  by_cases hv : e.slot? t = some v
  · by_cases hv' : e'.slot? t = some v
    · simp only [if_pos hv, if_pos hv']
      exact h.refile_perm t hv hv' _
    · simp only [if_pos hv, if_neg hv', List.Perm.refl]
  · simp only [if_neg hv, List.Perm.refl]

theorem Apart.latest_act_act (h : e.Apart e') :
    (e'.act (e.act t)).latestVersion = (e.act (e'.act t)).latestVersion := by
  have htaken := h.taken?_act t
  have htaken' := h.symm.taken?_act t
  rw [act, htaken, act, act, htaken', act]
  cases e.taken? t with
  | none => rfl
  | some st =>
    cases e'.taken? t with
    | none => rfl
    | some st' => exact Version.max_right_comm _ _ _

theorem Apart.states_act_act (h : e.Apart e') : (e'.act (e.act t)).states = (e.act (e'.act t)).states := by
  have htaken := h.taken?_act t
  have htaken' := h.symm.taken?_act t
  rw [states_act, htaken, states_act, states_act, htaken', states_act]
  refine VersionMap.elim_insert_comm (fun st hst st' hst' => ?_) t.states
  exact h.versions _ (version?_of_taken? t hst) _ (version?_of_taken? t hst')

/-- Two edits that are apart commute, up to the order of payloads. -/
theorem Apart.act_comm (h : e.Apart e') : (e'.act (e.act t)).SameUpToOrder (e.act (e'.act t)) where
  names := rfl
  active := rfl
  latest := h.latest_act_act t
  states := h.states_act_act t
  atls := VersionMap.elim_insert_comm h.bundles t.atls
  mem_updates v := by
    simp only [mem_updates_act, h.slot?_act, h.symm.slot?_act]
    exact or_left_comm
  updatesAt := h.updatesAt_act_act t

/-! ### Many edits -/

variable {t}

theorem refile_perm {payloads payloads' : List Json} (h : payloads.Perm payloads') :
    (e.refile payloads).Perm (e.refile payloads') := by
  cases e with
  | update sn => exact h.append_right _
  | bundle b => exact h
  | fetched st news b =>
    cases news with
    | none => exact h
    | some news => exact List.Perm.refl _

/-- An edit takes records that are the same up to order to such records. -/
theorem act_congr (h : t.SameUpToOrder t') (e : Edit) : (e.act t).SameUpToOrder (e.act t') where
  names := h.names
  active := h.active
  latest := by rw [act, act, taken?_congr h.isClaimed, h.latest]
  states := by rw [act, act, taken?_congr h.isClaimed, h.states]
  atls := by rw [act, act, h.atls]
  mem_updates v := by rw [mem_updates_act, mem_updates_act, slot?_congr h.isClaimed, h.mem_updates]
  updatesAt v := by
    rw [updatesAt_act, updatesAt_act, slot?_congr h.isClaimed]
    split_ifs
    · exact refile_perm (h.updatesAt v)
    · exact h.updatesAt v

theorem foldl_act_congr (h : t.SameUpToOrder t') (edits : List Edit) :
    (edits.foldl act t).SameUpToOrder (edits.foldl act t') := by
  induction edits generalizing t t' with
  | nil => exact h
  | cons e edits ih => exact ih (act_congr h e)

/-- Many edits claim the versions of all their states. -/
theorem mem_states_foldl_act (edits : List Edit) (t : Tmi) (v : Version) :
    v ∈ (edits.foldl act t).states ↔ v ∈ edits.filterMap version? ∨ v ∈ t.states := by
  induction edits generalizing t with
  | nil => simp
  | cons e edits ih =>
    rw [List.foldl_cons, ih, mem_states_act, ← or_assoc, List.mem_filterMap, List.mem_filterMap,
      List.exists_mem_cons_iff]
    exact or_congr_left or_comm

/-- Edits that are apart come to the same record in any order, up to the order of payloads. -/
theorem foldl_act_perm {edits edits' : List Edit} (h : edits.Perm edits') (hapart : edits.Pairwise Apart)
    (t : Tmi) : (edits.foldl act t).SameUpToOrder (edits'.foldl act t) := by
  induction h generalizing t with
  | nil => exact .refl t
  | cons e _ ih => exact ih (List.pairwise_cons.mp hapart).2 (e.act t)
  | swap e e' edits =>
    have hee : Apart e' e := (List.pairwise_cons.mp hapart).1 e (List.mem_cons_self ..)
    exact foldl_act_congr (hee.act_comm t) edits
  | trans h _ ih ih' =>
    have hapart' := (h.pairwise_iff Apart.symm).mp hapart
    exact (ih hapart t).trans (ih' hapart' t)

/-! ### What edits are -/

/-- An update that finds its version claimed only refiles payloads; otherwise it takes in its state, too. -/
theorem act_update (t : Tmi) (sn : Snapshot) : (update sn).act t = (t.update sn).2 := by
  by_cases hc : sn.version ∈ t.states
  · have hclaimed : t.isClaimed sn.version = true := (Tmi.isClaimed_iff t _).mpr hc
    rw [Tmi.update_of_claimed t sn hc]
    simp only [act, taken?, slot?, refile, hclaimed, if_true]
    cases sn.update <;> rfl
  · have hunclaimed : t.isClaimed sn.version = false := by
      rw [← Bool.not_eq_true, Tmi.isClaimed_iff]
      exact hc
    rw [Tmi.update_of_unclaimed t sn hc, Tmi.raiseLatest_eq]
    simp only [act, taken?, slot?, refile, hunclaimed, Bool.false_eq_true, if_false]
    cases sn.update <;> rfl

/-- A single state that is fetched is merged as an edit. -/
theorem act_fetched (t : Tmi) {d : Detail} {st : TmiState} (h : d.state = some st) :
    (fetched st (Tmi.updatesOfVersion d.updates) d.bundle?).act t = t.merge d := by
  rw [Tmi.merge_of_state t h]
  cases hu : Tmi.updatesOfVersion d.updates <;> rfl

end Edit

/-! ### Edits by operations -/

/-- What a change does to a TMI, if it is an edit. -/
def Change.edit? (f : TmiId) : Change → Option Edit
  | event (.updated sn) => if sn.fullId = f then some (.update sn) else none
  | event (.atlUpdated g _ b) => if g = f then some (.bundle b) else none
  | detail (.ok d) =>
    if d.fullId = f then
      d.state.map fun st => .fetched st (Tmi.updatesOfVersion d.updates) d.bundle?
    else none
  | _ => none

/-- The change that an operation does to a store, if it is just one whatever the store. -/
def Operation.change? : Operation → Option Change
  | apply e => some (.event e)
  | receive raw => (Event.ofText raw).toOption.map .event
  | fetchTmi source world request => some (.detail (source.fetch request world).1)
  | fetchListing _ _ | fetchEvery _ _ => none

/-- What an operation does to a TMI, if it is an edit: an update of the TMI, a bundle for it, or a fetch that
    is answered with a single state of it. -/
def Operation.edit? (f : TmiId) (o : Operation) : Option Edit := o.change?.bind (Change.edit? f)

/-- Two stores that are the same but for one TMI. -/
structure Store.SameBut (f : TmiId) (s s' : Store) : Prop where
  sessions : s'.sessions = s.sessions
  tmis : ∀ g, g ≠ f → s'.tmi? g = s.tmi? g

namespace Change

variable {f : TmiId} {c : Change} {e : Edit}

/-- The three changes that are edits. -/
theorem edit?_cases (h : c.edit? f = some e) :
    (∃ sn, c = event (.updated sn) ∧ sn.fullId = f ∧ e = .update sn) ∨
    (∃ nominal b, c = event (.atlUpdated f nominal b) ∧ e = .bundle b) ∨
    ∃ d st, c = detail (.ok d) ∧ d.fullId = f ∧ d.state = some st ∧
      e = .fetched st (Tmi.updatesOfVersion d.updates) d.bundle? := by
  unfold edit? at h
  split at h
  · next sn =>
    obtain ⟨hf, he⟩ := Option.ite_none_right_eq_some.mp h
    exact Or.inl ⟨sn, rfl, hf, (Option.some_inj.mp he).symm⟩
  · next g nominal b =>
    obtain ⟨rfl, he⟩ := Option.ite_none_right_eq_some.mp h
    exact Or.inr (Or.inl ⟨nominal, b, rfl, (Option.some_inj.mp he).symm⟩)
  · next d =>
    obtain ⟨hf, he⟩ := Option.ite_none_right_eq_some.mp h
    obtain ⟨st, hst, he⟩ := Option.map_eq_some_iff.mp he
    exact Or.inr (Or.inr ⟨d, st, rfl, hf, hst, he.symm⟩)
  · exact absurd h (Option.some_ne_none e).symm

theorem onTmi_of_edit? (h : c.edit? f = some e) (t : Tmi) : c.onTmi f (some t) = some (e.act t) := by
  rcases edit?_cases h with ⟨sn, rfl, hf, rfl⟩ | ⟨nominal, b, rfl, rfl⟩ | ⟨d, st, rfl, hf, hst, rfl⟩
  · rw [Edit.act_update]
    exact if_pos hf
  · exact if_pos rfl
  · rw [Edit.act_fetched t hst]
    exact if_pos hf

/-- An edit of one TMI leaves the others alone. -/
theorem onTmi_of_edit?_ne (h : c.edit? f = some e) {g : TmiId} (hg : g ≠ f) (held : Option Tmi) :
    c.onTmi g held = held := by
  rcases edit?_cases h with ⟨sn, rfl, rfl, _⟩ | ⟨nominal, b, rfl, _⟩ | ⟨d, st, rfl, rfl, _⟩ <;>
    exact if_neg hg.symm

theorem onSession_of_edit? (h : c.edit? f = some e) (id : SessionId) (held : Option Session) :
    c.onSession id held = held := by
  rcases edit?_cases h with ⟨sn, rfl, _⟩ | ⟨nominal, b, rfl, _⟩ | ⟨d, st, rfl, _⟩ <;> rfl

end Change

namespace Store

variable {s : Store} {f : TmiId} {changes : List Change}

theorem sameBut_take {c : Change} (hs : s.IsSound) (h : (c.edit? f).isSome) : s.SameBut f (s.take c) := by
  obtain ⟨e, he⟩ := Option.isSome_iff_exists.mp h
  refine ⟨Std.ExtTreeMap.ext_getElem? fun id => ?_, fun g hg => ?_⟩
  · exact (session?_take s c id).trans (c.onSession_of_edit? he id _)
  · exact (hs.tmi?_take c g).trans (Change.onTmi_of_edit?_ne he hg _)

/-- Edits of one TMI leave everything else alone. -/
theorem sameBut_takeAll (hs : s.IsSound) (h : ∀ c ∈ changes, (c.edit? f).isSome) :
    s.SameBut f (s.takeAll changes) := by
  induction changes generalizing s with
  | nil => exact ⟨rfl, fun _ _ => rfl⟩
  | cons c changes ih =>
    obtain ⟨hc, hrest⟩ := List.forall_mem_cons.mp h
    have hfirst := sameBut_take hs hc
    have hlater := ih (hs.take c) hrest
    exact ⟨hlater.sessions.trans hfirst.sessions,
      fun g hg => (hlater.tmis g hg).trans (hfirst.tmis g hg)⟩

/-- Edits of a TMI act on its record, one after the other. -/
theorem tmi?_takeAll_of_edits (hs : s.IsSound) {t : Tmi} (ht : s.tmi? f = some t)
    (h : ∀ c ∈ changes, (c.edit? f).isSome) : (s.takeAll changes).tmi? f =
      some ((changes.filterMap (Change.edit? f)).foldl Edit.act t) := by
  induction changes generalizing s t with
  | nil => exact ht
  | cons c changes ih =>
    obtain ⟨hc, hrest⟩ := List.forall_mem_cons.mp h
    obtain ⟨e, he⟩ := Option.isSome_iff_exists.mp hc
    have hnext : (s.take c).tmi? f = some (e.act t) := by
      rw [hs.tmi?_take, ht, Change.onTmi_of_edit? he]
    rw [List.filterMap_cons_some he]
    exact ih (hs.take c) hnext hrest

end Store

namespace Operation

variable {f : TmiId} {ops : List Operation}

theorem changes_of_change? {o : Operation} {c : Change} (h : o.change? = some c) (s : Store) :
    o.changes s = [c] := by
  cases o with
  | apply e => rw [← Option.some_inj.mp h]; rfl
  | receive raw =>
    obtain ⟨e, he, rfl⟩ := Option.map_eq_some_iff.mp h
    rw [changes, he]; rfl
  | fetchTmi source world request => rw [← Option.some_inj.mp h]; rfl
  | fetchListing source world => exact absurd h (Option.some_ne_none c).symm
  | fetchEvery source world => exact absurd h (Option.some_ne_none c).symm

/-- Edits do the same changes to any replica. -/
theorem changes_of_edits (h : ∀ o ∈ ops, (o.edit? f).isSome) (r : Replica) :
    r.changes ops = ops.filterMap change? := by
  induction ops generalizing r with
  | nil => rfl
  | cons o ops ih =>
    obtain ⟨ho, hrest⟩ := List.forall_mem_cons.mp h
    obtain ⟨c, hc⟩ := Option.isSome_iff_exists.mp (Option.isSome_of_isSome_bind ho)
    rw [Replica.changes, changes_of_change? hc, List.filterMap_cons_some hc, ih hrest]
    rfl

end Operation

namespace Replica

variable {f : TmiId}

theorem performAll_of_edits {r : Replica} {ops : List Operation} (hr : r.store.IsSound) {t : Tmi}
    (ht : r.store.tmi? f = some t) (h : ∀ o ∈ ops, (o.edit? f).isSome) :
    (r.performAll ops).store.tmi? f = some ((ops.filterMap (Operation.edit? f)).foldl Edit.act t) ∧
      r.store.SameBut f (r.performAll ops).store := by
  have hchanges : ∀ c ∈ ops.filterMap Operation.change?, (c.edit? f).isSome := by
    intro c hc
    obtain ⟨o, ho, hoc⟩ := List.mem_filterMap.mp hc
    have hedit := h o ho
    rw [Operation.edit?, hoc] at hedit
    exact hedit
  have hedits : (ops.filterMap Operation.change?).filterMap (Change.edit? f) =
      ops.filterMap (Operation.edit? f) := List.filterMap_filterMap
  rw [store_performAll, Operation.changes_of_edits h, ← hedits]
  exact ⟨Store.tmi?_takeAll_of_edits hr ht hchanges, Store.sameBut_takeAll hr hchanges⟩

/-- Independent edits of a TMI commute, whether they come as events or by fetches: all orders lead to the
    same record, up to the order of the payloads under each version, with the versions of all edits claimed,
    and leave everything else alone. -/
theorem performAll_perm {capacity : Nat} {before ops ops' : List Operation} {t : Tmi}
    (ht : ((empty capacity).performAll before).store.tmi? f = some t)
    (hedits : ∀ o ∈ ops, (o.edit? f).isSome)
    (hindependent : Edit.Independent (ops.filterMap (Operation.edit? f))) (hperm : ops.Perm ops') :
    ∃ u u', ((empty capacity).performAll (before ++ ops)).store.tmi? f = some u ∧
      ((empty capacity).performAll (before ++ ops')).store.tmi? f = some u' ∧ u.SameUpToOrder u' ∧
      (∀ v, v ∈ u.states ↔
        v ∈ (ops.filterMap (Operation.edit? f)).filterMap Edit.version? ∨ v ∈ t.states) ∧
      ((empty capacity).performAll before).store.SameBut f
        ((empty capacity).performAll (before ++ ops')).store := by
  have hsound := isSound_performAll capacity before
  have hedits' : ∀ o ∈ ops', (o.edit? f).isSome := fun o ho => hedits o (hperm.mem_iff.mpr ho)
  rw [performAll_append, performAll_append]
  obtain ⟨hu, _⟩ := performAll_of_edits hsound ht hedits
  obtain ⟨hu', hrest⟩ := performAll_of_edits hsound ht hedits'
  have hsame := Edit.foldl_act_perm (hperm.filterMap (Operation.edit? f)) hindependent.pairwise t
  exact ⟨_, _, hu, hu', hsame, Edit.mem_states_foldl_act _ t, hrest⟩

end Replica

/-- A detail of one version of a TMI: its state, one payload and a bundle. -/
def Detail.oneVersion : Detail :=
  { fullId := ⟨"//a/s/t/i"⟩
    id := "i"
    template := "t"
    active := false
    latestVersion := 1
    atls := some (.single ⟨"i", 9, ∅, ∅, ∅⟩)
    state := some ⟨9, 0, .empty, ∅, ∅⟩
    states := none
    updates := some (.list [.null]) }

namespace Operation

/-- An update of a version that a spawn claimed, an update of the next version, a fetched state and a bundle,
    all independent of each other. -/
def fourWriters : List Operation :=
  [.apply (.updated (.bare ⟨"//a/s/t/i"⟩ 5 (some (.flag true)))),
    .apply (.updated (.bare ⟨"//a/s/t/i"⟩ 6 (some (.flag false)))),
    .fetchTmi (.constant (.ok ∅) (.ok .oneVersion)) () ⟨"a", "s", "t", "i", .all⟩,
    .apply (.atlUpdated ⟨"//a/s/t/i"⟩ (some 4) ⟨"i", 5, ∅, ∅, ∅⟩)]

/-- A TMI is spawned at version 5. -/
def spawnAtFive : List Operation := [.apply (.spawned (.bare ⟨"//a/s/t/i"⟩ 5 none))]

theorem independent_fourWriters :
    Edit.Independent (fourWriters.filterMap (Operation.edit? ⟨"//a/s/t/i"⟩)) := by
  set edits := fourWriters.filterMap (Operation.edit? ⟨"//a/s/t/i"⟩)
  have hversions : edits.filterMap Edit.version? = [5, 6, 9] := rfl
  have hbundles : (edits.filterMap fun e => e.bundle?.map AtlBundle.version) = [9, 5] := rfl
  have hnext : edits.filterMap Edit.next? = [6, 7] := rfl
  have hfetched : edits.filterMap Edit.fetched? = [9] := rfl
  refine ⟨?_, ?_, ?_⟩
  · rw [hversions]; decide
  · rw [hbundles]; decide
  · rw [hnext, hfetched]
    intro v hv hnine
    rw [List.mem_singleton.mp hnine] at hv
    exact absurd hv (by decide)

end Operation

open Operation in
theorem Replica.performAll_fourWriters_reverse :
    ∃ u u', ((empty 10).performAll (spawnAtFive ++ fourWriters)).store.tmi? ⟨"//a/s/t/i"⟩ = some u ∧
      ((empty 10).performAll (spawnAtFive ++ fourWriters.reverse)).store.tmi? ⟨"//a/s/t/i"⟩ = some u' ∧
      u.SameUpToOrder u' ∧ u.updatesAt 6 = [.flag true, .flag false] ∧
      u'.updatesAt 6 = [.flag false, .flag true] := by
  have hknown : ((empty 10).performAll spawnAtFive).store.tmi? ⟨"//a/s/t/i"⟩ =
      some (.ofSpawn (.bare ⟨"//a/s/t/i"⟩ 5 none) ⟨"a", ⟨"s"⟩, "t", "i"⟩) := rfl
  have hedits : ∀ o ∈ fourWriters, (o.edit? ⟨"//a/s/t/i"⟩).isSome := by
    simp only [fourWriters, List.forall_mem_cons]
    exact ⟨rfl, rfl, rfl, rfl, fun o ho => absurd ho List.not_mem_nil⟩
  obtain ⟨u, u', hu, hu', hsame, _⟩ :=
    performAll_perm hknown hedits independent_fourWriters fourWriters.reverse_perm.symm
  have hat : some (u.updatesAt 6) = some [.flag true, .flag false] :=
    (congrArg (Option.map (Tmi.updatesAt · 6)) hu).symm
  have hat' : some (u'.updatesAt 6) = some [.flag false, .flag true] :=
    (congrArg (Option.map (Tmi.updatesAt · 6)) hu').symm
  exact ⟨u, u', hu, hu', hsame, Option.some_inj.mp hat, Option.some_inj.mp hat'⟩

end TrustReplica
