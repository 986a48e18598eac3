import TrustReplica.Proofs.Fields

/-! The record of a TMI as its events tell it. Nothing is known of a TMI before its first spawn; from there
    on every event about it acts, as if a blank record had been there (`tmi?_applyAll_empty`). So the
    record is a closed form of the events from the first spawn on: first claims, last bundles, the last
    word on activity, and the greatest version (`TellsOf`). -/

namespace TrustReplica

namespace Event

/-- Whether an event spawns a TMI. -/
def spawns (f : TmiId) : Event → Bool
  | spawned sn => sn.fullId = f
  | _ => false

/-- Whether an event is a spawn or a delete. -/
def isSpawnOrDelete : Event → Bool
  | spawned _ => true
  | deleted _ => true
  | _ => false

/-- The bundle that an event carries. -/
def carriedBundle? : Event → Option AtlBundle
  | atlUpdated _ _ bundle => some bundle
  | _ => none

/-- The events about a TMI, from its first spawn on. -/
def history (f : TmiId) (events : List Event) : List Event :=
  (events.dropWhile fun e => !e.spawns f).filter fun e => e.tmi? = some f

end Event

/-- What a TMI holds that went through `events`, all of them about it and the first of them a spawn. -/
structure TellsOf (f : TmiId) (events : List Event) (t : Tmi) : Prop where
  claimed : ∀ v, v ∈ t.states ↔ ∃ sn ∈ events.filterMap Event.snapshot?, sn.version = v
  states : ∀ v, t.states[v]? =
    ((events.filterMap Event.snapshot?).find? fun sn => sn.version = v).map Snapshot.state
  latest : t.latestVersion ∈ t.states ∧ ∀ v ∈ t.states, v ≤ t.latestVersion
  current : t.currentState?.isSome
  atls : ∀ v, t.atls[v]? =
    ((events.filterMap Event.carriedBundle?).filter fun bundle => bundle.version = v).getLast?
  active : t.active = true ↔ ∃ sn, (events.filter Event.isSpawnOrDelete).getLast? = some (.spawned sn)
  names : ∃ sn id, events.head? = some (.spawned sn) ∧
    f.identity = .ok ⟨t.application, t.session, t.template, id⟩ ∧
    t.fullId = f ∧ t.id = if sn.id.isEmpty then id else sn.id

/-! ### The first spawn -/

/-- The record that a first spawn fills. -/
def Tmi.blank (sn : Snapshot) (identity : Identity) : Tmi :=
  .empty sn.fullId { identity with id := if sn.id.isEmpty then identity.id else sn.id } true sn.version

theorem Tmi.ofSpawn_eq_respawn (sn : Snapshot) (identity : Identity) :
    ofSpawn sn identity = (blank sn identity).respawn sn := by
  have hlatest : ¬ sn.version < sn.version := UInt64.lt_irrefl _
  simp only [ofSpawn, respawn, blank, empty, claimState, setState, raiseLatest, Snapshot.state, hlatest,
    if_false]
  rfl

namespace Event

variable (f : TmiId)

/-- Only a spawn under an identifier that names its fields makes a TMI known. -/
theorem onTmi_none {e : Event} (h : e.spawns f = false ∨ f.identity.isOk = false) :
    e.onTmi f none = none := by
  cases e with
  | spawned sn =>
    simp only [onTmi]
    split_ifs with hf
    · subst hf
      cases hid : sn.fullId.identity with
      | error _ => rfl
      | ok identity =>
        rcases h with h | h
        · exact absurd rfl (of_decide_eq_false h)
        · rw [hid] at h; exact Bool.noConfusion h
    · rfl
  | updated sn => simp only [onTmi]; split_ifs <;> rfl
  | deleted g => simp only [onTmi]; split_ifs <;> rfl
  | atlUpdated g nominal bundle => simp only [onTmi]; split_ifs <;> rfl
  | sessionCreated | sessionTorndown | atlRemoved | unrecognized => rfl

theorem foldl_onTmi_none {events : List Event} (h : ∀ e ∈ events, e.onTmi f none = none) :
    events.foldl (fun held e => e.onTmi f held) none = none := by
  induction events with
  | nil => rfl
  | cons e events ih =>
    rw [List.foldl_cons, h e (List.mem_cons_self ..)]
    exact ih fun e' he' => h e' (List.mem_cons_of_mem _ he')

/-- The first spawn of a TMI acts like any spawn, on a blank record. -/
theorem onTmi_none_of_spawn {sn : Snapshot} {identity : Identity} (hf : sn.fullId = f)
    (hid : f.identity = .ok identity) :
    (spawned sn).onTmi f none = some ((spawned sn).actOn f (.blank sn identity)) := by
  subst hf
  simp [onTmi, actOn, hid, Tmi.ofSpawn_eq_respawn, Except.isOk, Except.toBool]

/-- An event about something else leaves a TMI alone. -/
theorem actOn_of_not_about {e : Event} (h : e.tmi? ≠ some f) (t : Tmi) : e.actOn f t = t := by
  cases e with
  | spawned sn => exact if_neg fun hc => h (congrArg some hc.1)
  | updated sn => exact if_neg fun hc => h (congrArg some hc)
  | deleted g => exact if_neg fun hc => h (congrArg some hc)
  | atlUpdated g nominal bundle => exact if_neg fun hc => h (congrArg some hc)
  | sessionCreated | sessionTorndown | atlRemoved | unrecognized => rfl

theorem actOnAll_filter (events : List Event) (t : Tmi) :
    actOnAll f (events.filter fun e => e.tmi? = some f) t = actOnAll f events t := by
  induction events generalizing t with
  | nil => rfl
  | cons e events ih =>
    rw [List.filter_cons]
    split_ifs with h
    · exact ih (e.actOn f t)
    · rw [ih, actOnAll, actOnAll, List.foldl_cons, actOn_of_not_about f (by simpa using h)]

theorem eq_spawned_of_spawns {f : TmiId} {e : Event} (h : e.spawns f = true) :
    ∃ sn, e = spawned sn ∧ sn.fullId = f := by
  cases e with
  | spawned sn => exact ⟨sn, rfl, of_decide_eq_true h⟩
  | sessionCreated | sessionTorndown | updated | deleted | atlUpdated | atlRemoved | unrecognized =>
    exact absurd h Bool.false_ne_true

/-- An event that makes a TMI known fills a blank record. -/
theorem onTmi_none_cases {f : TmiId} {e : Event} {t : Tmi}
    (h : e.onTmi f none = some t) : ∃ sn identity, sn.fullId = f ∧
      t = e.actOn f (.blank sn identity) := by
  cases hs : e.spawns f with
  | false =>
    rw [onTmi_none f (Or.inl hs)] at h
    exact absurd h (Option.some_ne_none t).symm
  | true =>
    obtain ⟨sn, rfl, hf⟩ := eq_spawned_of_spawns hs
    cases hid : f.identity with
    | error _ =>
      rw [onTmi_none f (Or.inr (by rw [hid]; rfl))] at h
      exact absurd h (Option.some_ne_none t).symm
    | ok identity =>
      rw [onTmi_none_of_spawn f hf hid] at h
      exact ⟨sn, identity, hf, (Option.some_inj.mp h).symm⟩

theorem history_cons_of_not_spawns {f : TmiId} {e : Event} (h : e.spawns f = false)
    (events : List Event) : history f (e :: events) = history f events := by
  rw [history, List.dropWhile_cons, h]; rfl

theorem history_cons_of_spawned {f : TmiId} {sn : Snapshot} (h : sn.fullId = f)
    (events : List Event) : history f (spawned sn :: events) =
      spawned sn :: events.filter fun e => e.tmi? = some f := by
  have hs : (spawned sn).spawns f = true := decide_eq_true h
  have hf : (spawned sn).tmi? = some f := congrArg some h
  rw [history, List.dropWhile_cons, hs, if_neg (by simp), List.filter_cons, if_pos (by simp [hf])]

end Event

/-- What events make of a store that knows nothing: all of a TMI's history acts on a blank record. -/
theorem Store.tmi?_applyAll_empty (events : List Event) (f : TmiId) :
    (Store.empty.applyAll events).tmi? f =
      match f.identity, Event.history f events with
      | .ok identity, .spawned sn :: rest =>
        some (Event.actOnAll f (.spawned sn :: rest) (.blank sn identity))
      | _, _ => none := by
  have hempty : Store.empty.tmi? f = none := rfl
  rw [tmi?_applyAll, hempty]
  cases hid : f.identity with
  | error _ =>
    exact Event.foldl_onTmi_none f fun e _ => Event.onTmi_none f (Or.inr (by rw [hid]; rfl))
  | ok identity =>
    -- events before the first spawn are dropped by both sides; from it on the TMI is known
    induction events with
    | nil => rfl
    | cons e events ih =>
      rw [List.foldl_cons]
      cases hs : e.spawns f with
      | false =>
        rw [Event.onTmi_none f (Or.inl hs), ih, Event.history_cons_of_not_spawns hs]
      | true =>
        obtain ⟨sn, rfl, hf⟩ := Event.eq_spawned_of_spawns hs
        rw [Event.onTmi_none_of_spawn f hf hid, Event.foldl_onTmi_some,
          Event.history_cons_of_spawned hf]
        exact congrArg some (Event.actOnAll_filter f events _).symm

/-! ### The closed form -/

namespace Tmi

/-- The latest version is claimed, and no claimed version is greater. -/
def TopIsClaimed (t : Tmi) : Prop := t.latestVersion ∈ t.states ∧ ∀ v ∈ t.states, v ≤ t.latestVersion

/-- Claiming a version and raising the latest version to it keeps the latest version on top. -/
theorem topIsClaimed_raiseLatest {t : Tmi} {v : Version} (hv : v ∈ t.states)
    (hmem : t.latestVersion ∈ t.states)
    (hle : ∀ w ∈ t.states, w ≤ t.latestVersion ∨ w = v) : TopIsClaimed (t.raiseLatest v) := by
  rw [raiseLatest]
  split_ifs with hlt
  · refine ⟨hv, fun w hw => ?_⟩
    rcases hle w hw with h | rfl
    · exact UInt64.le_trans h (UInt64.le_of_lt hlt)
    · exact UInt64.le_refl w
  · refine ⟨hmem, fun w hw => ?_⟩
    rcases hle w hw with h | rfl
    · exact h
    · exact UInt64.not_lt.mp hlt

theorem mem_states_claimState (t : Tmi) (st : TmiState) (v : Version) :
    v ∈ (t.claimState st).states ↔ v = st.version ∨ v ∈ t.states := by
  rw [claimState, Std.ExtTreeMap.mem_insertIfNew, Std.LawfulEqOrd.compare_eq_iff_eq, eq_comm]

theorem topIsClaimed_respawn {t : Tmi} {sn : Snapshot}
    (h : TopIsClaimed t ∨ t.latestVersion = sn.version ∧ t.states = ∅) : TopIsClaimed (t.respawn sn) := by
  refine topIsClaimed_raiseLatest ((mem_states_claimState t _ _).mpr (Or.inl rfl)) ?_ fun w hw => ?_
  · rcases h with h | ⟨h, _⟩
    · exact (mem_states_claimState t _ _).mpr (Or.inr h.1)
    · exact (mem_states_claimState t _ _).mpr (Or.inl h)
  · rcases (mem_states_claimState t _ _).mp hw with rfl | hw
    · exact Or.inr rfl
    · rcases h with h | ⟨_, h⟩
      · exact Or.inl (h.2 w hw)
      · rw [h] at hw; exact absurd hw Std.ExtTreeMap.not_mem_empty

theorem topIsClaimed_update {t : Tmi} {sn : Snapshot} (h : TopIsClaimed t) :
    TopIsClaimed (t.update sn).2 := by
  by_cases hc : sn.version ∈ t.states
  · rw [update_of_claimed t sn hc]
    cases sn.update <;> exact h
  · rw [update_of_unclaimed t sn hc]
    set claimed := (t.setState sn.state).addUpdateIfAny sn.version sn.update with hclaimed
    have hmem : ∀ w, w ∈ claimed.states ↔ sn.version = w ∨ w ∈ t.states := by
      intro w
      rw [hclaimed, states_addUpdateIfAny, setState, Std.ExtTreeMap.mem_insert,
        Std.LawfulEqOrd.compare_eq_iff_eq]
      rfl
    have hlatest : claimed.latestVersion = t.latestVersion := by
      rw [hclaimed]; cases sn.update <;> rfl
    refine topIsClaimed_raiseLatest ((hmem _).mpr (Or.inl rfl)) ?_ fun w hw => ?_
    · rw [hlatest]; exact (hmem _).mpr (Or.inr h.1)
    · rw [hlatest]
      exact ((hmem w).mp hw).symm.imp (h.2 w) Eq.symm

end Tmi

namespace Event

theorem topIsClaimed_actOn (f : TmiId) (e : Event) {t : Tmi} (h : t.TopIsClaimed) :
    (e.actOn f t).TopIsClaimed := by
  cases e with
  | spawned sn =>
    simp only [actOn]
    split_ifs
    · exact Tmi.topIsClaimed_respawn (Or.inl h)
    · exact h
  | updated sn =>
    simp only [actOn]
    split_ifs
    · exact Tmi.topIsClaimed_update h
    · exact h
  | deleted g => simp only [actOn]; split_ifs <;> exact h
  | atlUpdated g nominal bundle => simp only [actOn]; split_ifs <;> exact h
  | sessionCreated | sessionTorndown | atlRemoved | unrecognized => exact h

theorem topIsClaimed_actOnAll (f : TmiId) (events : List Event) {t : Tmi} (h : t.TopIsClaimed) :
    (actOnAll f events t).TopIsClaimed := by
  induction events generalizing t with
  | nil => exact h
  | cons e events ih => exact ih (topIsClaimed_actOn f e h)

/-- Whether an event is a spawn. -/
def isSpawn : Event → Bool
  | spawned _ => true
  | _ => false

theorem isSpawn_iff (e : Event) : e.isSpawn = true ↔ ∃ sn, some e = some (spawned sn) := by
  cases e <;> simp [isSpawn]

section About

variable {f : TmiId} {e : Event} (hid : f.identity.isOk = true) (hf : e.tmi? = some f)
include hf

theorem bundle?_of_about : e.bundle? f = e.carriedBundle? := by
  cases e with
  | atlUpdated g nominal bundle => exact if_pos (Option.some_inj.mp hf)
  | sessionCreated | sessionTorndown | spawned | updated | deleted | atlRemoved | unrecognized => rfl

include hid

theorem claim?_of_about : e.claim? f = e.snapshot?.map Snapshot.state := by
  cases e with
  | spawned sn => exact if_pos ⟨Option.some_inj.mp hf, hid⟩
  | updated sn => exact if_pos (Option.some_inj.mp hf)
  | sessionCreated | sessionTorndown | deleted | atlUpdated | atlRemoved | unrecognized => rfl

theorem activity?_of_about : e.activity? f = (Option.guard isSpawnOrDelete e).map isSpawn := by
  cases e with
  | spawned sn => exact if_pos ⟨Option.some_inj.mp hf, hid⟩
  | deleted g => exact if_pos (Option.some_inj.mp hf)
  | sessionCreated | sessionTorndown | updated | atlUpdated | atlRemoved | unrecognized => rfl

end About

end Event

/-- Events about a TMI, the first of them a spawn, make of a blank record what they tell. -/
theorem tellsOf_actOnAll {f : TmiId} {sn : Snapshot} {rest : List Event} {identity : Identity}
    (hid : f.identity = .ok identity) (hf : ∀ e ∈ Event.spawned sn :: rest, e.tmi? = some f) :
    TellsOf f (.spawned sn :: rest)
      (Event.actOnAll f (.spawned sn :: rest) (.blank sn identity)) := by
  have hok : f.identity.isOk = true := by rw [hid]; rfl
  have hsn : sn.fullId = f := Option.some_inj.mp (hf _ (List.mem_cons_self ..))
  have hspawn : (Event.spawned sn).actOn f (.blank sn identity) = (Tmi.blank sn identity).respawn sn :=
    if_pos ⟨hsn, hok⟩
  have htop : (Event.actOnAll f (.spawned sn :: rest) (.blank sn identity)).TopIsClaimed := by
    refine Event.topIsClaimed_actOnAll f rest ?_
    change ((Event.spawned sn).actOn f (.blank sn identity)).TopIsClaimed
    rw [hspawn]
    exact Tmi.topIsClaimed_respawn (Or.inr ⟨rfl, rfl⟩)
  have hnames := Event.names_actOnAll f (.blank sn identity) (.spawned sn :: rest)
  have hhead : (Event.spawned sn :: rest).head? = some (.spawned sn) := rfl
  have hlast : (Event.spawned sn :: rest).filter Event.isSpawnOrDelete ≠ [] :=
    List.ne_nil_of_mem (List.mem_filter.mpr ⟨List.mem_cons_self .., rfl⟩)
  generalize Event.spawned sn :: rest = events at *
  set t := Event.actOnAll f events (.blank sn identity) with ht
  simp only [Tmi.names, Tmi.blank, Tmi.empty, Prod.mk.injEq, Identity.mk.injEq] at hnames
  obtain ⟨hfull, happ, hsession, htemplate, hshort⟩ := hnames
  have hstates : ∀ v, t.states[v]? =
      ((events.filterMap Event.snapshot?).find? fun sn => sn.version = v).map Snapshot.state := by
    intro v
    rw [ht, Event.states_actOnAll, List.filterMap_congr fun e he => Event.claim?_of_about hok (hf e he),
      ← List.map_filterMap, List.find?_map]
    simp [Tmi.blank, Tmi.empty]; rfl
  refine ⟨fun v => ?_, hstates, htop, ?_, fun v => ?_, ?_, sn, identity.id, hhead, ?_, ?_, hshort⟩
  · rw [← Std.ExtTreeMap.isSome_getElem?_iff_mem, hstates, Option.isSome_map, List.find?_isSome]
    simp only [decide_eq_true_eq]
  · rw [Tmi.currentState?]
    simpa using htop.1
  · rw [ht, Event.atls_actOnAll, List.filterMap_congr fun e he => Event.bundle?_of_about (hf e he)]
    simp [Tmi.blank, Tmi.empty]
  · rw [ht, Event.active_actOnAll,
      List.filterMap_congr fun e he => Event.activity?_of_about hok (hf e he), ← List.map_filterMap,
      List.filterMap_eq_filter, List.getLast?_map, List.getLast?_eq_some_getLast hlast]
    exact Event.isSpawn_iff _
  · rw [hid, happ, hsession, htemplate]
  · rw [hfull, hsn]

/-- The history of a TMI is empty, or it starts with a spawn and is all about it. -/
theorem Event.history_cases (f : TmiId) (events : List Event) :
    (history f events = [] ∧ ∀ e ∈ events, e.spawns f = false) ∨
    ∃ sn rest, history f events = spawned sn :: rest ∧ spawned sn ∈ events ∧ sn.fullId = f ∧
      ∀ e ∈ spawned sn :: rest, e.tmi? = some f := by
  induction events with
  | nil => exact Or.inl ⟨rfl, fun e he => absurd he List.not_mem_nil⟩
  | cons e events ih =>
    cases hs : e.spawns f with
    | false =>
      rw [history_cons_of_not_spawns hs]
      rcases ih with ⟨hnil, hall⟩ | ⟨sn, rest, hcons, hmem, hrest⟩
      · exact Or.inl ⟨hnil, List.forall_mem_cons.mpr ⟨hs, hall⟩⟩
      · exact Or.inr ⟨sn, rest, hcons, List.mem_cons_of_mem _ hmem, hrest⟩
    | true =>
      obtain ⟨sn, rfl, hf⟩ := eq_spawned_of_spawns hs
      refine Or.inr ⟨sn, _, history_cons_of_spawned hf events, List.mem_cons_self .., hf, ?_⟩
      refine List.forall_mem_cons.mpr ⟨congrArg some hf, fun e he => ?_⟩
      exact of_decide_eq_true (List.mem_filter.mp he).2

theorem Event.mem_of_mem_history {f : TmiId} {events : List Event} {e : Event}
    (h : e ∈ history f events) : e ∈ events :=
  (List.dropWhile_sublist _).mem (List.mem_of_mem_filter h)

/-- A TMI that is known holds what its history tells of it. -/
theorem Store.tellsOf_of_tmi? {events : List Event} {f : TmiId} {t : Tmi}
    (h : (Store.empty.applyAll events).tmi? f = some t) : TellsOf f (Event.history f events) t := by
  rw [tmi?_applyAll_empty] at h
  rcases Event.history_cases f events with ⟨hnil, _⟩ | ⟨sn, rest, hcons, _, _, habout⟩
  · rw [hnil] at h
    cases hid : f.identity <;> rw [hid] at h <;> exact nomatch h
  · rw [hcons] at h ⊢
    cases hid : f.identity with
    | error _ => rw [hid] at h; exact nomatch h
    | ok identity =>
      rw [hid] at h
      rw [← Option.some_inj.mp h]
      exact tellsOf_actOnAll hid habout

/-- First claim wins. A TMI is known when it was spawned under an identifier that names its fields, and
    it holds what its history from the first spawn on tells of it. -/
theorem Store.known_iff_spawned_and_tellsOf (events : List Event) (f : TmiId) :
    (((Store.empty.applyAll events).tmi? f).isSome ↔
      ∃ sn, .spawned sn ∈ events ∧ sn.fullId = f ∧ f.identity.isOk) ∧
    ∀ t, (Store.empty.applyAll events).tmi? f = some t → TellsOf f (Event.history f events) t := by
  refine ⟨?_, fun t => tellsOf_of_tmi?⟩
  rw [tmi?_applyAll_empty]
  rcases Event.history_cases f events with ⟨hnil, hall⟩ | ⟨sn, rest, hcons, hmem, hsn, _⟩
  · have hnone (ok : Bool) : ¬ ∃ sn, .spawned sn ∈ events ∧ sn.fullId = f ∧ ok := by
      rintro ⟨sn, hmem, hsn, _⟩
      exact of_decide_eq_false (hall _ hmem) hsn
    rw [hnil]
    cases f.identity <;> exact iff_of_false Bool.false_ne_true (hnone _)
  · rw [hcons]
    cases hid : f.identity with
    | error _ =>
      refine iff_of_false Bool.false_ne_true ?_
      rintro ⟨sn, _, _, hok⟩
      exact absurd hok Bool.false_ne_true
    | ok identity => exact iff_of_true rfl ⟨sn, hmem, hsn, rfl⟩

end TrustReplica
