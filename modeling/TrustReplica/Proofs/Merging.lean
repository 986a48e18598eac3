import TrustReplica.Proofs.Fields
import TrustReplica.Store.Resync

/-! What a fetch leaves in the records of a store. A detail acts on the record of its own TMI
    (`Detail.onTmi`), and merging it changes a record in one of three ways: a single state goes to its
    version (`Tmi.merge_of_state`), all states are replaced (`Tmi.merge_of_states`), or at most a bundle
    comes in (`Tmi.merge_of_no_state`). A listing leaves of every TMI the record of the last entry about it
    (`Listing.getElem?_records`). No fetch changes a session. -/

namespace TrustReplica

namespace Detail

/-- The bundle that comes alone. -/
def bundle? (d : Detail) : Option AtlBundle :=
  match d.atls with
  | some (.single bundle) => some bundle
  | _ => none

/-- The bundles that come by version. -/
def bundles? (d : Detail) : Option (VersionMap AtlBundle) :=
  match d.atls with
  | some (.byVersion bundles) => some bundles
  | _ => none

/-- The update payloads that come by version. -/
def payloads? (d : Detail) : Option (VersionMap (List Json)) :=
  match d.updates with
  | some (.byVersion payloads) => some payloads
  | _ => none

end Detail

namespace Version

theorem toNat_max (v w : Version) : (max v w).toNat = max v.toNat w.toNat := by
  have hmax : max v w = if v ≤ w then w else v := rfl
  rw [hmax]
  split_ifs with h
  · exact (Nat.max_eq_right (UInt64.le_iff_toNat_le.mp h)).symm
  · exact (Nat.max_eq_left (UInt64.le_iff_toNat_le.mp (UInt64.le_of_lt (UInt64.not_le.mp h)))).symm

theorem max_right_comm (u v w : Version) : max (max u v) w = max (max u w) v := by
  refine UInt64.toNat.inj ?_
  simp only [toNat_max]
  exact Nat.max_right_comm _ _ _

theorem le_max_left (v w : Version) : v ≤ max v w := by
  rw [UInt64.le_iff_toNat_le, toNat_max]
  exact Nat.le_max_left _ _

theorem le_max_right (v w : Version) : w ≤ max v w := by
  rw [UInt64.le_iff_toNat_le, toNat_max]
  exact Nat.le_max_right _ _

theorem max_eq_left {v w : Version} (h : w ≤ v) : max v w = v := by
  refine UInt64.toNat.inj ?_
  rw [toNat_max]
  exact Nat.max_eq_left (UInt64.le_iff_toNat_le.mp h)

end Version

namespace Tmi

variable (t : Tmi) (d : Detail)

/-! ### Merging -/

theorem raiseLatest_eq (v : Version) :
    t.raiseLatest v = { t with latestVersion := max t.latestVersion v } := by
  have hmax : max t.latestVersion v = if t.latestVersion ≤ v then v else t.latestVersion := rfl
  rw [raiseLatest, hmax]
  split_ifs with hlt hle hle
  · rfl
  · exact absurd (UInt64.le_of_lt hlt) hle
  · rw [← UInt64.le_antisymm hle (UInt64.not_lt.mp hlt)]
  · rfl

theorem raiseToStates_eq (states : VersionMap TmiState) : t.raiseToStates states =
    { t with latestVersion := states.maxKey?.elim t.latestVersion fun v => max t.latestVersion v } := by
  rw [raiseToStates]
  cases states.maxKey? with
  | some v => exact raiseLatest_eq t v
  | none => rfl

theorem setUpdates_eq (v : Version) (payloads : Option (List Json)) : t.setUpdates v payloads =
    { t with updates := payloads.elim t.updates fun payloads => t.updates.insert v payloads } := by
  cases payloads <;> rfl

theorem mergeBundle_eq : t.mergeBundle d.atls =
    { t with atls := d.bundle?.elim t.atls fun b => t.atls.insert b.version b } := by
  rw [Detail.bundle?]
  rcases d.atls with _ | bundle | bundles <;> rfl

theorem mergeStates_eq (states : VersionMap TmiState) : t.mergeStates states d.updates d.atls =
    { t.raiseToStates states with
      states := states
      updates := d.payloads?.getD t.updates
      atls := d.bundles?.getD t.atls } := by
  rw [Detail.bundles?, Detail.payloads?]
  rcases d.atls with _ | bundle | bundles <;>
    rcases d.updates with _ | payloads | payloads | value <;> rfl

/-- A single state goes to its version, with the payloads that come for it. -/
theorem merge_of_state {d : Detail} {st : TmiState} (h : d.state = some st) : t.merge d =
    { t with
      states := t.states.insert st.version st
      atls := d.bundle?.elim t.atls fun b => t.atls.insert b.version b
      updates := (updatesOfVersion d.updates).elim t.updates fun payloads =>
        t.updates.insert st.version payloads
      latestVersion := max t.latestVersion st.version } := by
  have hmerge : t.merge d = (t.mergeBundle d.atls).mergeState st d.updates := by rw [merge, h]
  rw [hmerge, mergeState, setUpdates_eq, raiseLatest_eq, mergeBundle_eq]
  rfl

/-- A map of states replaces all states, and payloads and bundles by version replace all of theirs. -/
theorem merge_of_states {d : Detail} {states : VersionMap TmiState} (hstate : d.state = none)
    (h : d.states = some states) : t.merge d =
    { t with
      states := states
      atls := d.bundles?.getD (d.bundle?.elim t.atls fun b => t.atls.insert b.version b)
      updates := d.payloads?.getD t.updates
      latestVersion := states.maxKey?.elim t.latestVersion fun v => max t.latestVersion v } := by
  have hmerge : t.merge d = (t.mergeBundle d.atls).mergeStates states d.updates d.atls := by
    rw [merge, hstate, h]
  rw [hmerge, mergeStates_eq, raiseToStates_eq, mergeBundle_eq]

/-- Without a state, at most a bundle comes in. -/
theorem merge_of_no_state {d : Detail} (hstate : d.state = none) (hstates : d.states = none) :
    t.merge d = { t with atls := d.bundle?.elim t.atls fun b => t.atls.insert b.version b } := by
  rw [← mergeBundle_eq, merge, hstate, hstates]

theorem names_merge : (t.merge d).names = t.names := by
  cases hstate : d.state with
  | some st => rw [merge_of_state t hstate]; rfl
  | none =>
    cases hstates : d.states with
    | some states => rw [merge_of_states t hstate hstates]; rfl
    | none => rw [merge_of_no_state t hstate hstates]; rfl

theorem fullId_merge : (t.merge d).fullId = t.fullId := congrArg Prod.fst (names_merge t d)

theorem latestVersion_le_merge : t.latestVersion ≤ (t.merge d).latestVersion := by
  cases hstate : d.state with
  | some st => rw [merge_of_state t hstate]; exact Version.le_max_left _ _
  | none =>
    cases hstates : d.states with
    | some states =>
      rw [merge_of_states t hstate hstates]
      cases states.maxKey? with
      | some top => exact Version.le_max_left _ _
      | none => exact UInt64.le_refl _
    | none => rw [merge_of_no_state t hstate hstates]; exact UInt64.le_refl _

/-- The latest version stays above all states: those that were there, and those that come in. -/
theorem le_latestVersion_merge (h : ∀ v ∈ t.states, v ≤ t.latestVersion) :
    ∀ v ∈ (t.merge d).states, v ≤ (t.merge d).latestVersion := by
  intro v hv
  cases hstate : d.state with
  | some st =>
    rw [merge_of_state t hstate] at hv ⊢
    rw [Std.ExtTreeMap.mem_insert, Std.LawfulEqOrd.compare_eq_iff_eq] at hv
    rcases hv with rfl | hv
    · exact Version.le_max_right _ _
    · exact UInt64.le_trans (h v hv) (Version.le_max_left _ _)
  | none =>
    cases hstates : d.states with
    | some states =>
      rw [merge_of_states t hstate hstates] at hv ⊢
      cases hmax : states.maxKey? with
      | some top =>
        have htop := (Std.ExtTreeMap.maxKey?_eq_some_iff_mem_and_forall.mp hmax).2 v hv
        exact UInt64.le_trans (Std.isLE_compare.mp htop) (Version.le_max_right _ _)
      | none =>
        rw [Std.ExtTreeMap.maxKey?_eq_none_iff] at hmax
        rw [hmax] at hv
        exact absurd hv Std.ExtTreeMap.not_mem_empty
    | none =>
      rw [merge_of_no_state t hstate hstates] at hv ⊢
      exact h v hv

end Tmi

/-! ### One record at a time -/

/-- The record that a detail makes of a TMI that is not known, if its identifier tells enough. -/
def Detail.firstRecord? (d : Detail) : Option Tmi :=
  d.identity.toOption.map fun identity =>
    (Tmi.empty d.fullId identity d.active d.latestVersion).merge d

/-- What a detail makes of the record that is held of a TMI, if one is held. -/
def Detail.onTmi (f : TmiId) (d : Detail) (held : Option Tmi) : Option Tmi :=
  if d.fullId = f then held.elim d.firstRecord? fun t => some (t.merge d) else held

namespace Store

variable (s : Store)

/-- The record of a TMI after a detail is merged depends on the record before alone, if the one that the
    detail is merged into stands under its own identifier. -/
theorem tmi?_adoptDetail {d : Detail} (hkey : ∀ t, s.tmi? d.fullId = some t → t.fullId = d.fullId)
    (f : TmiId) : (s.adoptDetail d).2.tmi? f = d.onTmi f (s.tmi? f) := by
  have hinsert {base : Tmi} (hb : base.fullId = d.fullId) : (s.insertTmi (base.merge d)).tmi? f =
      if d.fullId = f then some (base.merge d) else s.tmi? f := by
    rw [tmi?_insertTmi, Tmi.fullId_merge, hb]
  rw [adoptDetail, baseFor, Detail.onTmi]
  cases ht : s.tmi? d.fullId with
  | some t =>
    simp only [hinsert (hkey t ht)]
    split_ifs with hf
    · rw [← hf, ht]; rfl
    · rfl
  | none =>
    rw [Detail.firstRecord?]
    cases hid : d.identity with
    | ok identity =>
      simp only [Except.map]
      rw [hinsert rfl]
      split_ifs with hf
      · rw [← hf, ht]; rfl
      · rfl
    | error _ =>
      simp only [Except.map]
      split_ifs with hf
      · rw [← hf, ht]; rfl
      · rfl

/-- A detail about a TMI that is known is merged into its record. -/
theorem fetchTmi_of_known {σ : Type} {source : Source σ} {world : σ} {request : Request} {d : Detail}
    {base : Tmi} (hanswer : (source.fetch request world).1 = .ok d) (hbase : s.tmi? d.fullId = some base) :
    s.fetchTmi source world request =
      (.ok (base.merge d), s.insertTmi (base.merge d), (source.fetch request world).2) := by
  have hadopt : s.adoptAnswer (.ok d) = (.ok (base.merge d), s.insertTmi (base.merge d)) := by
    rw [adoptAnswer, adoptDetail, baseFor, hbase]
  simp only [fetchTmi, hanswer, hadopt]

theorem sessions_adoptAnswer (answer : Except FetchError Detail) :
    (s.adoptAnswer answer).2.sessions = s.sessions := by
  cases answer with
  | error _ => rfl
  | ok d => rw [adoptAnswer, adoptDetail]; cases s.baseFor d <;> rfl

theorem sessions_adoptListing (answer : Except FetchError Listing) :
    (s.adoptListing answer).2.sessions = s.sessions := by
  cases answer <;> rfl

end Store

/-! ### The listing -/

/-- Of the entries of a listing about one TMI, the last gives its record. -/
theorem Listing.getElem?_records (l : Listing) (f : TmiId) : l.records[f]? =
    (l.toList.filter fun e => e.2.fullId = f).getLast?.map fun e => Tmi.ofSummary e.1 e.2 := by
  rw [records, Maps.getElem?_foldl_insert, Std.ExtTreeMap.getElem?_empty, Option.or_none]

/-- A listing leaves just those TMIs that an entry is about. -/
theorem Listing.mem_records (l : Listing) (f : TmiId) :
    f ∈ l.records ↔ ∃ (key : String) (summary : Summary), l[key]? = some summary ∧ summary.fullId = f := by
  rw [← Std.ExtTreeMap.isSome_getElem?_iff_mem, getElem?_records, Option.isSome_map,
    List.getLast?_isSome, ne_eq, List.filter_eq_nil_iff, not_forall]
  simp [Std.ExtTreeMap.mem_toList_iff_getElem?_eq_some]

end TrustReplica
