import TrustReplica.Proofs.Locality

/-! What events leave in the fields of a TMI that is known. Of an event, one field takes at most one
    thing: a state that claims its version (`claim?`), a bundle (`bundle?`), or whether the TMI is active
    (`activity?`). After a run the first claim of a version, the last bundle of a version and the last word
    on activity stand (`states_actOnAll`, `atls_actOnAll`, `active_actOnAll`). -/

namespace TrustReplica

namespace Event

/-- The state with which an event claims a version of a TMI. -/
def claim? (f : TmiId) : Event → Option TmiState
  | spawned sn => if sn.fullId = f ∧ f.identity.isOk then some sn.state else none
  | updated sn => if sn.fullId = f then some sn.state else none
  | _ => none

/-- The bundle that an event brings for a TMI. -/
def bundle? (f : TmiId) : Event → Option AtlBundle
  | atlUpdated g _ bundle => if g = f then some bundle else none
  | _ => none

/-- Whether a TMI is active by an event, if the event says so. -/
def activity? (f : TmiId) : Event → Option Bool
  | spawned sn => if sn.fullId = f ∧ f.identity.isOk then some true else none
  | deleted g => if g = f then some false else none
  | _ => none

end Event

namespace Tmi

/-- The full identifier of a TMI and the four fields of its identity. -/
def names (t : Tmi) : TmiId × Identity := (t.fullId, ⟨t.application, t.session, t.template, t.id⟩)

variable (t : Tmi) (v : Version) (payload : Option Json) (sn : Snapshot)

/-! ### Parts of an event -/

@[simp] theorem states_raiseLatest : (t.raiseLatest v).states = t.states := by
  rw [raiseLatest]; split_ifs <;> rfl

@[simp] theorem atls_raiseLatest : (t.raiseLatest v).atls = t.atls := by
  rw [raiseLatest]; split_ifs <;> rfl

@[simp] theorem updates_raiseLatest : (t.raiseLatest v).updates = t.updates := by
  rw [raiseLatest]; split_ifs <;> rfl

@[simp] theorem active_raiseLatest : (t.raiseLatest v).active = t.active := by
  rw [raiseLatest]; split_ifs <;> rfl

@[simp] theorem names_raiseLatest : (t.raiseLatest v).names = t.names := by
  rw [raiseLatest]; split_ifs <;> rfl

theorem le_latestVersion_raiseLatest :
    v ≤ (t.raiseLatest v).latestVersion ∧ t.latestVersion ≤ (t.raiseLatest v).latestVersion := by
  rw [raiseLatest]
  split_ifs with h
  · exact ⟨UInt64.le_refl v, UInt64.le_of_lt h⟩
  · exact ⟨UInt64.not_lt.mp h, UInt64.le_refl _⟩

@[simp] theorem states_addUpdateIfAny : (t.addUpdateIfAny v payload).states = t.states := by
  cases payload <;> rfl

@[simp] theorem atls_addUpdateIfAny : (t.addUpdateIfAny v payload).atls = t.atls := by
  cases payload <;> rfl

@[simp] theorem active_addUpdateIfAny : (t.addUpdateIfAny v payload).active = t.active := by
  cases payload <;> rfl

@[simp] theorem names_addUpdateIfAny : (t.addUpdateIfAny v payload).names = t.names := by
  cases payload <;> rfl

theorem isClaimed_iff : t.isClaimed v = true ↔ v ∈ t.states := Std.ExtTreeMap.contains_iff_mem

/-- An update of a version that is claimed puts its payload off to the next one. -/
theorem update_of_claimed (h : sn.version ∈ t.states) :
    (t.update sn).2 = t.addUpdateIfAny sn.version.next sn.update := by
  rw [update, if_pos ((isClaimed_iff t _).mpr h)]
  cases sn.update <;> rfl

/-- An update of a version that is not claimed claims it. -/
theorem update_of_unclaimed (h : sn.version ∉ t.states) :
    (t.update sn).2 = ((t.setState sn.state).addUpdateIfAny sn.version sn.update).raiseLatest
      sn.version := by
  rw [update, if_neg fun hc => h ((isClaimed_iff t _).mp hc)]

theorem states_update : (t.update sn).2.states = t.states.insertIfNew sn.version sn.state := by
  by_cases hc : sn.version ∈ t.states
  · rw [update_of_claimed t sn hc, states_addUpdateIfAny, Maps.insertIfNew_of_mem hc]
  · rw [update_of_unclaimed t sn hc, states_raiseLatest, states_addUpdateIfAny,
      Maps.insertIfNew_of_not_mem hc]
    rfl

theorem atls_update : (t.update sn).2.atls = t.atls := by
  by_cases hc : sn.version ∈ t.states
  · rw [update_of_claimed t sn hc, atls_addUpdateIfAny]
  · rw [update_of_unclaimed t sn hc, atls_raiseLatest, atls_addUpdateIfAny]; rfl

theorem active_update : (t.update sn).2.active = t.active := by
  by_cases hc : sn.version ∈ t.states
  · rw [update_of_claimed t sn hc, active_addUpdateIfAny]
  · rw [update_of_unclaimed t sn hc, active_raiseLatest, active_addUpdateIfAny]; rfl

theorem names_update : (t.update sn).2.names = t.names := by
  by_cases hc : sn.version ∈ t.states
  · rw [update_of_claimed t sn hc, names_addUpdateIfAny]
  · rw [update_of_unclaimed t sn hc, names_raiseLatest, names_addUpdateIfAny]; rfl

end Tmi

/-! ### One event -/

namespace Event

variable (f : TmiId) (e : Event) (t : Tmi)

theorem states_actOn : (e.actOn f t).states =
    (e.claim? f).elim t.states fun st => t.states.insertIfNew st.version st := by
  cases e with
  | spawned sn =>
    simp only [actOn, claim?]
    split_ifs
    · exact Tmi.states_raiseLatest _ _
    · rfl
  | updated sn =>
    simp only [actOn, claim?]
    split_ifs
    · exact Tmi.states_update t sn
    · rfl
  | deleted g => simp only [actOn, claim?]; split_ifs <;> rfl
  | atlUpdated g nominal bundle => simp only [actOn, claim?]; split_ifs <;> rfl
  | sessionCreated | sessionTorndown | atlRemoved | unrecognized => rfl

theorem atls_actOn : (e.actOn f t).atls =
    (e.bundle? f).elim t.atls fun b => t.atls.insert b.version b := by
  cases e with
  | spawned sn =>
    simp only [actOn, bundle?]
    split_ifs
    · exact Tmi.atls_raiseLatest _ _
    · rfl
  | updated sn =>
    simp only [actOn, bundle?]
    split_ifs
    · exact Tmi.atls_update t sn
    · rfl
  | deleted g => simp only [actOn, bundle?]; split_ifs <;> rfl
  | atlUpdated g nominal bundle => simp only [actOn, bundle?]; split_ifs <;> rfl
  | sessionCreated | sessionTorndown | atlRemoved | unrecognized => rfl

theorem active_actOn : (e.actOn f t).active = (e.activity? f).getD t.active := by
  cases e with
  | spawned sn => simp only [actOn, activity?]; split_ifs <;> rfl
  | updated sn =>
    simp only [actOn, activity?]
    split_ifs
    · exact Tmi.active_update t sn
    · rfl
  | deleted g => simp only [actOn, activity?]; split_ifs <;> rfl
  | atlUpdated g nominal bundle => simp only [actOn, activity?]; split_ifs <;> rfl
  | sessionCreated | sessionTorndown | atlRemoved | unrecognized => rfl

theorem names_actOn : (e.actOn f t).names = t.names := by
  cases e with
  | spawned sn =>
    simp only [actOn]
    split_ifs
    · exact Tmi.names_raiseLatest _ _
    · rfl
  | updated sn =>
    simp only [actOn]
    split_ifs
    · exact Tmi.names_update t sn
    · rfl
  | deleted g => simp only [actOn]; split_ifs <;> rfl
  | atlUpdated g nominal bundle => simp only [actOn]; split_ifs <;> rfl
  | sessionCreated | sessionTorndown | atlRemoved | unrecognized => rfl

theorem latestVersion_le_actOn : t.latestVersion ≤ (e.actOn f t).latestVersion := by
  cases e with
  | spawned sn =>
    simp only [actOn]
    split_ifs
    · exact (Tmi.le_latestVersion_raiseLatest (t.claimState sn.state) sn.version).2
    · exact UInt64.le_refl _
  | updated sn =>
    simp only [actOn]
    split_ifs
    · by_cases hc : sn.version ∈ t.states
      · rw [Tmi.update_of_claimed t sn hc]
        cases sn.update <;> exact UInt64.le_refl _
      · rw [Tmi.update_of_unclaimed t sn hc]
        have hraise := (Tmi.le_latestVersion_raiseLatest
          ((t.setState sn.state).addUpdateIfAny sn.version sn.update) sn.version).2
        cases hu : sn.update <;> rw [hu] at hraise <;> exact hraise
    · exact UInt64.le_refl _
  | deleted g => simp only [actOn]; split_ifs <;> exact UInt64.le_refl _
  | atlUpdated g nominal bundle => simp only [actOn]; split_ifs <;> exact UInt64.le_refl _
  | sessionCreated | sessionTorndown | atlRemoved | unrecognized => exact UInt64.le_refl _

/-! ### Many events -/

variable (events : List Event)

/-- A version keeps its state, or gets that of the first claim. -/
theorem states_actOnAll (v : Version) : (actOnAll f events t).states[v]? =
    t.states[v]?.or ((events.filterMap (claim? f)).find? (·.version = v)) := by
  induction events generalizing t with
  | nil => simp [actOnAll]
  | cons e events ih =>
    rw [actOnAll, List.foldl_cons, ← actOnAll, ih, states_actOn]
    cases hc : e.claim? f with
    | none => rw [List.filterMap_cons_none hc]; rfl
    | some st =>
      rw [List.filterMap_cons_some hc, List.find?_cons, Option.elim_some, Maps.getElem?_insertIfNew]
      by_cases hv : st.version = v
      · subst hv
        cases ht : t.states[st.version]? with
        | none =>
          have hn : st.version ∉ t.states := by simpa using ht
          rw [if_pos ⟨rfl, hn⟩]
          simp
        | some old =>
          have hm : st.version ∈ t.states := (Std.ExtTreeMap.getElem?_eq_some_iff.mp ht).1
          rw [if_neg fun hn => hn.2 hm]
          simp
      · simp [hv]

/-- A version has the last bundle that came with it. -/
theorem atls_actOnAll (v : Version) : (actOnAll f events t).atls[v]? =
    ((events.filterMap (bundle? f)).filter (·.version = v)).getLast?.or t.atls[v]? := by
  induction events generalizing t with
  | nil => simp [actOnAll]
  | cons e events ih =>
    rw [actOnAll, List.foldl_cons, ← actOnAll, ih, atls_actOn]
    cases hc : e.bundle? f with
    | none => rw [List.filterMap_cons_none hc]; rfl
    | some b =>
      rw [List.filterMap_cons_some hc, List.filter_cons, Option.elim_some, Maps.getElem?_insert]
      by_cases hv : b.version = v
      · simp [hv, List.getLast?_cons]
      · simp [hv]

theorem active_actOnAll : (actOnAll f events t).active =
    (events.filterMap (activity? f)).getLast?.getD t.active := by
  induction events generalizing t with
  | nil => rfl
  | cons e events ih =>
    rw [actOnAll, List.foldl_cons, ← actOnAll, ih, active_actOn]
    cases hc : e.activity? f with
    | none => rw [List.filterMap_cons_none hc]; rfl
    | some b => rw [List.filterMap_cons_some hc, List.getLast?_cons]; rfl

theorem names_actOnAll : (actOnAll f events t).names = t.names := by
  induction events generalizing t with
  | nil => rfl
  | cons e events ih => rw [actOnAll, List.foldl_cons, ← actOnAll, ih, names_actOn]

end Event

end TrustReplica
