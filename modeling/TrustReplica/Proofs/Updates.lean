import TrustReplica.Proofs.Fields
import TrustReplica.Store.Resync

/-! Where the payloads of updates go. An update files its payload under its own version if no claim of that
    version came before, and under the next version otherwise; nothing else touches the payloads. So a run
    adds to every version, in their order, the payloads that it files there (`updatesAt_actOnAll`), and to
    all versions together the payloads of all updates (`payloads_actOnAll`). -/

namespace TrustReplica

namespace Event

/-- The version and the payload of an update of a TMI, if it brings a payload. -/
def payload? (f : TmiId) : Event → Option (Version × Json)
  | updated sn => if sn.fullId = f then sn.update.map fun payload => (sn.version, payload) else none
  | _ => none

/-- Whether an event is a spawn or an update of a TMI with a version. -/
def carries (f : TmiId) (v : Version) (e : Event) : Bool :=
  e.snapshot?.any fun sn => sn.fullId = f ∧ sn.version = v

/-- Whether an event claims a version of a TMI; a spawn does if the identifier names all fields. -/
def claims (f : TmiId) (v : Version) (e : Event) : Bool := (e.claim? f).any fun st => st.version = v

section Filing

variable (claims : Version → Event → Bool) (claimed : Version → Bool)

/-- The version under which a payload is filed that comes with version `v` after some events, when some
    versions were claimed at the start. -/
def filedAt (before : List Event) (v : Version) : Version :=
  if claimed v || before.any (claims v) then v.next else v

/-- The payloads for a TMI that a run files under a version, in the order of the events. -/
def filedUnder (f : TmiId) (events : List Event) (w : Version) : List Json :=
  events.zipIdx.filterMap fun (e, i) =>
    (e.payload? f).bind fun (v, payload) =>
      if filedAt claims claimed (events.take i) v = w then some payload else none

theorem filedUnder_concat (f : TmiId) (events : List Event) (e : Event) (w : Version) :
    filedUnder claims claimed f (events ++ [e]) w = filedUnder claims claimed f events w ++
      ((e.payload? f).filter fun vp => filedAt claims claimed events vp.1 = w).toList.map Prod.snd := by
  rw [filedUnder, filedUnder, List.zipIdx_append, List.filterMap_append]
  congr 1
  · refine List.filterMap_congr fun ⟨a, i⟩ hmem => ?_
    have hi : i < events.length := by
      have := List.mem_zipIdx hmem
      omega
    simp only [List.take_append_of_le_length hi.le]
  · cases hp : e.payload? f with
    | none => simp [hp]
    | some vp =>
      by_cases hw : filedAt claims claimed events vp.1 = w <;> simp [hp, hw, Option.filter]

end Filing

end Event

namespace Tmi

/-- Files the payload of an update. -/
def file (t : Tmi) (v : Version) (payload : Json) : Tmi :=
  t.addUpdate (if t.isClaimed v then v.next else v) payload

/-- The payloads of all versions. -/
def payloads (t : Tmi) : List Json := t.updates.toList.flatMap Prod.snd

variable (t : Tmi) (v : Version) (payload : Json)

theorem updatesAt_addUpdate (w : Version) : (t.addUpdate v payload).updatesAt w =
    if v = w then t.updatesAt w ++ [payload] else t.updatesAt w := by
  rw [updatesAt, addUpdate, Maps.getElem?_insert]
  split_ifs with h
  · rw [h]; rfl
  · rfl

/-- One more payload is filed, whatever its version. -/
theorem payloads_addUpdate : (t.addUpdate v payload).payloads.Perm (t.payloads ++ [payload]) := by
  have hnew : (t.addUpdate v payload).payloads.Perm
      ((t.updatesAt v ++ [payload]) ++ (t.updates.erase v).toList.flatMap Prod.snd) :=
    (Maps.toList_insert_perm t.updates v _).flatMap_right _
  have hold : t.payloads.Perm (t.updatesAt v ++ (t.updates.erase v).toList.flatMap Prod.snd) := by
    cases h : t.updates[v]? with
    | some old =>
      rw [updatesAt, h]
      exact (Maps.toList_perm_erase h).flatMap_right _
    | none =>
      have herase : t.updates.erase v = t.updates := by
        refine Std.ExtTreeMap.ext_getElem? fun w => ?_
        rw [Maps.getElem?_erase]
        split_ifs with hw
        · rw [← hw, h]
        · rfl
      rw [updatesAt, h, herase]
      exact List.Perm.refl _
  refine hnew.trans (List.Perm.trans ?_ (hold.symm.append_right _))
  rw [List.append_assoc, List.append_assoc]
  exact List.perm_append_comm.append_left _

theorem updates_update (sn : Snapshot) :
    (t.update sn).2.updates = (sn.update.elim t (t.file sn.version)).updates := by
  by_cases hc : sn.version ∈ t.states
  · rw [update_of_claimed t sn hc]
    have hclaimed : t.isClaimed sn.version = true := (isClaimed_iff t _).mpr hc
    cases sn.update with
    | none => rfl
    | some payload => rw [addUpdateIfAny, Option.elim_some, file, if_pos hclaimed]
  · rw [update_of_unclaimed t sn hc, updates_raiseLatest]
    have hunclaimed : ¬ t.isClaimed sn.version = true := fun h => hc ((isClaimed_iff t _).mp h)
    cases sn.update with
    | none => rfl
    | some payload => rw [Option.elim_some, file, if_neg hunclaimed]; rfl

end Tmi

/-! ### Runs -/

namespace Event

variable (f : TmiId) (e : Event) (t : Tmi)

/-- Only an update with a payload changes the payloads, and it files its own. -/
theorem updates_actOn : (e.actOn f t).updates =
    ((e.payload? f).elim t fun vp => t.file vp.1 vp.2).updates := by
  cases e with
  | updated sn =>
    simp only [actOn, payload?]
    split_ifs
    · rw [Tmi.updates_update]; cases sn.update <;> rfl
    · rfl
  | spawned sn =>
    simp only [actOn, payload?]
    split_ifs
    · exact Tmi.updates_raiseLatest _ _
    · rfl
  | deleted g => simp only [actOn, payload?]; split_ifs <;> rfl
  | atlUpdated g nominal bundle => simp only [actOn, payload?]; split_ifs <;> rfl
  | sessionCreated | sessionTorndown | atlRemoved | unrecognized => rfl

theorem isClaimed_actOn (v : Version) : (e.actOn f t).isClaimed v = (t.isClaimed v || claims f v e) := by
  rw [Tmi.isClaimed, states_actOn, claims]
  cases e.claim? f with
  | none => simp [Tmi.isClaimed]
  | some st =>
    rw [Option.elim_some, Std.ExtTreeMap.contains_insertIfNew, Bool.or_comm]
    congr 1
    by_cases h : st.version = v <;> simp [h]

/-- A version is claimed after a run if it was before, or an event claims it. -/
theorem isClaimed_actOnAll (events : List Event) (v : Version) :
    (actOnAll f events t).isClaimed v = (t.isClaimed v || events.any (claims f v)) := by
  induction events generalizing t with
  | nil => simp [actOnAll]
  | cons e events ih =>
    rw [actOnAll, List.foldl_cons, ← actOnAll, ih, isClaimed_actOn, List.any_cons, Bool.or_assoc]

theorem actOnAll_concat (events : List Event) :
    actOnAll f (events ++ [e]) t = e.actOn f (actOnAll f events t) := by
  rw [actOnAll, List.foldl_append]; rfl

/-- After a run, a payload is filed where the claims of the run send it. -/
theorem file_actOnAll (events : List Event) (v : Version) (payload : Json) :
    (actOnAll f events t).file v payload =
      (actOnAll f events t).addUpdate (filedAt (claims f) t.isClaimed events v) payload := by
  rw [Tmi.file, isClaimed_actOnAll, filedAt]

/-- A version gets, behind the payloads it has, those that the run files under it. -/
theorem updatesAt_actOnAll (events : List Event) (w : Version) : (actOnAll f events t).updatesAt w =
    t.updatesAt w ++ filedUnder (claims f) t.isClaimed f events w := by
  -- from the end: where the last payload goes depends on the claims of all events before it
  induction events using List.reverseRecOn with
  | nil => simp [actOnAll, filedUnder]
  | append_singleton events e ih =>
    rw [actOnAll_concat, filedUnder_concat, ← List.append_assoc, ← ih, Tmi.updatesAt, updates_actOn]
    cases hp : e.payload? f with
    | none => simp [Tmi.updatesAt]
    | some vp =>
      rw [Option.elim_some, file_actOnAll, ← Tmi.updatesAt, Tmi.updatesAt_addUpdate]
      by_cases hw : filedAt (claims f) t.isClaimed events vp.1 = w <;> simp [hw, Option.filter]

/-- A version has an entry among the payloads if it had one, or the run files something under it. -/
theorem mem_updates_actOnAll (events : List Event) (w : Version) : w ∈ (actOnAll f events t).updates ↔
    w ∈ t.updates ∨ filedUnder (claims f) t.isClaimed f events w ≠ [] := by
  induction events using List.reverseRecOn with
  | nil => simp [actOnAll, filedUnder]
  | append_singleton events e ih =>
    rw [actOnAll_concat, filedUnder_concat, updates_actOn, ne_eq, List.append_eq_nil_iff,
      not_and_or, ← ne_eq, ← or_assoc, ← ih]
    cases hp : e.payload? f with
    | none => simp
    | some vp =>
      rw [Option.elim_some, file_actOnAll, Tmi.addUpdate, Std.ExtTreeMap.mem_insert,
        Std.LawfulEqOrd.compare_eq_iff_eq, or_comm]
      by_cases hw : filedAt (claims f) t.isClaimed events vp.1 = w <;> simp [hw, Option.filter]

/-- All versions together get the payloads of all updates. -/
theorem payloads_actOnAll (events : List Event) : (actOnAll f events t).payloads.Perm
    (t.payloads ++ (events.filterMap (payload? f)).map Prod.snd) := by
  induction events using List.reverseRecOn with
  | nil => simp [actOnAll]
  | append_singleton events e ih =>
    rw [actOnAll_concat, Tmi.payloads, updates_actOn, ← Tmi.payloads, List.filterMap_append,
      List.map_append, ← List.append_assoc]
    cases hp : e.payload? f with
    | none => simpa [hp] using ih
    | some vp =>
      refine (Tmi.payloads_addUpdate _ _ _).trans ?_
      simpa [hp] using ih.append_right [vp.2]

end Event

/-! ### Outcomes -/

/-- What an event about a TMI does to its payloads, told by the outcome and by the kind of the event. -/
structure FiledByOutcome (f : TmiId) (e : Event) (outcome : Outcome) (t t' : Tmi) : Prop where
  deferred : ∀ n, outcome = .deferred n →
    ∃ v payload, e.payload? f = some (v, payload) ∧ t'.updates = (t.addUpdate n payload).updates
  duplicate : outcome = .duplicate → t'.updates = t.updates
  spawned : ∀ sn, e = .spawned sn → t'.updates = t.updates

/-- An event without a payload that puts nothing off leaves the payloads alone. -/
theorem filedByOutcome_of_no_payload {f : TmiId} {e : Event} {outcome : Outcome} (t : Tmi)
    (hp : e.payload? f = none) (hout : ∀ n, outcome ≠ .deferred n) :
    FiledByOutcome f e outcome t (e.actOn f t) := by
  have hkeep : (e.actOn f t).updates = t.updates := by rw [Event.updates_actOn, hp]; rfl
  exact ⟨fun n hn => absurd hn (hout n), fun _ => hkeep, fun _ _ => hkeep⟩

theorem Tmi.filedByOutcome_update (t : Tmi) (sn : Snapshot) :
    FiledByOutcome sn.fullId (.updated sn) (t.update sn).1 t (t.update sn).2 := by
  rw [Tmi.update]
  split_ifs with hc
  · cases hu : sn.update with
    | none => exact ⟨fun n hn => Outcome.noConfusion hn, fun _ => rfl, fun _ _ => rfl⟩
    | some payload =>
      refine ⟨fun n hn => ?_, fun hn => Outcome.noConfusion hn, fun _ hn => Event.noConfusion hn⟩
      refine ⟨sn.version, payload, by simp [Event.payload?, hu], ?_⟩
      rw [Outcome.deferred.inj hn]
  · exact ⟨fun n hn => Outcome.noConfusion hn, fun hn => Outcome.noConfusion hn,
      fun _ hn => Event.noConfusion hn⟩

/-- Only an update is ever put off. -/
theorem Store.apply_ne_deferred (s : Store) {e : Event} (h : ∀ sn, e ≠ .updated sn) (n : Version) :
    (s.apply e).1 ≠ .deferred n := by
  intro hn
  cases e with
  | sessionTorndown id =>
    rw [apply, tearDownSession] at hn
    split at hn <;> exact Outcome.noConfusion hn
  | spawned sn =>
    rw [apply, spawnTmi] at hn
    split at hn <;> exact Outcome.noConfusion hn
  | updated sn => exact h sn rfl
  | deleted g =>
    rw [apply, changeTmi] at hn
    split at hn <;> exact Outcome.noConfusion hn
  | atlUpdated g nominal bundle =>
    rw [apply, changeTmi] at hn
    split at hn <;> exact Outcome.noConfusion hn
  | sessionCreated | atlRemoved | unrecognized => exact Outcome.noConfusion hn

theorem Store.filedByOutcome {s : Store} {f : TmiId} {t : Tmi} (h : s.tmi? f = some t) {e : Event}
    (he : e.tmi? = some f) : FiledByOutcome f e (s.apply e).1 t (e.actOn f t) := by
  cases e with
  | updated sn =>
    obtain rfl : sn.fullId = f := Option.some_inj.mp he
    have hout : (s.apply (.updated sn)).1 = (t.update sn).1 := by rw [apply, changeTmi, h]
    have hact : (Event.updated sn).actOn sn.fullId t = (t.update sn).2 := if_pos rfl
    rw [hout, hact]
    exact t.filedByOutcome_update sn
  | spawned | deleted | atlUpdated | atlRemoved | sessionCreated | sessionTorndown | unrecognized =>
    exact filedByOutcome_of_no_payload t rfl (s.apply_ne_deferred fun _ => Event.noConfusion)

/-! ### The payloads of a run -/

/-- What a run does to the payloads of a TMI, for a notion of what claims a version: each version gets
    those that are filed under it, all together are those of the updates, and each outcome tells what its
    event did. -/
structure FilesPayloads (claims : Version → Event → Bool) (s : Store) (f : TmiId) (events : List Event)
    (t t' : Tmi) : Prop where
  updatesAt : ∀ w, t'.updatesAt w = t.updatesAt w ++ Event.filedUnder claims t.isClaimed f events w
  mem_updates : ∀ w, w ∈ t'.updates ↔
    w ∈ t.updates ∨ Event.filedUnder claims t.isClaimed f events w ≠ []
  payloads : t'.payloads.Perm (t.payloads ++ (events.filterMap (Event.payload? f)).map Prod.snd)
  outcomes : ∀ before e, before ++ [e] <+: events → e.tmi? = some f →
    ∃ u u', (s.applyAll before).tmi? f = some u ∧ (s.applyAll (before ++ [e])).tmi? f = some u' ∧
      FiledByOutcome f e ((s.applyAll before).apply e).1 u u'

/-- Payloads are never lost, duplicated or misfiled: a run adds to each version of a known TMI the payloads
    of the updates that bring the version unclaimed, or bring the version before it claimed. -/
theorem Store.filesPayloads_applyAll {s : Store} {f : TmiId} {t : Tmi} (h : s.tmi? f = some t)
    (events : List Event) :
    ∃ t', (s.applyAll events).tmi? f = some t' ∧ FilesPayloads (Event.claims f) s f events t t' := by
  refine ⟨_, tmi?_applyAll_of_known h events, Event.updatesAt_actOnAll f t events,
    Event.mem_updates_actOnAll f t events, Event.payloads_actOnAll f t events, fun before e _ he => ?_⟩
  have hu := tmi?_applyAll_of_known h before
  refine ⟨_, _, hu, tmi?_applyAll_of_known h (before ++ [e]), ?_⟩
  rw [Event.actOnAll_concat]
  exact filedByOutcome hu he

/-- A snapshot of a TMI that says nothing beside its version and an update. -/
def Snapshot.bare (f : TmiId) (v : Version) (update : Option Json) : Snapshot :=
  ⟨f, "", v, 0, .empty, none, none, update⟩

/-- A spawn and an update of one version. -/
def Event.twoClaims : List Event :=
  [.spawned (.bare ⟨"//a/s/t/i"⟩ 5 none), .updated (.bare ⟨"//a/s/t/i"⟩ 5 (some (.flag true)))]

/-- After a spawn, the payload of an update of the same version is filed under the next one. -/
theorem Store.filesPayloads_after_spawn :
    (Store.empty.applyAll [.spawned (.bare ⟨"//a/s/t/i"⟩ 5 none)]).tmi? ⟨"//a/s/t/i"⟩ =
      some (.ofSpawn (.bare ⟨"//a/s/t/i"⟩ 5 none) ⟨"a", ⟨"s"⟩, "t", "i"⟩) ∧
    ∃ t', ((Store.empty.applyAll [.spawned (.bare ⟨"//a/s/t/i"⟩ 5 none)]).applyAll
        [.updated (.bare ⟨"//a/s/t/i"⟩ 5 (some (.flag true)))]).tmi? ⟨"//a/s/t/i"⟩ = some t' ∧
      t'.updatesAt 6 = [.flag true] := by
  have hknown : (Store.empty.applyAll [.spawned (.bare ⟨"//a/s/t/i"⟩ 5 none)]).tmi? ⟨"//a/s/t/i"⟩ =
      some (.ofSpawn (.bare ⟨"//a/s/t/i"⟩ 5 none) ⟨"a", ⟨"s"⟩, "t", "i"⟩) := rfl
  obtain ⟨t', ht', hfiles⟩ := Store.filesPayloads_applyAll hknown
    [.updated (.bare ⟨"//a/s/t/i"⟩ 5 (some (.flag true)))]
  exact ⟨hknown, t', ht', (hfiles.updatesAt 6).trans rfl⟩

/-- A replica that was told of one TMI, under an identifier that names none of its fields. -/
def Store.ofNameless : Store :=
  (Store.empty.adoptListing (.ok ((∅ : Listing).insert "x" ⟨"i", ⟨"x"⟩, "", false, 0⟩))).2

/-- A spawn whose identifier does not name all fields carries a version, but it claims none. -/
theorem Store.not_filesPayloads_carries :
    ∃ t t', Store.ofNameless.tmi? ⟨"x"⟩ = some t ∧
      (Store.ofNameless.applyAll
        [.spawned (.bare ⟨"x"⟩ 5 none), .updated (.bare ⟨"x"⟩ 5 (some (.flag true)))]).tmi? ⟨"x"⟩ = some t' ∧
      ¬ FilesPayloads (Event.carries ⟨"x"⟩) Store.ofNameless ⟨"x"⟩
        [.spawned (.bare ⟨"x"⟩ 5 none), .updated (.bare ⟨"x"⟩ 5 (some (.flag true)))] t t' := by
  have hknown : Store.ofNameless.tmi? ⟨"x"⟩ =
      some (.ofSummary "x" ⟨"i", ⟨"x"⟩, "", false, 0⟩) := rfl
  refine ⟨_, _, hknown, tmi?_applyAll_of_known hknown _, fun hfiles => ?_⟩
  have hsix := hfiles.updatesAt 6
  rw [Event.updatesAt_actOnAll] at hsix
  exact List.cons_ne_nil (Json.flag true) [] hsix.symm

end TrustReplica
