import TrustReplica.Proofs.Bootstrap
import TrustReplica.Proofs.Reporting

/-! Fetching the versions of a TMI in turn. A fetch of one version puts its state, its payloads and its bundle
    into the record and changes nothing else (`Tmi.merge_atVersion?`); so what was fetched so far is the TMI
    at just these versions (`Tmi.atVersions`), in whatever order they came. When every version that has a
    state was fetched, this is the TMI that one fetch of everything gives, but for the payloads and the
    bundles at versions that have no state: these stand in no answer about one version. -/

namespace TrustReplica

/-! ### Some entries of a map -/

namespace VersionMap

variable {α : Type} {m : VersionMap α} {v : Version}

/-- The entries of a map at some versions. -/
def only (m : VersionMap α) (versions : List Version) : VersionMap α := m.filter fun v _ => v ∈ versions

theorem getElem?_only (m : VersionMap α) (versions : List Version) (v : Version) :
    (m.only versions)[v]? = if v ∈ versions then m[v]? else none := by
  rw [only, Std.ExtTreeMap.getElem?_filter']
  cases m[v]? <;> simp [Option.filter]

theorem only_nil (m : VersionMap α) : m.only [] = ∅ :=
  Std.ExtTreeMap.ext_getElem? fun v => by simp [getElem?_only]

theorem only_concat_of_some {a : α} (h : m[v]? = some a) (versions : List Version) :
    m.only (versions ++ [v]) = (m.only versions).insert v a := by
  refine Std.ExtTreeMap.ext_getElem? fun w => ?_
  rw [Maps.getElem?_insert, getElem?_only, getElem?_only]
  by_cases hw : v = w
  · subst hw
    simp [h]
  · simp [hw, Ne.symm hw]

theorem only_concat_of_none (h : m[v]? = none) (versions : List Version) :
    m.only (versions ++ [v]) = m.only versions := by
  refine Std.ExtTreeMap.ext_getElem? fun w => ?_
  rw [getElem?_only, getElem?_only]
  by_cases hw : w = v
  · subst hw
    simp [h]
  · simp [hw]

end VersionMap

namespace Tmi

/-! ### A TMI at some of its versions -/

/-- A TMI at some versions alone. A version that has a state has a list of payloads, too, if an empty one. -/
def atVersions (t : Tmi) (versions : List Version) : Tmi :=
  { t with
    states := t.states.only versions
    atls := t.atls.only versions
    updates := (t.states.only versions).map fun v _ => t.updatesAt v }

/-- A TMI without the payloads and the bundles at versions that have no state. -/
def claimedPart (t : Tmi) : Tmi :=
  { t with
    atls := t.atls.filter fun v _ => v ∈ t.states
    updates := t.states.map fun v _ => t.updatesAt v }

variable {t : Tmi}

/-- At none of its versions a TMI is what the listing says of it. -/
theorem atVersions_nil (t : Tmi) : t.atVersions [] = t.listed := by
  have hupdates : (∅ : VersionMap TmiState).map (fun v _ => t.updatesAt v) = ∅ :=
    Std.ExtTreeMap.ext_getElem? fun v => by simp
  rw [atVersions, VersionMap.only_nil, VersionMap.only_nil, hupdates, listed]

/-- At all versions that have a state, a TMI lacks just what stands at the others. -/
theorem atVersions_of_mem_iff {versions : List Version} (h : ∀ v, v ∈ versions ↔ v ∈ t.states) :
    t.atVersions versions = t.claimedPart := by
  have hstates : t.states.only versions = t.states := by
    refine Std.ExtTreeMap.ext_getElem? fun v => ?_
    rw [VersionMap.getElem?_only, ite_eq_left_iff, h]
    exact fun hv => (Std.ExtTreeMap.getElem?_eq_none hv).symm
  have hatls : t.atls.only versions = t.atls.filter fun v _ => v ∈ t.states := by
    simp only [VersionMap.only, h]
  rw [atVersions, hstates, hatls, claimedPart]

/-- Merging the detail of one more version adds this version: no other entry changes, and the latest
    version is on top already. -/
theorem merge_atVersion? (hlatest : ∀ v ∈ t.states, v ≤ t.latestVersion) (hkeyed : t.IsKeyed)
    {v : Version} {d : Detail} (hd : Detail.atVersion? t v = some d) (versions : List Version) :
    (t.atVersions versions).merge d = t.atVersions (versions ++ [v]) := by
  obtain ⟨st, hst, rfl⟩ := Option.map_eq_some_iff.mp hd
  have hversion : st.version = v := hkeyed.states v st hst
  have hmem : v ∈ t.states := Maps.mem_iff.mpr ⟨st, hst⟩
  have hmax : max t.latestVersion v = t.latestVersion := Version.max_eq_left (hlatest v hmem)
  -- a bundle that is there comes with the state, and goes to the same version
  have hatls : t.atls.only (versions ++ [v]) = t.atls[v]?.elim (t.atls.only versions)
      fun b => (t.atls.only versions).insert b.version b := by
    cases hb : t.atls[v]? with
    | some b => rw [VersionMap.only_concat_of_some hb, Option.elim_some, hkeyed.atls v b hb]
    | none => rw [VersionMap.only_concat_of_none hb, Option.elim_none]
  have hbundle : Detail.bundle? { Detail.header t with
      atls := t.atls[v]?.map .single
      state := some st
      updates := some (.list (t.updatesAt v)) } = t.atls[v]? := by
    rw [Detail.bundle?]
    cases t.atls[v]? <;> rfl
  rw [merge_of_state _ rfl, hbundle, hversion]
  simp only [atVersions, VersionMap.only_concat_of_some hst, Maps.map_insert, hatls, hmax]
  rfl

end Tmi

/-- A record of a TMI lacks, of all that another one has, just the payloads and the bundles at versions that
    have no state. -/
structure Tmi.LacksStateless (held t : Tmi) : Prop where
  payloads : ∀ v payloads, t.updates[v]? = some payloads →
    (held.updates[v]? = some payloads ↔ v ∈ t.states)
  bundles : ∀ v bundle, t.atls[v]? = some bundle → (held.atls[v]? = some bundle ↔ v ∈ t.states)
  /-- Of payloads it has nothing else but empty lists, and a list at every version that has a state. -/
  payloadsOf : ∀ v, held.updates[v]? = if v ∈ t.states then some (t.updatesAt v) else none
  bundlesOf : ∀ v, held.atls[v]? = if v ∈ t.states then t.atls[v]? else none
  /-- All else is the same. -/
  others : { held with updates := t.updates, atls := t.atls } = t

theorem Tmi.lacksStateless_claimedPart (t : Tmi) : t.claimedPart.LacksStateless t := by
  have hupdates (v : Version) :
      t.claimedPart.updates[v]? = if v ∈ t.states then some (t.updatesAt v) else none := by
    rw [claimedPart, Std.ExtTreeMap.getElem?_map]
    split_ifs with hv
    · obtain ⟨st, hst⟩ := Maps.mem_iff.mp hv
      rw [hst, Option.map_some]
    · rw [Std.ExtTreeMap.getElem?_eq_none hv, Option.map_none]
  have hatls (v : Version) : t.claimedPart.atls[v]? = if v ∈ t.states then t.atls[v]? else none := by
    rw [claimedPart, Std.ExtTreeMap.getElem?_filter']
    cases t.atls[v]? <;> simp [Option.filter]
  refine ⟨fun v payloads h => ?_, fun v bundle h => ?_, hupdates, hatls, rfl⟩
  · rw [hupdates, updatesAt, h]
    simp
  · rw [hatls, h]
    simp

/-! ### Fetching in turn -/

namespace Replica

/-- A replica that has some record of a TMI, and all else as before. -/
def holding (r : Replica) (t : Tmi) : Replica := { r with store := r.store.insertTmi t }

theorem tmi?_holding (r : Replica) (t : Tmi) : (r.holding t).store.tmi? t.fullId = some t := by
  rw [holding, Store.tmi?_insertTmi, if_pos rfl]

theorem holding_of_tmi? {r : Replica} {t : Tmi} (h : r.store.tmi? t.fullId = some t) :
    r.holding t = r := by
  have hsame : r.store.tmis.insert t.fullId t = r.store.tmis := Maps.insert_of_getElem? h
  rw [holding, Store.insertTmi, hsame]

theorem holding_holding (r : Replica) {t u : Tmi} (h : t.fullId = u.fullId) :
    (r.holding t).holding u = r.holding u := by
  have hsame : (r.store.tmis.insert t.fullId t).insert u.fullId u = r.store.tmis.insert u.fullId u := by
    rw [h]
    exact Maps.insert_insert _ _ _ _
  simp only [holding, Store.insertTmi, hsame]

variable {σ : Type}

/-- Fetches for one request after the other. -/
def fetchInTurn (source : Source σ) (r : Replica) (world : σ) :
    List Request → List (Except LoadError Tmi) × Replica × σ
  | [] => ([], r, world)
  | request :: requests =>
    let (result, r, world) := r.fetchTmi source world request
    let (results, r, world) := r.fetchInTurn source world requests
    (result :: results, r, world)

variable {served r : Replica} {t : Tmi}

theorem fetchTmi_served (ht : served.store.tmi? t.fullId = some t) (h : t.IsServed t.fullId) {base : Tmi}
    (hbase : r.store.tmi? t.fullId = some base) {selector : Selector} {d : Detail}
    (hd : ReadApi.detail? t selector = some d) (world : σ) :
    r.fetchTmi (ReadApi.source served σ) world (t.requestFor selector) =
      (.ok (base.merge d), r.holding (base.merge d), world) := by
  rw [fetchTmi, Store.fetchTmi_served ht h hbase hd]
  rfl

/-- From a record of some versions on, each fetch gives the record of one version more. -/
theorem fetchInTurn_served (ht : served.store.tmi? t.fullId = some t) (h : t.IsServed t.fullId)
    (hkeyed : t.IsKeyed) {versions order : List Version} (horder : ∀ v ∈ order, v ∈ t.states)
    (hbase : r.store.tmi? t.fullId = some (t.atVersions versions)) (world : σ) :
    r.fetchInTurn (ReadApi.source served σ) world (order.map fun v => t.requestFor (.at v)) =
      (order.inits.tail.map fun fetched => .ok (t.atVersions (versions ++ fetched)),
        r.holding (t.atVersions (versions ++ order)), world) := by
  induction order generalizing r versions with
  | nil =>
    rw [List.append_nil, holding_of_tmi? hbase]
    rfl
  | cons v order ih =>
    obtain ⟨hv, hrest⟩ := List.forall_mem_cons.mp horder
    obtain ⟨st, hst⟩ := Maps.mem_iff.mp hv
    obtain ⟨d, hd⟩ : ∃ d, ReadApi.detail? t (.at v) = some d :=
      ⟨_, by rw [ReadApi.detail?, Detail.atVersion?, hst]; rfl⟩
    have hfetch := fetchTmi_served (σ := σ) ht h hbase hd world
    rw [Tmi.merge_atVersion? h.latest hkeyed hd] at hfetch
    have hone : (r.holding (t.atVersions (versions ++ [v]))).store.tmi? t.fullId =
        some (t.atVersions (versions ++ [v])) := tmi?_holding r _
    have hnamed : (t.atVersions (versions ++ [v])).fullId =
        (t.atVersions (versions ++ v :: order)).fullId := rfl
    have hinits : (v :: order).inits.tail = [v] :: order.inits.tail.map (v :: ·) := by
      rw [List.inits_cons, List.tail_cons]
      cases order <;> rfl
    rw [List.map_cons, fetchInTurn, hfetch]
    simp only [ih hrest hone, holding_holding r hnamed, hinits, List.map_cons, List.map_map,
      List.append_assoc, List.singleton_append]
    rfl

end Replica

/-! ### The entry of a listing -/

/-- The record that is built from the entry of a TMI in a listing. -/
def Tmi.ofOwnEntry (t : Tmi) : Tmi := .ofSummary t.fullId.text (.ofTmi t)

theorem ReadApi.getElem?_listing {s : Store} {t : Tmi} (ht : s.tmi? t.fullId = some t) :
    (listing s)[t.fullId.text]? = some (.ofTmi t) :=
  Std.ExtTreeMap.mem_toList_iff_getElem?_eq_some.mp (mem_listing.mpr ⟨t.fullId, t, ht, rfl, rfl⟩)

/-- If every TMI stands under its own identifier, no entry is about the TMI of another one. -/
theorem Listing.getElem?_records_listing {s : Store} (hfiled : s.IsFiled) {t : Tmi}
    (ht : s.tmi? t.fullId = some t) : (ReadApi.listing s).records[t.fullId]? = some t.ofOwnEntry := by
  have hmem : t.fullId ∈ (ReadApi.listing s).records :=
    (mem_records _ _).mpr ⟨t.fullId.text, .ofTmi t, ReadApi.getElem?_listing ht, rfl⟩
  obtain ⟨base, hbase⟩ := Maps.mem_iff.mp hmem
  rw [hbase]
  rw [getElem?_records] at hbase
  obtain ⟨⟨key, summary⟩, hlast, rfl⟩ := Option.map_eq_some_iff.mp hbase
  obtain ⟨hentry, habout⟩ := List.mem_filter.mp (List.mem_of_getLast? hlast)
  obtain ⟨f, u, hu, rfl, rfl⟩ := ReadApi.mem_listing.mp hentry
  have hfull : u.fullId = t.fullId := of_decide_eq_true habout
  obtain rfl : f = t.fullId := (hfiled f u hu).symm.trans hfull
  obtain rfl : u = t := Option.some_inj.mp (hu.symm.trans ht)
  rfl

/-! ### At once and in turn -/

/-- States and bundles that came with events stand under their own versions. -/
theorem Store.isKeyed_applyAll (events : List Event) : (Store.empty.applyAll events).IsKeyed := by
  intro f t ht
  have htells := tellsOf_of_tmi? ht
  refine ⟨fun v st hst => ?_, fun v b hb => ?_⟩
  · rw [htells.states] at hst
    obtain ⟨sn, hfind, rfl⟩ := Option.map_eq_some_iff.mp hst
    have hversion := List.find?_some hfind
    exact of_decide_eq_true hversion
  · rw [htells.atls] at hb
    exact of_decide_eq_true (List.mem_filter.mp (List.mem_of_getLast? hb)).2

namespace Replica

/-- What becomes of the entry of a TMI when its versions are fetched from a replica, at once or in turn. -/
structure FetchesAlike (served : Replica) (t : Tmi) : Prop where
  entry : (ReadApi.listing served.store)[t.fullId.text]? = some (.ofTmi t)
  listed : served.store.IsFiled → ∀ {σ : Type} (r : Replica) (world : σ),
    (r.fetchListing (ReadApi.source served σ) world).2.1.store.tmi? t.fullId = some t.ofOwnEntry
  atOnce : ∀ {σ : Type} (r : Replica) (world : σ), r.store.tmi? t.fullId = some t.ofOwnEntry →
    r.fetchTmi (ReadApi.source served σ) world (t.requestFor .all) = (.ok t, r.holding t, world)
  /-- In whatever order, even if a version comes again, each fetch gives the record of the versions so far; in
      the end these are all that have a state. -/
  inTurn : ∀ {σ : Type} (r : Replica) (world : σ), r.store.tmi? t.fullId = some t.ofOwnEntry →
    ∀ order : List Version, (∀ v, v ∈ order ↔ v ∈ t.states) →
      r.fetchInTurn (ReadApi.source served σ) world (order.map fun v => t.requestFor (.at v)) =
        (order.inits.tail.map fun fetched => .ok (t.atVersions fetched), r.holding t.claimedPart, world)
  missed : t.claimedPart.LacksStateless t

theorem fetchesAlike_of_isServed {served : Replica} {t : Tmi}
    (ht : served.store.tmi? t.fullId = some t) (h : t.IsServed t.fullId) (hkeyed : t.IsKeyed) :
    served.FetchesAlike t := by
  have hentry : t.ofOwnEntry = t.listed := Tmi.ofSummary_ofTmi h
  refine ⟨ReadApi.getElem?_listing ht, fun hfiled σ r world => ?_, fun {σ} r world hr => ?_,
    fun {σ} r world hr order horder => ?_, t.lacksStateless_claimedPart⟩
  · rw [fetchListing, ReadApi.list_source]
    exact Listing.getElem?_records_listing hfiled ht
  · have hall : ReadApi.detail? t .all = some (.complete t) := rfl
    have hlisted : t.ofOwnEntry.listed = t.listed := by rw [hentry]; rfl
    rw [fetchTmi_served ht h hr hall, Tmi.merge_complete hlisted h.latest]
  · rw [hentry, ← Tmi.atVersions_nil] at hr
    have hturn := fetchInTurn_served (σ := σ) ht h hkeyed (fun v hv => (horder v).mp hv) hr world
    rw [List.nil_append, Tmi.atVersions_of_mem_iff horder] at hturn
    exact hturn

/-- Fetching a TMI version by version, in any order, agrees with fetching it at once, but for what stands at
    versions that have no state. This is so for every TMI that is served with its states and its bundles
    under their own versions, and every TMI that came with events is such a one. -/
theorem fetchesAlike :
    (∀ events : List Event, (∀ e ∈ events, e.IsFinite) → (∀ e ∈ events, e.SpawnsCanonically) →
      ∀ f t, (Store.empty.applyAll events).tmi? f = some t → t.IsServed t.fullId ∧ t.IsKeyed) ∧
    ∀ (served : Replica) (t : Tmi), served.store.tmi? t.fullId = some t → t.IsServed t.fullId →
      t.IsKeyed → served.FetchesAlike t := by
  refine ⟨fun events hfinite hcanonical f t ht => ?_, fun served t => fetchesAlike_of_isServed⟩
  have hserved := Store.isServed_applyAll hfinite hcanonical f t ht
  refine ⟨?_, Store.isKeyed_applyAll events f t ht⟩
  rw [hserved.fullId]
  exact hserved

end Replica

/-- Two states, a payload that is put off beyond both of them, and a bundle of a version of its own. -/
def Event.looseEnds : List Event :=
  [.spawned (.bare ⟨"//a/s/t/i"⟩ 5 none), .updated (.bare ⟨"//a/s/t/i"⟩ 7 none),
    .updated (.bare ⟨"//a/s/t/i"⟩ 7 (some (.flag true))),
    .atlUpdated ⟨"//a/s/t/i"⟩ none ⟨"i", 9, ∅, ∅, ∅⟩]

theorem Event.isFinite_looseEnds : ∀ e ∈ Event.looseEnds, e.IsFinite := by
  have hbare (f : TmiId) (v : Version) (u : Option Json) : (Snapshot.bare f v u).state.IsFinite :=
    ⟨fun name rs h => absurd h (by simp [Snapshot.bare, Snapshot.state]),
      fun name o h => absurd h (by simp [Snapshot.bare, Snapshot.state])⟩
  have hbundle : (AtlBundle.mk "i" 9 ∅ ∅ ∅).IsFinite :=
    ⟨fun name o h => absurd h (by simp), fun name x h => absurd h (by simp),
      fun name x h => absurd h (by simp)⟩
  intro e he
  simp only [looseEnds, List.mem_cons, List.not_mem_nil, or_false] at he
  rcases he with rfl | rfl | rfl | rfl <;>
    exact ⟨by simp [snapshot?, hbare], by simp [carriedBundle?, hbundle]⟩

theorem Event.spawnsCanonically_looseEnds : ∀ e ∈ Event.looseEnds, e.SpawnsCanonically := by
  intro e he sn hsn _
  subst hsn
  have hspawn : sn = .bare ⟨"//a/s/t/i"⟩ 5 none := by simpa [looseEnds] using he
  rw [hspawn]
  exact ⟨⟨"a", ⟨"s"⟩, "t", "i"⟩, ⟨⟨by decide, by decide⟩, ⟨by decide, by decide⟩,
    ⟨by decide, by decide⟩, ⟨by decide, by decide⟩, rfl⟩, Or.inl rfl⟩

/-- When the two versions are fetched in turn, the later one first, what is missed is the payload that was
    put off and the bundle. -/
theorem Replica.fetchesAlike_looseEnds :
    (∀ e ∈ Event.looseEnds, e.IsFinite) ∧ (∀ e ∈ Event.looseEnds, e.SpawnsCanonically) ∧
    ∃ t, (Store.empty.applyAll Event.looseEnds).tmi? ⟨"//a/s/t/i"⟩ = some t ∧
      let served : Replica := ⟨Store.empty.applyAll Event.looseEnds, .empty 10⟩
      let r := ((empty 10).fetchListing (ReadApi.source served Unit) ()).2.1
      (t.IsServed t.fullId ∧ t.IsKeyed) ∧
      (r.fetchTmi (ReadApi.source served Unit) () (t.requestFor .all)).2.1 = r.holding t ∧
      (r.fetchInTurn (ReadApi.source served Unit) () [t.requestFor (.at 7), t.requestFor (.at 5)]).2.1 =
        r.holding t.claimedPart ∧
      t.updates[(8 : Version)]? = some [.flag true] ∧ t.claimedPart.updates[(8 : Version)]? = none ∧
      t.atls[(9 : Version)]?.isSome ∧ t.claimedPart.atls[(9 : Version)]? = none := by
  have hfinite := Event.isFinite_looseEnds
  have hcanonical := Event.spawnsCanonically_looseEnds
  obtain ⟨t, ht⟩ : ∃ t, (Store.empty.applyAll Event.looseEnds).tmi? ⟨"//a/s/t/i"⟩ = some t := ⟨_, rfl⟩
  have hkeys : ((Store.empty.applyAll Event.looseEnds).tmi? ⟨"//a/s/t/i"⟩).map (·.states.keys) =
      some [5, 7] := rfl
  have hupdates : ((Store.empty.applyAll Event.looseEnds).tmi? ⟨"//a/s/t/i"⟩).map
      (·.updates[(8 : Version)]?) = some (some [.flag true]) := rfl
  have hatls : ((Store.empty.applyAll Event.looseEnds).tmi? ⟨"//a/s/t/i"⟩).map
      (·.atls[(9 : Version)]?.isSome) = some true := rfl
  rw [ht, Option.map_some] at hkeys hupdates hatls
  have hmem (v : Version) : v ∈ t.states ↔ v = 5 ∨ v = 7 := by
    rw [← Std.ExtTreeMap.mem_keys, Option.some_inj.mp hkeys]
    simp
  refine ⟨hfinite, hcanonical, t, ht, ?_⟩
  intro served r
  have hserved := Store.isServed_applyAll hfinite hcanonical
  obtain ⟨hown, hkeyed⟩ := fetchesAlike.1 _ hfinite hcanonical _ t ht
  have hfull : t.fullId = ⟨"//a/s/t/i"⟩ := (hserved _ t ht).fullId
  have halike := fetchesAlike.2 served t (by rw [hfull]; exact ht) hown hkeyed
  have hr := halike.listed (fun f t h => (hserved f t h).fullId) (empty 10) ()
  have hturn := halike.inTurn r () hr [7, 5] fun v => by rw [hmem]; simp [or_comm]
  refine ⟨⟨hown, hkeyed⟩, ?_, ?_, Option.some_inj.mp hupdates, ?_, Option.some_inj.mp hatls, ?_⟩
  · rw [halike.atOnce r () hr]
  · exact congrArg (·.2.1) hturn
  · rw [halike.missed.payloadsOf, if_neg (by rw [hmem]; decide)]
  · rw [halike.missed.bundlesOf, if_neg (by rw [hmem]; decide)]

end TrustReplica
