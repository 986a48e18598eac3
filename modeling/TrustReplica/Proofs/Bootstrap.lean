import TrustReplica.Json.Printer
import TrustReplica.Proofs.Identifiers
import TrustReplica.Proofs.Merging
import TrustReplica.Proofs.RoundTrip
import TrustReplica.Proofs.Updates
import TrustReplica.ReadApi
import TrustReplica.Store.Resync

/-! Filling a replica from the read API of another one. What a replica has after events can be served
    (`Store.IsServed`): each TMI is under the canonical identifier of its own fields, its latest version is
    on top, and its floats are finite. Of such a replica the listing gives every TMI without its versions
    (`Listing.records_listing`), each fetch completes one of them (`Store.fetchStep_served`), and when all
    are fetched the TMIs are the same. -/

namespace TrustReplica

/-! ### A read API as a source -/

namespace ReadApi

/-- What a reader makes of an answer: a success is decoded, any other status is a failure. -/
def Response.decode {α : Type} (format : Json.Format α) (path : String) (r : Response) :
    Except FetchError α :=
  if 200 ≤ r.status ∧ r.status ≤ 299 then
    match r.body.bind format.read with
    | some a => .ok a
    | none => .error (.undecodable path)
  else .error (.ofStatus (UInt16.ofNat r.status) ((r.body.map Json.render).getD ""))

/-- A replica as a source of snapshots; the names in a request are taken as they are. -/
def source (r : Replica) (σ : Type) : Source σ where
  list world := ((answer r [] .tmis).decode Listing.format listingPath, world)
  fetch request world :=
    ((answerTmi r.store request.application request.session request.template request.id
      request.selector.toText).decode Detail.format request.path, world)

theorem Response.decode_ofJson {α : Type} {format : Json.Format α} {body : Json} {a : α}
    (h : format.read body = some a) (path : String) :
    (Response.ofJson 200 body).decode format path = .ok a := by
  have hbody : (some body).bind format.read = some a := h
  simp only [decode, ofJson, hbody]
  rfl

/-- A replica tells what its listing says. -/
theorem list_source (r : Replica) {σ : Type} (world : σ) :
    (source r σ).list world = (.ok (listing r.store), world) := by
  have hread : Listing.format.read (listing r.store).toJson = some (listing r.store) :=
    Listing.read_toJson _
  exact congrArg (fun answer => (answer, world)) (Response.decode_ofJson hread listingPath)

end ReadApi

/-! ### What can be served -/

/-- A TMI that can be handed on under an identifier. -/
structure Tmi.IsServed (f : TmiId) (t : Tmi) : Prop where
  fullId : t.fullId = f
  canonical : f.IsCanonical ⟨t.application, t.session, t.template, t.id⟩
  latest : ∀ v ∈ t.states, v ≤ t.latestVersion
  finite : t.IsFinite

/-- All TMIs of a store can be handed on. -/
def Store.IsServed (s : Store) : Prop := ∀ f t, s.tmi? f = some t → t.IsServed f

/-- An event that spawns, if at all, under a canonical identifier, and whose short identifier is the one
    that this names, or is left out. -/
def Event.SpawnsCanonically (e : Event) : Prop :=
  ∀ sn, e = .spawned sn → sn.fullId.identity.isOk →
    ∃ identity, sn.fullId.IsCanonical identity ∧ (sn.id = "" ∨ sn.id = identity.id)

/-- What a replica has after events can be served. -/
theorem Store.isServed_applyAll {events : List Event} (hfinite : ∀ e ∈ events, e.IsFinite)
    (hcanonical : ∀ e ∈ events, e.SpawnsCanonically) : (Store.empty.applyAll events).IsServed := by
  intro f t ht
  have htells := tellsOf_of_tmi? ht
  obtain ⟨sn, id, hhead, hid, hfull, hshort⟩ := htells.names
  have hmem : .spawned sn ∈ Event.history f events := List.mem_of_head? hhead
  have hsn : sn.fullId = f := Option.some_inj.mp (of_decide_eq_true (List.mem_filter.mp hmem).2)
  have hok : sn.fullId.identity.isOk = true := by rw [hsn, hid]; rfl
  obtain ⟨identity, hcanon, heq⟩ := hcanonical _ (Event.mem_of_mem_history hmem) sn rfl hok
  rw [hsn] at hcanon
  obtain rfl := Except.ok.inj (hid.symm.trans hcanon.identity)
  have hidEq : t.id = id := by
    rw [hshort]
    rcases heq with heq | heq <;> rw [heq] <;> simp
  refine ⟨hfull, ?_, htells.latest.2, htells.isFinite fun e he => hfinite e (Event.mem_of_mem_history he)⟩
  rw [hidEq]
  exact hcanon

/-! ### The listing -/

/-- A TMI without its versions. -/
def Tmi.listed (t : Tmi) : Tmi := { t with states := ∅, atls := ∅, updates := ∅ }

/-- The summary of a TMI under its own identifier says all but its versions. -/
theorem Tmi.ofSummary_ofTmi {f : TmiId} {t : Tmi} (h : t.IsServed f) :
    ofSummary f.text (.ofTmi t) = t.listed := by
  rw [ofSummary, h.canonical.application?, h.canonical.session?]
  rfl

theorem ReadApi.mem_listing {s : Store} {key : String} {summary : Summary} :
    (key, summary) ∈ (ReadApi.listing s).toList ↔
      ∃ f t, s.tmi? f = some t ∧ key = f.text ∧ summary = .ofTmi t := by
  rw [Std.ExtTreeMap.mem_toList_iff_getElem?_eq_some]
  constructor
  · intro h
    obtain ⟨⟨f, t⟩, hmem, he⟩ := List.mem_map.mp (Maps.mem_of_getElem?_ofList h)
    obtain ⟨hkey, hsummary⟩ := Prod.mk.inj he
    exact ⟨f, t, Std.ExtTreeMap.mem_toList_iff_getElem?_eq_some.mp hmem, hkey.symm, hsummary.symm⟩
  · rintro ⟨f, t, ht, rfl, rfl⟩
    refine Maps.getElem?_ofList_of_unique ?_ fun summary h => ?_
    · exact List.mem_map.mpr ⟨(f, t), Std.ExtTreeMap.mem_toList_iff_getElem?_eq_some.mpr ht, rfl⟩
    · obtain ⟨⟨g, u⟩, hmem, he⟩ := List.mem_map.mp h
      obtain ⟨hkey, hsummary⟩ := Prod.mk.inj he
      have hu : s.tmi? g = some u := Std.ExtTreeMap.mem_toList_iff_getElem?_eq_some.mp hmem
      obtain rfl : g = f := congrArg TmiId.mk hkey
      rw [← hsummary, Option.some_inj.mp (hu.symm.trans ht)]

/-- The records of a listing are the TMIs without their versions. -/
theorem Listing.records_listing {s : Store} (h : s.IsServed) :
    (ReadApi.listing s).records = s.tmis.map fun _ t => t.listed := by
  have hrecords : (ReadApi.listing s).records = Std.ExtTreeMap.ofList
      ((ReadApi.listing s).toList.map fun e => (e.2.fullId, Tmi.ofSummary e.1 e.2)) := by
    rw [records, Std.ExtTreeMap.ofList_eq_foldl, List.foldl_map]
  have hmem (f : TmiId) (r : Tmi) :
      (f, r) ∈ (ReadApi.listing s).toList.map (fun e => (e.2.fullId, Tmi.ofSummary e.1 e.2)) ↔
        ∃ t, s.tmi? f = some t ∧ r = t.listed := by
    rw [List.mem_map]
    constructor
    · rintro ⟨⟨key, summary⟩, he, heq⟩
      obtain ⟨g, t, ht, rfl, rfl⟩ := ReadApi.mem_listing.mp he
      obtain ⟨hfull, hr⟩ := Prod.mk.inj heq
      obtain rfl : g = f := (h g t ht).fullId.symm.trans hfull
      exact ⟨t, ht, hr.symm.trans (Tmi.ofSummary_ofTmi (h g t ht))⟩
    · rintro ⟨t, ht, rfl⟩
      refine ⟨(f.text, .ofTmi t), ReadApi.mem_listing.mpr ⟨f, t, ht, rfl, rfl⟩, ?_⟩
      exact Prod.ext (h f t ht).fullId (Tmi.ofSummary_ofTmi (h f t ht))
  rw [hrecords]
  refine Std.ExtTreeMap.ext_getElem? fun f => ?_
  rw [Std.ExtTreeMap.getElem?_map]
  cases ht : s.tmis[f]? with
  | some t =>
    refine Maps.getElem?_ofList_of_unique ((hmem f _).mpr ⟨t, ht, rfl⟩) fun r hr => ?_
    obtain ⟨u, hu, rfl⟩ := (hmem f r).mp hr
    rw [Option.some_inj.mp (hu.symm.trans ht)]
  | none =>
    rw [Option.map_none, Option.eq_none_iff_forall_ne_some]
    intro r hr
    obtain ⟨t, hu, _⟩ := (hmem f r).mp (Maps.mem_of_getElem?_ofList hr)
    exact absurd (hu.symm.trans ht) (Option.some_ne_none t)

/-! ### One fetch -/

/-- The request for some versions of a TMI, by its own fields. -/
def Tmi.requestFor (t : Tmi) (selector : Selector) : Request := { t.request with selector }

namespace ReadApi

variable {σ : Type} {t : Tmi} {selector : Selector} {d : Detail}

theorem fullId_of_detail? (hd : detail? t selector = some d) : d.fullId = t.fullId := by
  cases selector with
  | all => rw [← Option.some_inj.mp hd]; rfl
  | latest | «at» =>
    obtain ⟨st, _, rfl⟩ := Option.map_eq_some_iff.mp hd
    rfl

theorem isWritable_of_detail? (h : t.IsFinite) (hd : detail? t selector = some d) : d.IsWritable := by
  cases selector with
  | all => rw [← Option.some_inj.mp hd]; exact Detail.isWritable_complete h
  | latest | «at» => exact Detail.isWritable_atVersion? h hd

theorem answerTmi_of_isServed {s : Store} {f : TmiId} (ht : s.tmi? f = some t) (h : t.IsServed f)
    (hd : detail? t selector = some d) : answerTmi s t.application t.session.text t.template t.id
      selector.toText = .ofJson 200 d.toJson := by
  rw [answerTmi, Selector.ofText?_toText]
  simp only [← h.canonical.eq, ht, hd]

/-- What a replica tells of a TMI comes to the reader as it was told. -/
theorem fetch_source {r : Replica} (ht : r.store.tmi? t.fullId = some t) (h : t.IsServed t.fullId)
    (hd : detail? t selector = some d) (world : σ) :
    (source r σ).fetch (t.requestFor selector) world = (.ok d, world) := by
  have hread : Detail.format.read d.toJson = some d :=
    Detail.read_toJson (isWritable_of_detail? h.finite hd)
  have hdecode := Response.decode_ofJson hread (t.requestFor selector).path
  rw [← answerTmi_of_isServed ht h hd] at hdecode
  exact congrArg (fun answer => (answer, world)) hdecode

end ReadApi

/-- A latest version that is on top of some states is not raised to them. -/
theorem Tmi.raiseToStates_of_le {t : Tmi} {states : VersionMap TmiState}
    (h : ∀ v ∈ states, v ≤ t.latestVersion) : t.raiseToStates states = t := by
  rw [raiseToStates]
  split
  · next v hv => exact if_neg (UInt64.not_lt.mpr (h v (Std.ExtTreeMap.maxKey?_mem hv)))
  · rfl

/-- Merging the complete detail of a TMI over a record that differs in its versions alone makes it that
    TMI. -/
theorem Tmi.merge_complete {base t : Tmi} (hbase : base.listed = t.listed)
    (hlatest : ∀ v ∈ t.states, v ≤ t.latestVersion) : base.merge (Detail.complete t) = t := by
  have hbaseLatest : base.listed.latestVersion = t.listed.latestVersion := by rw [hbase]
  have hmerge : base.merge (Detail.complete t) =
      base.mergeStates t.states (some (.byVersion t.updates)) (some (.byVersion t.atls)) := rfl
  rw [hmerge, mergeStates, raiseToStates_of_le (t := base) fun v hv => hbaseLatest ▸ hlatest v hv]
  cases base
  cases t
  simp_all [listed]

namespace Store

/-- A store knows the TMIs of another one, if not all of their versions. -/
def Lists (s served : Store) : Prop :=
  ∀ f, (s.tmi? f).map Tmi.listed = (served.tmi? f).map Tmi.listed

variable {σ : Type} {r : Replica} {s : Store} {f : TmiId} {t : Tmi}

theorem Lists.insertTmi (hlists : s.Lists r.store) (ht : r.store.tmi? t.fullId = some t) :
    (s.insertTmi t).Lists r.store := by
  intro f
  rw [tmi?_insertTmi]
  split_ifs with hf
  · rw [← hf, ht]
  · exact hlists f

/-- Fetching versions of a TMI that is served merges them into what was known of it. -/
theorem fetchTmi_served (ht : r.store.tmi? t.fullId = some t) (h : t.IsServed t.fullId) {base : Tmi}
    (hbase : s.tmi? t.fullId = some base) {selector : Selector} {d : Detail}
    (hd : ReadApi.detail? t selector = some d) (world : σ) :
    s.fetchTmi (ReadApi.source r σ) world (t.requestFor selector) =
      (.ok (base.merge d), s.insertTmi (base.merge d), world) := by
  have hfetch := ReadApi.fetch_source (σ := σ) ht h hd world
  rw [← ReadApi.fullId_of_detail? hd] at hbase
  rw [fetchTmi_of_known s (congrArg Prod.fst hfetch) hbase, hfetch]

/-- Fetching a TMI that is served puts it in the place of what was known of it. -/
theorem fetchStep_served (hserved : r.store.IsServed) (hlists : s.Lists r.store)
    (ht : r.store.tmi? t.fullId = some t) (report : FetchReport) (world : σ) :
    fetchStep (ReadApi.source r σ) (report, s, world) t.request =
      ({ report with loaded := report.loaded + 1 }, s.insertTmi t, world) := by
  have h : t.IsServed t.fullId := hserved _ _ ht
  obtain ⟨base, hbase, hlisted⟩ : ∃ base, s.tmi? t.fullId = some base ∧ base.listed = t.listed := by
    have hl := hlists t.fullId
    rw [ht] at hl
    exact Option.map_eq_some_iff.mp hl
  have hall : ReadApi.detail? t .all = some (.complete t) := rfl
  have hfetch := fetchTmi_served (σ := σ) ht h hbase hall world
  rw [Tmi.merge_complete hlisted h.latest] at hfetch
  have hrequest : t.requestFor .all = t.request := rfl
  simp only [fetchStep, ← hrequest, hfetch]
  rfl

/-! ### All fetches -/

theorem foldl_fetchStep_served (hserved : r.store.IsServed) (hlists : s.Lists r.store) {ts : List Tmi}
    (hts : ∀ t ∈ ts, r.store.tmi? t.fullId = some t) (n : Nat) (world : σ) :
    (ts.map Tmi.request).foldl (fetchStep (ReadApi.source r σ)) (⟨n, 0⟩, s, world) =
      (⟨n + ts.length, 0⟩, ts.foldl insertTmi s, world) := by
  induction ts generalizing n s with
  | nil => rfl
  | cons t ts ih =>
    obtain ⟨ht, hrest⟩ := List.forall_mem_cons.mp hts
    rw [List.map_cons, List.foldl_cons, fetchStep_served hserved hlists ht,
      ih (hlists.insertTmi ht) hrest, List.length_cons, Nat.add_assoc, Nat.add_comm 1]
    rfl

/-- A TMI that is stored, or was stored before, is there in the end if each is stored but in one form. -/
theorem tmi?_foldl_insertTmi {served : Store} {ts : List Tmi}
    (hts : ∀ t ∈ ts, served.tmi? t.fullId = some t) (f : TmiId) :
    (ts.foldl insertTmi s).tmi? f =
      if ∃ t ∈ ts, t.fullId = f then served.tmi? f else s.tmi? f := by
  induction ts generalizing s with
  | nil => simp
  | cons t ts ih =>
    obtain ⟨ht, hrest⟩ := List.forall_mem_cons.mp hts
    rw [List.foldl_cons, ih hrest, tmi?_insertTmi]
    by_cases hf : t.fullId = f
    · subst hf
      simp [ht]
    · simp [hf]

theorem sessions_foldl_insertTmi (ts : List Tmi) : (ts.foldl insertTmi s).sessions = s.sessions := by
  induction ts generalizing s with
  | nil => rfl
  | cons t ts ih => exact ih

theorem mem_tmiList_of_isServed (hserved : r.store.IsServed) :
    t ∈ r.store.tmiList ↔ r.store.tmi? t.fullId = some t := by
  rw [tmiList, List.mem_map]
  constructor
  · rintro ⟨⟨f, u⟩, hmem, rfl⟩
    have hu : r.store.tmi? f = some u := Std.ExtTreeMap.mem_toList_iff_getElem?_eq_some.mp hmem
    rw [(hserved f u hu).fullId, hu]
  · intro ht
    exact ⟨(t.fullId, t), Std.ExtTreeMap.mem_toList_iff_getElem?_eq_some.mpr ht, rfl⟩

/-- Filling a store from the listing and the details of a replica: every TMI is loaded, and all are the
    same in the end. -/
theorem fetchEvery_served (hserved : r.store.IsServed) (sessions : Std.ExtTreeMap SessionId Session)
    (world : σ) :
    (Store.mk sessions (ReadApi.listing r.store).records).fetchEvery (ReadApi.source r σ) world =
      (⟨r.store.tmis.size, 0⟩, ⟨sessions, r.store.tmis⟩, world) := by
  rw [Listing.records_listing hserved]
  set start : Store := ⟨sessions, r.store.tmis.map fun _ t => t.listed⟩ with hstart
  have hlookup (f : TmiId) : start.tmi? f = (r.store.tmi? f).map Tmi.listed :=
    Std.ExtTreeMap.getElem?_map
  have hlists : start.Lists r.store := by
    intro f
    rw [hlookup, Option.map_map]
    rfl
  have hrequests : start.requests = r.store.tmiList.map Tmi.request := by
    rw [requests, tmiList, tmiList, hstart, Std.ExtTreeMap.toList_map]
    simp only [List.map_map]
    rfl
  have hts : ∀ t ∈ r.store.tmiList, r.store.tmi? t.fullId = some t :=
    fun t ht => (mem_tmiList_of_isServed hserved).mp ht
  have hlength : r.store.tmiList.length = r.store.tmis.size := by
    rw [tmiList, List.length_map, Std.ExtTreeMap.length_toList]
  -- the listing has every TMI, so no record is left that is not replaced by a fetched one
  have htmis : (r.store.tmiList.foldl insertTmi start).tmis = r.store.tmis := by
    refine Std.ExtTreeMap.ext_getElem? fun f => ?_
    change (r.store.tmiList.foldl insertTmi start).tmi? f = r.store.tmi? f
    rw [tmi?_foldl_insertTmi hts]
    split_ifs with hf
    · rfl
    · rw [hlookup]
      cases ht : r.store.tmi? f with
      | none => rfl
      | some t =>
        have hfull := (hserved f t ht).fullId
        exact absurd ⟨t, (mem_tmiList_of_isServed hserved).mpr (by rw [hfull, ht]), hfull⟩ hf
  rw [fetchEvery, hrequests, foldl_fetchStep_served hserved hlists hts, hlength, Nat.zero_add]
  have hsessions := sessions_foldl_insertTmi (s := start) r.store.tmiList
  generalize r.store.tmiList.foldl insertTmi start = final at htmis hsessions
  cases final
  simp_all

end Store

/-! ### Following the stream -/

namespace Replica

/-- A replica after many events. -/
def applyAll (r : Replica) (events : List Event) : Replica := events.foldl (fun r e => (r.apply e).2) r

theorem store_applyAll (r : Replica) (events : List Event) :
    (r.applyAll events).store = r.store.applyAll events := by
  induction events generalizing r with
  | nil => rfl
  | cons e events ih => exact ih (r.apply e).2

/-- Filling a replica from another one and following the stream from there on comes to the same TMIs as
    following it all along. -/
theorem bootstrap_then_follow {σ : Type} {xs : List Event}
    (hdecoded : ∀ e ∈ xs, ∃ v, Event.ofJson v = .ok e) (hcanonical : ∀ e ∈ xs, e.SpawnsCanonically)
    (ys : List Event) (capacity capacity' : Nat) (world : σ) :
    let a := (Replica.empty capacity).applyAll xs
    let listed := (Replica.empty capacity').fetchListing (ReadApi.source a σ) world
    let loaded := listed.2.1.fetchEvery (ReadApi.source a σ) listed.2.2
    listed.1 = .ok (ReadApi.listing a.store) ∧ loaded.1 = ⟨a.store.tmis.size, 0⟩ ∧
      loaded.2.1.store.tmis = a.store.tmis ∧
      (loaded.2.1.applyAll ys).store.tmis = (a.applyAll ys).store.tmis := by
  intro a listed loaded
  have hserved : a.store.IsServed := by
    rw [store_applyAll]
    refine Store.isServed_applyAll (fun e he => ?_) hcanonical
    obtain ⟨v, hv⟩ := hdecoded e he
    exact Event.isFinite_of_ofJson hv
  have hlisted : listed = (.ok (ReadApi.listing a.store),
      ⟨⟨∅, (ReadApi.listing a.store).records⟩, .empty capacity'⟩, world) := by
    simp only [listed, fetchListing, ReadApi.list_source]
    rfl
  have hloaded : loaded = (⟨a.store.tmis.size, 0⟩, ⟨⟨∅, a.store.tmis⟩, .empty capacity'⟩, world) := by
    simp only [loaded, hlisted, fetchEvery, Store.fetchEvery_served hserved]
  rw [hlisted, hloaded]
  refine ⟨rfl, rfl, rfl, ?_⟩
  have hsame : (Store.mk ∅ a.store.tmis).tmis = a.store.tmis := rfl
  calc (applyAll ⟨⟨∅, a.store.tmis⟩, .empty capacity'⟩ ys).store.tmis
      = (Store.applyAll ⟨∅, a.store.tmis⟩ ys).tmis := congrArg Store.tmis (store_applyAll _ ys)
    _ = (a.store.applyAll ys).tmis := Store.tmis_applyAll_congr hsame ys
    _ = (a.applyAll ys).store.tmis := congrArg Store.tmis (store_applyAll a ys).symm

/-- Two claims of one version are read, applied and handed on, with the payload that was put off. -/
theorem bootstrap_twoClaims :
    (∀ e ∈ Event.twoClaims, ∃ v, Event.ofJson v = .ok e) ∧
    (∀ e ∈ Event.twoClaims, e.SpawnsCanonically) ∧
    let a := (Replica.empty 10).applyAll Event.twoClaims
    let listed := (Replica.empty 10).fetchListing (ReadApi.source a Unit) ()
    let loaded := listed.2.1.fetchEvery (ReadApi.source a Unit) listed.2.2
    loaded.1 = ⟨1, 0⟩ ∧ loaded.2.1.store.tmis = a.store.tmis := by
  have hdecoded : ∀ e ∈ Event.twoClaims, ∃ v, Event.ofJson v = .ok e := by
    intro e he
    rcases List.mem_cons.mp he with rfl | he
    · exact ⟨.object [("EventType", .text "TRUST_MODEL_INSTANCE_SPAWNED"),
        ("FullTMI", .text "//a/s/t/i"), ("Version", .natural 5)], rfl⟩
    · rw [List.mem_singleton.mp he]
      exact ⟨.object [("EventType", .text "TRUST_MODEL_INSTANCE_UPDATED"),
        ("FullTMI", .text "//a/s/t/i"), ("Update", .flag true), ("Version", .natural 5)], rfl⟩
  have hcanonical : ∀ e ∈ Event.twoClaims, e.SpawnsCanonically := by
    intro e he sn hsn _
    rcases List.mem_cons.mp he with rfl | he
    · obtain rfl := Event.spawned.inj hsn
      exact ⟨⟨"a", ⟨"s"⟩, "t", "i"⟩, ⟨⟨by decide, by decide⟩, ⟨by decide, by decide⟩,
        ⟨by decide, by decide⟩, ⟨by decide, by decide⟩, rfl⟩, Or.inl rfl⟩
    · rw [List.mem_singleton.mp he] at hsn
      exact Event.noConfusion hsn
  have hsize : ((Replica.empty 10).applyAll Event.twoClaims).store.tmis.size = 1 := rfl
  have hboth := bootstrap_then_follow hdecoded hcanonical [] 10 10 ()
  refine ⟨hdecoded, hcanonical, ?_, hboth.2.2.1⟩
  rw [← hsize]
  exact hboth.2.1

end Replica

end TrustReplica
