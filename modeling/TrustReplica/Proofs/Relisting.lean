import TrustReplica.Proofs.Reporting
import TrustReplica.Proofs.Utf8

/-! What a listing leaves in a replica. Just the TMIs stay that an entry of the listing is about, each with
    an empty record. Several entries may be about one TMI: the one counts whose key comes last in the order
    of bytes (`Listing.IsLastEntry`). Nothing of what was held before matters. -/

namespace TrustReplica

/-- In an ordered list every item comes before the last one, or is the last one. -/
theorem rel_getLast? {α : Type} {R : α → α → Prop} {l : List α} {a : α} (hordered : l.Pairwise R)
    (hlast : l.getLast? = some a) : ∀ b ∈ l, b = a ∨ R b a := by
  obtain ⟨before, rfl⟩ := List.getLast?_eq_some_iff.mp hlast
  intro b hb
  rcases List.mem_append.mp hb with hb | hb
  · exact Or.inr ((List.pairwise_append.mp hordered).2.2 b hb a (List.mem_singleton.mpr rfl))
  · exact Or.inl (List.mem_singleton.mp hb)

namespace Listing

/-- Of the entries about one TMI, the one whose key comes last in the order of bytes. -/
structure IsLastEntry (l : Listing) (f : TmiId) (key : String) (summary : Summary) : Prop where
  listed : l[key]? = some summary
  about : summary.fullId = f
  last : ∀ (other : String) (s : Summary), l[other]? = some s → s.fullId = f →
    other = key ∨ Text.PrecedesInBytes other key

/-- The entries of a listing stand in the order of the bytes of their keys. -/
theorem pairwise_toList (l : Listing) : l.toList.Pairwise fun e e' => Text.PrecedesInBytes e.1 e'.1 := by
  refine l.ordered_keys_toList.imp ?_
  exact fun hlt => Text.precedesInBytes_of_compare hlt

/-- The record of a TMI comes from the last entry about it. -/
theorem isLastEntry_of_records {l : Listing} {f : TmiId} {t : Tmi} (h : l.records[f]? = some t) :
    ∃ key summary, l.IsLastEntry f key summary ∧ t = .ofSummary key summary := by
  rw [getElem?_records] at h
  obtain ⟨⟨key, summary⟩, hlast, rfl⟩ := Option.map_eq_some_iff.mp h
  obtain ⟨hlisted, habout⟩ := List.mem_filter.mp (List.mem_of_getLast? hlast)
  refine ⟨key, summary, ⟨Std.ExtTreeMap.mem_toList_iff_getElem?_eq_some.mp hlisted, of_decide_eq_true habout,
    fun other s hother hs => ?_⟩, rfl⟩
  have hmem : (other, s) ∈ l.toList.filter fun e => e.2.fullId = f :=
    List.mem_filter.mpr ⟨Std.ExtTreeMap.mem_toList_iff_getElem?_eq_some.mpr hother, decide_eq_true hs⟩
  rcases rel_getLast? (l.pairwise_toList.filter _) hlast _ hmem with heq | hlt
  · exact Or.inl (congrArg Prod.fst heq)
  · exact Or.inr hlt

end Listing

namespace Replica

/-- What a replica holds after a listing was adopted: nothing but what the listing says. -/
structure HoldsListing (before : Replica) (l : Listing) (after : Replica) : Prop where
  known : ∀ f, f ∈ after.store.tmis ↔
    ∃ (key : String) (summary : Summary), l[key]? = some summary ∧ summary.fullId = f
  records : ∀ f t, after.store.tmi? f = some t → ∃ key summary, l.IsLastEntry f key summary ∧
    t = { fullId := f, id := summary.id, template := summary.template, active := summary.active
          latestVersion := summary.latestVersion
          application := (Text.pieces '/' key)[2]?.getD ""
          session := ⟨(Text.pieces '/' key)[3]?.getD ""⟩
          states := ∅, atls := ∅, updates := ∅ }
  sessions : after.store.sessions = before.store.sessions
  journal : after.journal = before.journal

/-- A listing that is fetched is returned as it came, and replaces all TMIs, whatever was held. -/
theorem holdsListing {σ : Type} (source : Source σ) (world : σ) {l : Listing}
    (hanswer : (source.list world).1 = .ok l) :
    (∀ r : Replica, (r.fetchListing source world).1 = .ok l ∧
      r.HoldsListing l (r.fetchListing source world).2.1) ∧
    ∀ r r' : Replica, (r.fetchListing source world).2.1.store.tmis =
      (r'.fetchListing source world).2.1.store.tmis := by
  have hfetch (r : Replica) : r.fetchListing source world =
      (.ok l, { r with store := { r.store with tmis := l.records } }, (source.list world).2) := by
    simp only [fetchListing, hanswer, Store.adoptListing]
  refine ⟨fun r => ?_, fun r r' => by rw [hfetch, hfetch]⟩
  rw [hfetch]
  refine ⟨rfl, l.mem_records, fun f t ht => ?_, rfl, rfl⟩
  obtain ⟨key, summary, hlast, rfl⟩ := Listing.isLastEntry_of_records ht
  refine ⟨key, summary, hlast, ?_⟩
  have hsession : (Option.map SessionId.mk (Text.pieces '/' key)[3]?).getD ⟨""⟩ =
      ⟨(Text.pieces '/' key)[3]?.getD ""⟩ := by
    cases (Text.pieces '/' key)[3]? <;> rfl
  rw [← hlast.about, ← hsession]
  rfl

/-- A listing with two entries about one TMI. -/
def twoEntries : Listing :=
  ((∅ : Listing).insert "//b/s" ⟨"j", ⟨"x"⟩, "u", false, 4⟩).insert "//a/s" ⟨"i", ⟨"x"⟩, "t", true, 3⟩

/-- Of two entries the one with the later key counts, and the TMI that was held before is gone. -/
theorem holdsListing_twoEntries :
    let source : Source Unit := .constant (.ok twoEntries) (.ok namelessDetail)
    let after := (ofSpawnFive.fetchListing source ()).2.1
    (source.list ()).1 = .ok twoEntries ∧
    (∃ t key summary, after.store.tmi? ⟨"x"⟩ = some t ∧ twoEntries.IsLastEntry ⟨"x"⟩ key summary ∧
      t.application = "b" ∧ t.id = summary.id) ∧
    (∃ t, ofSpawnFive.store.tmi? ⟨"//a/s/t/i"⟩ = some t) ∧ after.store.tmi? ⟨"//a/s/t/i"⟩ = none ∧
    after.journal = ofSpawnFive.journal := by
  intro source after
  have hanswer : (source.list ()).1 = .ok twoEntries := rfl
  obtain ⟨-, hholds⟩ := (holdsListing source () hanswer).1 ofSpawnFive
  obtain ⟨t, ht, happlication⟩ : ∃ t, after.store.tmi? ⟨"x"⟩ = some t ∧ t.application = "b" := ⟨_, rfl, rfl⟩
  obtain ⟨key, summary, hlast, hrecord⟩ := hholds.records _ t ht
  exact ⟨hanswer, ⟨t, key, summary, ht, hlast, happlication, congrArg Tmi.id hrecord⟩, ⟨_, rfl⟩, rfl,
    hholds.journal⟩

end Replica

end TrustReplica
