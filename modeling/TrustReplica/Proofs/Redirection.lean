import TrustReplica.Proofs.Identifiers
import TrustReplica.Proofs.Percent
import TrustReplica.Proofs.Updates
import TrustReplica.ReadApi

/-! The bare path of a TMI and the path of its latest version. A request for segments that write four names
    is answered for these names (`get_tmiPath`, `get_latestPath`), and the answer to the first one points to
    the names as they are. Where these stand in a path as they are, they need not stand for themselves: a
    slash makes one segment more, a question or a number sign ends the path, and what looks encoded is decoded
    once more. That none of this happens is told by a replica that holds nothing, since such a replica repeats
    the names that it was asked for (`writes_self_of_notFound`). -/

namespace TrustReplica

open Url

/-! ### Paths -/

/-- Four names with slashes between them. -/
def slashed (application session template id : String) : String :=
  application ++ "/" ++ session ++ "/" ++ template ++ "/" ++ id

theorem utf8ByteSize_slashed (a s t i : String) : (slashed a s t i).utf8ByteSize =
    a.utf8ByteSize + s.utf8ByteSize + t.utf8ByteSize + i.utf8ByteSize + 3 := by
  have hslash : "/".utf8ByteSize = 1 := rfl
  simp only [slashed, String.utf8ByteSize_append, hslash]
  omega

theorem pieces_slashed {a s t i : String} (h : ∀ name ∈ [a, s, t, i], '/' ∉ name.toList) :
    Text.pieces '/' (slashed a s t i) = [a, s, t, i] := by
  refine Text.pieces_of_toList (List.cons_ne_nil _ _) ?_ h
  simp [slashed, Text.joinWith, String.toList_append]

/-- Names without slashes are told from what stands between the slashes, since there are just three. -/
theorem slashed_inj {a s t i a' s' t' i' : String} (h : slashed a' s' t' i' = slashed a s t i)
    (hslash : ∀ name ∈ [a', s', t', i'], '/' ∉ name.toList) : [a', s', t', i'] = [a, s, t, i] := by
  have hcount := congrArg (fun x => x.toList.count '/') h
  have hnone : ∀ name ∈ [a', s', t', i'], name.toList.count '/' = 0 :=
    fun name hname => List.count_eq_zero.mpr (hslash name hname)
  simp only [List.forall_mem_cons] at hnone
  obtain ⟨ha, hs, ht, hi, -⟩ := hnone
  simp only [slashed, String.toList_append, List.count_append, ha, hs, ht, hi] at hcount
  have hslash' : ∀ name ∈ [a, s, t, i], '/' ∉ name.toList := by
    simp only [← List.count_eq_zero (a := '/'), List.forall_mem_cons]
    refine ⟨?_, ?_, ?_, ?_, fun _ h => absurd h List.not_mem_nil⟩ <;> omega
  rw [← pieces_slashed hslash, ← pieces_slashed hslash', h]

theorem TmiId.text_canonical (a s t i : String) : (canonical a s t i).text = "//" ++ slashed a s t i := by
  simp [canonical, slashed, String.append_assoc]

namespace ReadApi

/-- The path of a TMI, without a version. -/
def tmiPath (application session template id : String) : String :=
  "/tmis/" ++ slashed application session template id

theorem latestPath_eq (a s t i : String) : latestPath a s t i = tmiPath a s t i ++ "/latest" := by
  simp [latestPath, tmiPath, slashed, String.append_assoc]

theorem withoutServer_cons_slash (rest : List Char) : withoutServer ('/' :: rest) = '/' :: rest := by
  have hcut : Text.cutAt ':' ('/' :: rest) = ('/' :: (Text.cutAt ':' rest).1, (Text.cutAt ':' rest).2) := by
    rw [Text.cutAt, if_neg (by decide)]
  rw [withoutServer, hcut]
  split
  · next scheme rest' heq =>
    obtain ⟨rfl, -⟩ := Prod.mk.inj heq
    simp
  · rfl

/-- A path without question and number signs is the whole request. -/
theorem cutTarget_of_path {target : String} {rest : List Char} (htarget : target.toList = '/' :: rest)
    (hquery : '?' ∉ target.toList) (hfragment : '#' ∉ target.toList) : cutTarget target = (target, []) := by
  have hnonempty : target.toList.isEmpty = false := by rw [htarget]; rfl
  rw [cutTarget, htarget, withoutServer_cons_slash, ← htarget, Text.cutAt_of_not_mem hfragment,
    Text.cutAt_of_not_mem hquery]
  simp only [hnonempty, Bool.false_eq_true, if_false, String.ofList_toList, Option.getD_none]

/-- A path of uncut segments is asked for segment by segment. -/
theorem get_of_segments (r : Replica) {target : String} {segments : List String} (hne : segments ≠ [])
    (htarget : target.toList = Text.joinWith '/' (("" :: segments).map String.toList))
    (huncut : ∀ segment ∈ segments, ∀ c ∈ segment.toList, c ≠ '/' ∧ c ≠ '?' ∧ c ≠ '#') :
    get r target =
      match Route.ofSegments? segments with
      | some route => answer r [] route
      | none => .ofStatus 404 := by
  have hnone {c : Char} (h : ∀ segment ∈ segments, c ∉ segment.toList) :
      ∀ segment ∈ "" :: segments, c ∉ segment.toList :=
    List.forall_mem_cons.mpr ⟨List.not_mem_nil, h⟩
  have habsent {c : Char} (hc : c ≠ '/') (h : ∀ segment ∈ segments, c ∉ segment.toList) :
      c ∉ target.toList := by
    intro hmem
    rw [htarget] at hmem
    rcases Text.mem_joinWith hmem with rfl | ⟨piece, hpiece, hmem⟩
    · exact hc rfl
    · obtain ⟨segment, hsegment, rfl⟩ := List.mem_map.mp hpiece
      exact hnone h segment hsegment hmem
  have hmaps : segments.map String.toList ≠ [] := fun h => hne (List.map_eq_nil_iff.mp h)
  have hcut : cutTarget target = (target, []) := by
    refine cutTarget_of_path (htarget.trans (Text.joinWith_nil_cons '/' hmaps)) ?_ ?_
    · exact habsent (by decide) fun segment hsegment hmem => (huncut segment hsegment '?' hmem).2.1 rfl
    · exact habsent (by decide) fun segment hsegment hmem => (huncut segment hsegment '#' hmem).2.2 rfl
  have hpieces : Text.pieces '/' target = "" :: segments := by
    refine Text.pieces_of_toList (List.cons_ne_nil _ _) htarget (hnone ?_)
    exact fun segment hsegment hmem => (huncut segment hsegment '/' hmem).1 rfl
  have hroute : Route.ofPath? target = Route.ofSegments? segments := by
    simp only [Route.ofPath?, hpieces]
  cases hsegments : Route.ofSegments? segments with
  | none => simp only [get, hcut, hroute, hsegments]
  | some route => simp only [get, hcut, hroute, hsegments]

variable {a s t i a' s' t' i' : String}

theorem tmiPath_toList (a s t i : String) :
    (tmiPath a s t i).toList = Text.joinWith '/' (["", "tmis", a, s, t, i].map String.toList) := by
  simp [tmiPath, slashed, Text.joinWith, String.toList_append]

theorem latestPath_toList (a s t i : String) :
    (latestPath a s t i).toList = Text.joinWith '/' (["", "tmis", a, s, t, i, "latest"].map String.toList) := by
  simp [latestPath, Text.joinWith, String.toList_append]

/-- A text without control characters. -/
def IsPrintable (name : String) : Prop := ∀ c ∈ name.toList, 0x20 ≤ c.toNat ∧ c.toNat ≠ 0x7F

theorem redirect_latestPath (h : ∀ name ∈ [a, s, t, i], IsPrintable name) :
    redirect (latestPath a s t i) = ⟨307, some (latestPath a s t i), none⟩ := by
  refine if_pos (List.all_eq_true.mpr fun c hc => ?_)
  have hpieces : ∀ name ∈ ["", "tmis", a, s, t, i, "latest"], IsPrintable name := by
    simp only [List.forall_mem_cons] at h ⊢
    obtain ⟨ha, hs, ht, hi, -⟩ := h
    exact ⟨by simp [IsPrintable], by simp [IsPrintable], ha, hs, ht, hi, by simp [IsPrintable],
      fun _ h => absurd h List.not_mem_nil⟩
  rw [latestPath_toList] at hc
  rcases Text.mem_joinWith hc with rfl | ⟨piece, hpiece, hc⟩
  · rfl
  · obtain ⟨name, hname, rfl⟩ := List.mem_map.mp hpiece
    obtain ⟨hlow, hdel⟩ := hpieces name hname c hc
    simp [isHeaderChar, hlow, hdel]

section Requests

variable (ha : WritesSegment a' a) (hs : WritesSegment s' s) (ht : WritesSegment t' t)
  (hi : WritesSegment i' i)

include ha hs ht hi

theorem get_tmiPath (hne : i ≠ "") (r : Replica) :
    get r (tmiPath a' s' t' i') = redirect (latestPath a s t i) := by
  have hlast : i' ≠ "" := by
    rintro rfl
    exact hne (Option.some_inj.mp (hi.decoded.symm.trans rfl))
  rw [get_of_segments r (List.cons_ne_nil _ _) (tmiPath_toList a' s' t' i')]
  · simp [Route.ofSegments?, hlast, answer, ha.decoded, hs.decoded, ht.decoded, hi.decoded]
  · simp only [List.forall_mem_cons]
    exact ⟨by simp, ha.uncut, hs.uncut, ht.uncut, hi.uncut, fun _ h => absurd h List.not_mem_nil⟩

theorem get_latestPath (r : Replica) :
    get r (latestPath a' s' t' i') = answerTmi r.store a s t i "latest" := by
  have hlatest : decodeText? "latest" = some "latest" := by decide
  rw [get_of_segments r (List.cons_ne_nil _ _) (latestPath_toList a' s' t' i')]
  · simp [Route.ofSegments?, answer, ha.decoded, hs.decoded, ht.decoded, hi.decoded, hlatest]
  · simp only [List.forall_mem_cons]
    exact ⟨by simp, ha.uncut, hs.uncut, ht.uncut, hi.uncut, by simp, fun _ h => absurd h List.not_mem_nil⟩

end Requests

/-! ### Where the answer about an unknown TMI comes from -/

/-- What is answered for a TMI that is not held. -/
def notFound (f : TmiId) : Response := problem 404 "NOT_FOUND" ("TMI " ++ f.text ++ " not found")

theorem problem_body_eq_iff {status status' : Nat} {code code' message message' : String} :
    (problem status code message).body = (problem status' code' message').body ↔
      code = code' ∧ message = message' := by
  simp [problem, Response.ofJson]

theorem answerSession_body_ne {st : Store} {id : SessionId} {f : TmiId}
    (hstatus : (answerSession st id).status = 404) : (answerSession st id).body ≠ (notFound f).body := by
  rw [answerSession] at hstatus ⊢
  split at hstatus
  · exact absurd hstatus (Nat.ne_of_lt (by decide : 200 < 404))
  · intro hbody
    have hmessage := (problem_body_eq_iff.mp hbody).2
    have hfirst := congrArg (fun m => m.toList.head?) hmessage
    simp [String.toList_append] at hfirst

/-- A TMI that is reported unknown is the one that the request names. -/
theorem canonical_of_answerTmi_body {st : Store} {a s t i v : String} {f : TmiId}
    (hstatus : (answerTmi st a s t i v).status = 404)
    (hbody : (answerTmi st a s t i v).body = (notFound f).body) : TmiId.canonical a s t i = f := by
  simp only [answerTmi] at hstatus hbody
  split at hbody
  · exact absurd (problem_body_eq_iff.mp hbody).1 (by decide)
  · next selector hselector =>
    cases hheld : st.tmi? (TmiId.canonical a s t i) with
    | none =>
      rw [hheld] at hbody
      have hmessage := (problem_body_eq_iff.mp hbody).2
      have htext := (String.append_right_inj _).mp ((String.append_left_inj _).mp hmessage)
      exact congrArg TmiId.mk htext
    | some held =>
      simp only [hselector, hheld] at hstatus hbody
      cases hdetail : detail? held selector with
      | none =>
        rw [hdetail] at hbody
        exact absurd (problem_body_eq_iff.mp hbody).1 (by decide)
      | some d =>
        rw [hdetail] at hstatus
        exact absurd hstatus (Nat.ne_of_lt (by decide : 200 < 404))

/-- Only a request for versions of a TMI is answered that the TMI is unknown. -/
theorem route_of_notFound {r : Replica} {query : List Char} {route : Route} {f : TmiId}
    (hstatus : (answer r query route).status = 404)
    (hbody : (answer r query route).body = (notFound f).body) :
    ∃ a s t i v a' s' t' i', route = .tmi a' s' t' i' v ∧ decodeText? a' = some a ∧
      decodeText? s' = some s ∧ decodeText? t' = some t ∧ decodeText? i' = some i ∧
      TmiId.canonical a s t i = f := by
  have hbare : none ≠ (notFound f).body := (Option.some_ne_none _).symm
  cases route with
  | health | sessions | tmis => exact absurd hstatus (Nat.ne_of_lt (by decide : 200 < 404))
  | session id =>
    simp only [answer] at hstatus hbody
    split at hbody
    · next hid =>
      rw [hid] at hstatus
      exact absurd hbody (answerSession_body_ne hstatus)
    · exact absurd hbody hbare
  | latest a s t i =>
    simp only [answer] at hbody
    split at hbody
    · rw [redirect] at hbody
      split_ifs at hbody
      · exact absurd hbody hbare
      · exact absurd hbody hbare
    · exact absurd hbody hbare
  | tmi a' s' t' i' v =>
    simp only [answer] at hstatus hbody
    split at hbody
    · next a s t i v ha hs ht hi hv =>
      rw [ha, hs, ht, hi, hv] at hstatus
      exact ⟨a, s, t, i, _, a', s', t', i', rfl, ha, hs, ht, hi, canonical_of_answerTmi_body hstatus hbody⟩
    · exact absurd hbody hbare
  | events =>
    simp only [answer] at hstatus hbody
    split at hbody
    · next hlimit =>
      rw [hlimit] at hstatus
      exact absurd hstatus (Nat.ne_of_lt (by decide : 200 < 404))
    · exact absurd hbody hbare

/-- What is asked for by the path of a request for versions of a TMI. -/
theorem path_of_tmi {path a' s' t' i' v : String} (h : Route.ofPath? path = some (.tmi a' s' t' i' v)) :
    Text.pieces '/' path = ["", "tmis", a', s', t', i', v] := by
  rw [Route.ofPath?] at h
  split at h
  · next segments hpieces =>
    unfold Route.ofSegments? at h
    split_ifs at h
    split at h <;> cases h
    exact hpieces
  · cases h

/-- What is asked for when versions of a TMI are: the names with a slash behind them and a version. -/
theorem toList_of_tmi {path a' s' t' i' v : String} (h : Route.ofPath? path = some (.tmi a' s' t' i' v)) :
    path.toList = (tmiPath a' s' t' i').toList ++ '/' :: v.toList ∧
      ∀ name ∈ [a', s', t', i'], '/' ∉ name.toList := by
  have hpieces : Text.splitOn '/' path.toList = ["", "tmis", a', s', t', i', v].map String.toList := by
    have hp := congrArg (List.map String.toList) (path_of_tmi h)
    rw [Text.pieces, List.map_map] at hp
    simpa using hp
  refine ⟨?_, fun name hname => ?_⟩
  · rw [← Text.joinWith_splitOn '/' path.toList, hpieces]
    simp [tmiPath, slashed, Text.joinWith, String.toList_append]
  · have hpiece : name.toList ∈ Text.splitOn '/' path.toList := by
      rw [hpieces]
      exact List.mem_map_of_mem (List.mem_append_right ["", "tmis"] (List.mem_append_left [v] hname))
    exact Text.not_mem_of_mem_splitOn hpiece

/-- A cut path is a part of the target, and has no question or number sign in it. -/
theorem path_cutTarget {rest : List Char} {target : String} (htarget : target.toList = '/' :: rest) :
    (cutTarget target).1.toList <+: target.toList ∧ '?' ∉ (cutTarget target).1.toList ∧
      '#' ∉ (cutTarget target).1.toList := by
  have hfragment := Text.isPrefix_cutAt '#' target.toList
  have hquery := Text.isPrefix_cutAt '?' (Text.cutAt '#' target.toList).1
  rw [cutTarget, htarget, withoutServer_cons_slash, ← htarget]
  simp only
  split_ifs with hempty
  · rw [htarget]
    exact ⟨⟨rest, rfl⟩, by decide, by decide⟩
  · rw [String.toList_ofList]
    exact ⟨hquery.trans hfragment, Text.not_mem_cutAt '?' _,
      fun hmem => Text.not_mem_cutAt '#' _ (hquery.subset hmem)⟩

section Decoded

variable {a s t i a' s' t' i' : String} (ha : decodeText? a' = some a) (hs : decodeText? s' = some s)
  (ht : decodeText? t' = some t) (hi : decodeText? i' = some i)

include ha hs ht hi

theorem utf8ByteSize_slashed_le : (slashed a s t i).utf8ByteSize ≤ (slashed a' s' t' i').utf8ByteSize := by
  have hasize := utf8ByteSize_le_of_decodeText? ha
  have hssize := utf8ByteSize_le_of_decodeText? hs
  have htsize := utf8ByteSize_le_of_decodeText? ht
  have hisize := utf8ByteSize_le_of_decodeText? hi
  rw [utf8ByteSize_slashed, utf8ByteSize_slashed]
  omega

/-- If decoding four names changes nothing of them together, then it changes none of them. -/
theorem decodeText?_of_slashed_eq (h : slashed a s t i = slashed a' s' t' i') :
    ∀ name ∈ [a', s', t', i'], decodeText? name = some name := by
  have hself {name named : String} (h : decodeText? name = some named)
      (hle : name.utf8ByteSize ≤ named.utf8ByteSize) : decodeText? name = some name :=
    h.trans (congrArg some (eq_of_decodeText?_of_le h hle).symm)
  have hasize := utf8ByteSize_le_of_decodeText? ha
  have hssize := utf8ByteSize_le_of_decodeText? hs
  have htsize := utf8ByteSize_le_of_decodeText? ht
  have hisize := utf8ByteSize_le_of_decodeText? hi
  have hsize := congrArg String.utf8ByteSize h
  rw [utf8ByteSize_slashed, utf8ByteSize_slashed] at hsize
  simp only [List.forall_mem_cons]
  exact ⟨hself ha (by omega), hself hs (by omega), hself ht (by omega), hself hi (by omega),
    fun _ h => absurd h List.not_mem_nil⟩

end Decoded

/-- Names that are found to be unknown where they stand in a path as they are stand for themselves. -/
theorem writes_self_of_notFound {r : Replica} {a s t i : String}
    (hstatus : (get r (latestPath a s t i)).status = 404)
    (hbody : (get r (latestPath a s t i)).body = (notFound (.canonical a s t i)).body) :
    ∀ name ∈ [a, s, t, i], WritesSegment name name := by
  have hbare : none ≠ (notFound (.canonical a s t i)).body := (Option.some_ne_none _).symm
  have htarget : (latestPath a s t i).toList = '/' :: ("tmis/" ++ slashed a s t i ++ "/latest").toList := by
    simp [latestPath, slashed, String.toList_append]
  obtain ⟨hpart, hquery, hfragment⟩ := path_cutTarget htarget
  simp only [get] at hstatus hbody
  cases hroute : Route.ofPath? (cutTarget (latestPath a s t i)).1 with
  | none =>
    rw [hroute] at hbody
    exact absurd hbody hbare
  | some route =>
    simp only [hroute] at hstatus hbody
    obtain ⟨a₂, s₂, t₂, i₂, v, a₁, s₁, t₁, i₁, rfl, ha, hs, ht, hi, hcanonical⟩ :=
      route_of_notFound hstatus hbody
    obtain ⟨hpath, hslash⟩ := toList_of_tmi hroute
    have hsame : slashed a₂ s₂ t₂ i₂ = slashed a s t i := by
      have htext := congrArg TmiId.text hcanonical
      rw [TmiId.text_canonical, TmiId.text_canonical] at htext
      exact (String.append_right_inj _).mp htext
    -- names that are cut before their end are too short to be decoded to what is unknown
    have hall : slashed a₁ s₁ t₁ i₁ = slashed a s t i := by
      have hlatest : (latestPath a s t i).toList = (tmiPath a s t i).toList ++ '/' :: "latest".toList := by
        rw [latestPath_eq, String.toList_append]
        rfl
      rw [hpath, hlatest] at hpart
      have htmi := Text.isPrefix_of_append_sep hpart (by decide)
      rw [tmiPath, tmiPath, String.toList_append, String.toList_append, List.prefix_append_right_inj] at htmi
      exact Text.eq_of_isPrefix_toList htmi (hsame ▸ utf8ByteSize_slashed_le ha hs ht hi)
    have hnames := slashed_inj hall hslash
    simp only [List.cons.injEq, and_true] at hnames
    obtain ⟨rfl, rfl, rfl, rfl⟩ := hnames
    refine fun name hname => ⟨decodeText?_of_slashed_eq ha hs ht hi hsame name hname, fun c hc => ?_⟩
    have hmem : c ∈ (cutTarget (latestPath a₁ s₁ t₁ i₁)).1.toList := by
      rw [hpath, tmiPath_toList]
      have hpiece : name.toList ∈ ["", "tmis", a₁, s₁, t₁, i₁].map String.toList :=
        List.mem_map_of_mem (List.mem_append_right ["", "tmis"] hname)
      exact List.mem_append_left _ (Text.subset_joinWith hpiece hc)
    refine ⟨?_, ?_, ?_⟩
    · rintro rfl
      exact hslash name hname hc
    · rintro rfl
      exact hquery hmem
    · rintro rfl
      exact hfragment hmem

/-! ### The bare path -/

/-- What the bare path of a TMI points to is answered as the path of its latest version is. The location is
    asked for as it stands. A client that resolves it against the address of the server first takes names of one
    or two dots for steps along the path, and a backslash for a slash; what becomes of such names is then up to
    the client. -/
def LeadsToLatest (r : Replica) (bare : String) : Prop :=
  ∃ location, (get r bare).location = some location ∧
    (get r location).status = (get r (bare ++ "/latest")).status ∧
    (get r location).body = (get r (bare ++ "/latest")).body

/-- The bare path of a TMI points to the latest version, with the names as they are. It leads there, whatever
    the replica holds, just if each name may stand in a path as it is. -/
theorem redirects_tmiPath {a s t i a' s' t' i' : String} (ha : WritesSegment a' a) (hs : WritesSegment s' s)
    (ht : WritesSegment t' t) (hi : WritesSegment i' i) (hne : i ≠ "")
    (hprintable : ∀ name ∈ [a, s, t, i], IsPrintable name) :
    (∀ r, get r (tmiPath a' s' t' i') = ⟨307, some (latestPath a s t i), none⟩) ∧
    ((∀ r, LeadsToLatest r (tmiPath a' s' t' i')) ↔ ∀ name ∈ [a, s, t, i], WritesSegment name name) := by
  have hredirect (r : Replica) : get r (tmiPath a' s' t' i') = ⟨307, some (latestPath a s t i), none⟩ :=
    (get_tmiPath ha hs ht hi hne r).trans (redirect_latestPath hprintable)
  have hlatest (r : Replica) : get r (tmiPath a' s' t' i' ++ "/latest") = answerTmi r.store a s t i "latest" := by
    rw [← latestPath_eq, get_latestPath ha hs ht hi]
  refine ⟨hredirect, fun hleads => ?_, fun hself r => ?_⟩
  · obtain ⟨location, hlocation, hstatus, hbody⟩ := hleads (.empty 0)
    rw [hredirect] at hlocation
    obtain rfl := Option.some_inj.mp hlocation
    rw [hlatest] at hstatus hbody
    exact writes_self_of_notFound hstatus hbody
  · simp only [List.forall_mem_cons] at hself
    obtain ⟨hself_a, hself_s, hself_t, hself_i, -⟩ := hself
    refine ⟨latestPath a s t i, by rw [hredirect], ?_⟩
    rw [hlatest, get_latestPath hself_a hself_s hself_t hself_i]
    exact ⟨rfl, rfl⟩

/-- Plain names lead to the latest version, and a name that looks encoded does not. -/
theorem redirects_plainAndEncoded :
    WritesSegment "a" "a" ∧ WritesSegment "x%2541" "x%41" ∧ "x%41" ≠ "" ∧
    (∀ name ∈ ["a", "a", "a", "x%41"], IsPrintable name) ∧
    (∀ r, get r "/tmis/a/a/a/x%2541" = ⟨307, some "/tmis/a/a/a/x%41/latest", none⟩) ∧
    (∀ r, LeadsToLatest r "/tmis/a/a/a/a") ∧ ¬∀ r, LeadsToLatest r "/tmis/a/a/a/x%2541" := by
  have ha : WritesSegment "a" "a" := ⟨by decide, by simp⟩
  have hsegment : segmentFor "x%41" = "x%2541" := by decide
  have hi : WritesSegment "x%2541" "x%41" := hsegment ▸ writes_segmentFor "x%41"
  have hprintable : ∀ name ∈ ["a", "a", "a", "x%41"], IsPrintable name := by simp [IsPrintable]
  obtain ⟨hredirect, hencoded⟩ := redirects_tmiPath ha ha ha hi (by decide) hprintable
  have hplain := (redirects_tmiPath ha ha ha ha (by decide) (by simp [IsPrintable])).2.mpr
    (by simp [ha])
  refine ⟨ha, hi, by decide, hprintable, hredirect, hplain, fun h => ?_⟩
  have hself := (hencoded.mp h "x%41" (by simp)).decoded
  exact absurd hself (by decide)

/-- A replica that holds two TMIs, the one named as the other one is encoded. -/
def ofLookalikes : Replica :=
  ((Replica.empty 10).applyAllCounting
    [.spawned (.bare ⟨"//a/s/t/x%41"⟩ 5 none), .spawned (.bare ⟨"//a/s/t/xA"⟩ 7 none)]).2

/-- The bare path of one TMI leads to the latest version of another one. -/
theorem not_leadsToLatest_ofLookalikes :
    (get ofLookalikes "/tmis/a/s/t/x%2541").location = some "/tmis/a/s/t/x%41/latest" ∧
    ((get ofLookalikes "/tmis/a/s/t/x%2541/latest").body.bind (Json.get? "id")).bind Json.text? = some "x%41" ∧
    ((get ofLookalikes "/tmis/a/s/t/x%41/latest").body.bind (Json.get? "id")).bind Json.text? = some "xA" ∧
    ¬LeadsToLatest ofLookalikes "/tmis/a/s/t/x%2541" := by
  have hlocation : (get ofLookalikes "/tmis/a/s/t/x%2541").location = some "/tmis/a/s/t/x%41/latest" := by
    decide +kernel
  have hnamed : ((get ofLookalikes "/tmis/a/s/t/x%2541/latest").body.bind (Json.get? "id")).bind Json.text? =
      some "x%41" := by decide +kernel
  have hreached : ((get ofLookalikes "/tmis/a/s/t/x%41/latest").body.bind (Json.get? "id")).bind Json.text? =
      some "xA" := by decide +kernel
  refine ⟨hlocation, hnamed, hreached, ?_⟩
  rintro ⟨location, hloc, -, hbody⟩
  obtain rfl := Option.some_inj.mp (hlocation.symm.trans hloc)
  rw [hbody] at hreached
  have hsame := hnamed.symm.trans hreached
  exact absurd hsame (by decide)

end ReadApi

end TrustReplica
