import TrustReplica.Proofs.InTurn
import TrustReplica.Proofs.Utf8

/-! Fetching every TMI. Each TMI that is known at the start is asked for once, in the order of the bytes of
    the identifiers, and whatever the answers are: a failure is counted and changes nothing, and the next
    request goes on from there. So the replica in the end is the one that fetching in turn leaves
    (`Replica.fetchEvery_eq_fetchInTurn`). One merge keeps the sessions and all TMIs, and changes only what
    the answer names (`Store.adoptAnswer_cases`), and so does a run of merges (`Store.GrowsBy`). -/

namespace TrustReplica

/-! ### Requests -/

/-- A source that notes the paths that it is asked for. -/
def Source.recording {σ : Type} (source : Source σ) : Source (σ × List String) where
  list world := ((source.list world.1).1, (source.list world.1).2, world.2 ++ [listingPath])
  fetch request world := ((source.fetch request world.1).1, (source.fetch request world.1).2,
    world.2 ++ [request.path])

theorem Store.requests_eq (s : Store) : s.requests = s.tmis.toList.map fun e => e.2.request := by
  rw [requests, tmiList, List.map_map]
  rfl

/-- The TMIs of a store stand in the order of the bytes of their identifiers. -/
theorem Store.pairwise_tmis (s : Store) :
    s.tmis.toList.Pairwise fun e e' => Text.PrecedesInBytes e.1.text e'.1.text := by
  refine s.tmis.ordered_keys_toList.imp ?_
  exact fun hlt => Text.precedesInBytes_of_compare hlt

/-! ### One merge -/

namespace Store

/-- What merging answers does to a store: the sessions stay and so do all TMIs, and only those change that
    an answer names. -/
structure GrowsBy (answers : List (Except FetchError Detail)) (s s' : Store) : Prop where
  sessions : s'.sessions = s.sessions
  known : ∀ f ∈ s.tmis, f ∈ s'.tmis
  filed : s.IsFiled → s'.IsFiled
  others : s.IsFiled → ∀ f, (∀ d, .ok d ∈ answers → d.fullId ≠ f) → s'.tmi? f = s.tmi? f

variable {s s' s'' : Store} {answers answers' : List (Except FetchError Detail)}

theorem GrowsBy.refl (answers : List (Except FetchError Detail)) (s : Store) : s.GrowsBy answers s :=
  ⟨rfl, fun _ h => h, fun h => h, fun _ _ _ => rfl⟩

theorem GrowsBy.append (h : GrowsBy answers s s') (h' : GrowsBy answers' s' s'') :
    GrowsBy (answers ++ answers') s s'' where
  sessions := h'.sessions.trans h.sessions
  known f hf := h'.known f (h.known f hf)
  filed hs := h'.filed (h.filed hs)
  others hs f hf := by
    rw [h'.others (h.filed hs) f fun d hd => hf d (List.mem_append_right _ hd),
      h.others hs f fun d hd => hf d (List.mem_append_left _ hd)]

theorem growsBy_adoptAnswer (s : Store) (answer : Except FetchError Detail) :
    s.GrowsBy [answer] (s.adoptAnswer answer).2 := by
  rcases s.adoptAnswer_cases answer with ⟨e, h⟩ | ⟨d, t, rfl, h, hnamed⟩
  · rw [h]
    exact .refl _ s
  · rw [h]
    refine ⟨rfl, fun f hf => ?_, fun hs f u hu => ?_, fun hs f hf => ?_⟩
    · exact Std.ExtTreeMap.mem_insert.mpr (Or.inr hf)
    · rw [tmi?_insertTmi] at hu
      split_ifs at hu with hf
      · rw [← Option.some_inj.mp hu, hf]
      · exact hs f u hu
    · rw [tmi?_insertTmi, hnamed hs, if_neg (hf d (List.mem_singleton.mpr rfl))]

end Store

/-! ### Many requests -/

namespace Replica

variable {σ : Type} (source : Source σ)

theorem growsBy_fetchInTurn (requests : List Request) (r : Replica) (world : σ) :
    r.store.GrowsBy (source.answers requests world) (r.fetchInTurn source world requests).2.1.store ∧
      (r.fetchInTurn source world requests).2.1.journal = r.journal := by
  induction requests generalizing r world with
  | nil => exact ⟨.refl _ _, rfl⟩
  | cons request requests ih =>
    obtain ⟨hstore, hjournal⟩ := ih (r.fetchTmi source world request).2.1 (source.fetch request world).2
    exact ⟨(r.store.growsBy_adoptAnswer (source.fetch request world).1).append hstore, hjournal⟩

theorem length_fetchInTurn (requests : List Request) (r : Replica) (world : σ) :
    (r.fetchInTurn source world requests).1.length = requests.length := by
  induction requests generalizing r world with
  | nil => rfl
  | cons request requests ih => exact congrArg (· + 1) (ih _ _)

/-- Noting the paths changes nothing else. -/
theorem fetchInTurn_recording (requests : List Request) (r : Replica) (world : σ) (asked : List String) :
    r.fetchInTurn source.recording (world, asked) requests =
      ((r.fetchInTurn source world requests).1, (r.fetchInTurn source world requests).2.1,
        (r.fetchInTurn source world requests).2.2, asked ++ requests.map Request.path) := by
  induction requests generalizing r world asked with
  | nil => rw [List.map_nil, List.append_nil]; rfl
  | cons request requests ih =>
    have hstep : r.fetchTmi source.recording (world, asked) request =
        ((r.fetchTmi source world request).1, (r.fetchTmi source world request).2.1,
          (r.fetchTmi source world request).2.2, asked ++ [request.path]) := rfl
    rw [fetchInTurn, hstep]
    simp only [ih]
    rw [List.append_assoc]
    rfl

theorem foldl_fetchStep_eq (requests : List Request) (report : FetchReport) (r : Replica) (world : σ) :
    requests.foldl (Store.fetchStep source) (report, r.store, world) =
      ((r.fetchInTurn source world requests).1.foldl FetchReport.count report,
        (r.fetchInTurn source world requests).2.1.store, (r.fetchInTurn source world requests).2.2) := by
  induction requests generalizing report r world with
  | nil => rfl
  | cons request requests ih => exact ih _ (r.fetchTmi source world request).2.1 _

/-- Fetching every TMI is fetching in turn and counting the results. -/
theorem fetchEvery_eq_fetchInTurn (r : Replica) (world : σ) :
    r.fetchEvery source world =
      ((r.fetchInTurn source world r.store.requests).1.foldl FetchReport.count ⟨0, 0⟩,
        (r.fetchInTurn source world r.store.requests).2) := by
  have hjournal := (growsBy_fetchInTurn source r.store.requests r world).2
  have hfold := foldl_fetchStep_eq source r.store.requests ⟨0, 0⟩ r world
  rw [fetchEvery, Store.fetchEvery, hfold, ← hjournal]

end Replica

/-- Each result is counted, as loaded or as failed. -/
theorem FetchReport.foldl_count {α : Type} (results : List (Except LoadError α)) (report : FetchReport) :
    (results.foldl count report).loaded = report.loaded + results.countP Except.isOk ∧
      (results.foldl count report).failed = report.failed + results.countP fun result => !result.isOk := by
  induction results generalizing report with
  | nil => exact ⟨rfl, rfl⟩
  | cons result results ih =>
    obtain ⟨hloaded, hfailed⟩ := ih (report.count result)
    rw [List.foldl_cons, hloaded, hfailed, List.countP_cons, List.countP_cons]
    cases result with
    | ok a => simp only [count, Except.isOk, Except.toBool]; simp; omega
    | error e => simp only [count, Except.isOk, Except.toBool]; simp; omega

namespace Replica

/-- How every TMI is fetched, whatever the source answers. -/
structure VisitsEach {σ : Type} (source : Source σ) (r : Replica) (world : σ) : Prop where
  /-- Noting the paths changes nothing, and the paths are those of the TMIs that are known at the start. -/
  asked : r.fetchEvery source.recording (world, []) =
    ((r.fetchEvery source world).1, (r.fetchEvery source world).2.1, (r.fetchEvery source world).2.2,
      r.store.tmis.toList.map fun e => "tmis/" ++ e.2.application ++ "/" ++ e.2.session.text ++ "/" ++
        e.2.template ++ "/" ++ e.2.id ++ "/all")
  ordered : r.store.tmis.toList.Pairwise fun e e' => Text.PrecedesInBytes e.1.text e'.1.text
  inTurn : (r.fetchEvery source world).2 = (r.fetchInTurn source world r.store.requests).2
  failed : ∀ (r' : Replica) (world' : σ) (request : Request) (e : LoadError),
    (r'.fetchTmi source world' request).1 = .error e → (r'.fetchTmi source world' request).2.1 = r'
  loadedCount : (r.fetchEvery source world).1.loaded =
    (r.fetchInTurn source world r.store.requests).1.countP Except.isOk
  totalCount : (r.fetchEvery source world).1.loaded + (r.fetchEvery source world).1.failed = r.store.tmis.size
  sessions : (r.fetchEvery source world).2.1.store.sessions = r.store.sessions
  journal : (r.fetchEvery source world).2.1.journal = r.journal
  known : ∀ f ∈ r.store.tmis, f ∈ (r.fetchEvery source world).2.1.store.tmis
  others : r.store.IsFiled → ∀ f, (∀ d, .ok d ∈ source.answers r.store.requests world → d.fullId ≠ f) →
    (r.fetchEvery source world).2.1.store.tmi? f = r.store.tmi? f

theorem paths_requests (s : Store) : s.requests.map Request.path = s.tmis.toList.map fun e =>
    "tmis/" ++ e.2.application ++ "/" ++ e.2.session.text ++ "/" ++ e.2.template ++ "/" ++ e.2.id ++ "/all" := by
  rw [Store.requests_eq, List.map_map]
  have hall (x : String) : x ++ "/" ++ "all" = x ++ "/all" := String.append_assoc
  exact List.map_congr_left fun e _ => hall _

theorem visitsEach_fetchEvery {σ : Type} (source : Source σ) (r : Replica) (world : σ) :
    VisitsEach source r world where
  asked := by
    rw [fetchEvery_eq_fetchInTurn source.recording, fetchInTurn_recording, fetchEvery_eq_fetchInTurn source,
      List.nil_append, paths_requests]
  ordered := r.store.pairwise_tmis
  inTurn := by rw [fetchEvery_eq_fetchInTurn]
  failed r' world' request e h := r'.fetchesAtomically.failed source world' request e h
  loadedCount := by
    rw [fetchEvery_eq_fetchInTurn]
    exact (FetchReport.foldl_count _ ⟨0, 0⟩).1.trans (Nat.zero_add _)
  totalCount := by
    have hsize : r.store.requests.length = r.store.tmis.size := by
      rw [Store.requests_eq, List.length_map, Std.ExtTreeMap.length_toList]
    have hlength := length_fetchInTurn source r.store.requests r world
    obtain ⟨hloaded, hfailed⟩ := FetchReport.foldl_count
      (r.fetchInTurn source world r.store.requests).1 ⟨0, 0⟩
    rw [List.length_eq_countP_add_countP Except.isOk] at hlength
    rw [fetchEvery_eq_fetchInTurn, hloaded, hfailed, ← hsize, ← hlength]
    simp
  sessions := by
    rw [fetchEvery_eq_fetchInTurn]
    exact (growsBy_fetchInTurn source r.store.requests r world).1.sessions
  journal := by
    rw [fetchEvery_eq_fetchInTurn]
    exact (growsBy_fetchInTurn source r.store.requests r world).2
  known := by
    rw [fetchEvery_eq_fetchInTurn]
    exact (growsBy_fetchInTurn source r.store.requests r world).1.known
  others := by
    rw [fetchEvery_eq_fetchInTurn]
    exact (growsBy_fetchInTurn source r.store.requests r world).1.others

/-- Every TMI is asked for once, a failure stops nothing, and only those change that an answer names, since
    every replica that started empty has each TMI under its own identifier. -/
theorem visitsEach :
    (∀ {σ : Type} (source : Source σ) (r : Replica) (world : σ), VisitsEach source r world) ∧
      ∀ (capacity : Nat) (ops : List Operation), ((empty capacity).performAll ops).store.IsFiled := by
  refine ⟨fun source r world => visitsEach_fetchEvery source r world, fun capacity ops f t ht => ?_⟩
  exact ((isSound_performAll capacity ops).tmis f t ht).fullId

/-- An answer about another TMI, which cannot be loaded, is counted and leaves the one that was asked for. -/
theorem visitsEach_ofSpawnFive :
    let source : Source Unit := .constant (.ok ∅) (.ok namelessDetail)
    (ofSpawnFive.fetchEvery source.recording ((), [])).2.2.2 = ["tmis/a/s/t/i/all"] ∧
    (ofSpawnFive.fetchEvery source ()).1 = ⟨0, 1⟩ ∧ ofSpawnFive.store.IsFiled ∧
    (ofSpawnFive.fetchEvery source ()).2.1.store.tmi? ⟨"//a/s/t/i"⟩ =
      ofSpawnFive.store.tmi? ⟨"//a/s/t/i"⟩ := by
  intro source
  obtain ⟨hvisits, hfiled⟩ := visitsEach
  have hone := hvisits source ofSpawnFive ()
  refine ⟨(congrArg (fun fetched => fetched.2.2.2) hone.asked).trans rfl, rfl, hfiled _ _,
    hone.others (hfiled _ _) _ ?_⟩
  intro d hd
  obtain rfl : d = namelessDetail := Except.ok.inj (List.mem_singleton.mp hd)
  decide

end Replica

end TrustReplica
