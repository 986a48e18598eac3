import Mathlib.Logic.Function.Iterate
import Mathlib.Order.Bounds.Basic
import TrustReplica.Fetch.Retrying
import TrustReplica.Proofs.Visiting

/-! How often a source is asked. A source that is asked over and over gives a sequence of results, and with
    `n` retries the last one asked for is the first final one, or the one numbered `n` (`EndsAt`). One turn
    of the loop drops the first result of the sequence and one retry (`EndsAt.succ`), so the loop stops where
    it should from any state on (`tries_callFrom`), and a run of requests adds up their retries. The counter
    of the loop is 32 bits wide; the loop in which it is checked never finds it run over. -/

namespace TrustReplica

/-! ### The last result that is asked for -/

/-- A result after which nothing is tried again: an answer, or a failure that does not pass. -/
inductive IsFinal {α : Type} : Except FetchError α → Prop
  | ok (a : α) : IsFinal (.ok a)
  | notFound (detail : String) : IsFinal (.error (.notFound detail))
  | invalidRequest (detail : String) : IsFinal (.error (.invalidRequest detail))
  | undecodable (detail : String) : IsFinal (.error (.undecodable detail))

/-- Where `n` retries end in a sequence of results: at the first final one, or at the one numbered `n` when
    there is no final one up to there. -/
def EndsAt {α : Type} (results : Nat → Except FetchError α) (n k : Nat) : Prop :=
  (IsLeast {i | IsFinal (results i)} k ∧ k ≤ n) ∨ ((∀ i ≤ n, ¬IsFinal (results i)) ∧ k = n)

variable {σ α : Type}

theorem isFinal_error_iff (e : FetchError) :
    IsFinal (.error e : Except FetchError α) ↔ e.isTransient = false := by
  constructor
  · rintro (_ | _ | _ | _) <;> rfl
  · intro h
    cases e with
    | notFound detail => exact .notFound detail
    | invalidRequest detail => exact .invalidRequest detail
    | undecodable detail => exact .undecodable detail
    | server | network | timeout => cases h

namespace EndsAt

variable {results : Nat → Except FetchError α} {n k k' : Nat}

theorem of_isFinal (n : Nat) (h : IsFinal (results 0)) : EndsAt results n 0 :=
  .inl ⟨⟨h, fun i _ => Nat.zero_le i⟩, Nat.zero_le n⟩

/-- Without retries the first result is the last one. -/
theorem zero (results : Nat → Except FetchError α) : EndsAt results 0 0 := by
  by_cases h : IsFinal (results 0)
  · exact of_isFinal 0 h
  · refine .inr ⟨fun i hi => ?_, rfl⟩
    rwa [Nat.le_zero.mp hi]

/-- A result that is not final costs one retry. -/
theorem succ (h : ¬IsFinal (results 0)) (hk : EndsAt (fun i => results (i + 1)) n k) :
    EndsAt results (n + 1) (k + 1) := by
  rcases hk with ⟨⟨hfinal, hleast⟩, hkn⟩ | ⟨hnone, rfl⟩
  · refine .inl ⟨⟨hfinal, fun i hi => ?_⟩, Nat.succ_le_succ hkn⟩
    cases i with
    | zero => exact absurd hi h
    | succ i => exact Nat.succ_le_succ (hleast hi)
  · refine .inr ⟨fun i hi => ?_, rfl⟩
    cases i with
    | zero => exact h
    | succ i => exact hnone i (Nat.le_of_succ_le_succ hi)

theorem unique (h : EndsAt results n k) (h' : EndsAt results n k') : k = k' := by
  rcases h with ⟨hleast, hkn⟩ | ⟨hnone, rfl⟩ <;> rcases h' with ⟨hleast', hkn'⟩ | ⟨hnone', rfl⟩
  · exact hleast.unique hleast'
  · exact absurd hleast.1 (hnone' k hkn)
  · exact absurd hleast'.1 (hnone k' hkn')
  · rfl

end EndsAt

/-! ### One request -/

namespace Retrying

variable (call : σ → Except FetchError α × σ)

/-- The state after `n` calls. -/
def stateAfter (s : σ) (n : Nat) : σ := (fun s => (call s).2)^[n] s

/-- The result of call number `i`, from zero on, when there is one call after the other. -/
def resultAt (s : σ) (i : Nat) : Except FetchError α := (call (stateAfter call s i)).1

theorem stateAfter_succ (s : σ) (n : Nat) : stateAfter call s (n + 1) = (call (stateAfter call s n)).2 :=
  Function.iterate_succ_apply' _ n s

/-- A call with up to `n` retries that made `k` of them: result number `k` is returned, the source was
    called `k + 1` times, and the retries are counted. -/
structure Tries (n k : Nat) (w : Retrying σ) (out : Except FetchError α × Retrying σ) : Prop where
  endsAt : EndsAt (resultAt call w.inner) n k
  result : out.1 = resultAt call w.inner k
  inner : out.2.inner = stateAfter call w.inner (k + 1)
  retries : out.2.retries = w.retries + k

variable {call} {n k : Nat} {w : Retrying σ} {out : Except FetchError α × Retrying σ}

/-- A call that returns its first result. -/
theorem Tries.once (h : EndsAt (resultAt call w.inner) n 0) :
    Tries call n 0 w ((call w.inner).1, { w with inner := (call w.inner).2 }) :=
  ⟨h, rfl, rfl, rfl⟩

/-- A call that is made again, after any delay, is the calls after the first one with one retry less. -/
theorem Tries.again {delay : UInt64} (hfirst : ¬IsFinal (call w.inner).1)
    (h : Tries call n k (w.waiting (call w.inner).2 delay) out) : Tries call (n + 1) (k + 1) w out where
  endsAt := .succ hfirst h.endsAt
  result := h.result
  inner := h.inner
  retries := h.retries.trans (Nat.add_right_comm w.retries 1 k)

variable (call)

/-- A final result is returned, however many retries are left. -/
theorem callFrom_of_isFinal (policy : RetryPolicy) (left : Nat) (attempt : UInt32) {w : Retrying σ}
    (h : IsFinal (call w.inner).1) :
    callFrom policy call left attempt w = ((call w.inner).1, { w with inner := (call w.inner).2 }) := by
  cases left with
  | zero => rfl
  | succ left =>
    rw [callFrom]
    rcases hcall : call w.inner with ⟨e | a, inner⟩
    · rw [hcall, isFinal_error_iff] at h
      exact if_neg (Bool.eq_false_iff.mp h)
    · rfl

/-- After a failure that may pass there is a delay, and one retry less. -/
theorem callFrom_of_not_isFinal (policy : RetryPolicy) (left : Nat) (attempt : UInt32) {w : Retrying σ}
    (h : ¬IsFinal (call w.inner).1) :
    callFrom policy call (left + 1) attempt w =
      callFrom policy call left (attempt + 1) (w.waiting (call w.inner).2 (policy.delay attempt)) := by
  rw [callFrom]
  rcases hcall : call w.inner with ⟨e | a, inner⟩
  · rw [hcall, isFinal_error_iff, Bool.not_eq_false] at h
    exact if_pos h
  · rw [hcall] at h
    exact absurd (.ok a) h

/-- A call that notes a path. -/
def noted (path : String) (world : σ × List String) : Except FetchError α × σ × List String :=
  ((call world.1).1, (call world.1).2, world.2 ++ [path])

/-- The state with the paths that were noted. -/
def noting (w : Retrying σ) (log : List String) : Retrying (σ × List String) :=
  ⟨(w.inner, log), w.retries, w.waited⟩

/-- Whatever was tried before, the loop returns the last result that its retries allow for, and notes the
    path once more than it counts retries. -/
theorem tries_callFrom (policy : RetryPolicy) (path : String) (left : Nat) (attempt : UInt32) (w : Retrying σ)
    (log : List String) :
    ∃ k, Tries call left k w (callFrom policy call left attempt w) ∧
      callFrom policy (noted call path) left attempt (w.noting log) =
        ((callFrom policy call left attempt w).1,
          (callFrom policy call left attempt w).2.noting (log ++ List.replicate (k + 1) path)) := by
  induction left generalizing attempt w log with
  | zero => exact ⟨0, .once (.zero _), rfl⟩
  | succ left ih =>
    by_cases hfinal : IsFinal (call w.inner).1
    · rw [callFrom_of_isFinal call policy _ attempt hfinal,
        callFrom_of_isFinal (noted call path) policy _ attempt (w := w.noting log) hfinal]
      exact ⟨0, .once (.of_isFinal _ hfinal), rfl⟩
    · rw [callFrom_of_not_isFinal call policy left attempt hfinal,
        callFrom_of_not_isFinal (noted call path) policy left attempt (w := w.noting log) hfinal]
      obtain ⟨k, hk, hnoted⟩ :=
        ih (attempt + 1) (w.waiting (call w.inner).2 (policy.delay attempt)) (log ++ [path])
      rw [List.append_assoc] at hnoted
      exact ⟨k + 1, hk.again hfinal, hnoted⟩

/-! ### The counter of the loop -/

theorem toNat_add_one {attempt : UInt32} (h : attempt.toNat + 1 < UInt32.size) :
    (attempt + 1).toNat = attempt.toNat + 1 :=
  Nat.mod_eq_of_lt h

/-- The loop with a counter of 32 bits, which is compared with the number of retries: nothing comes out when
    the counter runs over. -/
def callCounting? (policy : RetryPolicy) (attempt : UInt32) (w : Retrying σ) :
    Option (Except FetchError α × Retrying σ) :=
  match call w.inner with
  | (.ok a, inner) => some (.ok a, { w with inner })
  | (.error e, inner) =>
    if e.isTransient = false ∨ policy.maxRetries ≤ attempt then some (.error e, { w with inner })
    else if attempt.toNat + 1 < UInt32.size then
      callCounting? policy (attempt + 1) (w.waiting inner (policy.delay attempt))
    else none
termination_by UInt32.size - attempt.toNat
decreasing_by
  rename_i hsize
  rw [toNat_add_one hsize]
  omega

/-- A result is returned when it is final, or when all retries are used up. -/
theorem callCounting?_of_stops (policy : RetryPolicy) (attempt : UInt32) {w : Retrying σ}
    (h : IsFinal (call w.inner).1 ∨ policy.maxRetries ≤ attempt) :
    callCounting? call policy attempt w = some ((call w.inner).1, { w with inner := (call w.inner).2 }) := by
  rw [callCounting?]
  rcases hcall : call w.inner with ⟨e | a, inner⟩
  · rw [hcall, isFinal_error_iff] at h
    exact if_pos h
  · rfl

/-- Otherwise the counter is raised, if it does not run over. -/
theorem callCounting?_of_goesOn (policy : RetryPolicy) (attempt : UInt32) {w : Retrying σ}
    (h : ¬(IsFinal (call w.inner).1 ∨ policy.maxRetries ≤ attempt))
    (hsize : attempt.toNat + 1 < UInt32.size) :
    callCounting? call policy attempt w =
      callCounting? call policy (attempt + 1) (w.waiting (call w.inner).2 (policy.delay attempt)) := by
  rw [callCounting?]
  rcases hcall : call w.inner with ⟨e | a, inner⟩
  · rw [hcall, isFinal_error_iff] at h
    exact (if_neg h).trans (if_pos hsize)
  · rw [hcall] at h
    exact absurd (.inl (.ok a)) h

/-- The counter and the retries that are left add up to all retries, so it is never above them. -/
theorem callCounting?_eq (policy : RetryPolicy) (left : Nat) (attempt : UInt32) (w : Retrying σ)
    (h : attempt.toNat + left = policy.maxRetries.toNat) :
    callCounting? call policy attempt w = some (callFrom policy call left attempt w) := by
  induction left generalizing attempt w with
  | zero =>
    have hused : policy.maxRetries ≤ attempt := UInt32.le_iff_toNat_le.mpr (Nat.le_of_eq h.symm)
    rw [callCounting?_of_stops call policy attempt (.inr hused)]
    rfl
  | succ left ih =>
    have hleft : ¬policy.maxRetries ≤ attempt := by
      rw [UInt32.le_iff_toNat_le]
      omega
    have hsize : attempt.toNat + 1 < UInt32.size := by
      have hmax := policy.maxRetries.toNat_lt_size
      omega
    have hnext : (attempt + 1).toNat + left = policy.maxRetries.toNat := by
      rw [toNat_add_one hsize]
      omega
    by_cases hfinal : IsFinal (call w.inner).1
    · rw [callCounting?_of_stops call policy attempt (.inl hfinal),
        callFrom_of_isFinal call policy _ attempt hfinal]
    · rw [callCounting?_of_goesOn call policy attempt (not_or.mpr ⟨hfinal, hleft⟩) hsize, ih _ _ hnext,
        callFrom_of_not_isFinal call policy left attempt hfinal]

end Retrying

/-! ### Many requests -/

/-- What a source can be asked for. -/
inductive Ask where
  | listing
  | tmi (request : Request)

/-- What an answer holds. -/
def Ask.Answer : Ask → Type
  | listing => Listing
  | tmi _ => Detail

def Ask.path : Ask → String
  | listing => listingPath
  | tmi request => request.path

namespace Source

/-- One request to a source. -/
def ask (source : Source σ) : (a : Ask) → σ → Except FetchError a.Answer × σ
  | .listing => source.list
  | .tmi request => source.fetch request

/-- The state after requests that are made one after the other. -/
def afterAll (source : Source σ) (asks : List Ask) (s : σ) : σ :=
  asks.foldl (fun s a => (source.ask a s).2) s

theorem ask_retrying (source : Source σ) (policy : RetryPolicy) (a : Ask) :
    (source.retrying policy).ask a = Retrying.call policy (source.ask a) := by
  cases a <;> rfl

theorem ask_recording (source : Source σ) (a : Ask) :
    source.recording.ask a = Retrying.noted (source.ask a) a.path := by
  cases a <;> rfl

end Source

namespace Retrying

variable (policy : RetryPolicy) (source : Source σ)

/-- One request to a source that is asked again: the retries `k` that it costs, and the paths that the
    source is asked for. -/
theorem tries_ask (a : Ask) (w : Retrying σ) (log : List String) :
    ∃ k, Tries (source.ask a) policy.maxRetries.toNat k w ((source.retrying policy).ask a w) ∧
      (source.recording.retrying policy).ask a (w.noting log) =
        (((source.retrying policy).ask a w).1,
          ((source.retrying policy).ask a w).2.noting (log ++ List.replicate (k + 1) a.path)) := by
  rw [Source.ask_retrying, Source.ask_retrying, Source.ask_recording]
  exact tries_callFrom _ policy a.path _ 0 w log

/-- Requests that cost the retries `ks`, one after the other. -/
inductive TriesInTurn : Retrying σ → List Ask → List Nat → Prop
  | nil (w : Retrying σ) : TriesInTurn w [] []
  | cons {w : Retrying σ} {a : Ask} {k : Nat} {asks : List Ask} {ks : List Nat}
      (hfirst : Tries (source.ask a) policy.maxRetries.toNat k w ((source.retrying policy).ask a w))
      (hrest : TriesInTurn ((source.retrying policy).ask a w).2 asks ks) :
      TriesInTurn w (a :: asks) (k :: ks)

/-- The paths of requests that cost the retries `ks`: each once more than it is tried again. -/
def pathsAsked (asks : List Ask) (ks : List Nat) : List String :=
  (asks.zip ks).flatMap fun asked => List.replicate (asked.2 + 1) asked.1.path

/-- A run of requests adds up their retries and their paths. -/
theorem triesInTurn_afterAll (asks : List Ask) (w : Retrying σ) (log : List String) :
    ∃ ks, TriesInTurn policy source w asks ks ∧
      ((source.retrying policy).afterAll asks w).retries = w.retries + ks.sum ∧
      (source.recording.retrying policy).afterAll asks (w.noting log) =
        ((source.retrying policy).afterAll asks w).noting (log ++ pathsAsked asks ks) := by
  induction asks generalizing w log with
  | nil => exact ⟨[], .nil w, rfl, congrArg w.noting (List.append_nil log).symm⟩
  | cons a asks ih =>
    obtain ⟨k, hfirst, hnoted⟩ := tries_ask policy source a w log
    obtain ⟨ks, hrest, hretries, hpaths⟩ :=
      ih ((source.retrying policy).ask a w).2 (log ++ List.replicate (k + 1) a.path)
    refine ⟨k :: ks, .cons hfirst hrest, ?_, ?_⟩
    · rw [Source.afterAll, List.foldl_cons, ← Source.afterAll, hretries, hfirst.retries, List.sum_cons,
        Nat.add_assoc]
    · rw [Source.afterAll, List.foldl_cons, ← Source.afterAll, hnoted, hpaths, List.append_assoc]
      rfl

/-- How a source is asked again, whatever its answers are. -/
structure RetriesExactly : Prop where
  /-- One request: which result is returned, how many calls it takes, and which paths are asked for. -/
  tries : ∀ (a : Ask) (w : Retrying σ) (log : List String), ∃! k,
    Tries (source.ask a) policy.maxRetries.toNat k w ((source.retrying policy).ask a w) ∧
      ((source.recording.retrying policy).ask a (w.noting log)).2.inner.2 =
        log ++ List.replicate (k + 1) a.path
  accumulates : ∀ (asks : List Ask) (w : Retrying σ) (log : List String), ∃ ks,
    TriesInTurn policy source w asks ks ∧
      ((source.retrying policy).afterAll asks w).retries = w.retries + ks.sum ∧
      ((source.recording.retrying policy).afterAll asks (w.noting log)).inner.2 = log ++ pathsAsked asks ks
  /-- The counter of the loop never runs over. -/
  counts : ∀ (a : Ask) (w : Retrying σ),
    callCounting? (source.ask a) policy 0 w = some ((source.retrying policy).ask a w)

theorem retriesExactly_ask : RetriesExactly policy source where
  tries a w log := by
    obtain ⟨k, hk, hnoted⟩ := tries_ask policy source a w log
    exact ⟨k, ⟨hk, by rw [hnoted]; rfl⟩, fun k' hk' => hk'.1.endsAt.unique hk.endsAt⟩
  accumulates asks w log := by
    obtain ⟨ks, hks, hretries, hpaths⟩ := triesInTurn_afterAll policy source asks w log
    exact ⟨ks, hks, hretries, by rw [hpaths]; rfl⟩
  counts a w := by
    rw [Source.ask_retrying]
    exact callCounting?_eq _ policy _ 0 w (Nat.zero_add _)

/-- A source that gives the results of a sequence: its state tells how many there were. -/
theorem resultAt_sequence (results : Nat → Except FetchError α) :
    resultAt (fun i => (results i, i + 1)) 0 = results := by
  refine funext fun i => congrArg results ?_
  induction i with
  | zero => rfl
  | succ i ih => rw [stateAfter_succ, ih]

/-- With any number of retries and over any source, each request takes the calls up to the first final
    result, or one more than there are retries; and there is a source for any sequences of results. -/
theorem retriesExactly :
    (∀ {σ : Type} (policy : RetryPolicy) (source : Source σ), RetriesExactly policy source) ∧
      ∀ (listings : Nat → Except FetchError Listing) (details : Request → Nat → Except FetchError Detail),
        ∃ source : Source Nat, resultAt source.list 0 = listings ∧
          ∀ request, resultAt (source.fetch request) 0 = details request := by
  refine ⟨fun policy source => retriesExactly_ask policy source, fun listings details => ?_⟩
  exact ⟨⟨fun i => (listings i, i + 1), fun request i => (details request i, i + 1)⟩,
    resultAt_sequence listings, fun request => resultAt_sequence (details request)⟩

end Retrying

end TrustReplica
