import Mathlib.Algebra.Ring.Nat
import Mathlib.Data.List.Induction
import Mathlib.Order.Monotone.Basic
import TrustReplica.Settings.Validity
import TrustReplica.Stream.Backoff

/-! Delays between attempts to connect, after any calls. Delay number `m` since the last reset is the initial
    one doubled `m` times and cut at the largest delay, but for the first, which is not cut
    (`Backoff.after_eq`); so no delay has more milliseconds than 64 bits hold. Such a delay can be doubled in
    seconds of 64 bits and nanoseconds of 32 bits, where each step is checked (`Duration.Words`), and the
    run in words is the run in numbers. -/

namespace TrustReplica

/-! ### Durations in words -/

namespace Duration

/-- The nanoseconds of milliseconds that do not make up a second. -/
theorem toNat_nanosOfMillis (n : UInt64) :
    ((n % 1000).toUInt32 * 1000000).toNat = n.toNat % 1000 * 1000000 := by
  have hbelow : n.toNat % 1000 < 1000 := Nat.mod_lt _ (by decide)
  rw [UInt32.toNat_mul, UInt64.toNat_toUInt32, UInt64.toNat_mod]
  change n.toNat % 1000 % 2 ^ 32 * 1000000 % 2 ^ 32 = _
  omega

theorem toNat_twice (nanos : UInt32) : (nanos.toUInt64 * 2).toNat = nanos.toNat * 2 := by
  have hbelow := nanos.toNat_lt
  rw [UInt64.toNat_mul, UInt32.toNat_toUInt64]
  exact Nat.mod_eq_of_lt (by change _ * 2 < _; omega)

/-- The nanoseconds of a double that do not make up a second. -/
theorem toNat_rest (nanos : UInt32) :
    (nanos.toUInt64 * 2 % 1000000000).toUInt32.toNat = nanos.toNat * 2 % 1000000000 := by
  have hbelow : nanos.toNat * 2 % 1000000000 < 1000000000 := Nat.mod_lt _ (by decide)
  rw [UInt64.toNat_toUInt32, UInt64.toNat_mod, toNat_twice]
  exact Nat.mod_eq_of_lt (Nat.lt_trans hbelow (by decide))

/-- The second of a double that is carried. -/
theorem toNat_carried (nanos : UInt32) :
    (nanos.toUInt64 * 2 / 1000000000).toNat = nanos.toNat * 2 / 1000000000 := by
  rw [UInt64.toNat_div, toNat_twice]
  rfl

/-- A duration as seconds of 64 bits and nanoseconds of 32 bits, which do not make up a second. -/
structure Words where
  seconds : UInt64
  nanos : UInt32
  nanos_lt : nanos.toNat < 1000000000

namespace Words

def toDuration (d : Words) : Duration := ⟨d.seconds.toNat * 1000000000 + d.nanos.toNat⟩

/-- A number of milliseconds. -/
def ofMillis (n : UInt64) : Words where
  seconds := n / 1000
  nanos := (n % 1000).toUInt32 * 1000000
  nanos_lt := by
    rw [toNat_nanosOfMillis]
    omega

/-- Twice a duration; nothing if the seconds run over, before the carried one is added or with it. -/
def double? (d : Words) : Option Words :=
  let total := d.nanos.toUInt64 * 2
  let carried := total / 1000000000
  if d.seconds.toNat * 2 < UInt64.size ∧ (d.seconds * 2).toNat + carried.toNat < UInt64.size then
    some ⟨d.seconds * 2 + carried, (total % 1000000000).toUInt32, by rw [toNat_rest]; omega⟩
  else none

/-- The shorter of two durations, by the seconds and then by the nanoseconds. -/
def shorter (a b : Words) : Words :=
  if a.seconds < b.seconds ∨ (a.seconds = b.seconds ∧ a.nanos ≤ b.nanos) then a else b

theorem toDuration_ofMillis (n : UInt64) : (ofMillis n).toDuration = Duration.ofMillis n.toNat := by
  have hseconds : (n / 1000).toNat = n.toNat / 1000 := UInt64.toNat_div n 1000
  rw [toDuration, ofMillis, hseconds, toNat_nanosOfMillis, Duration.ofMillis]
  exact congrArg Duration.mk (by omega)

/-- The order by seconds and nanoseconds is that of the durations. -/
theorem toDuration_shorter (a b : Words) :
    (a.shorter b).toDuration = a.toDuration.shorter b.toDuration := by
  have ha := a.nanos_lt
  have hb := b.nanos_lt
  have horder : (a.seconds < b.seconds ∨ (a.seconds = b.seconds ∧ a.nanos ≤ b.nanos)) ↔
      a.toDuration.nanos ≤ b.toDuration.nanos := by
    rw [UInt64.lt_iff_toNat_lt, ← UInt64.toNat_inj, UInt32.le_iff_toNat_le, toDuration, toDuration]
    constructor
    · rintro (hlt | ⟨heq, hle⟩) <;> simp only <;> omega
    · simp only
      omega
  rw [shorter, Duration.shorter, apply_ite toDuration]
  exact if_congr horder rfl rfl

/-- A duration of fewer than `2 ^ 63` seconds can be doubled. -/
theorem exists_double? (d : Words) (h : d.toDuration.nanos * 2 < UInt64.size * 1000000000) :
    ∃ d', d.double? = some d' ∧ d'.toDuration = d.toDuration.double := by
  have hsum : (d.seconds.toNat * 1000000000 + d.nanos.toNat) * 2 < UInt64.size * 1000000000 := h
  have hproduct : d.seconds.toNat * 2 < UInt64.size := by omega
  have hseconds : (d.seconds * 2).toNat = d.seconds.toNat * 2 := Nat.mod_eq_of_lt hproduct
  have hcarried : (d.seconds * 2).toNat + (d.nanos.toUInt64 * 2 / 1000000000).toNat < UInt64.size := by
    rw [hseconds, toNat_carried]
    omega
  refine ⟨_, if_pos ⟨hproduct, hcarried⟩, ?_⟩
  rw [toDuration, UInt64.toNat_add, Nat.mod_eq_of_lt hcarried, hseconds, toNat_carried, toNat_rest,
    toDuration, Duration.double]
  exact congrArg Duration.mk (by simp only; omega)

end Words

theorem double_ofMillis (n : Nat) : (ofMillis n).double = ofMillis (n * 2) :=
  congrArg mk (Nat.mul_right_comm n 1000000 2)

theorem shorter_ofMillis (a b : Nat) : (ofMillis a).shorter (ofMillis b) = ofMillis (min a b) := by
  have horder : (ofMillis a).nanos ≤ (ofMillis b).nanos ↔ a ≤ b :=
    Nat.mul_le_mul_right_iff (by decide)
  rw [shorter, Nat.min_def, apply_ite ofMillis]
  exact if_congr horder rfl rfl

end Duration

/-! ### After any calls -/

namespace Backoff

/-- What a backoff is called for. -/
inductive Call where
  | next
  | reset
deriving DecidableEq

/-- The delays after a call. -/
def perform (b : Backoff) : Call → Backoff
  | .next => b.next.2
  | .reset => b.reset

/-- The delays after calls, one after the other. -/
def after (b : Backoff) (calls : List Call) : Backoff := calls.foldl perform b

/-- How many delays there were since the last reset. -/
def sinceReset (calls : List Call) : Nat := (calls.reverse.takeWhile (· = .next)).length

theorem sinceReset_next (calls : List Call) : sinceReset (calls ++ [.next]) = sinceReset calls + 1 := by
  rw [sinceReset, List.reverse_concat, List.takeWhile_cons_of_pos (by decide)]
  rfl

theorem sinceReset_reset (calls : List Call) : sinceReset (calls ++ [.reset]) = 0 := by
  rw [sinceReset, List.reverse_concat, List.takeWhile_cons_of_neg (by decide)]
  rfl

theorem after_concat (b : Backoff) (calls : List Call) (c : Call) :
    b.after (calls ++ [c]) = (b.after calls).perform c := by
  rw [after, List.foldl_append]
  rfl

/-- The milliseconds of delay number `m`, from zero on. -/
def millisAt (initial max : UInt64) (m : Nat) : Nat :=
  if m = 0 then initial.toNat else min (initial.toNat * 2 ^ m) max.toNat

variable (initial max : UInt64)

/-- One call of `next` doubles the delay and cuts it. -/
theorem millisAt_succ (m : Nat) :
    millisAt initial max (m + 1) = min (millisAt initial max m * 2) max.toNat := by
  rw [millisAt, if_neg m.succ_ne_zero, Nat.pow_succ, ← Nat.mul_assoc, millisAt]
  split_ifs with hm
  · rw [hm, Nat.pow_zero, Nat.mul_one]
  · omega

/-- No delay has more milliseconds than a word holds. -/
theorem millisAt_lt (m : Nat) : millisAt initial max m < UInt64.size := by
  cases m with
  | zero => exact initial.toNat_lt_size
  | succ m =>
    rw [millisAt_succ]
    exact Nat.lt_of_le_of_lt (Nat.min_le_right ..) max.toNat_lt_size

/-- The delays of numbers of milliseconds. -/
def ofMillis : Backoff := start (.ofMillis initial.toNat) (.ofMillis max.toNat)

theorem after_eq (calls : List Call) :
    (ofMillis initial max).after calls =
      ⟨.ofMillis initial.toNat, .ofMillis max.toNat,
        .ofMillis (millisAt initial max (sinceReset calls))⟩ := by
  induction calls using List.reverseRecOn with
  | nil => rfl
  | append_singleton calls c ih =>
    rw [after_concat, ih]
    cases c with
    | next =>
      rw [sinceReset_next, millisAt_succ, ← Duration.shorter_ofMillis, ← Duration.double_ofMillis]
      rfl
    | reset => rw [sinceReset_reset]; rfl

/-! ### The same in words -/

/-- The delays to come, in words. -/
structure Words where
  initial : Duration.Words
  max : Duration.Words
  current : Duration.Words

namespace Words

def toBackoff (b : Words) : Backoff := ⟨b.initial.toDuration, b.max.toDuration, b.current.toDuration⟩

/-- The delays of numbers of milliseconds. -/
def ofMillis (initial max : UInt64) : Words := ⟨.ofMillis initial, .ofMillis max, .ofMillis initial⟩

/-- The delays after a call; nothing if a word runs over. -/
def perform? (b : Words) : Call → Option Words
  | .next => b.current.double?.map fun doubled => { b with current := doubled.shorter b.max }
  | .reset => some { b with current := b.initial }

/-- The delays after calls, if no word runs over. -/
def after? (b : Words) (calls : List Call) : Option Words := calls.foldlM perform? b

/-- A call in words is the call in numbers, as long as the delay can be doubled. -/
theorem exists_perform? (b : Words) (c : Call)
    (h : b.toBackoff.current.nanos * 2 < UInt64.size * 1000000000) :
    ∃ b', b.perform? c = some b' ∧ b'.toBackoff = b.toBackoff.perform c := by
  cases c with
  | next =>
    obtain ⟨doubled, hdouble, hdoubled⟩ := b.current.exists_double? h
    refine ⟨{ b with current := doubled.shorter b.max }, congrArg (Option.map _) hdouble, ?_⟩
    rw [toBackoff, Duration.Words.toDuration_shorter, hdoubled]
    rfl
  | reset => exact ⟨_, rfl, rfl⟩

theorem exists_after? (calls : List Call) :
    ∃ b, (ofMillis initial max).after? calls = some b ∧
      b.toBackoff = (Backoff.ofMillis initial max).after calls := by
  induction calls using List.reverseRecOn with
  | nil =>
    refine ⟨_, rfl, ?_⟩
    rw [toBackoff, ofMillis, Duration.Words.toDuration_ofMillis, Duration.Words.toDuration_ofMillis]
    rfl
  | append_singleton calls c ih =>
    obtain ⟨b, hrun, hb⟩ := ih
    have hbound : b.toBackoff.current.nanos * 2 < UInt64.size * 1000000000 := by
      have hmillis := millisAt_lt initial max (sinceReset calls)
      have hnanos : b.toBackoff.current.nanos = millisAt initial max (sinceReset calls) * 1000000 := by
        rw [hb, after_eq]
        rfl
      omega
    obtain ⟨b', hcall, hb'⟩ := b.exists_perform? c hbound
    refine ⟨b', ?_, by rw [hb', hb, after_concat]⟩
    rw [after?, List.foldlM_append, ← after?, hrun, ← hcall]
    exact bind_pure (b.perform? c)

end Words

/-- How the delays go on from numbers of milliseconds. -/
structure FollowsFormula : Prop where
  delay : ∀ calls, ((ofMillis initial max).after calls).next.1 =
    .ofMillis (if sinceReset calls = 0 then initial.toNat
      else min (initial.toNat * 2 ^ sinceReset calls) max.toNat)
  /-- No step in words runs over, and the words are those of the delays. -/
  inWords : ∀ calls, ∃ b, (Words.ofMillis initial max).after? calls = some b ∧
    b.toBackoff = (ofMillis initial max).after calls

theorem followsFormula : FollowsFormula initial max where
  delay calls := by
    rw [after_eq]
    rfl
  inWords := Words.exists_after? initial max

/-! ### Valid settings -/

theorem sinceReset_replicate (calls : List Call) (n : Nat) :
    sinceReset (calls ++ List.replicate n .next) = sinceReset calls + n := by
  induction n with
  | zero => rw [List.replicate_zero, List.append_nil, Nat.add_zero]
  | succ n ih => rw [List.replicate_succ', ← List.append_assoc, sinceReset_next, ih, Nat.add_assoc]

variable {initial max} (h : initial ≤ max)
include h

/-- When the initial delay is not above the largest one, no delay is. -/
theorem millisAt_le (m : Nat) : millisAt initial max m ≤ max.toNat := by
  cases m with
  | zero => exact UInt64.le_iff_toNat_le.mp h
  | succ m =>
    rw [millisAt_succ]
    exact Nat.min_le_right ..

theorem monotone_millisAt : Monotone (millisAt initial max) := by
  refine monotone_nat_of_le_succ fun m => ?_
  have hcut := millisAt_le h m
  rw [millisAt_succ]
  omega

end Backoff

namespace Settings

/-- The delays between attempts to connect. -/
def backoff (s : Settings) : Backoff := .ofMillis s.reconnect.initialDelay s.reconnect.maxDelay

/-- Valid settings have an initial delay up to the largest one: it is the last fault that is looked for. -/
theorem initialDelay_le_of_validate {s : Settings} (h : s.validate = .ok s) :
    s.reconnect.initialDelay ≤ s.reconnect.maxDelay := by
  rw [validate] at h
  have hfault : s.fault? = none := by
    cases hs : s.fault? with
    | none => rfl
    | some fault =>
      rw [hs] at h
      cases h
  rw [fault?] at hfault
  by_contra hwindow
  rw [UInt64.not_le] at hwindow
  rw [if_pos hwindow] at hfault
  split_ifs at hfault

/-- Delays in closed form, without overflow; between two resets of a program with valid settings they never
    decrease, and they are never above the largest one. -/
theorem followsFormula_and_staysWithin :
    (∀ initial max : UInt64, Backoff.FollowsFormula initial max) ∧
      ∀ s : Settings, s.validate = .ok s → ∀ (calls : List Backoff.Call) (n : Nat),
        (s.backoff.after calls).next.1.nanos ≤ (Duration.ofMillis s.reconnect.maxDelay.toNat).nanos ∧
          (s.backoff.after calls).next.1.nanos ≤
            (s.backoff.after (calls ++ List.replicate n .next)).next.1.nanos := by
  refine ⟨Backoff.followsFormula, fun s hvalid calls n => ?_⟩
  have hwindow := initialDelay_le_of_validate hvalid
  rw [backoff, Backoff.after_eq, Backoff.after_eq, Backoff.sinceReset_replicate]
  refine ⟨Nat.mul_le_mul_right _ (Backoff.millisAt_le hwindow _), Nat.mul_le_mul_right _ ?_⟩
  exact Backoff.monotone_millisAt hwindow (Nat.le_add_right _ n)

/-- With the defaults the fourth delay since a reset is eight seconds; four delays later it is no shorter,
    and no longer than the largest one. -/
theorem followsFormula_and_staysWithin_default :
    let calls : List Backoff.Call := .reset :: List.replicate 3 .next
    default.validate = .ok default ∧ (default.backoff.after calls).next.1 = .ofMillis 8000 ∧
      (default.backoff.after calls).next.1.nanos ≤
        (default.backoff.after (calls ++ List.replicate 4 .next)).next.1.nanos ∧
      (default.backoff.after (calls ++ List.replicate 4 .next)).next.1.nanos ≤
        (Duration.ofMillis default.reconnect.maxDelay.toNat).nanos := by
  intro calls
  have hvalid : default.validate = .ok default := rfl
  have hwithin := followsFormula_and_staysWithin.2 default hvalid
  have hlater := (hwithin (calls ++ List.replicate 4 .next) 0).1
  exact ⟨hvalid, rfl, (hwithin calls 4).2, hlater⟩

end Settings

end TrustReplica
