import Mathlib
import TrustReplica.Json.Basic

/-! Whole numbers of 64 bits become finite floats. A float is finite when its exponent is not the largest
    one, and an unpacked number whose exponent fits (`Fits`) is packed into such a float. Rounding keeps a
    number far below the range where it would not fit; so the float nearest to any number of a JSON text
    is finite (`Number.toFloat_isFinite`). -/

namespace TrustReplica

open Float.Model Float.Model.UnpackedFloat

variable {spec : Format}

/-- Whether the exponent of an unpacked number fits a format, so that packing it does not overflow. -/
def Fits (spec : Format) : UnpackedFloat → Prop
  | .zero _ => True
  | .finite _ _ e _ =>
    (e + spec.exponentBias + spec.mantissaBitsWithoutImplicit).toNat + 1 < 2 ^ spec.exponentBits
  | _ => False

/-! ### Packing -/

theorem unpack_isFinite_iff (b : BitVec spec.numBits) :
    (UnpackedFloat.unpack spec b).isFinite = true ↔ unpackExponent b ≠ -1#_ := by
  simp only [UnpackedFloat.unpack]
  split_ifs <;> simp_all [UnpackedFloat.isFinite]

theorem unpackExponent_pack {f : UnpackedFloat} (hf : Fits spec f) :
    unpackExponent (UnpackedFloat.pack spec f) ≠ -1#_ := by
  have hpos := spec.he
  fun_cases UnpackedFloat.pack spec f with
  | case1 => exact hf.elim
  | case2 s => exact hf.elim
  | case3 s => simp [packedZero, hpos.ne']
  | case4 s m e hm biased h => simp only [Fits] at hf; omega
  | case5 s m e hm bits biased h₁ h₂ =>
    have hlt : biased < 2 ^ spec.exponentBits - 1 := by simp only [Fits] at hf; omega
    simp only [unpackExponent_packComponents, BitVec.neg_one_eq_allOnes, ne_eq, ← BitVec.toNat_inj,
      BitVec.toNat_ofNat, BitVec.toNat_allOnes]
    rw [Nat.mod_eq_of_lt (by omega)]
    omega
  | case6 s m e hm bits biased h₁ h₂ => simp [hpos.ne']

theorem pack_isFinite {f : UnpackedFloat} (hf : Fits Format.binary64 f) :
    (Float.ofModel (Float.Model.pack f)).isFinite = true :=
  (unpack_isFinite_iff _).mpr (unpackExponent_pack hf)

/-- What a finite float is unpacked to fits the format it came from. -/
theorem fits_unpack (h2 : 2 ≤ spec.exponentBits) {b : BitVec spec.numBits}
    (h : unpackExponent b ≠ -1#_) : Fits spec (UnpackedFloat.unpack spec b) := by
  have hlt : (unpackExponent b).toNat < 2 ^ spec.exponentBits - 1 := by
    have hne : (unpackExponent b).toNat ≠ 2 ^ spec.exponentBits - 1 := by
      intro he
      exact h (by rw [← BitVec.toNat_inj, he, BitVec.neg_one_eq_allOnes, BitVec.toNat_allOnes])
    have := (unpackExponent b).isLt
    omega
  simp only [UnpackedFloat.unpack, if_neg h]
  split_ifs with hz hm
  · trivial
  · have h4 : 2 ^ 2 ≤ 2 ^ spec.exponentBits := Nat.pow_le_pow_right (by norm_num) h2
    simp only [Fits, hz, BitVec.toNat_zero]
    omega
  · simp only [Fits]
    omega

theorem fits_neg {f : UnpackedFloat} (hf : Fits spec f) : Fits spec f.neg := by
  cases f with
  | zero s => trivial
  | finite s m e hm => exact hf
  | infinity s => exact hf
  | notANumber => exact hf

/-! ### Rounding -/

theorem mantissa_shiftRight_le (em : ExtendedMantissa) (n : ℕ) :
    (em >>> n).mantissa ≤ em.mantissa := by
  induction n with
  | zero => exact le_refl _
  | succ n ih => exact le_trans (Nat.div_le_self _ 2) ih

theorem roundedMantissa_le (em : ExtendedMantissa) : em.roundedMantissa ≤ em.mantissa + 1 := by
  obtain ⟨m, _ | _, _ | _⟩ := em
  · exact Nat.le_succ m
  · exact Nat.le_succ m
  · have := Nat.mod_lt m (y := 2) (by norm_num)
    change m + m % 2 ≤ m + 1
    omega
  · exact le_refl _

theorem log2_le_of_lt {n k : ℕ} (h : n < 2 ^ (k + 1)) : n.log2 ≤ k := by
  rcases eq_or_ne n 0 with rfl | hn
  · simp
  · exact Nat.lt_succ_iff.mp ((Nat.log2_lt hn).mpr h)

theorem shiftToTargetExponent_le {m k : ℕ} {e : ℤ} {a : Accuracy} (hm : m < 2 ^ (k + 1)) :
    (shiftToTargetExponent Format.binary64 m e a).2 ≤ max e (max (k + e - 52) 0) := by
  have hlog := log2_le_of_lt hm
  have h1 : Format.binary64.minExponent ≤ 0 := by decide
  have h2 : (Format.binary64.mantissaBits : ℤ) = 53 := by decide
  simp only [shiftToTargetExponent, shiftToExponent, Format.targetExponent, totalExponent, h2]
  omega

/-- Rounding takes a number to its target exponent twice, and a mantissa grows by one at most. -/
theorem fits_roundWithAccuracy {m : ℕ} {e : ℤ} (s : Sign) (hm : m < 2 ^ 200) (he : e ≤ 100) :
    Fits Format.binary64 (roundWithAccuracy Format.binary64 s m e .exact) := by
  have hle : (shiftToTargetExponent Format.binary64 m e .exact).1.mantissa ≤ m :=
    mantissa_shiftRight_le _ _
  have h1 := shiftToTargetExponent_le (k := 199) (e := e) (a := .exact) hm
  unfold roundWithAccuracy
  generalize shiftToTargetExponent Format.binary64 m e .exact = first at hle h1 ⊢
  have hmant : first.1.roundedMantissa < 2 ^ (200 + 1) := by
    have := roundedMantissa_le first.1
    omega
  have h2 := shiftToTargetExponent_le (e := first.2) (a := .exact) hmant
  have hbias : (Format.binary64.exponentBias : ℤ) = 1023 := by decide
  simp only
  split_ifs
  · trivial
  · simp only [Fits, hbias]
    omega

theorem fits_round {m : ℕ} (s : Sign) (hm : m < 2 ^ 64) :
    Fits Format.binary64 (UnpackedFloat.round Format.binary64 s m 0) := by
  have hmin : Format.binary64.minExponent = -1074 := by decide
  have hbits : (Format.binary64.mantissaBits : ℤ) = 53 := by decide
  have hshift : (0 - Format.binary64.targetExponent (totalExponent m 0)).toNat ≤ 52 := by
    simp only [Format.targetExponent, totalExponent, hmin, hbits]
    omega
  simp only [UnpackedFloat.round, decreaseExponent]
  refine fits_roundWithAccuracy s ?_ (by omega)
  rw [Nat.shiftLeft_eq]
  calc m * 2 ^ (0 - Format.binary64.targetExponent (totalExponent m 0)).toNat
      ≤ m * 2 ^ 52 := Nat.mul_le_mul_left m (Nat.pow_le_pow_right (by norm_num) hshift)
    _ < 2 ^ 200 := by omega

/-! ### Numbers -/

theorem toFloat_isFinite (n : UInt64) : n.toFloat.isFinite = true := by
  have hn : n.toNat < 2 ^ 64 := n.toNat_lt
  refine pack_isFinite ?_
  change Fits Format.binary64 (UnpackedFloat.normalize Format.binary64 n.toNat 0 .positive)
  unfold UnpackedFloat.normalize
  cases compare (n.toNat : ℤ) 0 with
  | lt => exact fits_round _ (by omega)
  | eq => trivial
  | gt => exact fits_round _ (by omega)

theorem neg_isFinite {x : Float} (h : x.isFinite = true) : (-x).isFinite = true :=
  pack_isFinite (fits_neg (fits_unpack (by decide) ((unpack_isFinite_iff _).mp h)))

/-- A number of a JSON text becomes a finite float, however it is written. -/
theorem Number.toFloat_isFinite (n : Number) : n.toFloat.isFinite = true := by
  cases n with
  | natural n => exact TrustReplica.toFloat_isFinite n
  | negative n _ => exact neg_isFinite (TrustReplica.toFloat_isFinite _)
  | float x hx => exact hx

end TrustReplica
