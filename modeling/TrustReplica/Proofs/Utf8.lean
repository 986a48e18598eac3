import Mathlib.Tactic
import TrustReplica.Text.Hexadecimal

/-! Texts and their bytes in UTF-8. A text is the only one that its bytes encode
    (`ofBytes?_eq_some_iff`), and texts are ordered as their bytes are (`precedesInBytes_iff`): of two
    characters the larger one has the larger bytes, whatever follows, since the first digit to base 64 that
    differs decides and a longer encoding begins with a larger byte. -/

namespace TrustReplica.Text

theorem toBytes_eq_flatMap (s : String) : toBytes s = s.toList.flatMap String.utf8EncodeChar := by
  have h : s.toByteArray = s.toList.utf8Encode := String.utf8Encode_toList.symm
  rw [toBytes, String.toUTF8_eq_toByteArray, h, List.utf8Encode]
  simp

theorem length_toBytes (s : String) : (toBytes s).length = s.utf8ByteSize := by
  rw [toBytes, String.toUTF8_eq_toByteArray, Array.length_toList]
  exact String.size_toByteArray

/-- Bytes encode a text just if they are its bytes. -/
theorem ofBytes?_eq_some_iff {bytes : List UInt8} {s : String} :
    ofBytes? bytes = some s ↔ toBytes s = bytes := by
  rw [ofBytes?, String.fromUTF8?]
  constructor
  · intro h
    split_ifs at h with hvalid
    rw [← Option.some_inj.mp h]
    rfl
  · rintro rfl
    have hs : (⟨(toBytes s).toArray⟩ : ByteArray) = s.toByteArray := by simp [toBytes]
    rw [hs, dif_pos s.isValidUTF8]
    rfl

theorem toBytes_inj {s t : String} (h : toBytes s = toBytes t) : s = t := by
  have hs : ofBytes? (toBytes s) = some s := ofBytes?_eq_some_iff.mpr rfl
  have ht : ofBytes? (toBytes s) = some t := ofBytes?_eq_some_iff.mpr h.symm
  exact Option.some_inj.mp (hs.symm.trans ht)

/-! ### Order -/

/-- A text comes before another one when their bytes are compared one after the other. -/
def PrecedesInBytes (s t : String) : Prop := List.Lex (· < ·) (toBytes s) (toBytes t)

theorem utf8EncodeChar_append_lt {c d : Char} (h : c < d) (x y : List UInt8) :
    List.Lex (· < ·) (String.utf8EncodeChar c ++ x) (String.utf8EncodeChar d ++ y) := by
  have hlt : c.val.toNat < d.val.toNat := h
  have hd : d.val.toNat < 0x110000 := by
    rcases d.valid with hvalid | hvalid <;> omega
  change String.utf8EncodeChar c ++ x < String.utf8EncodeChar d ++ y
  simp only [String.utf8EncodeChar]
  generalize c.val.toNat = m at hlt
  generalize d.val.toNat = n at hlt hd
  -- the first digit to base 64 that differs decides, if both encodings are of one length
  have hdigits : m / 262144 < n / 262144 ∨ m / 262144 = n / 262144 ∧ (m / 4096 < n / 4096 ∨
      m / 4096 = n / 4096 ∧ (m / 64 < n / 64 ∨ m / 64 = n / 64 ∧ m % 64 < n % 64)) := by omega
  rcases hdigits with h | ⟨_, h | ⟨_, h | ⟨_, h⟩⟩⟩ <;> split_ifs <;>
    simp only [List.cons_append, List.nil_append, List.cons_lt_cons_iff, UInt8.lt_iff_toNat_lt,
      ← UInt8.toNat_inj, UInt8.toNat_ofNat'] <;> omega

theorem flatMap_utf8EncodeChar_lt {cs ds : List Char} (h : cs < ds) :
    List.Lex (· < ·) (cs.flatMap String.utf8EncodeChar) (ds.flatMap String.utf8EncodeChar) := by
  induction cs generalizing ds with
  | nil =>
    cases ds with
    | nil => exact absurd h (List.lt_irrefl [])
    | cons d ds =>
      rw [List.flatMap_cons]
      cases hd : String.utf8EncodeChar d with
      | nil => exact absurd hd String.utf8EncodeChar_ne_nil
      | cons b bytes => exact List.Lex.nil
  | cons c cs ih =>
    cases ds with
    | nil => exact absurd h (List.not_lt_nil _)
    | cons d ds =>
      rw [List.flatMap_cons, List.flatMap_cons]
      rcases List.cons_lt_cons_iff.mp h with hcd | ⟨rfl, hrest⟩
      · exact utf8EncodeChar_append_lt hcd _ _
      · exact List.append_left_lt (ih hrest)

/-- Texts are ordered as their bytes are. -/
theorem precedesInBytes_iff {s t : String} : PrecedesInBytes s t ↔ s < t := by
  have hmono {s t : String} (h : s < t) : PrecedesInBytes s t := by
    rw [PrecedesInBytes, toBytes_eq_flatMap, toBytes_eq_flatMap]
    exact flatMap_utf8EncodeChar_lt h
  refine ⟨fun h => ?_, hmono⟩
  have hbytes : toBytes s < toBytes t := h
  by_contra hst
  by_cases hts : t < s
  · have hback : toBytes t < toBytes s := hmono hts
    exact absurd (List.lt_trans hbytes hback) (List.lt_irrefl _)
  · obtain rfl : s = t := String.le_antisymm (String.not_lt.mp hts) (String.not_lt.mp hst)
    exact absurd hbytes (List.lt_irrefl _)

theorem precedesInBytes_of_compare {s t : String} (h : compare s t = .lt) : PrecedesInBytes s t :=
  precedesInBytes_iff.mpr (compareOfLessAndEq_eq_lt.mp h)

end TrustReplica.Text
