import TrustReplica.Proofs.Utf8
import TrustReplica.Url.Percent

/-! Percent encoding and the segments of a path. What is encoded is decoded to the same text, if percent
    signs are encoded too (`decodeText?_percentEncode`). Decoding makes no text longer, and one that keeps
    its length is not changed at all (`eq_of_decodeText?_of_le`). So every text is written by a segment of a
    path (`writes_segmentFor`), though only a plain one is written by itself. -/

namespace TrustReplica.Url

open Text

/-! ### Decoding undoes encoding -/

theorem percentDecode_cons_of_ne {b : UInt8} (h : b ≠ 0x25) (bytes : List UInt8) :
    percentDecode (b :: bytes) = b :: percentDecode bytes := by
  rcases bytes with _ | ⟨b', _ | ⟨b'', bytes⟩⟩
  · rfl
  · rfl
  · rw [percentDecode, if_neg h]

/-- A digit is one byte, and is read as the value that it writes. -/
theorem hexValue?_upperHexDigit {n : Nat} (h : n < 16) : ∃ b : UInt8,
    String.utf8EncodeChar (upperHexDigit n) = [b] ∧ hexValue? (Char.ofNat b.toNat) = some n := by
  interval_cases n <;> exact ⟨_, rfl, by decide⟩

/-- The encoding of a byte is decoded to the byte. -/
theorem percentDecode_percentByte (b : UInt8) (bytes : List UInt8) :
    percentDecode ((percentByte b).flatMap String.utf8EncodeChar ++ bytes) = b :: percentDecode bytes := by
  have hb : b.toNat < 256 := b.toNat_lt
  obtain ⟨high, hhigh, hhighValue⟩ := hexValue?_upperHexDigit (n := b.toNat / 16) (by omega)
  obtain ⟨low, hlow, hlowValue⟩ := hexValue?_upperHexDigit (n := b.toNat % 16) (by omega)
  have hpercent : String.utf8EncodeChar '%' = [0x25] := rfl
  have hvalue : b.toNat / 16 * 16 + b.toNat % 16 = b.toNat := Nat.div_add_mod' _ _
  have hbytes : (percentByte b).flatMap String.utf8EncodeChar = [0x25, high, low] := by
    rw [percentByte, List.flatMap_cons, List.flatMap_cons, List.flatMap_cons, List.flatMap_nil, hpercent,
      hhigh, hlow]
    rfl
  rw [hbytes, List.cons_append, List.cons_append, List.cons_append, List.nil_append, percentDecode,
    if_pos rfl]
  simp only [hhighValue, hlowValue, hvalue, UInt8.ofNat_toNat]

theorem percentDecode_flatMap_percentByte (encoded bytes : List UInt8) :
    percentDecode ((encoded.flatMap percentByte).flatMap String.utf8EncodeChar ++ bytes) =
      encoded ++ percentDecode bytes := by
  induction encoded with
  | nil => rfl
  | cons b encoded ih =>
    rw [List.flatMap_cons, List.flatMap_append, List.append_assoc, percentDecode_percentByte, ih]
    rfl

variable {reserved : Char → Bool}

/-- A character is decoded to itself, whether or not it is encoded. -/
theorem percentDecode_encodeChar (h : reserved '%' = true) (c : Char) (bytes : List UInt8) :
    percentDecode ((encodeChar reserved c).flatMap String.utf8EncodeChar ++ bytes) =
      String.utf8EncodeChar c ++ percentDecode bytes := by
  rw [encodeChar]
  split_ifs with hencoded
  · exact percentDecode_flatMap_percentByte _ _
  · have hc : c ≠ '%' := by
      rintro rfl
      exact hencoded (by rw [h, Bool.or_true])
    have hsmall : c.val.toNat ≤ 0x7F := by
      simp only [Bool.or_eq_true, decide_eq_true_eq, not_or] at hencoded
      have hval : c.toNat = c.val.toNat := rfl
      omega
    have hbyte : String.utf8EncodeChar c = [UInt8.ofNat c.val.toNat] := by
      simp only [String.utf8EncodeChar, if_pos hsmall]
    have hne : UInt8.ofNat c.val.toNat ≠ 0x25 := by
      intro heq
      have hnat : c.val.toNat = 0x25 := by
        have := congrArg UInt8.toNat heq
        rw [UInt8.toNat_ofNat', Nat.mod_eq_of_lt (by omega)] at this
        exact this
      exact hc (Char.ext (UInt32.toNat.inj hnat))
    rw [List.flatMap_cons, List.flatMap_nil, List.append_nil, hbyte]
    exact percentDecode_cons_of_ne hne bytes

/-- A text is read back from its encoding, if percent signs are encoded too. -/
theorem decodeText?_percentEncode (h : reserved '%' = true) (s : String) :
    decodeText? (String.ofList (percentEncode reserved s.toList)) = some s := by
  have hbytes (cs : List Char) :
      percentDecode ((percentEncode reserved cs).flatMap String.utf8EncodeChar) =
        cs.flatMap String.utf8EncodeChar := by
    induction cs with
    | nil => rfl
    | cons c cs ih =>
      rw [percentEncode, List.flatMap_cons, List.flatMap_append, percentDecode_encodeChar h,
        List.flatMap_cons]
      exact congrArg _ ih
  rw [decodeText?, ofBytes?_eq_some_iff, toBytes_eq_flatMap, toBytes_eq_flatMap, String.toList_ofList, hbytes]

/-! ### Lengths -/

theorem length_percentDecode_le (bytes : List UInt8) : (percentDecode bytes).length ≤ bytes.length := by
  fun_induction percentDecode bytes with
  | case1 b c rest high low hhigh hlow ih => simp only [List.length_cons]; omega
  | case2 b c rest hdigits ih => simp only [List.length_cons] at ih ⊢; omega
  | case3 a b c rest ha ih => simp only [List.length_cons] at ih ⊢; omega
  | case4 bytes hshort => exact Nat.le_refl _

/-- Bytes that are as many after decoding are the same. -/
theorem percentDecode_eq_self {bytes : List UInt8} (h : bytes.length ≤ (percentDecode bytes).length) :
    percentDecode bytes = bytes := by
  fun_induction percentDecode bytes with
  | case1 b c rest high low hhigh hlow ih =>
    have := length_percentDecode_le rest
    simp only [List.length_cons] at h
    omega
  | case2 b c rest hdigits ih => rw [ih (Nat.le_of_succ_le_succ h)]
  | case3 a b c rest ha ih => rw [ih (Nat.le_of_succ_le_succ h)]
  | case4 bytes hshort => rfl

variable {s t : String}

theorem utf8ByteSize_le_of_decodeText? (h : decodeText? s = some t) : t.utf8ByteSize ≤ s.utf8ByteSize := by
  rw [decodeText?, ofBytes?_eq_some_iff] at h
  rw [← length_toBytes, ← length_toBytes, h]
  exact length_percentDecode_le _

/-- A text that is as long when it is decoded is the same. -/
theorem eq_of_decodeText?_of_le (h : decodeText? s = some t) (hle : s.utf8ByteSize ≤ t.utf8ByteSize) :
    s = t := by
  rw [decodeText?, ofBytes?_eq_some_iff] at h
  rw [← length_toBytes, ← length_toBytes, h] at hle
  exact toBytes_inj ((h.trans (percentDecode_eq_self hle)).symm)

/-! ### Segments -/

/-- A segment of a path writes a text: it is decoded to the text, and nothing in it ends the segment. -/
structure WritesSegment (segment name : String) : Prop where
  decoded : decodeText? segment = some name
  uncut : ∀ c ∈ segment.toList, c ≠ '/' ∧ c ≠ '?' ∧ c ≠ '#'

/-- The characters encoded in a segment: those that end it, and the percent sign. -/
def inSegment (c : Char) : Bool := c == '%' || c == '/' || c == '?' || c == '#'

/-- The segment of a path for a text. -/
def segmentFor (name : String) : String := String.ofList (percentEncode inSegment name.toList)

/-- Percent signs and digits end no segment. -/
theorem uncut_of_mem_percentByte {b : UInt8} {c : Char} (h : c ∈ percentByte b) :
    c ≠ '/' ∧ c ≠ '?' ∧ c ≠ '#' := by
  have hdigit {n : Nat} (hn : n < 16) :
      upperHexDigit n ≠ '/' ∧ upperHexDigit n ≠ '?' ∧ upperHexDigit n ≠ '#' := by
    interval_cases n <;> decide
  have hb : b.toNat < 256 := b.toNat_lt
  simp only [percentByte, List.mem_cons, List.not_mem_nil, or_false] at h
  rcases h with rfl | rfl | rfl
  · decide
  · exact hdigit (by omega)
  · exact hdigit (by omega)

/-- Every text is written by a segment. -/
theorem writes_segmentFor (name : String) : WritesSegment (segmentFor name) name := by
  refine ⟨decodeText?_percentEncode rfl name, fun c hc => ?_⟩
  rw [segmentFor, String.toList_ofList, percentEncode, List.mem_flatMap] at hc
  obtain ⟨d, -, hc⟩ := hc
  rw [encodeChar] at hc
  split_ifs at hc with hencoded
  · obtain ⟨b, -, hb⟩ := List.mem_flatMap.mp hc
    exact uncut_of_mem_percentByte hb
  · obtain rfl := List.mem_singleton.mp hc
    simp only [inSegment, Bool.or_eq_true, beq_iff_eq, not_or] at hencoded
    obtain ⟨-, ⟨⟨-, hslash⟩, hquestion⟩, hhash⟩ := hencoded
    exact ⟨hslash, hquestion, hhash⟩

end TrustReplica.Url
