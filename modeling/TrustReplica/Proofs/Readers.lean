import TrustReplica.Fetch.Address
import TrustReplica.Proofs.Maps

/-! Lists and maps in JSON, seen through the reader of their items. Everything in a list or a map that is
    read was read from an item, and a list or a map that is written is read back if its items are. A
    version is the only one that its decimal text writes, and so is a selector; which texts are read as
    numbers within a range is said without the reader (`Decimal.Writes`). -/

namespace TrustReplica

/-! ### Lists -/

section Lists

variable {α β : Type} {read : α → Option β}

theorem exists_mem_of_mapM {l : List α} {l' : List β} (h : l.mapM read = some l') :
    ∀ b ∈ l', ∃ a ∈ l, read a = some b := by
  induction l generalizing l' with
  | nil =>
    obtain rfl : [] = l' := Option.some_inj.mp h
    exact fun b hb => absurd hb List.not_mem_nil
  | cons a l ih =>
    rw [List.mapM_cons] at h
    obtain ⟨b, ha, h⟩ := Option.bind_eq_some_iff.mp h
    obtain ⟨rest, hl, h⟩ := Option.bind_eq_some_iff.mp h
    obtain rfl : b :: rest = l' := Option.some_inj.mp h
    refine List.forall_mem_cons.mpr ⟨⟨a, List.mem_cons_self .., ha⟩, fun b' hb' => ?_⟩
    obtain ⟨a', ha', hr⟩ := ih hl b' hb'
    exact ⟨a', List.mem_cons_of_mem _ ha', hr⟩

/-- All items are read just if each of them is. -/
theorem isSome_mapM {l : List α} : (l.mapM read).isSome ↔ ∀ a ∈ l, (read a).isSome := by
  induction l with
  | nil => exact iff_of_true rfl fun a ha => absurd ha List.not_mem_nil
  | cons a l ih =>
    rw [List.forall_mem_cons, ← ih, List.mapM_cons]
    cases read a with
    | none => simp
    | some b => cases l.mapM read <;> simp

theorem mapM_map_of_forall {write : β → α} {l : List β} (h : ∀ b ∈ l, read (write b) = some b) :
    (l.map write).mapM read = some l := by
  induction l with
  | nil => rfl
  | cons b l ih =>
    obtain ⟨hb, hl⟩ := List.forall_mem_cons.mp h
    rw [List.map_cons, List.mapM_cons, hb, ih hl]
    rfl

end Lists

/-! ### Numbers in decimal -/

namespace Decimal

theorem all_isDigit_toDigits (n : Nat) : (Nat.toDigits 10 n).all Char.isDigit = true :=
  List.all_eq_true.mpr fun _ hc => Nat.isDigit_of_mem_toDigits (by omega) (by omega) hc

theorem foldl_shiftIn (digits : List Char) : digits.foldl shiftIn 0 = Nat.ofDigitChars 10 digits 0 := by
  have hstep : shiftIn = fun m c => 10 * m + (c.toNat - '0'.toNat) :=
    funext fun m => funext fun c => by rw [shiftIn, Nat.mul_comm]
  rw [hstep, ← Nat.ofDigitChars_eq_foldl]

theorem digitsValue?_eq_some_iff {cs : List Char} {n : Nat} : digitsValue? cs = some n ↔
    cs ≠ [] ∧ (∀ c ∈ cs, c.isDigit = true) ∧ Nat.ofDigitChars 10 cs 0 = n := by
  rw [digitsValue?, foldl_shiftIn]
  by_cases hnil : cs = []
  · simp [hnil]
  · by_cases hdigits : cs.all Char.isDigit = true <;> simp_all

/-- The digits of a number are read as that number. -/
theorem digitsValue?_toDigits (n : Nat) : digitsValue? (Nat.toDigits 10 n) = some n :=
  digitsValue?_eq_some_iff.mpr ⟨Nat.toDigits_ne_nil, List.all_eq_true.mp (all_isDigit_toDigits n),
    Nat.ofDigitChars_ten_toDigits⟩

theorem dropPlus_of_all_isDigit {cs : List Char} (h : cs.all Char.isDigit = true) : dropPlus cs = cs := by
  cases cs with
  | nil => rfl
  | cons c rest =>
    have hc : c ≠ '+' := by
      rintro rfl
      exact absurd (List.all_eq_true.mp h '+' (List.mem_cons_self ..)) (by decide)
    rw [dropPlus]
    exact fun rest' he => hc (List.cons.inj he).1

/-- A text writes a number: an optional plus sign and at least one decimal digit. -/
def Writes (s : String) (n : Nat) : Prop :=
  ∃ digits : List Char, (s.toList = digits ∨ s.toList = '+' :: digits) ∧ digits ≠ [] ∧
    (∀ c ∈ digits, c.isDigit = true) ∧ Nat.ofDigitChars 10 digits 0 = n

theorem parse?_eq_some_iff {limit n : Nat} {s : String} :
    parse? limit s = some n ↔ Writes s n ∧ n ≤ limit := by
  rw [parse?, Option.filter_eq_some_iff, decide_eq_true_iff, digitsValue?_eq_some_iff]
  refine and_congr_left fun _ => ⟨fun h => ?_, fun ⟨digits, hs, h⟩ => ?_⟩
  · refine ⟨dropPlus s.toList, ?_, h⟩
    unfold dropPlus
    split
    · exact Or.inr ‹_›
    · exact Or.inl rfl
  · rcases hs with hs | hs
    · rwa [hs, dropPlus_of_all_isDigit (List.all_eq_true.mpr h.2.1)]
    · rwa [hs]

theorem parseWithin?_eq_some_iff {least most n : Nat} {s : String} :
    parseWithin? least most s = some n ↔ Writes s n ∧ least ≤ n ∧ n ≤ most := by
  rw [parseWithin?, Option.filter_eq_some_iff, decide_eq_true_iff, parse?_eq_some_iff, and_assoc,
    and_comm (a := n ≤ most)]

theorem parse?_repr {limit n : Nat} (h : n ≤ limit) : parse? limit (Nat.repr n) = some n := by
  rw [parse?, Nat.toList_repr, dropPlus_of_all_isDigit (all_isDigit_toDigits n), digitsValue?_toDigits]
  exact if_pos (decide_eq_true h)

end Decimal

/-! ### Versions -/

namespace Version

/-- A version is read back from its text. -/
theorem ofText?_toText (v : Version) : ofText? v.toText = some v := by
  have hle : v.toNat ≤ Decimal.maxWord := Nat.le_sub_one_of_lt v.toNat_lt
  rw [ofText?, toText, Decimal.parse?_repr hle]
  simp only [if_true, UInt64.ofNat_toNat]

/-- A text is read as the version that it is the text of. -/
theorem ofText?_eq_some_iff {s : String} {v : Version} : ofText? s = some v ↔ s = v.toText := by
  refine ⟨fun h => ?_, fun h => h ▸ ofText?_toText v⟩
  rw [ofText?] at h
  split at h
  · next n hn =>
    split_ifs at h with hs
    have hle := (Decimal.parse?_eq_some_iff.mp hn).2
    have hlt : n < 2 ^ 64 := Nat.lt_succ_of_le hle
    rw [← Option.some_inj.mp h, toText, UInt64.toNat_ofNat', Nat.mod_eq_of_lt hlt, hs]
  · exact absurd h (Option.some_ne_none v).symm

/-- No version is written with a letter. -/
theorem toText_ne_of_letter {s : String} {c : Char} (hc : c ∈ s.toList) (hd : c.isDigit = false)
    (v : Version) : v.toText ≠ s := by
  rintro rfl
  rw [toText, Nat.toList_repr] at hc
  rw [List.all_eq_true.mp (Decimal.all_isDigit_toDigits v.toNat) c hc] at hd
  exact Bool.noConfusion hd

end Version

/-- A selector is read back from its text: no version is written as one of the words. -/
theorem Selector.ofText?_toText (selector : Selector) : ofText? selector.toText = some selector := by
  cases selector with
  | all | latest => rfl
  | «at» v =>
    have hle : v.toNat ≤ Decimal.maxWord := Nat.le_sub_one_of_lt v.toNat_lt
    have hall : v.toText ≠ "all" := Version.toText_ne_of_letter (c := 'a') (by decide) (by decide) v
    have hlatest : v.toText ≠ "latest" :=
      Version.toText_ne_of_letter (c := 'l') (by decide) (by decide) v
    rw [ofText?, toText, if_neg hall, if_neg hlatest, Version.toText, Decimal.parse?_repr hle,
      Option.map_some, UInt64.ofNat_toNat]

/-! ### Items -/

namespace Json

section Items

variable {α κ : Type} {read : Json → Option α}

theorem exists_read_of_readList {v : Json} {l : List α} (h : readList read v = some l) :
    ∀ a ∈ l, ∃ item, read item = some a := by
  cases v with
  | array items =>
    intro a ha
    obtain ⟨item, _, hr⟩ := exists_mem_of_mapM h a ha
    exact ⟨item, hr⟩
  | null | flag | number | text | object => exact absurd h (Option.some_ne_none l).symm

theorem readList_map {write : α → Json} {l : List α} (h : ∀ a ∈ l, read (write a) = some a) :
    readList read (.array (l.map write)) = some l := mapM_map_of_forall h

theorem exists_read_of_readEntries {readKey : String → Option κ} {v : Json} {l : List (κ × α)}
    (h : readEntries readKey read v = some l) : ∀ e ∈ l, ∃ item, read item = some e.2 := by
  cases v with
  | object members =>
    intro e he
    obtain ⟨m, _, hm⟩ := exists_mem_of_mapM h e he
    obtain ⟨k, _, hm⟩ := Option.bind_eq_some_iff.mp hm
    obtain ⟨a, ha, hm⟩ := Option.bind_eq_some_iff.mp hm
    obtain rfl : (k, a) = e := Option.some_inj.mp hm
    exact ⟨m.2, ha⟩
  | null | flag | number | text | array => exact absurd h (Option.some_ne_none l).symm

/-- Every value of a map by name was read. -/
theorem exists_read_of_readNames {v : Json} {m : NameMap α} (h : readNames read v = some m) {k : String}
    {a : α} (ha : m[k]? = some a) : ∃ item, read item = some a := by
  obtain ⟨l, hl, rfl⟩ := Option.map_eq_some_iff.mp h
  exact exists_read_of_readEntries hl _ (Maps.mem_of_getElem?_ofList ha)

/-- Every value of a map by version was read. -/
theorem exists_read_of_readVersions {v : Json} {m : VersionMap α} (h : readVersions read v = some m)
    {k : Version} {a : α} (ha : m[k]? = some a) : ∃ item, read item = some a := by
  obtain ⟨l, hl, rfl⟩ := Option.map_eq_some_iff.mp h
  exact exists_read_of_readEntries hl _ (Maps.mem_of_getElem?_ofList ha)

/-- A map by name is read back if its values are. -/
theorem readNames_ofNames {write : α → Json} {m : NameMap α}
    (h : ∀ (k : String) (a : α), m[k]? = some a → read (write a) = some a) :
    readNames read (ofNames write m) = some m := by
  have hentries : readEntries some read (ofNames write m) = some m.toList := by
    refine mapM_map_of_forall fun e he => ?_
    rw [h e.1 e.2 (Std.ExtTreeMap.mem_toList_iff_getElem?_eq_some.mp he)]
    rfl
  rw [readNames, hentries, Option.map_some, Maps.ofList_toList]

/-- A map by version is read back if its values are. -/
theorem readVersions_ofVersions {write : α → Json} {m : VersionMap α}
    (h : ∀ (v : Version) (a : α), m[v]? = some a → read (write a) = some a) :
    readVersions read (ofVersions write m) = some m := by
  have hentries : readEntries Version.ofText? read (ofVersions write m) = some m.toList := by
    refine mapM_map_of_forall fun e he => ?_
    rw [h e.1 e.2 (Std.ExtTreeMap.mem_toList_iff_getElem?_eq_some.mp he), Version.ofText?_toText]
    rfl
  rw [readVersions, hentries, Option.map_some, Maps.ofList_toList]

end Items

end Json

end TrustReplica
