import TrustReplica.Proofs.Readers
import TrustReplica.Proofs.Splitting
import TrustReplica.ReadApi

/-! Addresses of fetches. A selector is one of two words or a version in decimal, and nothing else is read as
    one (`Selector.ofText?_eq_some_iff`). The text of a selector has no slash, so the path of a request whose
    fields have none either is cut into just these fields and that text (`Request.pieces_path`): no two such
    requests share a path, and a server that is given the segments looks up the TMI and the versions that were
    asked for. -/

namespace TrustReplica

/-! ### Selectors -/

theorem Decimal.not_writes_of_letter {s : String} {c : Char} (hc : c ∈ s.toList) (hdigit : c.isDigit = false)
    (hplus : c ≠ '+') (n : Nat) : ¬Writes s n := by
  rintro ⟨digits, hs, -, hdigits, -⟩
  have hmem : c ∈ digits := by
    rcases hs with hs | hs
    · rwa [hs] at hc
    · rw [hs] at hc
      exact (List.mem_cons.mp hc).resolve_left hplus
  simp [hdigits c hmem] at hdigit

namespace Selector

/-- A text writes a selector: a word, or a version with an optional plus sign and at least one digit. -/
def IsWritten (s : String) : Selector → Prop
  | all => s = "all"
  | latest => s = "latest"
  | .at v => Decimal.Writes s v.toNat

/-- A version is read just from the texts that write it. -/
theorem map_parse?_eq_some_iff {s : String} {v : Version} :
    (Decimal.parse? Decimal.maxWord s).map (fun n => Selector.at (UInt64.ofNat n)) = some (.at v) ↔
      Decimal.Writes s v.toNat := by
  rw [Option.map_eq_some_iff]
  constructor
  · rintro ⟨n, hn, hv⟩
    obtain ⟨hwrites, hle⟩ := Decimal.parse?_eq_some_iff.mp hn
    have hlt : n < 2 ^ 64 := Nat.lt_succ_of_le hle
    obtain rfl := Selector.at.inj hv
    rwa [UInt64.toNat_ofNat', Nat.mod_eq_of_lt hlt]
  · intro hwrites
    have hle : v.toNat ≤ Decimal.maxWord := Nat.le_sub_one_of_lt v.toNat_lt
    exact ⟨v.toNat, Decimal.parse?_eq_some_iff.mpr ⟨hwrites, hle⟩, by simp⟩

/-- A text is read as a selector just if it writes it. -/
theorem ofText?_eq_some_iff {s : String} {selector : Selector} :
    ofText? s = some selector ↔ IsWritten s selector := by
  have hnone_all := Decimal.not_writes_of_letter (s := "all") (c := 'a') (by decide) (by decide) (by decide)
  have hnone_latest :=
    Decimal.not_writes_of_letter (s := "latest") (c := 'l') (by decide) (by decide) (by decide)
  rw [ofText?]
  split_ifs with hall hlatest
  · subst hall
    cases selector <;> simp [IsWritten, hnone_all]
  · subst hlatest
    cases selector <;> simp [IsWritten, hnone_latest]
  · cases selector with
    | all | latest => simp [IsWritten, hall, hlatest]
    | «at» v => exact map_parse?_eq_some_iff

/-- The texts that are read as a selector. -/
theorem isSome_ofText?_iff {s : String} : (ofText? s).isSome ↔
    s = "all" ∨ s = "latest" ∨ ∃ n, Decimal.Writes s n ∧ n ≤ 2 ^ 64 - 1 := by
  rw [Option.isSome_iff_exists]
  simp only [ofText?_eq_some_iff]
  constructor
  · rintro ⟨selector, hwritten⟩
    cases selector with
    | all => exact Or.inl hwritten
    | latest => exact Or.inr (Or.inl hwritten)
    | «at» v => exact Or.inr (Or.inr ⟨v.toNat, hwritten, Nat.le_sub_one_of_lt v.toNat_lt⟩)
  · rintro (hall | hlatest | ⟨n, hwrites, hle⟩)
    · exact ⟨all, hall⟩
    · exact ⟨latest, hlatest⟩
    · have hn : (UInt64.ofNat n).toNat = n := by
        rw [UInt64.toNat_ofNat', Nat.mod_eq_of_lt (by omega)]
      refine ⟨.at (UInt64.ofNat n), ?_⟩
      rw [IsWritten, hn]
      exact hwrites

theorem slash_not_mem_toText (selector : Selector) : '/' ∉ selector.toText.toList := by
  cases selector with
  | all | latest => decide
  | «at» v =>
    intro hmem
    rw [toText, Version.toText, Nat.toList_repr] at hmem
    have hdigit := List.all_eq_true.mp (Decimal.all_isDigit_toDigits v.toNat) _ hmem
    exact absurd hdigit (by decide)

theorem toText_inj {selector selector' : Selector} (h : selector.toText = selector'.toText) :
    selector = selector' := by
  have hread := ofText?_toText selector
  rw [h, ofText?_toText] at hread
  exact (Option.some_inj.mp hread).symm

/-- The detail that a selector names: all versions of a TMI, or one version of which there is a state. -/
def Names (t : Tmi) : Selector → Detail → Prop
  | all, d => d = .complete t
  | latest, d => Detail.atVersion? t t.latestVersion = some d
  | .at v, d => Detail.atVersion? t v = some d

/-- A server tells just the detail that a selector names. -/
theorem detail?_eq_some_iff {t : Tmi} {selector : Selector} {d : Detail} :
    ReadApi.detail? t selector = some d ↔ selector.Names t d := by
  cases selector with
  | all => exact Option.some_inj.trans eq_comm
  | latest | «at» v => exact Iff.rfl

end Selector

/-! ### Requests -/

namespace Request

/-- No field of the request has a slash in it. -/
def IsPlain (r : Request) : Prop := ∀ field ∈ [r.application, r.session, r.template, r.id], '/' ∉ field.toList

variable {r r' : Request}

theorem pieces_path (h : r.IsPlain) : Text.pieces '/' r.path =
    ["tmis", r.application, r.session, r.template, r.id, r.selector.toText] := by
  refine Text.pieces_of_toList (List.cons_ne_nil _ _) ?_ ?_
  · simp [path, Text.joinWith, String.toList_append]
  · simp only [IsPlain, List.forall_mem_cons] at h ⊢
    obtain ⟨ha, hs, ht, hi, hnil⟩ := h
    exact ⟨by decide, ha, hs, ht, hi, r.selector.slash_not_mem_toText, hnil⟩

/-- Requests with the same path ask for the same versions of the same TMI. -/
theorem path_inj (h : r.IsPlain) (h' : r'.IsPlain) (heq : r.path = r'.path) : r = r' := by
  have hpieces := pieces_path h
  rw [heq, pieces_path h'] at hpieces
  simp only [List.cons.injEq, and_true, true_and] at hpieces
  obtain ⟨ha, hs, ht, hi, htext⟩ := hpieces
  have hselector := Selector.toText_inj htext
  cases r
  cases r'
  simp_all

/-- A response tells of the TMI and the versions that a request asks a store for. -/
structure IsAnsweredBy (r : Request) (st : Store) (response : ReadApi.Response) : Prop where
  found : ∀ t d, st.tmi? r.tmi = some t → r.selector.Names t d → response = .ofJson 200 d.toJson
  unknown : st.tmi? r.tmi = none →
    response = ReadApi.problem 404 "NOT_FOUND" ("TMI " ++ r.tmi.text ++ " not found")
  withoutState : ∀ t, st.tmi? r.tmi = some t → (∀ d, ¬r.selector.Names t d) →
    response = ReadApi.problem 404 "VERSION_NOT_FOUND"
      ("TMI " ++ r.tmi.text ++ " has no state at version " ++ r.selector.toText)

/-- A server that is given the fields of a request and the text of its selector answers the request. -/
theorem isAnsweredBy_answerTmi (r : Request) (st : Store) : r.IsAnsweredBy st
    (ReadApi.answerTmi st r.application r.session r.template r.id r.selector.toText) := by
  rw [ReadApi.answerTmi, Selector.ofText?_toText]
  constructor
  · intro t d ht hd
    rw [← Selector.detail?_eq_some_iff] at hd
    rw [tmi] at ht
    simp only [ht, hd]
  · intro hnone
    rw [tmi] at hnone
    simp only [hnone, tmi]
  · intro t ht hnone
    have hdetail : ReadApi.detail? t r.selector = none := by
      rw [Option.eq_none_iff_forall_ne_some]
      exact fun d hd => hnone d (Selector.detail?_eq_some_iff.mp hd)
    rw [tmi] at ht
    simp only [ht, hdetail, tmi]

/-! ### Addresses -/

/-- The path of a request is its address: it is cut into the fields and the selector of the request, no other
    request has it, and whatever a store holds, the segments are answered as the request is. -/
structure IsAddressed (r : Request) : Prop where
  segments : ∃ version, Text.pieces '/' r.path =
      ["tmis", r.application, r.session, r.template, r.id, version] ∧
    Selector.ofText? version = some r.selector
  unambiguous : ∀ r' : Request, r'.IsPlain → r'.path = r.path → r' = r
  answered : ∀ st a s t i version, Text.pieces '/' r.path = ["tmis", a, s, t, i, version] →
    r.IsAnsweredBy st (ReadApi.answerTmi st a s t i version)

theorem isAddressed (h : r.IsPlain) : r.IsAddressed where
  segments := ⟨r.selector.toText, pieces_path h, Selector.ofText?_toText r.selector⟩
  unambiguous := fun _ h' heq => path_inj h' h heq
  answered := by
    intro st a s t i version hpieces
    rw [pieces_path h] at hpieces
    simp only [List.cons.injEq, and_true, true_and] at hpieces
    obtain ⟨rfl, rfl, rfl, rfl, rfl⟩ := hpieces
    exact r.isAnsweredBy_answerTmi st

/-- Fetches are addressed without ambiguity: by the path of a request, and in it by the text of a selector,
    which is read from just the texts that write it. -/
theorem isAddressed_and_readsSelectors :
    (∀ r : Request, r.IsPlain → r.IsAddressed) ∧
    (∀ s selector, Selector.ofText? s = some selector ↔ selector.IsWritten s) ∧
    (∀ s, (Selector.ofText? s).isSome ↔
      s = "all" ∨ s = "latest" ∨ ∃ n, Decimal.Writes s n ∧ n ≤ 2 ^ 64 - 1) ∧
    ∀ selector : Selector, Selector.ofText? selector.toText = some selector :=
  ⟨fun _ h => isAddressed h, fun _ _ => Selector.ofText?_eq_some_iff, fun _ => Selector.isSome_ofText?_iff,
    Selector.ofText?_toText⟩

/-- A request for the third version is addressed by its path, the largest version is read with a plus sign
    in front, and the number behind it is no version. -/
theorem isAddressed_thirdVersion_and_readsLargest :
    (⟨"app", "sess1", "tmpl", "abc", .at 3⟩ : Request).IsPlain ∧
    (⟨"app", "sess1", "tmpl", "abc", .at 3⟩ : Request).path = "tmis/app/sess1/tmpl/abc/3" ∧
    (⟨"app", "sess1", "tmpl", "abc", .at 3⟩ : Request).IsAddressed ∧
    Selector.ofText? "+18446744073709551615" = some (.at 18446744073709551615) ∧
    Selector.ofText? "18446744073709551616" = none := by
  obtain ⟨haddressed, hreads, haccepts, -⟩ := isAddressed_and_readsSelectors
  have hplain : (⟨"app", "sess1", "tmpl", "abc", .at 3⟩ : Request).IsPlain := by simp [IsPlain]
  refine ⟨hplain, by decide, haddressed _ hplain, ?_, ?_⟩
  · have hdigits : "18446744073709551615".toList.all Char.isDigit = true := by decide
    exact (hreads _ _).mpr ⟨"18446744073709551615".toList, Or.inr (by decide), by decide,
      List.all_eq_true.mp hdigits, by decide⟩
  · have hrejected : ¬(Selector.ofText? "18446744073709551616").isSome := by
      rw [haccepts]
      rintro (hall | hlatest | ⟨n, ⟨digits, hs, -, -, hn⟩, hle⟩)
      · exact absurd hall (by decide)
      · exact absurd hlatest (by decide)
      · have hdigits : digits = "18446744073709551616".toList := by
          rcases hs with hs | hs
          · exact hs.symm
          · exact absurd (congrArg List.head? hs) (by simp)
        have hvalue : Nat.ofDigitChars 10 "18446744073709551616".toList 0 = 2 ^ 64 := by decide
        rw [hdigits, hvalue] at hn
        omega
    simpa using hrejected

end Request

end TrustReplica
