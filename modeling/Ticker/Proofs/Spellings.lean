import Ticker.Proofs.Acceptance

namespace Ticker

open Text Unicode

namespace Malaysia

def FourDigits (cs : List Char) : Prop := cs.length = 4 ∧ ∀ c ∈ cs, c.isDigit

theorem isBare_iff_fourDigits {cs : List Char} : isBare cs ↔ FourDigits cs := isBare_iff

instance (cs : List Char) : Decidable (FourDigits cs) :=
  decidable_of_iff (isBare cs = true) isBare_iff_fourDigits

/-- How digits may be written as a code: bare, or with the suffix in either case. -/
inductive Spells (ds : List Char) : List Char → Prop
  | bare : Spells ds ds
  | suffixed {k l : Char} :
    k = 'k' ∨ k = 'K' → l = 'l' ∨ l = 'L' → Spells ds (ds ++ ['.', k, l])

theorem eq_or_eq_of_toUpper_eq {c u : Char} (h : c.toUpper = u) : c = u.toLower ∨ c = u := by
  by_cases lower : c.isLower
  · have small : c.toLower = c := Char.toLower_eq_of_not_isUpper (Char.not_isUpper_of_isLower lower)
    rw [← h, Char.toLower_toUpper_eq_toLower, small]
    exact .inl rfl
  · rw [← h, Char.toUpper_eq_of_not_isLower lower]
    exact .inr rfl

theorem map_toUpper_eq_suffix_iff {tail : List Char} :
    tail.map Char.toUpper = suffix ↔
      ∃ k l, (k = 'k' ∨ k = 'K') ∧ (l = 'l' ∨ l = 'L') ∧ tail = ['.', k, l] := by
  constructor
  · intro raised
    obtain ⟨p, k, l, rfl⟩ : ∃ p k l, tail = [p, k, l] :=
      List.length_eq_three.1 (by simpa [suffix] using congrArg List.length raised)
    simp only [suffix, List.map_cons, List.map_nil, List.cons.injEq, and_true] at raised
    obtain ⟨hp, hk, hl⟩ := raised
    have period : p = '.' := (eq_or_eq_of_toUpper_eq hp).elim id id
    exact ⟨k, l, eq_or_eq_of_toUpper_eq hk, eq_or_eq_of_toUpper_eq hl, by rw [period]⟩
  · rintro ⟨k, l, rfl | rfl, rfl | rfl, rfl⟩ <;> rfl

section Spelled

variable {cs ds code : List Char}

theorem take_of_spells (four : FourDigits ds) (h : Spells ds cs) : cs.take 4 = ds := by
  cases h with
  | bare => exact take_of_isBare (isBare_iff.2 four)
  | suffixed => exact List.take_left' four.1

theorem shape_iff_spells : isSuffixed cs ∨ isBare cs ↔ ∃ ds, FourDigits ds ∧ Spells ds cs := by
  constructor
  · rintro (suffixed | bare)
    · obtain ⟨ds, tail, bare, raised, rfl⟩ := isSuffixed_iff.1 suffixed
      obtain ⟨k, l, hk, hl, rfl⟩ := map_toUpper_eq_suffix_iff.1 raised
      exact ⟨ds, isBare_iff.1 bare, .suffixed hk hl⟩
    · exact ⟨cs, isBare_iff.1 bare, .bare⟩
  · rintro ⟨ds, four, h⟩
    cases h with
    | bare => exact .inr (isBare_iff.2 four)
    | @suffixed k l hk hl =>
      refine .inl (isSuffixed_iff.2 ⟨ds, _, isBare_iff.2 four, ?_, rfl⟩)
      exact map_toUpper_eq_suffix_iff.2 ⟨k, l, hk, hl, rfl⟩

theorem canonical_eq_ok_iff_spells :
    canonical cs = .ok code ↔ ∃ ds, FourDigits ds ∧ Spells ds (trim cs) ∧ ds ++ suffix = code := by
  rw [canonical_eq_ok_iff, shape_iff_spells]
  constructor
  · rintro ⟨⟨ds, four, spelled⟩, rfl⟩
    exact ⟨ds, four, spelled, by rw [take_of_spells four spelled]⟩
  · rintro ⟨ds, four, spelled, rfl⟩
    exact ⟨⟨ds, four, spelled⟩, by rw [take_of_spells four spelled]⟩

theorem canonical_eq_error_iff_spells :
    canonical cs = .error (.invalidFormat .malaysia) ↔
      ¬ ∃ ds, FourDigits ds ∧ Spells ds (trim cs) := by
  rw [canonical_eq_error_iff, shape_iff_spells]
  exact and_iff_left rfl

theorem not_isBare_of_isSuffixed (h : isSuffixed cs) : isBare cs = false := by
  obtain ⟨ds, tail, bare, raised, rfl⟩ := isSuffixed_iff.1 h
  have long : tail.length = 3 := by simpa [suffix] using congrArg List.length raised
  have four := (isBare_iff.1 bare).1
  simp [isBare, four, long]

end Spelled

end Malaysia

theorem detectChars_eq_malaysia_iff {cs : List Char} :
    detectChars cs = .ok .malaysia ↔ Malaysia.isSuffixed (trim cs) := by
  rw [detectChars_eq_iff]
  constructor
  · rintro ⟨⟩
    assumption
  · exact .suffixed

theorem detectChars_of_isBare {cs : List Char} (h : Malaysia.isBare (trim cs)) :
    detectChars cs = .ok .hongKong := by
  have count := Malaysia.length_digits (.inr h)
  exact (Detected.few (unlettered_of_isBare h) (by omega) (by omega)).eq

open Market

/-- Four digits, bare or with the suffix, are all that stands for a Malaysian code. Detection knows
the spellings with the suffix, and takes the bare ones for Hong Kong. -/
theorem malaysian_texts_spell_four_digits (s : String) :
    (∀ code, malaysia.canonical s = .ok code ↔
        ∃ ds, Malaysia.FourDigits ds ∧ Malaysia.Spells ds (trim s.toList) ∧
          String.ofList ds ++ ".KL" = code) ∧
      (malaysia.canonical s = .error (.invalidFormat .malaysia) ↔
        ¬ ∃ ds, Malaysia.FourDigits ds ∧ Malaysia.Spells ds (trim s.toList)) ∧
      (detect s = .ok .malaysia ↔
        (∃ code, malaysia.canonical s = .ok code) ∧ ¬ Malaysia.FourDigits (trim s.toList)) ∧
      (Malaysia.FourDigits (trim s.toList) → detect s = .ok .hongKong) := by
  refine ⟨fun code => ?_, ?_, ?_, ?_⟩
  · rw [canonical_eq_ok_iff]
    refine Malaysia.canonical_eq_ok_iff_spells.trans ?_
    simp [String.ext_iff, Malaysia.suffix]
  · rw [canonical_eq_error_iff]
    exact Malaysia.canonical_eq_error_iff_spells
  · rw [← accepts_iff, accepts_malaysia_iff, ← Malaysia.isBare_iff_fourDigits]
    refine detectChars_eq_malaysia_iff.trans ⟨fun suffixed => ?_, fun longer => ?_⟩
    · exact ⟨.inl suffixed, by simp [Malaysia.not_isBare_of_isSuffixed suffixed]⟩
    · exact longer.1.resolve_right longer.2
  · intro four
    exact detectChars_of_isBare (Malaysia.isBare_iff_fourDigits.2 four)

theorem small_suffix_and_no_suffix :
    malaysia.canonical " 1155.kL" = .ok "1155.KL" ∧
      Malaysia.FourDigits (trim "1155 ".toList) ∧ detect "1155 " = .ok .hongKong := by
  have text : trim " 1155.kL".toList = ['1', '1', '5', '5'] ++ ['.', 'k', 'L'] := by
    decide +kernel
  have bare : Malaysia.FourDigits (trim "1155 ".toList) := by decide +kernel
  have spelled : Malaysia.Spells ['1', '1', '5', '5'] (trim " 1155.kL".toList) :=
    text ▸ .suffixed (.inl rfl) (.inr rfl)
  exact ⟨((malaysian_texts_spell_four_digits " 1155.kL").1 _).2 ⟨_, by decide, spelled, rfl⟩, bare,
    (malaysian_texts_spell_four_digits "1155 ").2.2.2 bare⟩

namespace UnitedStates

def marksOf (c : Char) : List Char := (upperChar c).filter isMark

/-- What a text spells, character by character and with its margins. -/
def spelled (s : String) : String := String.ofList (s.toList.flatMap marksOf)

theorem toList_spelled (s : String) : (spelled s).toList = marks s.toList := by
  rw [spelled, String.toList_ofList, marks, upper, List.filter_flatMap]
  rfl

theorem length_of_isCanonical {cs : List Char} (h : IsCanonical cs) :
    1 ≤ cs.length ∧ cs.length ≤ 7 := by
  cases h with
  | plain nonempty short =>
    have := List.length_pos_iff.2 nonempty
    omega
  | classed nonempty short =>
    have := List.length_pos_iff.2 nonempty
    simp only [List.length_append, List.length_cons, List.length_nil]
    omega

end UnitedStates

theorem Market.unitedStates_canonical_eq (s : String) :
    unitedStates.canonical s =
      if UnitedStates.IsCanonical (UnitedStates.spelled s).toList then
        .ok (UnitedStates.spelled s)
      else .error (.invalidFormat .unitedStates) := by
  rw [canonical, canonicalChars, UnitedStates.canonical_eq, ← UnitedStates.toList_spelled]
  simp only [UnitedStates.isTicker_iff]
  split_ifs <;> simp [Except.map]

/-- A ticker is what the characters of a text spell one by one, if that is a word of one to five
capitals, or such a word with a period and one capital more. -/
theorem tickers_depend_on_spelling (s : String) :
    (unitedStates.canonical s = .ok (UnitedStates.spelled s) ↔
        UnitedStates.IsCanonical (UnitedStates.spelled s).toList) ∧
      (unitedStates.canonical s = .error (.invalidFormat .unitedStates) ↔
        ¬ UnitedStates.IsCanonical (UnitedStates.spelled s).toList) ∧
      unitedStates.canonical s ≠ .error .emptyTicker ∧
      (∀ t, UnitedStates.spelled s = UnitedStates.spelled t →
        unitedStates.canonical s = unitedStates.canonical t) ∧
      ∀ code, unitedStates.canonical s = .ok code →
        code = UnitedStates.spelled s ∧ 1 ≤ code.length ∧ code.length ≤ 7 := by
  refine ⟨?_, ?_, ?_, ?_, ?_⟩
  · simp [unitedStates_canonical_eq]
  · simp [unitedStates_canonical_eq]
  · rw [unitedStates_canonical_eq]
    split_ifs <;> simp
  · intro t same
    rw [unitedStates_canonical_eq, unitedStates_canonical_eq, same]
  · intro code h
    rw [unitedStates_canonical_eq] at h
    split_ifs at h with ticker
    cases h
    exact ⟨rfl, UnitedStates.length_of_isCanonical ticker⟩

theorem ligature_spells_two_letters :
    UnitedStates.spelled "\ufb02y" = UnitedStates.spelled "f-ly" ∧
      unitedStates.canonical "\ufb02y" = unitedStates.canonical "f-ly" ∧
      unitedStates.canonical "f-ly" = .ok "FLY" ∧ 1 ≤ "FLY".length ∧ "FLY".length ≤ 7 := by
  have spelled : UnitedStates.spelled "\ufb02y" = UnitedStates.spelled "f-ly" := by
    decide +kernel
  have accepted : unitedStates.canonical "f-ly" = .ok "FLY" := by decide +kernel
  exact ⟨spelled, (tickers_depend_on_spelling "\ufb02y").2.2.2.1 "f-ly" spelled, accepted,
    ((tickers_depend_on_spelling "f-ly").2.2.2.2 "FLY" accepted).2⟩

end Ticker
