import Ticker.Code.UnitedStates
import Ticker.Proofs.TextLaws

namespace Ticker

open Text Unicode

namespace UnitedStates

theorem isWord_iff {low high : Nat} {cs : List Char} :
    isWord low high cs ↔ low ≤ cs.length ∧ cs.length ≤ high ∧ ∀ c ∈ cs, c.isUpper := by
  simp [isWord, and_assoc]

theorem ne_period_of_isUpper {c : Char} (h : c.isUpper) : c ≠ '.' := by
  rintro rfl
  simp at h

theorem isTicker_of_isCanonical {cs : List Char} (h : IsCanonical cs) : isTicker cs := by
  have before : ∀ {root : List Char}, (∀ c ∈ root, c.isUpper) → ∀ c ∈ root, (c != '.') = true :=
    fun capitals c hc => by simpa using ne_period_of_isUpper (capitals c hc)
  cases h with
  | @plain root nonempty short capitals =>
    have none_left : cs.dropWhile (· != '.') = [] :=
      List.dropWhile_eq_nil_iff.2 (before capitals)
    have := List.length_pos_iff.2 nonempty
    simpa [isTicker, none_left, isWord_iff] using ⟨this, short, capitals⟩
  | @classed root c nonempty short capitals capital =>
    have tail : (root ++ ['.', c]).dropWhile (· != '.') = ['.', c] := by
      rw [List.dropWhile_append_of_pos (before capitals)]
      simp
    have head : (root ++ ['.', c]).takeWhile (· != '.') = root := by
      rw [List.takeWhile_append_of_pos (before capitals)]
      simp
    have := List.length_pos_iff.2 nonempty
    simpa [isTicker, head, tail, isWord_iff] using ⟨⟨this, short, capitals⟩, capital⟩

theorem isCanonical_of_isTicker {cs : List Char} (h : isTicker cs) : IsCanonical cs := by
  unfold isTicker at h
  split at h
  · obtain ⟨long, short, capitals⟩ := isWord_iff.1 h
    exact .plain (List.length_pos_iff.1 long) short capitals
  · next d shareClass tail =>
    have period : d = '.' := by
      simpa [tail] using List.head?_dropWhile_not (· != '.') cs
    obtain ⟨root, class_⟩ := Bool.and_eq_true_iff.1 h
    obtain ⟨long, short, capitals⟩ := isWord_iff.1 root
    obtain ⟨least, most, capital⟩ := isWord_iff.1 class_
    obtain ⟨c, rfl⟩ := List.length_eq_one_iff.1 (le_antisymm most least)
    rw [← List.takeWhile_append_dropWhile (p := (· != '.')) (l := cs), tail, period]
    exact .classed (List.length_pos_iff.1 long) short capitals (capital c (by simp))

theorem isTicker_iff {cs : List Char} : isTicker cs ↔ IsCanonical cs :=
  ⟨isCanonical_of_isTicker, isTicker_of_isCanonical⟩

instance (cs : List Char) : Decidable (IsCanonical cs) :=
  decidable_of_iff (isTicker cs = true) isTicker_iff

theorem isMark_of_isCanonical {cs : List Char} (h : IsCanonical cs) : ∀ c ∈ cs, isMark c := by
  cases h with
  | plain _ _ capitals => exact fun c hc => by simp [isMark, capitals c hc]
  | @classed root d _ _ capitals capital =>
    intro c hc
    simp only [List.mem_append, List.mem_cons, List.not_mem_nil, or_false] at hc
    rcases hc with hc | rfl | rfl
    · simp [isMark, capitals c hc]
    · rfl
    · simp [isMark, capital]

theorem exists_isUpper_of_isCanonical {cs : List Char} (h : IsCanonical cs) :
    ∃ c ∈ cs, c.isUpper := by
  cases h with
  | plain nonempty _ capitals =>
    obtain ⟨c, hc⟩ := List.exists_mem_of_ne_nil _ nonempty
    exact ⟨c, hc, capitals c hc⟩
  | classed nonempty _ capitals _ =>
    obtain ⟨c, hc⟩ := List.exists_mem_of_ne_nil _ nonempty
    exact ⟨c, by simp [hc], capitals c hc⟩

theorem toNat_of_isMark {c : Char} (h : isMark c) :
    c.toNat = 0x2E ∨ 0x41 ≤ c.toNat ∧ c.toNat ≤ 0x7A := by
  cases Bool.or_eq_true_iff.1 h with
  | inl upper =>
    have := toNat_of_isAlpha (isAlpha_of_isUpper upper)
    omega
  | inr period => simp [beq_iff_eq.1 period]

theorem not_isMark_of_isDigit {c : Char} (h : c.isDigit) : ¬ isMark c := by
  intro mark
  obtain ⟨low, high⟩ := Char.isDigit_iff_toNat.1 h
  have := toNat_of_isMark mark
  simp only [Char.reduceToNat] at low high
  omega

theorem isWhiteSpace_of_isMark {c : Char} (h : isMark c) : isWhiteSpace c = false := by
  cases Bool.or_eq_true_iff.1 h with
  | inl upper =>
    exact isWhiteSpace_of_isAlpha (isAlpha_of_isUpper upper)
  | inr period => rw [beq_iff_eq.1 period, isWhiteSpace_period]

theorem toUpper_of_isMark {c : Char} (h : isMark c) : c.toUpper = c := by
  cases Bool.or_eq_true_iff.1 h with
  | inl upper => exact Char.toUpper_eq_of_not_isLower (Char.not_isLower_of_isUpper upper)
  | inr period =>
    rw [beq_iff_eq.1 period]
    rfl

@[simp] theorem marks_append (cs ds : List Char) : marks (cs ++ ds) = marks cs ++ marks ds := by
  simp [marks]

theorem marks_eq_self {cs : List Char} (h : ∀ c ∈ cs, isMark c) : marks cs = cs := by
  have ascii : ∀ c ∈ cs, c.toNat < 128 := fun c hc => by
    have := toNat_of_isMark (h c hc)
    omega
  have raised : cs.map Char.toUpper = cs :=
    (List.map_congr_left fun c hc => toUpper_of_isMark (h c hc)).trans (List.map_id' cs)
  rw [marks, upper_of_ascii ascii, raised, List.filter_eq_self.2 h]

theorem marks_eq_filter {cs : List Char} (h : ∀ c ∈ cs, isAlphabetic c = false) :
    marks cs = cs.filter (· == '.') := by
  rw [marks, upper_of_unlettered h]
  apply List.filter_congr
  intro c hc
  have small : c.isUpper = false := by
    refine Bool.eq_false_iff.2 fun upper => ?_
    have := isAlphabetic_of_isAlpha (isAlpha_of_isUpper upper)
    simp [h c hc] at this
  simp [isMark, small]

@[simp] theorem marks_trim (cs : List Char) : marks (trim cs) = marks cs := by
  obtain ⟨front, back, split, hfront, hback⟩ := trim_split cs
  have unmarked : ∀ ds : List Char, (∀ c ∈ ds, isWhiteSpace c) → marks ds = [] := by
    intro ds white
    rw [marks_eq_filter fun c hc => isAlphabetic_of_isWhiteSpace (white c hc),
      List.filter_eq_nil_iff]
    intro c hc period
    have := white c hc
    simp [beq_iff_eq.1 period, isWhiteSpace_period] at this
  conv_rhs => rw [split]
  simp [unmarked front hfront, unmarked back hback]

/-- No ticker is made of periods alone, so none is refused as empty. -/
theorem canonical_eq (cs : List Char) :
    canonical cs =
      if isTicker (marks cs) then .ok (marks cs) else .error (.invalidFormat .unitedStates) := by
  unfold canonical
  simp only [marks_trim]
  by_cases ticker : isTicker (marks cs)
  · obtain ⟨c, hc, upper⟩ := exists_isUpper_of_isCanonical (isTicker_iff.1 ticker)
    have lettered : (marks cs).all (· == '.') = false := by
      simpa using ⟨c, hc, ne_period_of_isUpper upper⟩
    simp [ticker, lettered]
  · simp [ticker]

theorem canonical_eq_ok_iff {cs code : List Char} :
    canonical cs = .ok code ↔ IsCanonical (marks cs) ∧ marks cs = code := by
  simp [canonical_eq, ite_eq_iff, isTicker_iff]

theorem canonical_eq_error_iff {cs : List Char} {cause : Rejection} :
    canonical cs = .error cause ↔
      ¬ IsCanonical (marks cs) ∧ .invalidFormat .unitedStates = cause := by
  simp [canonical_eq, ite_eq_iff, isTicker_iff]

theorem isCanonical_of_canonical {cs code : List Char} (h : canonical cs = .ok code) :
    IsCanonical code := by
  obtain ⟨ticker, rfl⟩ := canonical_eq_ok_iff.1 h
  exact ticker

theorem canonical_eq_self {cs : List Char} (h : IsCanonical cs) : canonical cs = .ok cs := by
  rw [canonical_eq_ok_iff, marks_eq_self (isMark_of_isCanonical h)]
  exact ⟨h, rfl⟩

end UnitedStates

end Ticker
