import Ticker.Code.Malaysia
import Ticker.Proofs.TextLaws

namespace Ticker

open Text Unicode

namespace Malaysia

def isSymbol (c : Char) : Bool := c.isDigit || suffix.contains c.toUpper

theorem isBare_iff {cs : List Char} : isBare cs ↔ cs.length = 4 ∧ ∀ c ∈ cs, c.isDigit := by
  simp [isBare]

theorem isSuffixed_iff {cs : List Char} :
    isSuffixed cs ↔ ∃ ds tail, isBare ds ∧ tail.map Char.toUpper = suffix ∧ cs = ds ++ tail := by
  constructor
  · intro h
    obtain ⟨bare, tail⟩ := Bool.and_eq_true_iff.1 h
    exact ⟨cs.take 4, cs.drop 4, bare, beq_iff_eq.1 tail, (List.take_append_drop 4 cs).symm⟩
  · rintro ⟨ds, tail, bare, raised, rfl⟩
    have len := (isBare_iff.1 bare).1
    simp [isSuffixed, List.take_left' len, List.drop_left' len, bare, raised]

/-- Four digits and then `.KL` in either case, without the test that looks for it. -/
def HasSuffix (cs : List Char) : Prop :=
  ∃ ds tail, ds.length = 4 ∧ (∀ d ∈ ds, d.isDigit) ∧ tail.map Char.toUpper = ".KL".toList ∧
    cs = ds ++ tail

theorem isSuffixed_iff_hasSuffix {cs : List Char} : isSuffixed cs ↔ HasSuffix cs := by
  simp [isSuffixed_iff, isBare_iff, HasSuffix, suffix, and_assoc]

theorem isSymbol_of_isBare {cs : List Char} (h : isBare cs) : ∀ c ∈ cs, isSymbol c :=
  fun c hc => by simp [isSymbol, (isBare_iff.1 h).2 c hc]

theorem isSymbol_of_isSuffixed {cs : List Char} (h : isSuffixed cs) : ∀ c ∈ cs, isSymbol c := by
  obtain ⟨ds, tail, bare, raised, rfl⟩ := isSuffixed_iff.1 h
  intro c hc
  cases List.mem_append.1 hc with
  | inl digit => exact isSymbol_of_isBare bare c digit
  | inr letter =>
    have : c.toUpper ∈ suffix := raised ▸ List.mem_map_of_mem letter
    simp [isSymbol, this]

theorem toNat_of_isSymbol {c : Char} (h : isSymbol c) : c.toNat < 128 := by
  cases Bool.or_eq_true_iff.1 h with
  | inl digit =>
    have := (Char.isDigit_iff_toNat.1 digit).2
    exact this.trans_lt (by decide)
  | inr letter =>
    by_cases lower : c.isLower
    · have := toNat_of_isAlpha (isAlpha_of_isLower lower)
      omega
    · rw [Char.toUpper_eq_of_not_isLower lower] at letter
      have ascii : ∀ d ∈ suffix, d.toNat < 128 := by simp [suffix]
      exact ascii c (by simpa using letter)

theorem upper_eq_map_of_symbols {cs : List Char} (h : ∀ d ∈ upper cs, isSymbol d) :
    upper cs = cs.map Char.toUpper := by
  have others : ∀ d ∈ borrowedCapitals, isSymbol d = false :=
    List.forall_iff_forall_mem.1 (by decide)
  apply upper_of_ascii
  intro c hc
  by_contra beyond
  -- A character beyond ASCII leaves a capital that is no symbol.
  obtain ⟨d, hd, far⟩ := exists_mem_upperChar_of_not_ascii (not_lt.1 beyond)
  have symbol := h d (List.mem_flatMap.2 ⟨c, hc, hd⟩)
  cases far with
  | inl far => exact absurd (toNat_of_isSymbol symbol) (not_lt.2 far)
  | inr borrowed => simp [others d borrowed] at symbol

/-- A test that only symbols pass, and in either case, has the same answer for the capitals. -/
theorem test_upper {test : List Char → Bool} (symbols : ∀ cs, test cs → ∀ c ∈ cs, isSymbol c)
    (either : ∀ cs, test (cs.map Char.toUpper) = test cs) (cs : List Char) :
    test (upper cs) = test cs := by
  rw [Bool.eq_iff_iff]
  constructor
  · intro h
    rwa [upper_eq_map_of_symbols (symbols _ h), either] at h
  · intro h
    rwa [upper_of_ascii fun c hc => toNat_of_isSymbol (symbols cs h c hc), either]

@[simp] theorem isBare_map_toUpper (cs : List Char) : isBare (cs.map Char.toUpper) = isBare cs := by
  simp [isBare, Function.comp_def]

@[simp] theorem isBare_upper (cs : List Char) : isBare (upper cs) = isBare cs :=
  test_upper (fun _ => isSymbol_of_isBare) isBare_map_toUpper cs

@[simp] theorem isSuffixed_map_toUpper (cs : List Char) :
    isSuffixed (cs.map Char.toUpper) = isSuffixed cs := by
  simp [isSuffixed, ← List.map_take, ← List.map_drop, Function.comp_def]

@[simp] theorem isSuffixed_upper (cs : List Char) : isSuffixed (upper cs) = isSuffixed cs :=
  test_upper (fun _ => isSymbol_of_isSuffixed) isSuffixed_map_toUpper cs

theorem upper_of_isBare {cs : List Char} (h : isBare cs) : upper cs = cs :=
  upper_of_unlettered fun c hc => isAlphabetic_of_isDigit ((isBare_iff.1 h).2 c hc)

theorem take_of_isBare {cs : List Char} (h : isBare cs) : cs.take 4 = cs :=
  List.take_of_length_le (isBare_iff.1 h).1.le

theorem upper_of_isSuffixed {cs : List Char} (h : isSuffixed cs) :
    upper cs = cs.take 4 ++ suffix := by
  obtain ⟨ds, tail, bare, raised, rfl⟩ := isSuffixed_iff.1 h
  have tail_upper : upper tail = suffix := by
    rw [upper_of_ascii fun c hc => toNat_of_isSymbol
      (isSymbol_of_isSuffixed h c (List.mem_append_right _ hc)), raised]
  rw [upper_append, upper_of_isBare bare, tail_upper, List.take_left' (isBare_iff.1 bare).1]

theorem canonical_eq (cs : List Char) :
    canonical cs =
      if isSuffixed (trim cs) || isBare (trim cs) then .ok ((trim cs).take 4 ++ suffix)
      else .error (.invalidFormat .malaysia) := by
  simp only [canonical, isSuffixed_upper, isBare_upper]
  by_cases suffixed : isSuffixed (trim cs)
  · simp [suffixed, upper_of_isSuffixed suffixed]
  · by_cases bare : isBare (trim cs)
    · simp [suffixed, bare, upper_of_isBare bare, take_of_isBare bare]
    · simp [suffixed, bare]

theorem canonical_eq_ok_iff {cs code : List Char} :
    canonical cs = .ok code ↔
      (isSuffixed (trim cs) ∨ isBare (trim cs)) ∧ (trim cs).take 4 ++ suffix = code := by
  simp [canonical_eq, ite_eq_iff]

theorem canonical_eq_error_iff {cs : List Char} {cause : Rejection} :
    canonical cs = .error cause ↔
      ¬ (isSuffixed (trim cs) ∨ isBare (trim cs)) ∧ .invalidFormat .malaysia = cause := by
  simp [canonical_eq, ite_eq_iff]

theorem isBare_take_of_isSuffixed {cs : List Char} (h : isSuffixed cs) : isBare (cs.take 4) :=
  (Bool.and_eq_true_iff.1 h).1

theorem isCanonical_of_canonical {cs code : List Char} (h : canonical cs = .ok code) :
    IsCanonical code := by
  obtain ⟨shape, rfl⟩ := canonical_eq_ok_iff.1 h
  have bare : isBare ((trim cs).take 4) := by
    cases shape with
    | inl suffixed => exact isBare_take_of_isSuffixed suffixed
    | inr bare => rwa [take_of_isBare bare]
  obtain ⟨len, dig⟩ := isBare_iff.1 bare
  exact ⟨_, len, dig, rfl⟩

theorem isSuffixed_of_isCanonical {cs : List Char} (h : IsCanonical cs) : isSuffixed cs := by
  obtain ⟨ds, len, dig, rfl⟩ := h
  exact isSuffixed_iff.2 ⟨ds, suffix, isBare_iff.2 ⟨len, dig⟩, rfl, rfl⟩

theorem visible_of_isCanonical {cs : List Char} (h : IsCanonical cs) :
    ∀ c ∈ cs, isWhiteSpace c = false := by
  obtain ⟨ds, len, dig, rfl⟩ := h
  have visible : ∀ c ∈ suffix, isWhiteSpace c = false := List.forall_iff_forall_mem.1 (by decide)
  intro c hc
  cases List.mem_append.1 hc with
  | inl digit => exact isWhiteSpace_of_isDigit (dig c digit)
  | inr symbol => exact visible c symbol

theorem trim_of_isCanonical {cs : List Char} (h : IsCanonical cs) : trim cs = cs :=
  trim_eq_self (visible_of_isCanonical h)

theorem canonical_eq_self {cs : List Char} (h : IsCanonical cs) : canonical cs = .ok cs := by
  rw [canonical_eq_ok_iff, trim_of_isCanonical h]
  refine ⟨.inl (isSuffixed_of_isCanonical h), ?_⟩
  obtain ⟨ds, len, -, rfl⟩ := h
  rw [List.take_left' len]

theorem digits_of_isBare {cs : List Char} (h : isBare cs) : digits cs = cs :=
  digits_eq_self (isBare_iff.1 h).2

theorem digits_of_isSuffixed {cs : List Char} (h : isSuffixed cs) : digits cs = cs.take 4 := by
  obtain ⟨ds, tail, bare, raised, rfl⟩ := isSuffixed_iff.1 h
  have tail_digits : (digits tail).map Char.toUpper = digits suffix := by
    rw [← raised]
    simp [digits, List.filter_map, Function.comp_def]
  have no_digits : digits tail = [] := List.map_eq_nil_iff.1 tail_digits
  rw [digits_append, digits_of_isBare bare, no_digits, List.append_nil,
    List.take_left' (isBare_iff.1 bare).1]

def isShaped (cs : List Char) : Bool := isSuffixed (trim cs) || isBare (trim cs)

theorem take_trim_of_isShaped {cs : List Char} (h : isShaped cs) :
    (trim cs).take 4 = digits cs := by
  rw [← digits_trim]
  cases Bool.or_eq_true_iff.1 h with
  | inl suffixed => rw [digits_of_isSuffixed suffixed]
  | inr bare => rw [take_of_isBare bare, digits_of_isBare bare]

theorem canonical_eq_digits (cs : List Char) :
    canonical cs =
      if isShaped cs then .ok (digits cs ++ suffix) else .error (.invalidFormat .malaysia) := by
  rw [canonical_eq, ← isShaped]
  split_ifs with shaped
  · rw [take_trim_of_isShaped shaped]
  · rfl

theorem length_digits {cs : List Char} (h : isSuffixed (trim cs) ∨ isBare (trim cs)) :
    (digits cs).length = 4 := by
  rw [← digits_trim]
  cases h with
  | inl suffixed =>
    rw [digits_of_isSuffixed suffixed]
    exact (isBare_iff.1 (isBare_take_of_isSuffixed suffixed)).1
  | inr bare =>
    rw [digits_of_isBare bare]
    exact (isBare_iff.1 bare).1

theorem exists_isAlpha_of_isSuffixed {cs : List Char} (h : isSuffixed cs) :
    ∃ c ∈ cs, c.isAlpha := by
  obtain ⟨ds, tail, -, raised, rfl⟩ := isSuffixed_iff.1 h
  have letter : 'K' ∈ tail.map Char.toUpper := by simp [raised, suffix]
  obtain ⟨c, hc, capital⟩ := List.mem_map.1 letter
  refine ⟨c, List.mem_append_right _ hc, ?_⟩
  rw [← Char.isUpper_toUpper_eq_isAlpha, capital]
  rfl

end Malaysia

end Ticker
