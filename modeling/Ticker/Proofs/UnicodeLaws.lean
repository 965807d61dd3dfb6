import Mathlib
import Ticker.Unicode.Alphabetic
import Ticker.Unicode.Uppercase
import Ticker.Unicode.WhiteSpace

namespace Ticker.Unicode

theorem covers_eq_false {table : List Interval} {low high : Nat} {c : Char}
    (apart : ∀ i ∈ table, i.last < low ∨ high < i.first)
    (hlow : low ≤ c.toNat) (hhigh : c.toNat ≤ high) : covers table c = false := by
  rw [Bool.eq_false_iff, ne_eq, covers_iff]
  rintro ⟨i, hi, inside⟩
  have := apart i hi
  omega

def spans (table : List Interval) (first last : Nat) : Bool :=
  table.any fun i => i.first.ble first && last.ble i.last

theorem covers_of_spans {table : List Interval} {first last : Nat} {c : Char}
    (h : spans table first last) (low : first ≤ c.toNat) (high : c.toNat ≤ last) :
    covers table c := by
  obtain ⟨i, hi, hfirst, hlast⟩ : ∃ i ∈ table, i.first ≤ first ∧ last ≤ i.last := by
    simpa [spans] using h
  exact covers_iff.2 ⟨i, hi, hfirst.trans low, high.trans hlast⟩

theorem isAlpha_of_isUpper {c : Char} (h : c.isUpper) : c.isAlpha := by simp [Char.isAlpha, h]

theorem isAlpha_of_isLower {c : Char} (h : c.isLower) : c.isAlpha := by simp [Char.isAlpha, h]

theorem toNat_of_isAlpha {c : Char} (h : c.isAlpha) :
    0x41 ≤ c.toNat ∧ c.toNat ≤ 0x5A ∨ 0x61 ≤ c.toNat ∧ c.toNat ≤ 0x7A := by
  simpa [Char.isAlpha, Char.isUpper, Char.isLower, UInt32.le_iff_toNat_le] using h

theorem isAlphabetic_of_isAlpha {c : Char} (h : c.isAlpha) : isAlphabetic c := by
  rw [isAlphabetic, covers_iff]
  cases toNat_of_isAlpha h with
  | inl upper => exact ⟨⟨0x41, 0x5A⟩, .head _, upper⟩
  | inr lower => exact ⟨⟨0x61, 0x7A⟩, .tail _ (.head _), lower⟩

theorem isAlphabetic_of_isDigit {c : Char} (h : c.isDigit) : isAlphabetic c = false := by
  obtain ⟨low, high⟩ := Char.isDigit_iff_toNat.1 h
  exact covers_eq_false (by decide +kernel) low high

theorem isAlphabetic_of_isWhiteSpace {c : Char} (h : isWhiteSpace c) :
    isAlphabetic c = false := by
  have apart : ∀ i ∈ whiteSpace, ∀ j ∈ alphabetic, j.last < i.first ∨ i.last < j.first := by
    decide +kernel
  obtain ⟨i, hi, low, high⟩ := covers_iff.1 h
  exact covers_eq_false (apart i hi) low high

theorem isWhiteSpace_of_isAlphabetic {c : Char} (h : isAlphabetic c) : isWhiteSpace c = false := by
  refine Bool.eq_false_iff.2 fun white => ?_
  simp [isAlphabetic_of_isWhiteSpace white] at h

theorem isWhiteSpace_of_isAlpha {c : Char} (h : c.isAlpha) : isWhiteSpace c = false :=
  isWhiteSpace_of_isAlphabetic (isAlphabetic_of_isAlpha h)

theorem isWhiteSpace_of_isDigit {c : Char} (h : c.isDigit) : isWhiteSpace c = false := by
  obtain ⟨low, high⟩ := Char.isDigit_iff_toNat.1 h
  exact covers_eq_false (by decide) low high

theorem isWhiteSpace_period : isWhiteSpace '.' = false := by decide

@[simp] theorem isDigit_toUpper (c : Char) : c.toUpper.isDigit = c.isDigit := by
  by_cases lower : c.isLower
  · have letter := isAlpha_of_isLower lower
    have := toNat_of_isAlpha letter
    have := toNat_of_isAlpha (c.isAlpha_toUpper_eq_isAlpha.trans letter)
    rw [Bool.eq_iff_iff, Char.isDigit_iff_toNat, Char.isDigit_iff_toNat]
    simp only [Char.reduceToNat]
    omega
  · rw [Char.toUpper_eq_of_not_isLower lower]

theorem upperChar_cases (c : Char) :
    (∃ word, (c.toNat, word) ∈ expansions ∧ upperChar c = word.map Char.ofNat) ∨
      (∃ r ∈ caseRuns, r.contains c.toNat ∧ upperChar c = [Char.ofNat (r.map c.toNat)]) ∨
      upperChar c = [c] := by
  unfold upperChar
  cases hword : expansions.lookup c.toNat with
  | some word =>
    obtain ⟨before, after, split, -⟩ := List.lookup_eq_some_iff.1 hword
    exact .inl ⟨word, by simp [split], rfl⟩
  | none =>
    cases hrun : caseRuns.find? (·.contains c.toNat) with
    | some r =>
      exact .inr (.inl ⟨r, List.mem_of_find?_eq_some hrun,
        by simpa using List.find?_some hrun, rfl⟩)
    | none => exact .inr (.inr rfl)

theorem CaseRun.contains_iff {r : CaseRun} {n : Nat} :
    r.contains n ↔ r.first ≤ n ∧ n ≤ r.last ∧ (n - r.first) % r.step = 0 := by
  simp [CaseRun.contains, and_assoc]

theorem upperChar_eq_self {c : Char} (h : isAlphabetic c = false) : upperChar c = [c] := by
  have words : ∀ e ∈ expansions, spans alphabetic e.1 e.1 := by decide +kernel
  have runs : ∀ r ∈ caseRuns, spans alphabetic r.first r.last := by decide +kernel
  rcases upperChar_cases c with ⟨word, hword, -⟩ | ⟨r, hr, inside, -⟩ | self
  · have : isAlphabetic c := covers_of_spans (words _ hword) le_rfl le_rfl
    simp [this] at h
  · obtain ⟨low, high, -⟩ := CaseRun.contains_iff.1 inside
    have : isAlphabetic c := covers_of_spans (runs r hr) low high
    simp [this] at h
  · exact self

theorem upperChar_of_ascii {c : Char} (h : c.toNat < 128) : upperChar c = [c.toUpper] := by
  have table : ∀ n < 128, upperChar (Char.ofNat n) = [(Char.ofNat n).toUpper] := by
    decide +kernel
  simpa using table c.toNat h

/-- The ASCII letters that stand first in the capitals of characters beyond ASCII. -/
def borrowedCapitals : List Char := ['A', 'F', 'H', 'I', 'J', 'S', 'T', 'W', 'Y']

theorem exists_mem_upperChar_of_not_ascii {c : Char} (h : 128 ≤ c.toNat) :
    ∃ d ∈ upperChar c, 128 ≤ d.toNat ∨ d ∈ borrowedCapitals := by
  have words : ∀ e ∈ expansions, ∃ n ∈ e.2,
      128 ≤ (Char.ofNat n).toNat ∨ Char.ofNat n ∈ borrowedCapitals := by decide +kernel
  -- Runs beyond ASCII stay there, save for single characters with a borrowed capital.
  have runs : ∀ r ∈ caseRuns, r.last < 128 ∨
      (r.first = r.last ∧ Char.ofNat r.capital ∈ borrowedCapitals) ∨
      128 ≤ r.capital ∧ (r.map r.last < 0xD800 ∨ 0xDFFF < r.capital ∧ r.map r.last < 0x110000) := by
    decide +kernel
  rcases upperChar_cases c with ⟨word, hword, hc⟩ | ⟨r, hr, inside, hc⟩ | self
  · obtain ⟨n, hn, hd⟩ := words _ hword
    exact ⟨Char.ofNat n, hc ▸ List.mem_map_of_mem hn, hd⟩
  · obtain ⟨low, high, -⟩ := CaseRun.contains_iff.1 inside
    refine ⟨Char.ofNat (r.map c.toNat), by simp [hc], ?_⟩
    rcases runs r hr with ascii | ⟨single, borrowed⟩ | ⟨beyond, valid⟩
    · omega
    · have : r.map c.toNat = r.capital := by simp [CaseRun.map]; omega
      exact .inr (this ▸ borrowed)
    · have hvalid : (r.map c.toNat).isValidChar := by
        simp only [CaseRun.map, Nat.isValidChar] at valid ⊢
        omega
      rw [Char.toNat_ofNat, if_pos hvalid]
      exact .inl (beyond.trans (Nat.le_add_right ..))
  · exact ⟨c, by simp [self], .inl h⟩

theorem upper_eq_map {f : Char → Char} {cs : List Char} (h : ∀ c ∈ cs, upperChar c = [f c]) :
    upper cs = cs.map f := by
  induction cs with
  | nil => rfl
  | cons c cs ih =>
    rw [upper_cons, h c (by simp), ih fun d hd => h d (by simp [hd])]
    rfl

theorem upper_of_unlettered {cs : List Char} (h : ∀ c ∈ cs, isAlphabetic c = false) :
    upper cs = cs :=
  (upper_eq_map fun c hc => upperChar_eq_self (h c hc)).trans (List.map_id' cs)

theorem upper_of_ascii {cs : List Char} (h : ∀ c ∈ cs, c.toNat < 128) :
    upper cs = cs.map Char.toUpper :=
  upper_eq_map fun c hc => upperChar_of_ascii (h c hc)

end Ticker.Unicode
