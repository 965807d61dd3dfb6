import Ticker.Detection
import Ticker.Proofs.CodeLaws

namespace Ticker

open Text Unicode

inductive Detected (cs : List Char) : Except Rejection Market → Prop
  | blank : isBlank cs → Detected cs (.error .emptyInput)
  | suffixed : Malaysia.isSuffixed (trim cs) → Detected cs (.ok .malaysia)
  | latin : cs.any Char.isAlpha → Malaysia.isSuffixed (trim cs) = false →
      Detected cs (.ok .unitedStates)
  | foreign : cs.any isAlphabetic → cs.any Char.isAlpha = false →
      Detected cs (.error .unrecognizedFormat)
  | six : cs.any isAlphabetic = false → (digits cs).length = 6 → Detected cs (.ok .aShare)
  | few : cs.any isAlphabetic = false → 1 ≤ (digits cs).length → (digits cs).length ≤ 5 →
      Detected cs (.ok .hongKong)
  | other : isBlank cs = false → cs.any isAlphabetic = false →
      (digits cs).length = 0 ∨ 7 ≤ (digits cs).length →
      Detected cs (.error (.invalidLength (digits cs).length))

section Facts

variable {cs : List Char}

theorem any_isAlphabetic_of_isAlpha (h : cs.any Char.isAlpha) : cs.any isAlphabetic := by
  obtain ⟨c, hc, letter⟩ := List.any_eq_true.1 h
  exact List.any_eq_true.2 ⟨c, hc, isAlphabetic_of_isAlpha letter⟩

theorem any_isAlpha_of_isSuffixed (h : Malaysia.isSuffixed (trim cs)) : cs.any Char.isAlpha := by
  obtain ⟨c, hc, letter⟩ := Malaysia.exists_isAlpha_of_isSuffixed h
  exact List.any_eq_true.2 ⟨c, mem_of_mem_trim hc, letter⟩

theorem not_isBlank_of_any_isAlphabetic (h : cs.any isAlphabetic) : isBlank cs = false := by
  obtain ⟨c, hc, letter⟩ := List.any_eq_true.1 h
  exact not_isBlank_of_mem hc (isWhiteSpace_of_isAlphabetic letter)

theorem not_isBlank_of_digits (h : (digits cs).length ≠ 0) : isBlank cs = false := by
  refine Bool.eq_false_iff.2 fun blank => ?_
  simp [digits_of_isBlank blank] at h

theorem unlettered_of_digits (h : ∀ c ∈ cs, c.isDigit) : cs.any isAlphabetic = false :=
  List.any_eq_false.2 fun c hc => by simp [isAlphabetic_of_isDigit (h c hc)]

theorem unlettered_of_isBare (h : Malaysia.isBare (trim cs)) : cs.any isAlphabetic = false := by
  rw [← any_trim fun _ => isWhiteSpace_of_isAlphabetic]
  exact unlettered_of_digits (Malaysia.isBare_iff.1 h).2

theorem not_isSuffixed_of_unlettered (h : cs.any isAlphabetic = false) :
    Malaysia.isSuffixed (trim cs) = false := by
  refine Bool.eq_false_iff.2 fun suffixed => ?_
  simp [any_isAlphabetic_of_isAlpha (any_isAlpha_of_isSuffixed suffixed)] at h

end Facts

/-- Margins hold neither letters nor digits, so that all tests but one see the whole text. -/
theorem detectChars_eq_ite (cs : List Char) :
    detectChars cs =
      if isBlank cs then .error .emptyInput
      else if Malaysia.isSuffixed (trim cs) then .ok .malaysia
      else if !cs.any isAlphabetic then
        if (digits cs).length = 6 then .ok .aShare
        else if 1 ≤ (digits cs).length ∧ (digits cs).length ≤ 5 then .ok .hongKong
        else .error (.invalidLength (digits cs).length)
      else if cs.any Char.isAlpha then .ok .unitedStates
      else .error .unrecognizedFormat := by
  have letters : (trim cs).any isAlphabetic = cs.any isAlphabetic :=
    any_trim (fun _ => isWhiteSpace_of_isAlphabetic) cs
  have latin : (trim cs).any Char.isAlpha = cs.any Char.isAlpha :=
    any_trim (fun _ => isWhiteSpace_of_isAlpha) cs
  rw [detectChars, detectTrimmed, ← isBlank_eq_isEmpty_trim, letters, latin, digits_trim]

theorem detected (cs : List Char) : Detected cs (detectChars cs) := by
  rw [detectChars_eq_ite]
  split_ifs with blank suffixed unlettered six few latin
  · exact .blank blank
  · exact .suffixed suffixed
  · exact .six (by simpa using unlettered) six
  · exact .few (by simpa using unlettered) few.1 few.2
  · exact .other (Bool.eq_false_iff.2 blank) (by simpa using unlettered) (by omega)
  · exact .latin latin (Bool.eq_false_iff.2 suffixed)
  · exact .foreign (by simpa using unlettered) (Bool.eq_false_iff.2 latin)

theorem Detected.eq {cs : List Char} {outcome : Except Rejection Market}
    (h : Detected cs outcome) : detectChars cs = outcome := by
  rw [detectChars_eq_ite]
  cases h with
  | blank blank => simp [blank]
  | suffixed shape =>
    have lettered := any_isAlphabetic_of_isAlpha (any_isAlpha_of_isSuffixed shape)
    simp [not_isBlank_of_any_isAlphabetic lettered, shape]
  | latin latin shape =>
    have lettered := any_isAlphabetic_of_isAlpha latin
    simp only [not_isBlank_of_any_isAlphabetic lettered, shape, lettered, latin]
    rfl
  | foreign lettered latin =>
    have shape : Malaysia.isSuffixed (trim cs) = false := by
      refine Bool.eq_false_iff.2 fun suffixed => ?_
      simp [any_isAlpha_of_isSuffixed suffixed] at latin
    simp only [not_isBlank_of_any_isAlphabetic lettered, shape, lettered, latin]
    rfl
  | six unlettered six =>
    have visible : isBlank cs = false := not_isBlank_of_digits (by omega)
    simp [visible, not_isSuffixed_of_unlettered unlettered, unlettered, six]
  | few unlettered low high =>
    have visible : isBlank cs = false := not_isBlank_of_digits (by omega)
    have : (digits cs).length ≠ 6 := by omega
    simp [visible, not_isSuffixed_of_unlettered unlettered, unlettered, this, low, high]
  | other visible unlettered count =>
    have six : (digits cs).length ≠ 6 := by omega
    have few : ¬ (1 ≤ (digits cs).length ∧ (digits cs).length ≤ 5) := by omega
    simp [visible, not_isSuffixed_of_unlettered unlettered, unlettered, six, few]

theorem detectChars_eq_iff {cs : List Char} {outcome : Except Rejection Market} :
    detectChars cs = outcome ↔ Detected cs outcome :=
  ⟨fun h => h ▸ detected cs, Detected.eq⟩

end Ticker
