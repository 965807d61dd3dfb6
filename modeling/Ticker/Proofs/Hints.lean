import Ticker.Proofs.Acceptance

namespace Ticker

open Text Unicode

section Shapes

variable {cs : List Char}

theorem not_isBare_of_any_isAlphabetic (h : cs.any isAlphabetic) :
    Malaysia.isBare (trim cs) = false := by
  refine Bool.eq_false_iff.2 fun bare => ?_
  simp [unlettered_of_isBare bare] at h

theorem not_isCanonical_marks_of_unlettered (h : cs.any isAlphabetic = false) :
    ¬ UnitedStates.IsCanonical (UnitedStates.marks cs) := by
  intro ticker
  obtain ⟨c, hc, upper⟩ := UnitedStates.exists_isUpper_of_isCanonical ticker
  rw [UnitedStates.marks_eq_filter (by simpa using h)] at hc
  exact UnitedStates.ne_period_of_isUpper upper (by simpa using (List.mem_filter.1 hc).2)

theorem not_isCanonical_marks_of_isSuffixed (h : Malaysia.isSuffixed (trim cs)) :
    ¬ UnitedStates.IsCanonical (UnitedStates.marks cs) := by
  rw [← UnitedStates.marks_trim, Malaysia.marks_of_isSuffixed h]
  decide

end Shapes

namespace Market

variable {s : String}

theorem not_accepts_aShare_and_hongKong (s : String) :
    ¬ (aShare.accepts s ∧ hongKong.accepts s) := by
  rw [accepts_aShare_iff, accepts_hongKong_iff]
  omega

theorem hints_of_emptyInput (h : detect s = .error .emptyInput) (m : Market) :
    validate s (some m) = .rejected .emptyInput := by
  cases detectChars_eq_iff.1 h with
  | blank blank => exact validate_blank blank _

theorem hints_of_aShare (h : detect s = .ok .aShare) :
    ¬ unitedStates.accepts s ∧ ¬ hongKong.accepts s ∧ ¬ malaysia.accepts s ∧
      (aShare.accepts s ↔
        (Board.ofLead? (String.ofList ((digits s.toList).take 2))).isSome) := by
  rw [accepts_aShare_iff, accepts_unitedStates_iff, accepts_hongKong_iff, accepts_malaysia_iff]
  cases detectChars_eq_iff.1 h with
  | six unlettered six =>
    refine ⟨not_isCanonical_marks_of_unlettered unlettered, by omega, fun shape => ?_,
      and_iff_right six⟩
    have := Malaysia.length_digits shape
    omega

theorem hints_of_hongKong (h : detect s = .ok .hongKong) :
    hongKong.accepts s ∧ ¬ aShare.accepts s ∧ ¬ unitedStates.accepts s ∧
      (malaysia.accepts s ↔ (trim s.toList).length = 4 ∧ ∀ c ∈ trim s.toList, c.isDigit) := by
  rw [← Malaysia.isBare_iff, accepts_aShare_iff, accepts_unitedStates_iff, accepts_hongKong_iff,
    accepts_malaysia_iff]
  cases detectChars_eq_iff.1 h with
  | few unlettered low high =>
    refine ⟨⟨low, high⟩, by omega, not_isCanonical_marks_of_unlettered unlettered, ?_⟩
    simp [not_isSuffixed_of_unlettered unlettered]

theorem hints_of_malaysia (h : detect s = .ok .malaysia) :
    validate s (some .malaysia) =
        .accepted .malaysia (String.ofList ((trim s.toList).take 4) ++ ".KL") ∧
      validate s (some .hongKong) =
        .accepted .hongKong ("0" ++ String.ofList ((trim s.toList).take 4)) ∧
      ¬ aShare.accepts s ∧ ¬ unitedStates.accepts s := by
  rw [accepts_aShare_iff, accepts_unitedStates_iff]
  cases detectChars_eq_iff.1 h with
  | suffixed shape =>
    have len := Malaysia.length_digits (.inl shape)
    refine ⟨?_, ?_, by omega, not_isCanonical_marks_of_isSuffixed shape⟩
    · rw [validate_some_eq_accepted_iff, canonical_eq_ok_iff]
      exact ⟨rfl, Malaysia.canonical_eq_ok_iff.2 ⟨.inl shape, by simp [Malaysia.suffix]⟩⟩
    · rw [validate_some_eq_accepted_iff, canonical_eq_ok_iff]
      refine ⟨rfl, HongKong.canonical_eq_ok_iff.2 ⟨by omega, ?_⟩⟩
      rw [List.leftpad, len, ← digits_trim, Malaysia.digits_of_isSuffixed shape]
      simp

theorem hints_of_unitedStates (h : detect s = .ok .unitedStates) : ¬ malaysia.accepts s := by
  rw [accepts_malaysia_iff]
  cases detectChars_eq_iff.1 h with
  | latin latin shape =>
    simp [shape, not_isBare_of_any_isAlphabetic (any_isAlphabetic_of_isAlpha latin)]

theorem hints_of_invalidLength {n : Nat} (h : detect s = .error (.invalidLength n)) (m : Market) :
    ¬ m.accepts s := by
  cases detectChars_eq_iff.1 h with
  | other visible unlettered count =>
    cases m with
    | aShare =>
      rw [accepts_aShare_iff]
      omega
    | unitedStates =>
      rw [accepts_unitedStates_iff]
      exact not_isCanonical_marks_of_unlettered unlettered
    | hongKong =>
      rw [accepts_hongKong_iff]
      omega
    | malaysia =>
      rw [accepts_malaysia_iff]
      intro shape
      have := Malaysia.length_digits shape
      omega

theorem hints_of_unrecognizedFormat (h : detect s = .error .unrecognizedFormat) :
    ¬ malaysia.accepts s := by
  rw [accepts_malaysia_iff]
  cases detectChars_eq_iff.1 h with
  | foreign lettered latin =>
    rintro (suffixed | bare)
    · simp [any_isAlpha_of_isSuffixed suffixed] at latin
    · simp [not_isBare_of_any_isAlphabetic lettered] at bare

end Market

open Market

/-- Hints cross over in two places only: four bare digits pass for a Malaysian code, and the digits
of a Malaysian code for one of Hong Kong. Beside letters, digits may still count under a hint, yet
never for two markets at once. -/
theorem detection_bounds_hints (s : String) :
    (detect s = .error .emptyInput → ∀ m, validate s (some m) = .rejected .emptyInput) ∧
      (detect s = .ok .aShare →
        ¬ unitedStates.accepts s ∧ ¬ hongKong.accepts s ∧ ¬ malaysia.accepts s ∧
          (aShare.accepts s ↔
            (Board.ofLead? (String.ofList ((digits s.toList).take 2))).isSome)) ∧
      (detect s = .ok .hongKong →
        hongKong.accepts s ∧ ¬ aShare.accepts s ∧ ¬ unitedStates.accepts s ∧
          (malaysia.accepts s ↔
            (trim s.toList).length = 4 ∧ ∀ c ∈ trim s.toList, c.isDigit)) ∧
      (detect s = .ok .malaysia →
        validate s (some .malaysia) =
            .accepted .malaysia (String.ofList ((trim s.toList).take 4) ++ ".KL") ∧
          validate s (some .hongKong) =
            .accepted .hongKong ("0" ++ String.ofList ((trim s.toList).take 4)) ∧
          ¬ aShare.accepts s ∧ ¬ unitedStates.accepts s) ∧
      (detect s = .ok .unitedStates →
        ¬ malaysia.accepts s ∧ ¬ (aShare.accepts s ∧ hongKong.accepts s)) ∧
      (∀ n, detect s = .error (.invalidLength n) → ∀ m : Market, ¬ m.accepts s) ∧
      (detect s = .error .unrecognizedFormat →
        ¬ malaysia.accepts s ∧ ¬ (aShare.accepts s ∧ hongKong.accepts s)) :=
  ⟨hints_of_emptyInput, hints_of_aShare, hints_of_hongKong, hints_of_malaysia,
    fun h => ⟨hints_of_unitedStates h, not_accepts_aShare_and_hongKong s⟩,
    fun _ => hints_of_invalidLength,
    fun h => ⟨hints_of_unrecognizedFormat h, not_accepts_aShare_and_hongKong s⟩⟩

theorem hongKong_hint_on_malaysian_code :
    detect " 1155.kl" = .ok .malaysia ∧
      validate " 1155.kl" (some .hongKong) = .accepted .hongKong "01155" := by
  have route : detect " 1155.kl" = .ok .malaysia := by decide +kernel
  exact ⟨route, ((detection_bounds_hints " 1155.kl").2.2.2.1 route).2.1⟩

end Ticker
