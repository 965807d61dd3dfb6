import Ticker.Proofs.DetectionLaws
import Ticker.Verdict

namespace Ticker

open Text Unicode

namespace Market

theorem canonicalChars_of_isBlank (m : Market) {cs : List Char} (h : isBlank cs) :
    m.canonicalChars cs = .error (.invalidFormat m) := by
  cases m with
  | aShare => exact AShare.canonical_eq_error_iff.2 (by simp [digits_of_isBlank h])
  | unitedStates =>
    refine UnitedStates.canonical_eq_error_iff.2 ⟨fun ticker => ?_, rfl⟩
    rw [← UnitedStates.marks_trim, trim_of_isBlank h] at ticker
    obtain ⟨c, hc, -⟩ := UnitedStates.exists_isUpper_of_isCanonical ticker
    simp [UnitedStates.marks] at hc
  | hongKong => exact HongKong.canonical_eq_error_iff.2 (by simp [digits_of_isBlank h])
  | malaysia =>
    refine Malaysia.canonical_eq_error_iff.2 ⟨?_, rfl⟩
    rw [trim_of_isBlank h]
    decide

def accepts (m : Market) (s : String) : Bool := (validate s (some m)).isAccepted

end Market

theorem validate_some_eq_accepted_iff {s : String} {m k : Market} {code : String} :
    validate s (some m) = .accepted k code ↔ k = m ∧ m.canonical s = .ok code := by
  by_cases blank : isBlank s.toList
  · have refused := Market.canonical_eq_error_iff.2 (m.canonicalChars_of_isBlank blank)
    simp [blank, refused]
  · cases outcome : m.canonical s with
    | error => simp [validate, blank, Market.verdict, Verdict.ofCanonical, outcome]
    | ok => simp [validate, blank, Market.verdict, Verdict.ofCanonical, outcome, eq_comm]

theorem validate_none_of_ok {s : String} {m : Market} (h : detect s = .ok m) :
    validate s none = validate s (some m) := by
  by_cases blank : isBlank s.toList
  · rw [validate_blank blank, validate_blank blank]
  · simp [validate, blank, h]

theorem validate_none_of_error {s : String} {cause : Rejection} (h : detect s = .error cause) :
    validate s none = .rejected cause := by
  by_cases blank : isBlank s.toList
  · have : detect s = .error .emptyInput := (Detected.blank blank).eq
    rw [this] at h
    cases h
    exact validate_blank blank _
  · simp [validate, blank, h]

theorem isCanonical_of_validate {s code : String} {hint : Option Market} {m : Market}
    (h : validate s hint = .accepted m code) : m.IsCanonical code.toList := by
  have hinted : ∀ k, validate s (some k) = .accepted m code → m.IsCanonical code.toList := by
    intro k hk
    obtain ⟨rfl, own⟩ := validate_some_eq_accepted_iff.1 hk
    exact Market.isCanonical_of_canonical own
  cases hint with
  | some k => exact hinted k h
  | none =>
    cases route : detect s with
    | ok k =>
      rw [validate_none_of_ok route] at h
      exact hinted k h
    | error cause =>
      rw [validate_none_of_error route] at h
      nomatch h

namespace Market

theorem accepts_iff {m : Market} {s : String} : m.accepts s ↔ ∃ code, m.canonical s = .ok code := by
  rw [accepts]
  constructor
  · intro h
    cases verdict : validate s (some m) with
    | accepted k code => exact ⟨code, (validate_some_eq_accepted_iff.1 verdict).2⟩
    | rejected => simp [verdict, Verdict.isAccepted] at h
  · rintro ⟨code, h⟩
    rw [validate_some_eq_accepted_iff.2 ⟨rfl, h⟩]
    rfl

theorem accepts_iff_chars {m : Market} {s : String} :
    m.accepts s ↔ ∃ code, m.canonicalChars s.toList = .ok code := by
  rw [accepts_iff]
  constructor
  · rintro ⟨code, h⟩
    exact ⟨code.toList, canonical_eq_ok_iff.1 h⟩
  · rintro ⟨code, h⟩
    exact ⟨String.ofList code, canonical_eq_ok_iff.2 (by simpa using h)⟩

theorem accepts_aShare_iff {s : String} :
    aShare.accepts s ↔ (digits s.toList).length = 6 ∧
      (Board.ofLead? (String.ofList ((digits s.toList).take 2))).isSome := by
  simp [accepts_iff_chars, canonicalChars, AShare.canonical_eq_ok_iff, Board.classify]

theorem accepts_unitedStates_iff {s : String} :
    unitedStates.accepts s ↔ UnitedStates.IsCanonical (UnitedStates.marks s.toList) := by
  simp [accepts_iff_chars, canonicalChars, UnitedStates.canonical_eq_ok_iff]

theorem accepts_hongKong_iff {s : String} :
    hongKong.accepts s ↔ 1 ≤ (digits s.toList).length ∧ (digits s.toList).length ≤ 5 := by
  simp [accepts_iff_chars, canonicalChars, HongKong.canonical_eq_ok_iff]

theorem accepts_malaysia_iff {s : String} :
    malaysia.accepts s ↔
      Malaysia.isSuffixed (trim s.toList) ∨ Malaysia.isBare (trim s.toList) := by
  simp [accepts_iff_chars, canonicalChars, Malaysia.canonical_eq_ok_iff]

end Market

end Ticker
