import Ticker.Code
import Ticker.Proofs.DigitCodes
import Ticker.Proofs.SuffixedCodes
import Ticker.Proofs.Tickers

namespace Ticker

open Text Unicode

namespace Market

theorem canonical_eq_ok_iff {m : Market} {s code : String} :
    m.canonical s = .ok code ↔ m.canonicalChars s.toList = .ok code.toList := by
  rw [canonical]
  cases m.canonicalChars s.toList with
  | error => simp [Except.map]
  | ok cs => simp [Except.map, String.ext_iff]

theorem canonical_eq_error_iff {m : Market} {s : String} {cause : Rejection} :
    m.canonical s = .error cause ↔ m.canonicalChars s.toList = .error cause := by
  rw [canonical]
  cases m.canonicalChars s.toList <;> simp [Except.map]

theorem isCanonical_of_canonicalChars {m : Market} {cs code : List Char}
    (h : m.canonicalChars cs = .ok code) : m.IsCanonical code := by
  cases m with
  | aShare => exact AShare.isCanonical_of_canonical h
  | unitedStates => exact UnitedStates.isCanonical_of_canonical h
  | hongKong => exact HongKong.isCanonical_of_canonical h
  | malaysia => exact Malaysia.isCanonical_of_canonical h

theorem isCanonical_of_canonical {m : Market} {s code : String} (h : m.canonical s = .ok code) :
    m.IsCanonical code.toList :=
  isCanonical_of_canonicalChars (canonical_eq_ok_iff.1 h)

theorem canonicalChars_eq_self {m : Market} {cs : List Char} (h : m.IsCanonical cs) :
    m.canonicalChars cs = .ok cs := by
  cases m with
  | aShare => exact AShare.canonical_eq_self h
  | unitedStates => exact UnitedStates.canonical_eq_self h
  | hongKong => exact HongKong.canonical_eq_self h
  | malaysia => exact Malaysia.canonical_eq_self h

theorem ne_nil_of_isCanonical {m : Market} {code : List Char} (h : m.IsCanonical code) :
    code ≠ [] := by
  rintro rfl
  cases m with
  | aShare => nomatch h.1
  | unitedStates =>
    obtain ⟨c, hc, -⟩ := UnitedStates.exists_isUpper_of_isCanonical h
    nomatch hc
  | hongKong => nomatch h.1
  | malaysia =>
    obtain ⟨ds, len, -, parts⟩ := h
    simp [Malaysia.suffix] at parts

theorem visible_of_isCanonical {m : Market} {code : List Char} (h : m.IsCanonical code) :
    ∀ c ∈ code, isWhiteSpace c = false := by
  cases m with
  | aShare => exact fun c hc => isWhiteSpace_of_isDigit (h.2.1 c hc)
  | unitedStates =>
    exact fun c hc =>
      UnitedStates.isWhiteSpace_of_isMark (UnitedStates.isMark_of_isCanonical h c hc)
  | hongKong => exact fun c hc => isWhiteSpace_of_isDigit (h.2 c hc)
  | malaysia => exact Malaysia.visible_of_isCanonical h

end Market

namespace Malaysia

theorem marks_of_isSuffixed {cs : List Char} (h : isSuffixed cs) :
    UnitedStates.marks cs = suffix := by
  have unmarked : (cs.take 4).filter UnitedStates.isMark = [] := by
    rw [List.filter_eq_nil_iff]
    intro c hc
    exact UnitedStates.not_isMark_of_isDigit
      ((isBare_iff.1 (isBare_take_of_isSuffixed h)).2 c hc)
  rw [UnitedStates.marks, upper_of_isSuffixed h, List.filter_append, unmarked]
  rfl

end Malaysia

end Ticker
