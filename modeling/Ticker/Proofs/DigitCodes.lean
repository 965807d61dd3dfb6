import Ticker.Code.AShare
import Ticker.Code.HongKong
import Ticker.Proofs.TextLaws

namespace Ticker

open Text

namespace AShare

theorem canonical_eq_ok_iff {cs code : List Char} :
    canonical cs = .ok code ↔
      (digits cs).length = 6 ∧ (Board.classify (digits cs)).isSome ∧ digits cs = code := by
  simp [canonical, ite_eq_iff, Option.isSome_iff_ne_none]

theorem canonical_eq_error_iff {cs : List Char} {cause : Rejection} :
    canonical cs = .error cause ↔
      (digits cs).length = 6 ∧ Board.classify (digits cs) = none ∧
          .unknownLead (String.ofList ((digits cs).take 2)) = cause ∨
        (digits cs).length ≠ 6 ∧ .invalidFormat .aShare = cause := by
  simp [canonical, ite_eq_iff]

end AShare

namespace HongKong

theorem canonical_eq (cs : List Char) :
    canonical cs =
      if 1 ≤ (digits cs).length ∧ (digits cs).length ≤ 5 then .ok ((digits cs).leftpad 5 '0')
      else .error (.invalidFormat .hongKong) := by
  unfold canonical
  split_ifs <;> first | rfl | omega

theorem canonical_eq_ok_iff {cs code : List Char} :
    canonical cs = .ok code ↔
      (1 ≤ (digits cs).length ∧ (digits cs).length ≤ 5) ∧ (digits cs).leftpad 5 '0' = code := by
  simp [canonical_eq, ite_eq_iff]

theorem canonical_eq_error_iff {cs : List Char} {cause : Rejection} :
    canonical cs = .error cause ↔
      ¬ (1 ≤ (digits cs).length ∧ (digits cs).length ≤ 5) ∧ .invalidFormat .hongKong = cause := by
  simp only [canonical_eq, ite_eq_iff]
  simp

end HongKong

end Ticker
