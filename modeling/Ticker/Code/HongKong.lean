import Ticker.Rejection
import Ticker.Text

namespace Ticker.HongKong

open Text

def IsCanonical (cs : List Char) : Prop := cs.length = 5 ∧ ∀ c ∈ cs, c.isDigit

instance (cs : List Char) : Decidable (IsCanonical cs) :=
  inferInstanceAs (Decidable (_ ∧ _))

def canonical (cs : List Char) : Except Rejection (List Char) :=
  if (digits cs).length = 0 ∨ 5 < (digits cs).length then .error (.invalidFormat .hongKong)
  else .ok ((digits cs).leftpad 5 '0')

theorem isCanonical_of_canonical {cs code : List Char} (h : canonical cs = .ok code) :
    IsCanonical code := by
  unfold canonical at h
  split at h
  · nomatch h
  · cases h
    refine ⟨by simp [List.leftpad]; omega, ?_⟩
    intro c hc
    rcases List.mem_append.1 hc with hc | hc
    · rw [(List.mem_replicate.1 hc).2]
      rfl
    · exact isDigit_of_mem_digits hc

theorem canonical_eq_self {cs : List Char} (h : IsCanonical cs) : canonical cs = .ok cs := by
  obtain ⟨len, dig⟩ := h
  simp [canonical, digits_eq_self dig, len, List.leftpad]

end Ticker.HongKong
