import Ticker.Board
import Ticker.Rejection
import Ticker.Text

namespace Ticker.AShare

open Text

def IsCanonical (cs : List Char) : Prop :=
  cs.length = 6 ∧ (∀ c ∈ cs, c.isDigit) ∧ ∃ b ∈ Board.all, ∃ lead ∈ b.leads, lead.toList <+: cs

instance (cs : List Char) : Decidable (IsCanonical cs) :=
  inferInstanceAs (Decidable (_ ∧ _ ∧ _))

def canonical (cs : List Char) : Except Rejection (List Char) :=
  if (digits cs).length ≠ 6 then .error (.invalidFormat .aShare)
  else if (Board.classify (digits cs)).isNone then
    .error (.unknownLead (String.ofList ((digits cs).take 2)))
  else .ok (digits cs)

/-- The canonical code, with digits counted and the lead cut off by bytes. Nothing where the lead
cannot be cut off. -/
def canonicalByBytes? (s : String) : Option (Except Rejection String) :=
  let code := String.ofList (digits s.toList)
  if code.utf8ByteSize ≠ 6 then some (.error (.invalidFormat .aShare))
  else if (Board.ofFirstBytes? code).isNone then
    (firstBytes? 2 code).map fun lead => .error (.unknownLead lead)
  else some (.ok code)

theorem isCanonical_of_canonical {cs code : List Char} (h : canonical cs = .ok code) :
    IsCanonical code := by
  unfold canonical at h
  split at h
  · nomatch h
  · split at h
    · nomatch h
    · next len board =>
      cases h
      obtain ⟨b, hb⟩ := Option.ne_none_iff_exists'.1 (by simpa using board)
      exact ⟨by omega, fun c hc => isDigit_of_mem_digits hc, b, Board.mem_all b,
        Board.classify_eq_some_iff.1 hb⟩

theorem canonical_eq_self {cs : List Char} (h : IsCanonical cs) : canonical cs = .ok cs := by
  obtain ⟨len, dig, b, _, lead⟩ := h
  simp [canonical, digits_eq_self dig, len, Board.classify_eq_some_iff.2 lead]

end Ticker.AShare
