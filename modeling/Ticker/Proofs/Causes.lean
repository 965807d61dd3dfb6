import Ticker.Proofs.Acceptance

namespace Ticker

open Text

structure LeadUnknown (s lead : String) : Prop where
  six : (digits s.toList).length = 6
  leads : lead = String.ofList ((digits s.toList).take 2)
  nowhere : Board.ofLead? lead = none

/-- The causes that a text can give, each with what it takes. -/
inductive Grounds (s : String) : Rejection → Prop
  | empty : isBlank s.toList → Grounds s .emptyInput
  | shape (m : Market) : Grounds s (.invalidFormat m)
  | lead {lead : String} : LeadUnknown s lead → Grounds s (.unknownLead lead)
  | count : (digits s.toList).length = 0 ∨ 7 ≤ (digits s.toList).length →
      Grounds s (.invalidLength (digits s.toList).length)
  | foreign : Grounds s .unrecognizedFormat

/-- The cause comes of the text somewhere: on a market, blank or not, in detection, or in
validation under some hint or none. -/
inductive Raised (s : String) (cause : Rejection) : Prop
  | canonical (m : Market) : m.canonical s = .error cause → Raised s cause
  | verdict (m : Market) : m.verdict s = .rejected cause → Raised s cause
  | detect : Ticker.detect s = .error cause → Raised s cause
  | validate (hint : Option Market) : Ticker.validate s hint = .rejected cause → Raised s cause

variable {s : String} {m : Market} {cause : Rejection}

theorem cause_of_canonical (h : m.canonical s = .error cause) :
    cause = .invalidFormat m ∨
      m = .aShare ∧ ∃ lead, cause = .unknownLead lead ∧ LeadUnknown s lead := by
  have h := Market.canonical_eq_error_iff.1 h
  cases m with
  | aShare =>
    rcases AShare.canonical_eq_error_iff.1 h with ⟨six, nowhere, rfl⟩ | ⟨-, rfl⟩
    · exact .inr ⟨rfl, _, rfl, six, rfl, nowhere⟩
    · exact .inl rfl
  | unitedStates => exact .inl (UnitedStates.canonical_eq_error_iff.1 h).2.symm
  | hongKong => exact .inl (HongKong.canonical_eq_error_iff.1 h).2.symm
  | malaysia => exact .inl (Malaysia.canonical_eq_error_iff.1 h).2.symm

theorem verdict_eq_rejected_iff : m.verdict s = .rejected cause ↔ m.canonical s = .error cause := by
  rw [Market.verdict]
  cases m.canonical s <;> simp [Verdict.ofCanonical]

theorem validate_some_eq_rejected_iff :
    validate s (some m) = .rejected cause ↔
      isBlank s.toList ∧ cause = .emptyInput ∨
        isBlank s.toList = false ∧ m.canonical s = .error cause := by
  by_cases blank : isBlank s.toList
  · simp [blank, eq_comm]
  · simp [validate, blank, verdict_eq_rejected_iff]

theorem grounds_of_canonical (h : m.canonical s = .error cause) : Grounds s cause := by
  rcases cause_of_canonical h with rfl | ⟨-, lead, rfl, unknown⟩
  · exact .shape m
  · exact .lead unknown

theorem grounds_of_detect (h : detect s = .error cause) : Grounds s cause := by
  cases detectChars_eq_iff.1 h with
  | blank blank => exact .empty blank
  | foreign => exact .foreign
  | other _ _ count => exact .count count

theorem grounds_of_validate_some (h : validate s (some m) = .rejected cause) : Grounds s cause := by
  rcases validate_some_eq_rejected_iff.1 h with ⟨blank, rfl⟩ | ⟨-, refused⟩
  · exact .empty blank
  · exact grounds_of_canonical refused

theorem grounds_of_validate_none (h : validate s none = .rejected cause) : Grounds s cause := by
  cases route : detect s with
  | error r =>
    rw [validate_none_of_error route] at h
    cases h
    exact grounds_of_detect route
  | ok k =>
    rw [validate_none_of_ok route] at h
    exact grounds_of_validate_some h

theorem Raised.grounds (h : Raised s cause) : Grounds s cause := by
  cases h with
  | canonical m h => exact grounds_of_canonical h
  | verdict m h => exact grounds_of_canonical (verdict_eq_rejected_iff.1 h)
  | detect h => exact grounds_of_detect h
  | validate hint h =>
    cases hint with
    | none => exact grounds_of_validate_none h
    | some m => exact grounds_of_validate_some h

theorem validate_none_of_detect (h : detect s = .ok m) (market : m = .hongKong ∨ m = .malaysia) :
    ∃ code, validate s none = .accepted m code := by
  have accepts : m.accepts s := by
    rcases market with rfl | rfl
    · cases detectChars_eq_iff.1 h with
      | few _ low high => exact Market.accepts_hongKong_iff.2 ⟨low, high⟩
    · cases detectChars_eq_iff.1 h with
      | suffixed shape => exact Market.accepts_malaysia_iff.2 (.inl shape)
  obtain ⟨code, own⟩ := Market.accepts_iff.1 accepts
  exact ⟨code, by rw [validate_none_of_ok h, validate_some_eq_accepted_iff.2 ⟨rfl, own⟩]⟩

theorem canonical_aShare_of_detect (h : detect s = .ok .aShare) (k : Market) :
    Market.aShare.canonical s ≠ .error (.invalidFormat k) := by
  intro refused
  cases detectChars_eq_iff.1 h with
  | six _ six =>
    rcases AShare.canonical_eq_error_iff.1 (Market.canonical_eq_error_iff.1 refused) with
      ⟨-, -, lead⟩ | ⟨len, -⟩
    · nomatch lead
    · exact len six

theorem market_of_invalidFormat (h : validate s none = .rejected (.invalidFormat m)) :
    m = .unitedStates := by
  cases route : detect s with
  | error r =>
    rw [validate_none_of_error route] at h
    cases h
    nomatch detectChars_eq_iff.1 route
  | ok k =>
    have hinted := h
    rw [validate_none_of_ok route] at hinted
    obtain ⟨-, refused⟩ : isBlank s.toList = false ∧ k.canonical s = .error (.invalidFormat m) := by
      simpa using validate_some_eq_rejected_iff.1 hinted
    -- A-shares have their six digits here, and the other two markets accept what points to them.
    cases k with
    | aShare => exact absurd refused (canonical_aShare_of_detect route m)
    | unitedStates => simpa using cause_of_canonical refused
    | hongKong =>
      obtain ⟨code, accepted⟩ := validate_none_of_detect route (.inl rfl)
      simp [h] at accepted
    | malaysia =>
      obtain ⟨code, accepted⟩ := validate_none_of_detect route (.inr rfl)
      simp [h] at accepted

/-- A hint leaves three causes, and detection five with one market among them. What no board
explains are six digits, and names have no part in it. -/
theorem causes_of_rejection (s : String) :
    (∀ m : Market, (validate s (some m) = .rejected .emptyInput ↔
        ∀ c ∈ s.toList, Unicode.isWhiteSpace c) ∧
      ∀ cause, validate s (some m) = .rejected cause → cause ≠ .emptyInput →
        cause = .invalidFormat m ∨ m = .aShare ∧ ∃ lead, cause = .unknownLead lead) ∧
      (∀ cause, validate s none = .rejected cause →
        cause = .emptyInput ∨ cause = .unrecognizedFormat ∨
          (cause = .invalidLength (digits s.toList).length ∧
            ((digits s.toList).length = 0 ∨ 7 ≤ (digits s.toList).length)) ∨
          (∃ lead, cause = .unknownLead lead) ∨ cause = .invalidFormat .unitedStates) ∧
      (∀ m, detect s = .ok m → m = .hongKong ∨ m = .malaysia →
        ∃ code, validate s none = .accepted m code) ∧
      (∀ lead, Raised s (.unknownLead lead) →
        (digits s.toList).length = 6 ∧ lead = String.ofList ((digits s.toList).take 2) ∧
          Board.ofLead? lead = none) ∧
      ¬ Raised s .emptyTicker ∧
      ∀ name, ¬ Raised s (.unknownMarket name) ∧ ¬ Raised s (.unknownLanguage name) := by
  refine ⟨fun m => ⟨?_, ?_⟩, ?_, fun _ => validate_none_of_detect, ?_, ?_, ?_⟩
  · constructor
    · intro h
      cases grounds_of_validate_some h with
      | empty blank => exact List.all_eq_true.1 blank
    · exact fun white => validate_blank (List.all_eq_true.2 white) _
  · intro cause h filled
    rcases validate_some_eq_rejected_iff.1 h with ⟨-, empty⟩ | ⟨-, refused⟩
    · exact absurd empty filled
    · rcases cause_of_canonical refused with shape | ⟨market, lead, unknown, -⟩
      · exact .inl shape
      · exact .inr ⟨market, lead, unknown⟩
  · intro cause h
    cases grounds_of_validate_none h with
    | empty => exact .inl rfl
    | foreign => exact .inr (.inl rfl)
    | count count => exact .inr (.inr (.inl ⟨rfl, count⟩))
    | lead unknown => exact .inr (.inr (.inr (.inl ⟨_, rfl⟩)))
    | shape m => exact .inr (.inr (.inr (.inr (by rw [market_of_invalidFormat h]))))
  · intro lead h
    cases h.grounds with
    | lead unknown => exact ⟨unknown.six, unknown.leads, unknown.nowhere⟩
  · exact fun h => nomatch h.grounds
  · exact fun name => ⟨fun h => (nomatch h.grounds), fun h => (nomatch h.grounds)⟩

theorem six_digits_of_no_board :
    Raised "12-34-56" (.unknownLead "12") ∧ Board.ofLead? "12" = none := by
  have raised : Raised "12-34-56" (.unknownLead "12") := .validate none (by decide +kernel)
  exact ⟨raised, ((causes_of_rejection "12-34-56").2.2.2.1 "12" raised).2.2⟩

end Ticker
