import Ticker.Detection

namespace Ticker

inductive Verdict where
  | accepted (market : Market) (code : String)
  | rejected (cause : Rejection)
  deriving DecidableEq

namespace Verdict

def ofCanonical (m : Market) : Except Rejection String → Verdict
  | .ok code => .accepted m code
  | .error cause => .rejected cause

def isAccepted : Verdict → Bool
  | .accepted .. => true
  | .rejected _ => false

def market? : Verdict → Option Market
  | .accepted m _ => some m
  | .rejected _ => none

def code? : Verdict → Option String
  | .accepted _ code => some code
  | .rejected _ => none

def cause? : Verdict → Option Rejection
  | .accepted .. => none
  | .rejected cause => some cause

def message? (v : Verdict) (l : Language) : Option String := v.cause?.map (·.message l)

end Verdict

def Market.verdict (m : Market) (s : String) : Verdict := .ofCanonical m (m.canonical s)

/-- A blank text is refused as such whatever the hint. A hint is trusted: the text is not asked
whether it looks like a code of that market. -/
def validate (s : String) (hint : Option Market) : Verdict :=
  if Text.isBlank s.toList then .rejected .emptyInput
  else
    match hint with
    | some m => m.verdict s
    | none =>
      match detect s with
      | .ok m => m.verdict s
      | .error cause => .rejected cause

def Market.format (m : Market) (s : String) : String := (validate s (some m)).code?.getD s

@[simp] theorem validate_blank {s : String} (h : Text.isBlank s.toList) (hint : Option Market) :
    validate s hint = .rejected .emptyInput := by
  simp [validate, h]

end Ticker
