import Ticker.Proofs.DetectionLaws

namespace Ticker

open Text Unicode

inductive Kind where
  | blank
  | suffixed
  | latin
  | foreign
  | six
  | few
  | other
  deriving DecidableEq

namespace Kind

/-- What a text of the kind is like, without regard to the other kinds. -/
def Describes (cs : List Char) : Kind → Prop
  | blank => trim cs = []
  | suffixed => Malaysia.HasSuffix (trim cs)
  | latin => (∃ c ∈ cs, c.isAlpha) ∧ ¬ Malaysia.HasSuffix (trim cs)
  | foreign => (∃ c ∈ cs, isAlphabetic c) ∧ ¬ ∃ c ∈ cs, c.isAlpha
  | six => (¬ ∃ c ∈ cs, isAlphabetic c) ∧ (digits cs).length = 6
  | few => (¬ ∃ c ∈ cs, isAlphabetic c) ∧ 1 ≤ (digits cs).length ∧ (digits cs).length ≤ 5
  | other =>
    trim cs ≠ [] ∧ (¬ ∃ c ∈ cs, isAlphabetic c) ∧
      ((digits cs).length = 0 ∨ 7 ≤ (digits cs).length)

def outcome (cs : List Char) : Kind → Except Rejection Market
  | blank => .error .emptyInput
  | suffixed => .ok .malaysia
  | latin => .ok .unitedStates
  | foreign => .error .unrecognizedFormat
  | six => .ok .aShare
  | few => .ok .hongKong
  | other => .error (.invalidLength (digits cs).length)

theorem outcome_injective (cs : List Char) : Function.Injective (outcome cs) := by
  intro k l same
  cases k <;> cases l <;> first | rfl | cases same

section Tests

variable {cs : List Char}

theorem trim_ne_nil_iff : trim cs ≠ [] ↔ isBlank cs = false := by
  rw [ne_eq, trim_eq_nil_iff, Bool.not_eq_true]

theorem not_hasSuffix_iff : ¬ Malaysia.HasSuffix cs ↔ Malaysia.isSuffixed cs = false := by
  rw [← Malaysia.isSuffixed_iff_hasSuffix, Bool.not_eq_true]

theorem not_exists_iff {p : Char → Bool} : (¬ ∃ c ∈ cs, p c) ↔ cs.any p = false := by
  rw [← List.any_eq_true, Bool.not_eq_true]

end Tests

variable {cs : List Char}

theorem Describes.detected {k : Kind} (h : k.Describes cs) : Detected cs (k.outcome cs) := by
  cases k with
  | blank => exact .blank (trim_eq_nil_iff.1 h)
  | suffixed => exact .suffixed (Malaysia.isSuffixed_iff_hasSuffix.2 h)
  | latin => exact .latin (List.any_eq_true.2 h.1) (not_hasSuffix_iff.1 h.2)
  | foreign => exact .foreign (List.any_eq_true.2 h.1) (not_exists_iff.1 h.2)
  | six => exact .six (not_exists_iff.1 h.1) h.2
  | few => exact .few (not_exists_iff.1 h.1) h.2.1 h.2.2
  | other => exact .other (trim_ne_nil_iff.1 h.1) (not_exists_iff.1 h.2.1) h.2.2

theorem exists_of_detected {out : Except Rejection Market} (h : Detected cs out) :
    ∃ k : Kind, k.Describes cs ∧ k.outcome cs = out := by
  cases h with
  | blank blank => exact ⟨.blank, trim_eq_nil_iff.2 blank, rfl⟩
  | suffixed suffixed => exact ⟨.suffixed, Malaysia.isSuffixed_iff_hasSuffix.1 suffixed, rfl⟩
  | latin letter shape =>
    exact ⟨.latin, ⟨List.any_eq_true.1 letter, not_hasSuffix_iff.2 shape⟩, rfl⟩
  | foreign letter latin =>
    exact ⟨.foreign, ⟨List.any_eq_true.1 letter, not_exists_iff.2 latin⟩, rfl⟩
  | six unlettered six => exact ⟨.six, ⟨not_exists_iff.2 unlettered, six⟩, rfl⟩
  | few unlettered low high => exact ⟨.few, ⟨not_exists_iff.2 unlettered, low, high⟩, rfl⟩
  | other visible unlettered count =>
    exact ⟨.other, ⟨trim_ne_nil_iff.2 visible, not_exists_iff.2 unlettered, count⟩, rfl⟩

theorem describes_iff {k : Kind} : k.Describes cs ↔ detectChars cs = k.outcome cs := by
  constructor
  · exact fun h => h.detected.eq
  · intro h
    obtain ⟨found, describes, out⟩ := exists_of_detected (detected cs)
    rwa [← outcome_injective cs (out.trans h)]

theorem existsUnique_describes (cs : List Char) : ∃! k : Kind, k.Describes cs := by
  obtain ⟨k, describes, out⟩ := exists_of_detected (detected cs)
  refine ⟨k, describes, fun l other => outcome_injective cs ?_⟩
  rw [out, describes_iff.1 other]

theorem detectChars_eq_invalidLength_iff {n : Nat} :
    detectChars cs = .error (.invalidLength n) ↔ other.Describes cs ∧ n = (digits cs).length := by
  constructor
  · intro h
    obtain ⟨k, describes, out⟩ := exists_of_detected (detectChars_eq_iff.1 h)
    cases k <;> cases out
    exact ⟨describes, rfl⟩
  · rintro ⟨describes, rfl⟩
    exact describes_iff.1 describes

end Kind

/-- Detection tells what kind a text is of, and a text is of one kind. -/
theorem detection_sorts_texts (s : String) :
    (∀ k : Kind, detect s = k.outcome s.toList ↔ k.Describes s.toList) ∧
      (∀ n, detect s = .error (.invalidLength n) ↔
        Kind.other.Describes s.toList ∧ n = (digits s.toList).length) ∧
      ∃! k : Kind, k.Describes s.toList :=
  ⟨fun _ => Kind.describes_iff.symm, fun _ => Kind.detectChars_eq_invalidLength_iff,
    Kind.existsUnique_describes s.toList⟩

end Ticker
