import Ticker.Proofs.Acceptance

/-!
What outcomes depend on. Texts are alike when they have the same digits and marks and hold the same
kinds of characters, and then they are judged alike. White space around a text makes no difference.
-/

namespace Ticker

open Text Unicode

/-- The same in all that detection asks of a text, and in all that codes are read off. -/
structure Alike (cs ds : List Char) : Prop where
  blank : isBlank cs = isBlank ds
  digits : digits cs = digits ds
  marks : UnitedStates.marks cs = UnitedStates.marks ds
  lettered : cs.any isAlphabetic = ds.any isAlphabetic
  latin : cs.any Char.isAlpha = ds.any Char.isAlpha
  suffixed : Malaysia.isSuffixed (trim cs) = Malaysia.isSuffixed (trim ds)

namespace Alike

variable {cs ds es : List Char}

theorem trans (h : Alike cs ds) (k : Alike ds es) : Alike cs es where
  blank := h.blank.trans k.blank
  digits := h.digits.trans k.digits
  marks := h.marks.trans k.marks
  lettered := h.lettered.trans k.lettered
  latin := h.latin.trans k.latin
  suffixed := h.suffixed.trans k.suffixed

theorem symm (h : Alike cs ds) : Alike ds cs where
  blank := h.blank.symm
  digits := h.digits.symm
  marks := h.marks.symm
  lettered := h.lettered.symm
  latin := h.latin.symm
  suffixed := h.suffixed.symm

theorem of_trim_eq (h : trim cs = trim ds) : Alike cs ds where
  blank := by rw [isBlank_eq_isEmpty_trim, isBlank_eq_isEmpty_trim, h]
  digits := by rw [← digits_trim, h, digits_trim]
  marks := by rw [← UnitedStates.marks_trim, h, UnitedStates.marks_trim]
  lettered := by
    rw [← any_trim fun _ => isWhiteSpace_of_isAlphabetic, h,
      any_trim fun _ => isWhiteSpace_of_isAlphabetic]
  latin := by
    rw [← any_trim fun _ => isWhiteSpace_of_isAlpha, h, any_trim fun _ => isWhiteSpace_of_isAlpha]
  suffixed := by rw [h]

theorem detectChars_eq (h : Alike cs ds) : detectChars cs = detectChars ds := by
  simp only [detectChars_eq_ite, h.blank, h.digits, h.lettered, h.latin, h.suffixed]

theorem canonicalChars_eq (h : Alike cs ds) {m : Market}
    (shape : m = .malaysia → Malaysia.isShaped cs = Malaysia.isShaped ds) :
    m.canonicalChars cs = m.canonicalChars ds := by
  cases m with
  | aShare => simp only [Market.canonicalChars, AShare.canonical, h.digits]
  | unitedStates => simp only [Market.canonicalChars, UnitedStates.canonical_eq, h.marks]
  | hongKong => simp only [Market.canonicalChars, HongKong.canonical, h.digits]
  | malaysia =>
    -- Malaysian codes alone ask for the shape of the whole text.
    simp only [Market.canonicalChars, Malaysia.canonical_eq_digits, h.digits, shape rfl]

end Alike

section Verdicts

variable {s t : String}

theorem detect_of_alike (h : Alike s.toList t.toList) : detect s = detect t := h.detectChars_eq

theorem canonical_of_alike (h : Alike s.toList t.toList) {m : Market}
    (shape : m = .malaysia → Malaysia.isShaped s.toList = Malaysia.isShaped t.toList) :
    m.canonical s = m.canonical t := by
  rw [Market.canonical, h.canonicalChars_eq shape, Market.canonical]

theorem validate_some_of_alike (h : Alike s.toList t.toList) {m : Market}
    (shape : m = .malaysia → Malaysia.isShaped s.toList = Malaysia.isShaped t.toList) :
    validate s (some m) = validate t (some m) := by
  simp only [validate, Market.verdict, h.blank, canonical_of_alike h shape]

theorem validate_none_of_alike (h : Alike s.toList t.toList) :
    validate s none = validate t none := by
  have same := detect_of_alike h
  cases route : detect t with
  | error cause => rw [validate_none_of_error (same.trans route), validate_none_of_error route]
  | ok m =>
    rw [validate_none_of_ok (same.trans route), validate_none_of_ok route]
    apply validate_some_of_alike h
    -- A route to Malaysia shows that both texts have the suffix.
    rintro rfl
    cases detectChars_eq_iff.1 route with
    | suffixed shape => simp [Malaysia.isShaped, h.suffixed, shape]

end Verdicts

end Ticker
