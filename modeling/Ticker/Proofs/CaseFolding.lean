import Ticker.Proofs.Alike

namespace Ticker

open Text Unicode

def SameButForCase (s t : String) : Prop :=
  s.toList.map Char.toUpper = t.toList.map Char.toUpper

namespace Unicode

theorem test_toUpper {p : Char → Bool} {answer : Bool} (h : ∀ c : Char, c.isAlpha → p c = answer)
    (c : Char) : p c.toUpper = p c := by
  by_cases lower : c.isLower
  · have letter := isAlpha_of_isLower lower
    rw [h c letter, h c.toUpper (c.isAlpha_toUpper_eq_isAlpha.trans letter)]
  · rw [Char.toUpper_eq_of_not_isLower lower]

@[simp] theorem isAlphabetic_toUpper (c : Char) : isAlphabetic c.toUpper = isAlphabetic c :=
  test_toUpper (fun _ => isAlphabetic_of_isAlpha) c

@[simp] theorem isWhiteSpace_toUpper (c : Char) : isWhiteSpace c.toUpper = isWhiteSpace c :=
  test_toUpper (fun _ => isWhiteSpace_of_isAlpha) c

@[simp] theorem upperChar_toUpper (c : Char) : upperChar c.toUpper = upperChar c := by
  by_cases lower : c.isLower
  · have ascii : ∀ d : Char, d.isAlpha → d.toNat < 128 := fun d letter => by
      have := toNat_of_isAlpha letter
      omega
    have letter := isAlpha_of_isLower lower
    rw [upperChar_of_ascii (ascii c letter),
      upperChar_of_ascii (ascii _ (c.isAlpha_toUpper_eq_isAlpha.trans letter)),
      Char.toUpper_toUpper_eq_toUpper]
  · rw [Char.toUpper_eq_of_not_isLower lower]

@[simp] theorem upper_map_toUpper (cs : List Char) : upper (cs.map Char.toUpper) = upper cs := by
  simp [upper, List.flatMap_map]

end Unicode

namespace Text

@[simp] theorem trim_map_toUpper (cs : List Char) :
    trim (cs.map Char.toUpper) = (trim cs).map Char.toUpper :=
  trim_map isWhiteSpace_toUpper cs

@[simp] theorem digits_map_toUpper (cs : List Char) : digits (cs.map Char.toUpper) = digits cs := by
  have raised : ∀ d ∈ digits cs, d.toUpper = d := by
    intro d hd
    obtain ⟨low, high⟩ := Char.isDigit_iff_toNat.1 (isDigit_of_mem_digits hd)
    apply Char.toUpper_eq_of_not_isLower
    intro lower
    have letter := toNat_of_isAlpha (isAlpha_of_isLower lower)
    simp only [Char.reduceToNat] at low high
    omega
  calc digits (cs.map Char.toUpper)
      = (digits cs).map Char.toUpper := by simp [digits, List.filter_map, Function.comp_def]
    _ = (digits cs).map id := List.map_congr_left raised
    _ = digits cs := List.map_id _

end Text

namespace Alike

theorem map_toUpper (cs : List Char) : Alike (cs.map Char.toUpper) cs where
  blank := by simp [isBlank, Function.comp_def]
  digits := digits_map_toUpper cs
  marks := by rw [UnitedStates.marks, upper_map_toUpper, UnitedStates.marks]
  lettered := by simp [Function.comp_def]
  latin := by simp [Function.comp_def]
  suffixed := by rw [trim_map_toUpper, Malaysia.isSuffixed_map_toUpper]

theorem of_sameButForCase {s t : String} (h : SameButForCase s t) : Alike s.toList t.toList :=
  (map_toUpper s.toList).symm.trans (h ▸ map_toUpper t.toList)

end Alike

namespace Malaysia

@[simp] theorem isShaped_map_toUpper (cs : List Char) :
    isShaped (cs.map Char.toUpper) = isShaped cs := by
  simp [isShaped]

theorem isShaped_of_sameButForCase {s t : String} (h : SameButForCase s t) :
    isShaped s.toList = isShaped t.toList := by
  rw [← isShaped_map_toUpper, h, isShaped_map_toUpper]

end Malaysia

/-- White space around a text and the case of its ASCII letters change neither the market that it
points to, nor its code on any market, nor the verdict under any hint, in whatever language. -/
theorem outcomes_ignore_margins_and_case {s t front back : String}
    (hfront : ∀ c ∈ front.toList, isWhiteSpace c) (hback : ∀ c ∈ back.toList, isWhiteSpace c)
    (h : SameButForCase t s) :
    detect (front ++ t ++ back) = detect s ∧
      (∀ m : Market, m.canonical (front ++ t ++ back) = m.canonical s) ∧
      ∀ hint, validate (front ++ t ++ back) hint = validate s hint ∧
        ∀ l, (validate (front ++ t ++ back) hint).message? l = (validate s hint).message? l := by
  have trimmed : trim (front ++ t ++ back).toList = trim t.toList := by
    rw [String.toList_append, String.toList_append, trim_append hfront hback]
  have alike : Alike (front ++ t ++ back).toList s.toList :=
    (Alike.of_trim_eq trimmed).trans (.of_sameButForCase h)
  have shape : Malaysia.isShaped (front ++ t ++ back).toList = Malaysia.isShaped s.toList := by
    rw [← Malaysia.isShaped_of_sameButForCase h, Malaysia.isShaped, trimmed, Malaysia.isShaped]
  have verdict : ∀ hint, validate (front ++ t ++ back) hint = validate s hint := by
    intro hint
    cases hint with
    | none => exact validate_none_of_alike alike
    | some m => exact validate_some_of_alike alike fun _ => shape
  refine ⟨detect_of_alike alike, fun m => canonical_of_alike alike fun _ => shape, fun hint => ?_⟩
  exact ⟨verdict hint, fun l => by rw [verdict hint]⟩

theorem wide_space_around_small_letters :
    SameButForCase "1155.Kl" "1155.kL" ∧
      validate ("\u3000\t" ++ "1155.Kl" ++ "\u0085") none = .accepted .malaysia "1155.KL" := by
  have same : SameButForCase "1155.Kl" "1155.kL" := by simp [SameButForCase]
  have front : ∀ c ∈ "\u3000\t".toList, isWhiteSpace c := by
    simp [isWhiteSpace, whiteSpace, covers_iff]
  have back : ∀ c ∈ "\u0085".toList, isWhiteSpace c := by
    simp [isWhiteSpace, whiteSpace, covers_iff]
  have plain : validate "1155.kL" none = .accepted .malaysia "1155.KL" := by decide +kernel
  refine ⟨same, ?_⟩
  rw [← plain]
  exact ((outcomes_ignore_margins_and_case front back same).2.2 none).1

end Ticker
