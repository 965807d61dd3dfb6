import Ticker.Proofs.Alike

/-!
Separators, which are passed over wherever they stand. The suffix of a Malaysian code is the one
thing that they can break or bring about, since it is looked for in its place.
-/

namespace Ticker

open Text Unicode

/-- Neither Alphabetic, nor a digit, nor the period of a share class. -/
def isSeparator (c : Char) : Bool := !isAlphabetic c && !c.isDigit && c != '.'

/-- The second text is the first with separators put in, any number of them in any place. -/
inductive Interspersed : List Char → List Char → Prop
  | nil : Interspersed [] []
  | keep {cs ds : List Char} (c : Char) : Interspersed cs ds → Interspersed (c :: cs) (c :: ds)
  | insert {cs ds : List Char} {c : Char} :
    isSeparator c → Interspersed cs ds → Interspersed cs (c :: ds)

section Separator

variable {c : Char}

theorem isSeparator_iff :
    isSeparator c ↔ isAlphabetic c = false ∧ c.isDigit = false ∧ c ≠ '.' := by
  simp [isSeparator, and_assoc]

theorem isAlpha_of_isSeparator (h : isSeparator c) : c.isAlpha = false := by
  refine Bool.eq_false_iff.2 fun letter => ?_
  have := isAlphabetic_of_isAlpha letter
  simp [(isSeparator_iff.1 h).1] at this

theorem digits_of_isSeparator (h : isSeparator c) : digits [c] = [] := by
  simp [digits, (isSeparator_iff.1 h).2.1]

theorem marks_of_isSeparator (h : isSeparator c) : UnitedStates.marks [c] = [] := by
  obtain ⟨unlettered, -, period⟩ := isSeparator_iff.1 h
  rw [UnitedStates.marks_eq_filter (by simpa using unlettered)]
  simpa using period

end Separator

namespace Interspersed

variable {cs ds : List Char}

theorem sublist (h : Interspersed cs ds) : cs.Sublist ds := by
  induction h with
  | nil => exact .slnil
  | keep c _ ih => exact ih.cons_cons c
  | insert _ _ ih => exact ih.cons _

theorem visible (h : Interspersed cs ds) (hcs : isBlank cs = false) : isBlank ds = false := by
  obtain ⟨c, hc, hvis⟩ := List.all_eq_false.1 hcs
  exact not_isBlank_of_mem (h.sublist.subset hc) (Bool.eq_false_iff.2 hvis)

theorem reading_eq {read : List Char → List Char}
    (append : ∀ as bs, read (as ++ bs) = read as ++ read bs)
    (pass : ∀ c, isSeparator c → read [c] = []) (h : Interspersed cs ds) : read ds = read cs := by
  induction h with
  | nil => rfl
  | keep c _ ih => rw [← List.singleton_append, append, ih, ← append, List.singleton_append]
  | insert separator _ ih =>
    rw [← List.singleton_append, append, pass _ separator, ih, List.nil_append]

theorem any_eq {p : Char → Bool} (pass : ∀ c, isSeparator c → p c = false)
    (h : Interspersed cs ds) : ds.any p = cs.any p := by
  induction h with
  | nil => rfl
  | keep c _ ih => rw [List.any_cons, ih, List.any_cons]
  | insert separator _ ih => rw [List.any_cons, pass _ separator, ih, Bool.false_or]

theorem alike (h : Interspersed cs ds) (visible : isBlank cs = false)
    (hcs : Malaysia.isSuffixed (trim cs) = false) (hds : Malaysia.isSuffixed (trim ds) = false) :
    Alike ds cs where
  blank := by rw [visible, h.visible visible]
  digits := h.reading_eq digits_append fun _ => digits_of_isSeparator
  marks := h.reading_eq UnitedStates.marks_append fun _ => marks_of_isSeparator
  lettered := h.any_eq fun _ separator => (isSeparator_iff.1 separator).1
  latin := h.any_eq fun _ => isAlpha_of_isSeparator
  suffixed := by rw [hcs, hds]

end Interspersed

/-- Where no hint is given, separators do not matter to a text that is not blank, unless the suffix
of a Malaysian code stands in it before or after. -/
theorem validate_ignores_separators {s t : String} (filled : ¬ ∀ c ∈ s.toList, isWhiteSpace c)
    (h : Interspersed s.toList t.toList) (before : ¬ Malaysia.HasSuffix (trim s.toList))
    (after : ¬ Malaysia.HasSuffix (trim t.toList)) : validate t none = validate s none := by
  have visible : isBlank s.toList = false :=
    Bool.eq_false_iff.2 fun blank => filled (List.all_eq_true.1 blank)
  rw [← Malaysia.isSuffixed_iff_hasSuffix, Bool.not_eq_true] at before after
  exact validate_none_of_alike (h.alike visible before after)

theorem signs_within_share_class :
    Interspersed "brk.b".toList "$brk./²b".toList ∧
      validate "$brk./²b" none = .accepted .unitedStates "BRK.B" := by
  have signs : ∀ c ∈ ['$', '/', '²'], isSeparator c := List.all_eq_true.1 (by decide +kernel)
  have inserted : Interspersed "brk.b".toList "$brk./²b".toList := by
    simp only [String.reduceToList]
    exact .insert (signs _ (by simp)) <| .keep _ <| .keep _ <| .keep _ <| .keep _ <|
      .insert (signs _ (by simp)) <| .insert (signs _ (by simp)) <| .keep _ .nil
  have plain : validate "brk.b" none = .accepted .unitedStates "BRK.B" := by decide +kernel
  refine ⟨inserted, ?_⟩
  rw [← plain]
  refine validate_ignores_separators ?_ inserted ?_ ?_
  · rw [← List.all_eq_true]
    decide +kernel
  · rw [← Malaysia.isSuffixed_iff_hasSuffix]
    decide +kernel
  · rw [← Malaysia.isSuffixed_iff_hasSuffix]
    decide +kernel

-- A suffix that is broken up leaves a ticker without a root, so it has to be excepted.
example : validate "1155.KL" none = .accepted .malaysia "1155.KL" ∧
    validate "1155-.KL" none = .rejected (.invalidFormat .unitedStates) := by decide +kernel

end Ticker
