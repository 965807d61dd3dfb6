import Ticker.Proofs.UnicodeLaws
import Ticker.Text

namespace Ticker.Text

open Unicode

theorem trim_split (cs : List Char) :
    ∃ front back, cs = front ++ trim cs ++ back ∧
      (∀ c ∈ front, isWhiteSpace c) ∧ ∀ c ∈ back, isWhiteSpace c := by
  refine ⟨cs.takeWhile isWhiteSpace, (trimStart cs).rtakeWhile isWhiteSpace, ?_,
    fun c => List.mem_takeWhile_imp, fun c => List.mem_rtakeWhile_imp⟩
  have ending : trim cs ++ (trimStart cs).rtakeWhile isWhiteSpace = trimStart cs :=
    List.rdropWhile_append_rtakeWhile ..
  rw [List.append_assoc, ending, trimStart, List.takeWhile_append_dropWhile]

theorem mem_of_mem_trim {c : Char} {cs : List Char} (h : c ∈ trim cs) : c ∈ cs := by
  obtain ⟨front, back, split, -⟩ := trim_split cs
  rw [split]
  simp [h]

theorem mem_trim {c : Char} {cs : List Char} (h : c ∈ cs) (visible : isWhiteSpace c = false) :
    c ∈ trim cs := by
  obtain ⟨front, back, split, hfront, hback⟩ := trim_split cs
  rw [split, List.mem_append, List.mem_append] at h
  rcases h with (h | h) | h
  · simp [hfront c h] at visible
  · exact h
  · simp [hback c h] at visible

theorem filter_trim {p : Char → Bool} (h : ∀ c, isWhiteSpace c → p c = false) (cs : List Char) :
    (trim cs).filter p = cs.filter p := by
  obtain ⟨front, back, split, hfront, hback⟩ := trim_split cs
  have nothing : ∀ ds : List Char, (∀ c ∈ ds, isWhiteSpace c) → ds.filter p = [] := by
    intro ds hds
    simpa using fun c hc => h c (hds c hc)
  calc (trim cs).filter p
      = front.filter p ++ (trim cs).filter p ++ back.filter p := by
        simp [nothing front hfront, nothing back hback]
    _ = cs.filter p := by rw [← List.filter_append, ← List.filter_append, ← split]

theorem any_trim {p : Char → Bool} (h : ∀ c, p c → isWhiteSpace c = false) (cs : List Char) :
    (trim cs).any p = cs.any p := by
  rw [Bool.eq_iff_iff, List.any_eq_true, List.any_eq_true]
  constructor
  · rintro ⟨c, hc, hp⟩
    exact ⟨c, mem_of_mem_trim hc, hp⟩
  · rintro ⟨c, hc, hp⟩
    exact ⟨c, mem_trim hc (h c hp), hp⟩

@[simp] theorem digits_trim (cs : List Char) : digits (trim cs) = digits cs := by
  apply filter_trim
  intro c white
  refine Bool.eq_false_iff.2 fun digit => ?_
  simp [isWhiteSpace_of_isDigit digit] at white

theorem trim_map {f : Char → Char} (h : ∀ c, isWhiteSpace (f c) = isWhiteSpace c)
    (cs : List Char) : trim (cs.map f) = (trim cs).map f := by
  have same : isWhiteSpace ∘ f = isWhiteSpace := funext h
  simp only [trim, trimEnd, trimStart, List.dropWhile_map, ← List.map_reverse, same]

theorem trim_append {front back : List Char} (hfront : ∀ c ∈ front, isWhiteSpace c)
    (hback : ∀ c ∈ back, isWhiteSpace c) (cs : List Char) :
    trim (front ++ cs ++ back) = trim cs := by
  have start : trimStart (front ++ cs ++ back) = trimStart (cs ++ back) := by
    rw [trimStart, List.append_assoc, List.dropWhile_append_of_pos hfront, trimStart]
  rw [trim, start, trim, trimStart, List.dropWhile_append, ← trimStart]
  split_ifs with blank
  · rw [List.dropWhile_eq_nil_iff.2 hback, List.isEmpty_iff.1 blank]
  · rw [trimEnd, List.reverse_append,
      List.dropWhile_append_of_pos fun c hc => hback c (List.mem_reverse.1 hc), trimEnd]

def Trimmed (cs : List Char) : Prop :=
  ∀ h : cs ≠ [], isWhiteSpace (cs.head h) = false ∧ isWhiteSpace (cs.getLast h) = false

theorem trimmed_trim (cs : List Char) : Trimmed (trim cs) := by
  intro h
  have begins : trim cs <+: trimStart cs := List.rdropWhile_prefix ..
  constructor
  · rw [begins.head h]
    exact List.head_dropWhile_not ..
  · exact Bool.eq_false_iff.2 (List.rdropWhile_last_not isWhiteSpace _ h)

theorem Trimmed.trim_eq_self {cs : List Char} (h : Trimmed cs) : trim cs = cs := by
  have start : trimStart cs = cs := by
    refine List.dropWhile_eq_self_iff.2 fun filled => ?_
    rw [List.getElem_zero]
    exact Bool.eq_false_iff.1 (h (List.length_pos_iff.1 filled)).1
  rw [trim, start]
  exact List.rdropWhile_eq_self_iff.2 fun filled => Bool.eq_false_iff.1 (h filled).2

theorem trim_eq_self {cs : List Char} (h : ∀ c ∈ cs, isWhiteSpace c = false) : trim cs = cs :=
  Trimmed.trim_eq_self fun filled => ⟨h _ (List.head_mem filled), h _ (List.getLast_mem filled)⟩

theorem trim_of_isBlank {cs : List Char} (h : isBlank cs) : trim cs = [] := trim_eq_nil_iff.2 h

theorem isBlank_eq_isEmpty_trim (cs : List Char) : isBlank cs = (trim cs).isEmpty := by
  rw [Bool.eq_iff_iff, ← trim_eq_nil_iff, List.isEmpty_iff]

theorem digits_of_isBlank {cs : List Char} (h : isBlank cs) : digits cs = [] := by
  rw [← digits_trim, trim_of_isBlank h, digits_nil]

theorem not_isBlank_of_mem {c : Char} {cs : List Char} (hc : c ∈ cs)
    (visible : isWhiteSpace c = false) : isBlank cs = false := by
  simpa [isBlank] using ⟨c, hc, visible⟩

end Ticker.Text
