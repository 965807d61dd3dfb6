import Ticker.Unicode.WhiteSpace

namespace Ticker.Text

open Unicode

def trimStart (cs : List Char) : List Char := cs.dropWhile isWhiteSpace

def trimEnd (cs : List Char) : List Char := (cs.reverse.dropWhile isWhiteSpace).reverse

def trim (cs : List Char) : List Char := trimEnd (trimStart cs)

def isBlank (cs : List Char) : Bool := cs.all isWhiteSpace

def digits (cs : List Char) : List Char := cs.filter Char.isDigit

/-- The first `n` bytes of a text, if they are a text themselves. -/
def firstBytes? (n : Nat) (s : String) : Option String :=
  if h : String.Pos.Raw.IsValid s ⟨n⟩ then some (s.sliceTo (s.pos ⟨n⟩ h)).copy else none

@[simp] theorem digits_nil : digits [] = [] := rfl

@[simp] theorem digits_append (cs ds : List Char) : digits (cs ++ ds) = digits cs ++ digits ds :=
  List.filter_append ..

theorem isDigit_of_mem_digits {c : Char} {cs : List Char} (h : c ∈ digits cs) : c.isDigit :=
  (List.mem_filter.1 h).2

theorem digits_eq_self {cs : List Char} (h : ∀ c ∈ cs, c.isDigit) : digits cs = cs :=
  List.filter_eq_self.2 h

@[simp] theorem digits_digits (cs : List Char) : digits (digits cs) = digits cs :=
  digits_eq_self fun _ => isDigit_of_mem_digits

theorem trim_eq_nil_iff {cs : List Char} : trim cs = [] ↔ isBlank cs := by
  have h : ∀ ds : List Char, ds.dropWhile isWhiteSpace = [] ↔ ∀ c ∈ ds, isWhiteSpace c := by
    intro ds
    induction ds with
    | nil => simp
    | cons d ds ih => by_cases hd : isWhiteSpace d <;> simp [hd, ih]
  have keep : trimEnd (trimStart cs) = [] ↔ trimStart cs = [] := by
    constructor
    · intro hend
      have hall : ∀ c ∈ trimStart cs, isWhiteSpace c := by
        simpa using (h (trimStart cs).reverse).1 (by simpa [trimEnd] using hend)
      cases hs : trimStart cs with
      | nil => rfl
      | cons c ds =>
        have hc := List.head?_dropWhile_not isWhiteSpace cs
        rw [show cs.dropWhile isWhiteSpace = c :: ds from hs] at hc
        simp [hall c (by simp [hs])] at hc
    · intro hs
      simp [hs, trimEnd]
  rw [trim, keep, trimStart, h]
  simp [isBlank]

end Ticker.Text
