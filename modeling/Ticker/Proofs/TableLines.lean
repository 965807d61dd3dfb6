import Ticker.CommandLine.Batch
import Ticker.Proofs.Causes
import Ticker.Proofs.MessageLaws

/-!
A table line tells the verdict, whatever text was typed. The text stands in front and may itself
look like a line, so a line is read from its end: the report is what follows the last gap.
-/

namespace Ticker

open Text

def gap : List Char := [' ', ' ', ' ', ' ']

def Tight (cs : List Char) : Prop := ¬ gap <:+: cs

instance (cs : List Char) : Decidable (Tight cs) := inferInstanceAs (Decidable (¬ _))

/-- Without a gap, and with no space in front that a gap could run into. -/
structure Solid (cs : List Char) : Prop where
  tight : Tight cs
  start : cs.head? ≠ some ' '

instance (cs : List Char) : Decidable (Solid cs) :=
  decidable_of_iff (Tight cs ∧ cs.head? ≠ some ' ') ⟨fun h => ⟨h.1, h.2⟩, fun h => ⟨h.1, h.2⟩⟩

section Gaps

variable {as bs cs ds us : List Char}

theorem eq_space_of_mem_gap {c : Char} (h : c ∈ gap) : c = ' ' := by simpa [gap] using h

theorem Tight.of_infix (h : Tight ds) (part : cs <:+: ds) : Tight cs := fun inner =>
  h (inner.trans part)

theorem Tight.append_cons {d : Char} (hcs : Tight cs) (hd : d ≠ ' ') (hds : Tight ds) :
    Tight (cs ++ d :: ds) := by
  intro inner
  rcases List.infix_append_iff.1 inner with left | right | ⟨front, back, split, ends, begins⟩
  · exact hcs left
  · cases List.infix_cons_iff.1 right with
    | inl begins => exact hd (List.cons_prefix_cons.1 begins).1.symm
    | inr right => exact hds right
  · cases back with
    | nil =>
      rw [List.append_nil] at split
      exact hcs (split ▸ ends.isInfix)
    | cons e back =>
      obtain ⟨rfl, -⟩ := List.cons_prefix_cons.1 begins
      exact hd (eq_space_of_mem_gap (split ▸ by simp))

theorem Tight.word_append (word : ∀ d ∈ us, d ≠ ' ') (hds : Tight ds) : Tight (us ++ ds) := by
  induction us with
  | nil => exact hds
  | cons u us ih =>
    have rest := ih fun d hd => word d (List.mem_cons_of_mem _ hd)
    have nothing : Tight [] := by decide
    exact nothing.append_cons (word u (List.mem_cons_self ..)) rest

theorem Tight.around_word (hcs : Tight cs) (filled : us ≠ []) (word : ∀ d ∈ us, d ≠ ' ')
    (hds : Tight ds) : Tight (cs ++ us ++ ds) := by
  cases us with
  | nil => contradiction
  | cons u us =>
    rw [List.append_assoc, List.cons_append]
    have rest := Tight.word_append (fun d hd => word d (List.mem_cons_of_mem _ hd)) hds
    exact hcs.append_cons (word u (List.mem_cons_self ..)) rest

theorem eq_nil_of_solid (h : as ++ gap = bs ++ gap ++ us) (solid : Solid (us ++ cs)) : us = [] := by
  have ends : us <:+ as ++ gap := ⟨bs ++ gap, h.symm⟩
  have gap_ends : gap <:+ as ++ gap := List.suffix_append ..
  cases us with
  | nil => rfl
  | cons u us =>
    exfalso
    -- Two texts end the same list, so that the shorter one ends the longer.
    cases le_total (u :: us).length gap.length with
    | inl short =>
      have part : u :: us <:+ gap := List.suffix_of_suffix_length_le ends gap_ends short
      have space : u = ' ' := eq_space_of_mem_gap (part.subset (List.mem_cons_self ..))
      exact solid.start (by rw [space]; rfl)
    | inr long =>
      have part : gap <:+ u :: us := List.suffix_of_suffix_length_le gap_ends ends long
      exact solid.tight (part.isInfix.trans (List.prefix_append ..).isInfix)

/-- Of the ways to cut a line at a gap, one has a solid text behind it. -/
theorem split_at_gap (h : as ++ gap ++ cs = bs ++ gap ++ ds) (hcs : Solid cs) (hds : Solid ds) :
    as = bs ∧ cs = ds := by
  rcases List.append_eq_append_iff.1 h with ⟨us, front, rfl⟩ | ⟨us, front, rfl⟩
  · obtain rfl := eq_nil_of_solid front hcs
    exact ⟨by simpa using front.symm, rfl⟩
  · obtain rfl := eq_nil_of_solid front hds
    exact ⟨by simpa using front, rfl⟩

end Gaps

theorem Framed.solid {α : Type} {l : Language} {text detail : α → String}
    (h : Framed l text detail) {a b : α} (known : Solid (text b).toList)
    (filled : (detail a).toList ≠ []) (word : ∀ c ∈ (detail a).toList, c ≠ ' ') :
    Solid (text a).toList := by
  obtain ⟨opening, closing, long, eq⟩ := h
  have opened : opening.toList ≠ [] := by
    intro empty
    rw [empty] at long
    cases l <;> contradiction
  rw [eq, String.toList_append, String.toList_append] at known ⊢
  constructor
  · refine Tight.around_word (known.tight.of_infix ?_) filled word (known.tight.of_infix ?_)
    · rw [List.append_assoc]
      exact (List.prefix_append ..).isInfix
    · exact (List.suffix_append ..).isInfix
  · have start := known.start
    rw [List.append_assoc, List.head?_append_of_ne_nil _ opened] at start ⊢
    exact start

theorem ne_space_of_isWhiteSpace {c : Char} (h : Unicode.isWhiteSpace c = false) : c ≠ ' ' := by
  rintro rfl
  contradiction

theorem ne_space_of_isDigit {c : Char} (h : c.isDigit) : c ≠ ' ' :=
  ne_space_of_isWhiteSpace (Unicode.isWhiteSpace_of_isDigit h)

namespace Rejection

theorem solid_bare (r : Rejection) (l : Language) : Solid (r.bare.message l).toList := by
  have table : ∀ r ∈ allBare, ∀ l ∈ Language.all, Solid (r.message l).toList := by decide +kernel
  exact table _ r.bare_mem_allBare l l.mem_all

theorem solid_message {s : String} {cause : Rejection} (grounds : Grounds s cause) (l : Language) :
    Solid (cause.message l).toList := by
  cases grounds with
  | empty => exact solid_bare .emptyInput l
  | shape m => exact solid_bare (.invalidFormat m) l
  | foreign => exact solid_bare .unrecognizedFormat l
  | @lead lead unknown =>
    have two : lead.toList = (digits s.toList).take 2 := by rw [unknown.leads, String.toList_ofList]
    apply (framed_unknownLead l).solid (solid_bare (.unknownLead "") l)
    · rw [id, two, ← List.length_pos_iff, List.length_take, unknown.six]
      decide
    · intro c hc
      rw [id, two] at hc
      exact ne_space_of_isDigit (isDigit_of_mem_digits (List.mem_of_mem_take hc))
  | count =>
    apply (framed_invalidLength l).solid (solid_bare (.invalidLength 0) l)
    · rw [Nat.toString_eq_repr, Nat.toList_repr]
      exact Nat.toDigits_ne_nil
    · intro c hc
      rw [Nat.toString_eq_repr, Nat.toList_repr] at hc
      exact ne_space_of_isDigit (Nat.isDigit_of_mem_toDigits (by decide) (by decide) hc)

end Rejection

inductive Verdict.Reachable (s : String) : Verdict → Prop
  | accepted {m : Market} {code : String} :
    m.IsCanonical code.toList → Reachable s (.accepted m code)
  | rejected {cause : Rejection} : Grounds s cause → Reachable s (.rejected cause)

theorem reachable_validate (s : String) (hint : Option Market) : (validate s hint).Reachable s := by
  cases verdict : validate s hint with
  | accepted m code => exact .accepted (isCanonical_of_validate verdict)
  | rejected cause => exact .rejected (Raised.validate hint verdict).grounds

namespace CommandLine

def SameButForPadding (s t : String) : Prop :=
  ∃ core i j, s.toList = core ++ List.replicate i ' ' ∧ t.toList = core ++ List.replicate j ' '

theorem SameButForPadding.symm {s t : String} (h : SameButForPadding s t) :
    SameButForPadding t s := by
  obtain ⟨core, i, j, hs, ht⟩ := h
  exact ⟨core, j, i, ht, hs⟩

theorem toList_column (width : Nat) (s : String) :
    (column width s).toList = s.toList ++ List.replicate (width - s.toList.length) ' ' := by
  rw [column, String.toList_ofList, List.rightpad]

theorem sameButForPadding_of_spaces {s t : String} {us : List Char} {i j : Nat}
    (longer : t.toList = s.toList ++ us)
    (spaces : List.replicate i ' ' = us ++ List.replicate j ' ') : SameButForPadding s t := by
  obtain ⟨-, filling, -⟩ := List.append_eq_replicate_iff.1 spaces.symm
  exact ⟨s.toList, 0, us.length, by simp, by rw [longer, ← filling]⟩

theorem sameButForPadding_of_column_eq {width : Nat} {s t : String}
    (h : column width s = column width t) : SameButForPadding s t := by
  have lists := congrArg String.toList h
  rw [toList_column, toList_column] at lists
  rcases List.append_eq_append_iff.1 lists with ⟨us, longer, spaces⟩ | ⟨us, longer, spaces⟩
  · exact sameButForPadding_of_spaces longer spaces
  · exact (sameButForPadding_of_spaces longer spaces).symm

theorem length_column_code (m : Market) : (column 3 m.code).toList.length = 3 := by
  cases m <;> decide

theorem eq_of_column_code_eq {m m' : Market} (h : column 3 m.code = column 3 m'.code) : m = m' := by
  have table : ∀ m ∈ Market.all, ∀ m' ∈ Market.all,
      column 3 m.code = column 3 m'.code → m = m' := by decide
  exact table m m.mem_all m' m'.mem_all h

theorem solid_column_code (m : Market) : Solid ((column 3 m.code).toList ++ [' ']) := by
  cases m <;> decide

theorem tight_boardNote (l : Language) (board : Option Board) :
    Tight (Entry.boardNote l board).toList := by
  have table : ∀ l ∈ Language.all, ∀ b ∈ Board.all, Tight (Entry.boardNote l (some b)).toList := by
    decide +kernel
  cases board with
  | none => exact of_decide_eq_true rfl
  | some b => exact table l l.mem_all b b.mem_all

def Entry.sign (e : Entry) : String := if e.verdict.isAccepted then " ok" else " error "

def Entry.report (l : Language) (e : Entry) : String :=
  match e.verdict with
  | .accepted m code => column 3 m.code ++ " " ++ code ++ boardNote l e.board?
  | .rejected cause => cause.message l

namespace Entry

theorem toList_line (l : Language) (e : Entry) :
    (e.line l).toList =
      ((column 12 e.input).toList ++ e.sign.toList) ++ gap ++ (e.report l).toList := by
  unfold line sign report
  cases e.verdict with
  | accepted m code => simp [Verdict.isAccepted, gap]
  | rejected cause => simp [Verdict.isAccepted, gap]

theorem sign_eq_of_append_eq {as bs : List Char} {e e' : Entry}
    (h : as ++ e.sign.toList = bs ++ e'.sign.toList) : e.sign = e'.sign := by
  -- The two words end in different characters.
  have last := congrArg List.getLast? h
  unfold sign at last ⊢
  cases accepted : e.verdict.isAccepted <;> cases accepted' : e'.verdict.isAccepted <;>
    simp [accepted, accepted'] at last ⊢

theorem solid_report {s : String} {e : Entry} (h : e.verdict.Reachable s) (l : Language) :
    Solid (e.report l).toList := by
  obtain ⟨input, verdict⟩ := e
  cases h with
  | rejected grounds => exact Rejection.solid_message grounds l
  | @accepted m code canonical =>
    have listed := solid_column_code m
    have word : ∀ c ∈ code.toList, c ≠ ' ' := fun c hc =>
      ne_space_of_isWhiteSpace (Market.visible_of_isCanonical canonical c hc)
    have filled : code.toList ≠ [] := Market.ne_nil_of_isCanonical canonical
    simp only [report, String.toList_append]
    constructor
    · exact listed.tight.around_word filled word (tight_boardNote l _)
    · rw [List.append_assoc, List.head?_append_of_ne_nil _ (by simp)]
      exact listed.start

theorem code_eq_of_noted {m : Market} {code code' input input' : String} {l : Language}
    (hm : m.IsCanonical code.toList) (hm' : m.IsCanonical code'.toList)
    (h : code ++ boardNote l (board? ⟨input, .accepted m code⟩) =
      code' ++ boardNote l (board? ⟨input', .accepted m code'⟩)) : code = code' := by
  cases m with
  | aShare =>
    -- What follows the code is cut off by the length of codes.
    have lists := congrArg String.toList h
    rw [String.toList_append, String.toList_append] at lists
    exact String.toList_inj.1 (List.append_inj lists (hm.1.trans hm'.1.symm)).1
  | unitedStates | hongKong | malaysia => simpa [board?, boardNote] using h

theorem verdict_eq_of_report {s t : String} {l : Language} {e e' : Entry}
    (he : e.verdict.Reachable s) (he' : e'.verdict.Reachable t) (sign : e.sign = e'.sign)
    (report : e.report l = e'.report l) : e.verdict = e'.verdict := by
  obtain ⟨input, verdict⟩ := e
  obtain ⟨input', verdict'⟩ := e'
  cases he with
  | rejected =>
    cases he' with
    | rejected => exact congrArg Verdict.rejected (Rejection.message_inj report).1
    | accepted => simp [Entry.sign, Verdict.isAccepted] at sign
  | @accepted m code canonical =>
    cases he' with
    | rejected => simp [Entry.sign, Verdict.isAccepted] at sign
    | @accepted m' code' canonical' =>
      have lists := congrArg String.toList report
      simp only [Entry.report, String.toList_append, List.append_assoc] at lists
      obtain ⟨columns, rest⟩ :=
        List.append_inj lists ((length_column_code m).trans (length_column_code m').symm)
      obtain rfl := eq_of_column_code_eq (String.toList_inj.1 columns)
      have noted := List.append_cancel_left rest
      rw [← String.toList_append, ← String.toList_append, String.toList_inj] at noted
      rw [code_eq_of_noted canonical canonical' noted]

end Entry

/-- No text makes a rejected code look accepted, or like any other code than the one it is. -/
theorem line_tells_verdict {l : Language} {s t : String} {hint hint' : Option Market}
    (h : (Entry.ofText hint s).line l = (Entry.ofText hint' t).line l) :
    validate s hint = validate t hint' ∧ SameButForPadding s t := by
  have hs := reachable_validate s hint
  have ht := reachable_validate t hint'
  have lists := congrArg String.toList h
  rw [Entry.toList_line, Entry.toList_line] at lists
  obtain ⟨front, report⟩ := split_at_gap lists (Entry.solid_report hs l) (Entry.solid_report ht l)
  have sign := Entry.sign_eq_of_append_eq front
  constructor
  · exact Entry.verdict_eq_of_report hs ht sign (String.toList_inj.1 report)
  · rw [sign] at front
    exact sameButForPadding_of_column_eq (String.toList_inj.1 (List.append_cancel_right front))

theorem text_that_looks_like_a_line :
    (Entry.ofText none "700 ok").line .english =
        (Entry.ofText (some .unitedStates) "700 ok  ").line .english ∧
      validate "700 ok" none = validate "700 ok  " (some .unitedStates) ∧
      SameButForPadding "700 ok" "700 ok  " := by
  have same : (Entry.ofText none "700 ok").line .english =
      (Entry.ofText (some .unitedStates) "700 ok  ").line .english := by decide +kernel
  exact ⟨same, line_tells_verdict same⟩

end CommandLine

end Ticker
