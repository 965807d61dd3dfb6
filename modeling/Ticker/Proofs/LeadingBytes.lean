import Mathlib
import Ticker.Proofs.CodeLaws

/-!
Leads of codes, cut off by bytes. A cut that would fall inside a character, or beyond the end of the
text, gives nothing. Digits take one byte each, and so do the characters of every lead, so that two
bytes tell the same board as two characters, and the lead of six digits can always be cut off.
-/

namespace Ticker

namespace Text

def leadingDigits (s : String) : String := String.ofList ((digits s.toList).take 2)

theorem toList_prefix_iff {s t : String} : t.toList <+: s.toList ↔ ∃ u, s = t ++ u := by
  constructor
  · rintro ⟨rest, split⟩
    exact ⟨String.ofList rest, by rw [← String.toList_inj, String.toList_append,
      String.toList_ofList, split]⟩
  · rintro ⟨u, rfl⟩
    rw [String.toList_append]
    exact List.prefix_append ..

/-- A cut at a byte is a beginning of that many bytes, and there is no other way to have one. -/
theorem firstBytes?_eq_some_iff {n : Nat} {s t : String} :
    firstBytes? n s = some t ↔ t.utf8ByteSize = n ∧ t.toList <+: s.toList := by
  rw [firstBytes?, toList_prefix_iff]
  split_ifs with boundary
  · rw [Option.some_inj, String.copy_sliceTo_eq_iff_exists_splits]
    constructor
    · rintro ⟨u, split⟩
      have size := congrArg String.Pos.Raw.byteIdx split.offset_eq_rawEndPos
      exact ⟨size.symm, u, split.eq_append⟩
    · rintro ⟨rfl, u, split⟩
      exact ⟨u, split, rfl⟩
  · refine iff_of_false nofun ?_
    rintro ⟨rfl, u, split⟩
    exact boundary (String.Pos.Raw.isValid_iff_exists_append.2 ⟨t, u, split, rfl⟩)

example : firstBytes? 2 "6é0" = none ∧ firstBytes? 2 "é60" = some "é" := by decide

theorem utf8Size_of_isDigit {d : Char} (h : d.isDigit) : d.utf8Size = 1 := by
  have low : d.toNat ≤ 0x39 := (Char.isDigit_iff_toNat.1 h).2
  rw [Char.utf8Size_eq_one_iff, UInt32.le_iff_toNat_le]
  exact low.trans (by decide)

theorem utf8ByteSize_of_digits {ds : List Char} (h : ∀ d ∈ ds, d.isDigit) :
    (String.ofList ds).utf8ByteSize = ds.length := by
  rw [String.utf8ByteSize_ofList]
  induction ds with
  | nil => rfl
  | cons d ds ih =>
    have byte := utf8Size_of_isDigit (h d (List.mem_cons_self ..))
    have rest := ih fun e he => h e (List.mem_cons_of_mem _ he)
    rw [String.utf8Len_cons, rest, byte, List.length_cons]

theorem firstBytes?_digits {s : String} (long : 2 ≤ (digits s.toList).length) :
    firstBytes? 2 (String.ofList (digits s.toList)) = some (leadingDigits s) := by
  have lead : ∀ d ∈ (digits s.toList).take 2, d.isDigit := fun d hd =>
    isDigit_of_mem_digits (List.mem_of_mem_take hd)
  rw [firstBytes?_eq_some_iff, leadingDigits, utf8ByteSize_of_digits lead, String.toList_ofList,
    String.toList_ofList, List.length_take]
  exact ⟨min_eq_left long, List.take_prefix ..⟩

end Text

open Text

namespace Board

theorem utf8ByteSize_of_mem_leads {lead : String} {b : Board} (h : lead ∈ b.leads) :
    lead.utf8ByteSize = 2 := by
  have two : ∀ b ∈ all, ∀ lead ∈ b.leads, lead.utf8ByteSize = 2 := by decide
  exact two b b.mem_all lead h

/-- Two bytes that are not two characters are the lead of no board. -/
theorem ofFirstBytes?_eq_classify (s : String) : ofFirstBytes? s = classify s.toList := by
  apply Option.ext
  intro b
  rw [ofFirstBytes?, Option.bind_eq_some_iff, classify_eq_some_iff]
  constructor
  · rintro ⟨lead, cut, board⟩
    exact ⟨lead, ofLead?_eq_some_iff.1 board, (firstBytes?_eq_some_iff.1 cut).2⟩
  · rintro ⟨lead, board, begins⟩
    have size := utf8ByteSize_of_mem_leads board
    exact ⟨lead, firstBytes?_eq_some_iff.2 ⟨size, begins⟩, ofLead?_eq_some_iff.2 board⟩

end Board

namespace AShare

variable {s : String}

theorem canonical_eq_ok_iff_leadingDigits {code : String} :
    Market.aShare.canonical s = .ok code ↔
      (digits s.toList).length = 6 ∧ (Board.ofLead? (leadingDigits s)).isSome ∧
        code = String.ofList (digits s.toList) := by
  rw [Market.canonical_eq_ok_iff, ← String.toList_inj, String.toList_ofList,
    @eq_comm _ code.toList]
  exact canonical_eq_ok_iff

theorem canonical_eq_error_iff_leadingDigits {cause : Rejection} :
    Market.aShare.canonical s = .error cause ↔
      (digits s.toList).length = 6 ∧ Board.ofLead? (leadingDigits s) = none ∧
          .unknownLead (leadingDigits s) = cause ∨
        (digits s.toList).length ≠ 6 ∧ .invalidFormat .aShare = cause := by
  rw [Market.canonical_eq_error_iff]
  exact canonical_eq_error_iff

theorem canonicalByBytes?_eq (s : String) :
    canonicalByBytes? s = some (Market.aShare.canonical s) := by
  have count : (String.ofList (digits s.toList)).utf8ByteSize = (digits s.toList).length :=
    utf8ByteSize_of_digits fun d hd => isDigit_of_mem_digits hd
  have lead : Board.ofFirstBytes? (String.ofList (digits s.toList)) =
      Board.ofLead? (leadingDigits s) := by
    rw [Board.ofFirstBytes?_eq_classify, String.toList_ofList, Board.classify, leadingDigits]
  simp only [canonicalByBytes?, count, lead]
  split_ifs with len board
  · rw [canonical_eq_error_iff_leadingDigits.2 (.inr ⟨len, rfl⟩)]
  · rw [ne_eq, not_not] at len
    -- Six digits were counted, so that two are there to be cut off.
    have nowhere := Option.isNone_iff_eq_none.1 board
    rw [firstBytes?_digits (by omega), Option.map_some,
      canonical_eq_error_iff_leadingDigits.2 (.inl ⟨len, nowhere, rfl⟩)]
  · rw [ne_eq, not_not] at len
    have known := Option.isNone_eq_false_iff.1 (Bool.eq_false_iff.2 board)
    rw [canonical_eq_ok_iff_leadingDigits.2 ⟨len, known, rfl⟩]

end AShare

end Ticker
