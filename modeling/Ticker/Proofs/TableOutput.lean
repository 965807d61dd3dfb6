import Ticker.Proofs.Readings
import Ticker.Proofs.TableLines

namespace Ticker

open Text

def cutAtGap : List Char → Option (List Char × List Char)
  | [] => none
  | c :: cs =>
    match cutAtGap cs with
    | some (front, back) => some (c :: front, back)
    | none => if gap <+: c :: cs then some ([], (c :: cs).drop gap.length) else none

theorem cutAtGap_of_tight {cs : List Char} (h : Tight cs) : cutAtGap cs = none := by
  induction cs with
  | nil => rfl
  | cons c cs ih =>
    have rest : Tight cs := h.of_infix (List.suffix_cons ..).isInfix
    have begins : ¬ gap <+: c :: cs := fun front => h front.isInfix
    rw [cutAtGap, ih rest, if_neg begins]

theorem Solid.tight_indented {cs : List Char} (h : Solid cs) : Tight ([' ', ' ', ' '] ++ cs) := by
  have spaces : Tight [' ', ' ', ' '] := by decide
  cases cs with
  | nil => exact spaces
  | cons c cs =>
    have start : c ≠ ' ' := by
      rintro rfl
      exact h.start rfl
    exact spaces.append_cons start (h.tight.of_infix (List.suffix_cons ..).isInfix)

theorem cutAtGap_append {back : List Char} (h : Solid back) (front : List Char) :
    cutAtGap (front ++ gap ++ back) = some (front, back) := by
  induction front with
  | nil =>
    have later : cutAtGap ([' ', ' ', ' '] ++ back) = none := cutAtGap_of_tight h.tight_indented
    have here : gap <+: ' ' :: ([' ', ' ', ' '] ++ back) := List.prefix_append gap back
    change cutAtGap (' ' :: ([' ', ' ', ' '] ++ back)) = _
    rw [cutAtGap, later, if_pos here]
    rfl
  | cons c front ih => rw [List.cons_append, List.cons_append, cutAtGap, ih]

/-- A line read from behind: the report stands after the last gap, and the word before the gap
tells what it is a report of. -/
def Reading.ofLine (line : List Char) : Option Reading :=
  match cutAtGap line with
  | none => none
  | some (front, report) =>
    if " ok".toList <:+ front then
      some (.accepted (String.ofList (report.takeWhile (· ≠ ' ')))
        (String.ofList ((report.drop 4).takeWhile (· ≠ ' '))))
    else if " error ".toList <:+ front then some (.rejected (String.ofList report))
    else none

theorem Framed.mem_or_mem {α : Type} {l : Language} {text detail : α → String}
    (h : Framed l text detail) (a b : α) {c : Char} (hc : c ∈ (text a).toList) :
    c ∈ (text b).toList ∨ c ∈ (detail a).toList := by
  obtain ⟨opening, closing, -, eq⟩ := h
  simp only [eq, String.toList_append, List.mem_append] at hc ⊢
  tauto

namespace Rejection

variable {s : String} {cause : Rejection}

theorem mem_message {l : Language} {c : Char} (grounds : Grounds s cause)
    (hc : c ∈ (cause.message l).toList) : c ∈ (cause.bare.message l).toList ∨ c.isDigit := by
  cases grounds with
  | empty | shape | foreign => exact .inl hc
  | @lead lead unknown =>
    refine ((framed_unknownLead l).mem_or_mem lead "" hc).imp_right fun among => ?_
    rw [id, unknown.leads, String.toList_ofList] at among
    exact isDigit_of_mem_digits (List.mem_of_mem_take among)
  | count =>
    refine ((framed_invalidLength l).mem_or_mem _ 0 hc).imp_right fun among => ?_
    rw [Nat.toString_eq_repr, Nat.toList_repr] at among
    exact Nat.isDigit_of_mem_toDigits (by decide) (by decide) among

theorem newline_notMem_message (grounds : Grounds s cause) (l : Language) :
    '\n' ∉ (cause.message l).toList := by
  have table : ∀ r ∈ allBare, ∀ l ∈ Language.all, '\n' ∉ (r.message l).toList := by decide +kernel
  intro among
  cases mem_message grounds among with
  | inl bare => exact table _ cause.bare_mem_allBare l l.mem_all bare
  | inr digit => exact absurd digit (by decide)

end Rejection

namespace CommandLine

namespace Entry

theorem takeWhile_word {us vs : List Char} (word : ∀ d ∈ us, d ≠ ' ')
    (ends : vs.takeWhile (· ≠ ' ') = []) : (us ++ vs).takeWhile (· ≠ ' ') = us := by
  rw [List.takeWhile_append_of_pos (by simpa using word), ends, List.append_nil]

theorem takeWhile_boardNote (l : Language) (board : Option Board) :
    (boardNote l board).toList.takeWhile (· ≠ ' ') = [] := by
  cases board with
  | none => rfl
  | some b => simp [boardNote]

theorem words_of_report {m : Market} {code : String} (h : m.IsCanonical code.toList) (l : Language)
    (board : Option Board) :
    let report := (column 3 m.code ++ " " ++ code ++ boardNote l board).toList
    report.takeWhile (· ≠ ' ') = m.code.toList ∧
      (report.drop 4).takeWhile (· ≠ ' ') = code.toList := by
  intro report
  have parts : report =
      (column 3 m.code).toList ++ [' '] ++ (code.toList ++ (boardNote l board).toList) := by
    simp [report]
  have listed : (column 3 m.code).toList = m.code.toList ++ [' '] := by cases m <;> decide
  constructor
  · have word : ∀ d ∈ m.code.toList, d ≠ ' ' := by cases m <;> simp [Market.code]
    rw [parts, listed, List.append_assoc, List.append_assoc]
    exact takeWhile_word word rfl
  · have word : ∀ d ∈ code.toList, d ≠ ' ' := fun d hd =>
      ne_space_of_isWhiteSpace (Market.visible_of_isCanonical h d hd)
    have four : ((column 3 m.code).toList ++ [' ']).length = 4 := by
      rw [List.length_append, length_column_code, List.length_singleton]
    rw [parts, List.drop_left' four]
    exact takeWhile_word word (takeWhile_boardNote l board)

theorem ofLine_line {s : String} {e : Entry} (h : e.verdict.Reachable s) (l : Language) :
    Reading.ofLine (e.line l).toList = some (.ofVerdict l e.verdict) := by
  rw [toList_line, Reading.ofLine, cutAtGap_append (solid_report h l)]
  obtain ⟨input, verdict⟩ := e
  cases h with
  | @accepted m code canonical =>
    have ends : " ok".toList <:+ (column 12 input).toList ++ " ok".toList := List.suffix_append ..
    obtain ⟨market, normalized⟩ :=
      words_of_report canonical l (board? ⟨input, .accepted m code⟩)
    simp only [sign, report, Verdict.isAccepted, if_true, if_pos ends, market, normalized,
      String.ofList_toList, Reading.ofVerdict]
  | @rejected cause grounds =>
    have ends : " error ".toList <:+ (column 12 input).toList ++ " error ".toList :=
      List.suffix_append ..
    -- A word that ends what the other ends would end the other.
    have apart : ¬ " ok".toList <:+ (column 12 input).toList ++ " error ".toList := fun other =>
      absurd (List.suffix_of_suffix_length_le other ends (by decide)) (by decide)
    simp only [sign, report, Verdict.isAccepted, Bool.false_eq_true, if_false, if_neg apart,
      if_pos ends, String.ofList_toList, Reading.ofVerdict]

theorem newline_notMem_boardNote (l : Language) (board : Option Board) :
    '\n' ∉ (boardNote l board).toList := by
  have table : ∀ l ∈ Language.all, ∀ b ∈ Board.all, '\n' ∉ (boardNote l (some b)).toList := by
    decide +kernel
  cases board with
  | none => exact List.not_mem_nil
  | some b => exact table l l.mem_all b b.mem_all

theorem newline_notMem_report {s : String} {e : Entry} (h : e.verdict.Reachable s) (l : Language) :
    '\n' ∉ (e.report l).toList := by
  obtain ⟨input, verdict⟩ := e
  cases h with
  | rejected grounds => exact Rejection.newline_notMem_message grounds l
  | @accepted m code canonical =>
    have listed : '\n' ∉ (column 3 m.code).toList := by cases m <;> decide
    have normalized : '\n' ∉ code.toList := fun among =>
      absurd (Market.visible_of_isCanonical canonical _ among) (by decide)
    simp [report, listed, normalized, newline_notMem_boardNote]

theorem count_newline_line {s : String} {e : Entry} (h : e.verdict.Reachable s) (l : Language) :
    (e.line l).toList.count '\n' = e.input.toList.count '\n' := by
  have sign : '\n' ∉ e.sign.toList := by
    unfold sign
    split <;> decide
  have padding : ∀ n, '\n' ∉ List.replicate n ' ' := fun n => by simp
  rw [toList_line, toList_column, List.count_append, List.count_append, List.count_append,
    List.count_append, List.count_eq_zero_of_not_mem (padding _),
    List.count_eq_zero_of_not_mem sign, List.count_eq_zero_of_not_mem (newline_notMem_report h l)]
  rfl

end Entry

theorem splitOn_newline (lines : List (List Char)) :
    (lines.flatMap (· ++ ['\n'])).splitOn '\n' = lines.flatMap (·.splitOn '\n') ++ [[]] := by
  induction lines with
  | nil => rfl
  | cons line lines ih =>
    rw [List.flatMap_cons, List.append_assoc, List.singleton_append,
      List.splitOn_append_cons_self, ih, List.flatMap_cons, List.append_assoc]

theorem count_newline (lines : List (List Char)) :
    (lines.flatMap (· ++ ['\n'])).count '\n' =
      lines.length + (lines.map (·.count '\n')).sum := by
  induction lines with
  | nil => rfl
  | cons line lines ih =>
    rw [List.flatMap_cons, List.count_append, List.count_append, ih, List.map_cons, List.sum_cons,
      List.length_cons, List.count_singleton_self]
    omega

def table (l : Language) (hint : Option Market) (codes : List String) : String :=
  (Response.ofCodes l hint codes).render .table false

section Table

variable (l : Language) (hint : Option Market) (codes : List String)

theorem toList_table :
    (table l hint codes).toList =
      ((Response.ofCodes l hint codes).lines.map String.toList).flatMap (· ++ ['\n']) := by
  simp [table, Response.render, List.flatMap_map]

theorem standardOutput_eq_table {args : List String} {setting : Option String} {r : Request}
    (h : Request.ofArguments? args = some r) (command : r.command = .validate codes hint)
    (output : r.output = .table) :
    (Outcome.ofArguments args setting).standardOutput =
      table (r.effectiveLanguage setting) hint codes := by
  rw [Outcome.ofArguments_of_some h, Outcome.ofResponse, output, Request.respond, command]
  rfl

theorem forall₂_lines :
    List.Forall₂ (fun s line => s.toList <+: line.toList ∧
        line.toList.count '\n' = s.toList.count '\n' ∧
        Reading.ofLine line.toList = some (.ofVerdict l (validate s hint)))
      codes (Response.ofCodes l hint codes).lines := by
  rw [Response.lines_ofCodes, batch, List.map_map, List.forall₂_map_right_iff, List.forall₂_same]
  intro s _
  have reachable : (Entry.ofText hint s).verdict.Reachable s := reachable_validate s hint
  refine ⟨?_, Entry.count_newline_line reachable l, Entry.ofLine_line reachable l⟩
  rw [Function.comp_apply, Entry.toList_line, toList_column]
  simp only [List.append_assoc]
  exact List.prefix_append ..

theorem count_newline_table :
    (table l hint codes).toList.count '\n' =
      codes.length + (codes.map (·.toList.count '\n')).sum := by
  have counts : ∀ s, (((Entry.ofText hint s).line l).toList.count '\n') = s.toList.count '\n' :=
    fun s => Entry.count_newline_line (reachable_validate s hint) l
  rw [toList_table, count_newline, Response.lines_ofCodes, batch]
  simp [Function.comp_def, counts]

theorem splitOn_table :
    (table l hint codes).toList.splitOn '\n' =
      ((Response.ofCodes l hint codes).lines.map String.toList).flatMap (·.splitOn '\n') ++
        [[]] := by
  rw [toList_table, splitOn_newline]

theorem splitOn_table_of_whole (whole : ∀ s ∈ codes, '\n' ∉ s.toList) :
    (table l hint codes).toList.splitOn '\n' =
      (Response.ofCodes l hint codes).lines.map String.toList ++ [[]] := by
  have single : ∀ line ∈ (Response.ofCodes l hint codes).lines.map String.toList,
      line.splitOn '\n' = [line] := by
    rw [Response.lines_ofCodes, batch, List.map_map, List.map_map, List.forall_mem_map]
    intro s hs
    have reachable : (Entry.ofText hint s).verdict.Reachable s := reachable_validate s hint
    have count : ((Entry.ofText hint s).line l).toList.count '\n' = 0 :=
      (Entry.count_newline_line reachable l).trans (List.count_eq_zero_of_not_mem (whole s hs))
    exact List.splitOn_eq_singleton (List.count_eq_zero.1 count)
  rw [splitOn_table, List.flatMap_congr single, List.flatMap_singleton']

end Table

/-- A table has a line for each code, and more only where a code has line feeds of its own. Each
entry begins with its code and reads as the result that the payload has at its place. -/
theorem table_reads_as_results (l : Language) (hint : Option Market) (codes : List String) :
    (∀ args setting r, Request.ofArguments? args = some r → r.command = .validate codes hint →
        r.output = .table → r.effectiveLanguage setting = l →
        (Outcome.ofArguments args setting).standardOutput = table l hint codes) ∧
      (table l hint codes).toList.count '\n' =
        codes.length + (codes.map (·.toList.count '\n')).sum ∧
      ((table l hint codes).toList.count '\n' = codes.length ↔ ∀ s ∈ codes, '\n' ∉ s.toList) ∧
      (table l hint codes).toList.splitOn '\n' =
        ((Response.ofCodes l hint codes).lines.map String.toList).flatMap (·.splitOn '\n') ++ [[]] ∧
      ((∀ s ∈ codes, '\n' ∉ s.toList) →
        (table l hint codes).toList.splitOn '\n' =
          (Response.ofCodes l hint codes).lines.map String.toList ++ [[]]) ∧
      List.Forall₂ (fun s line => s.toList <+: line.toList ∧
          line.toList.count '\n' = s.toList.count '\n' ∧
          Reading.ofLine line.toList = some (.ofVerdict l (validate s hint)))
        codes (Response.ofCodes l hint codes).lines ∧
      (Response.ofCodes l hint codes).lines.map (fun line => Reading.ofLine line.toList) =
        (Response.ofCodes l hint codes).results.map Reading.ofJson := by
  refine ⟨?_, count_newline_table .., ?_, splitOn_table .., splitOn_table_of_whole l hint codes,
    forall₂_lines .., ?_⟩
  · intro args setting r h command output language
    rw [standardOutput_eq_table hint codes h command output, language]
  · rw [count_newline_table, Nat.add_eq_left, List.sum_eq_zero_iff_forall_eq_nat,
      List.forall_mem_map]
    exact forall₂_congr fun s _ => List.count_eq_zero
  · rw [Response.readings_ofCodes, Response.lines_ofCodes, batch, List.map_map, List.map_map]
    exact List.map_congr_left fun s _ => Entry.ofLine_line (reachable_validate s hint) l

theorem table_of_two_codes :
    (∀ s ∈ ["700", "12345678"], '\n' ∉ s.toList) ∧
      (Outcome.ofArguments ["validate", "700", "12345678", "--format", "table"]
        (some "en")).standardOutput = table .english none ["700", "12345678"] ∧
      (table .english none ["700", "12345678"]).toList.splitOn '\n' =
        ["700          ok    HK  00700".toList,
          "12345678     error     digit code length 8 is not valid for any known market".toList,
          []] := by
  have whole : ∀ s ∈ ["700", "12345678"], '\n' ∉ s.toList := by decide
  have parsed : Request.ofArguments? ["validate", "700", "12345678", "--format", "table"] =
      some { command := .validate ["700", "12345678"] none, output := .table } := by
    decide +kernel
  have lines : (Response.ofCodes .english none ["700", "12345678"]).lines =
      ["700          ok    HK  00700",
        "12345678     error     digit code length 8 is not valid for any known market"] := by
    decide +kernel
  obtain ⟨printed, -, -, -, split, -⟩ :=
    table_reads_as_results .english none ["700", "12345678"]
  refine ⟨whole, printed _ _ _ parsed rfl rfl (by decide +kernel), ?_⟩
  rw [split whole, lines]
  rfl

/-- A rejected code, whose line feed makes the front of it a line that reads as accepted. -/
theorem table_splits_code_at_line_feed :
    (Outcome.ofArguments ["validate", "--market", "cn", "--lang", "en", "--format", "table",
        "700          ok    HK  00700\nx"] none =
      { exitCode := 3
        standardOutput := "700          ok    HK  00700\nx error     " ++
          "A-Share code format is invalid: must be 6 digits\n" }) ∧
      Reading.ofLine "700          ok    HK  00700".toList = some (.accepted "HK" "00700") ∧
      ¬ ∀ l hint codes, (table l hint codes).toList.count '\n' = codes.length := by
  refine ⟨by decide +kernel, by decide +kernel, fun single => ?_⟩
  have two : (table .english (some .aShare) ["700          ok    HK  00700\nx"]).toList.count '\n' =
      2 := by decide +kernel
  rw [single] at two
  contradiction

end CommandLine

end Ticker
