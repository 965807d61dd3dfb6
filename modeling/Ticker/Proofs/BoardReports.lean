import Ticker.Proofs.Acceptance
import Ticker.Proofs.Readings

namespace Ticker

open Json

theorem Json.lookup_field?_self (key : String) (value : Option Json) :
    (field? key value).lookup key = value := by
  cases value with
  | none => rfl
  | some j => rw [field?, lookup_cons_eq_ite, if_pos rfl]

theorem Verdict.lookup_fields_of_notMem {key : String}
    (h : key ∉ ["valid", "market", "normalizedCode", "message"]) (l : Language) (v : Verdict) :
    (v.fields l).lookup key = none := by
  simp only [List.mem_cons, List.not_mem_nil, or_false, not_or] at h
  cases v with
  | accepted m code => simp [fields_accepted, lookup_cons_eq_ite, h]
  | rejected cause => simp [fields_rejected, lookup_cons_eq_ite, h]

theorem Board.exchange_mem_profile (b : Board) :
    b.exchange ∈ Market.aShare.profile.exchanges := by
  cases b <;> decide

namespace CommandLine

namespace Entry

section Fields

variable (l : Language) (e : Entry)

theorem get?_payload_of_board {key : String}
    (h : key ∉ ["input", "valid", "market", "normalizedCode", "message"]) :
    (e.payload l).get? key =
      (field? "board" (e.board?.map (.text ·.key)) ++
        field? "exchange" (e.board?.map (.text ·.exchange))).lookup key := by
  obtain ⟨input, others⟩ := not_or.1 (List.mem_cons.not.1 h)
  rw [payload, get?_record, fields, List.append_assoc, List.append_assoc, List.singleton_append,
    lookup_cons_eq_ite, if_neg input, List.lookup_append, Verdict.lookup_fields_of_notMem others,
    Option.none_or]

theorem get?_payload_board :
    (e.payload l).get? "board" = e.board?.map (.text ·.key) := by
  rw [get?_payload_of_board l e (by decide), List.lookup_append, lookup_field?_self,
    lookup_field?_of_ne (by decide), Option.or_none]

theorem get?_payload_exchange :
    (e.payload l).get? "exchange" = e.board?.map (.text ·.exchange) := by
  rw [get?_payload_of_board l e (by decide), List.lookup_append, lookup_field?_self,
    lookup_field?_of_ne (by decide), Option.none_or]

end Fields

theorem line_of_accepted {e : Entry} {m : Market} {code : String}
    (h : e.verdict = .accepted m code) (l : Language) :
    e.line l =
      column 12 e.input ++ " ok    " ++ column 3 m.code ++ " " ++ code ++ boardNote l e.board? := by
  rw [line, h]

section Board

variable {hint : Option Market} {s code : String}

theorem board?_eq_none (h : ∀ code, validate s hint ≠ .accepted .aShare code) :
    (ofText hint s).board? = none := by
  rw [board?]
  split
  · next code accepted => exact absurd accepted (h code)
  · rfl

theorem exists_board (h : validate s hint = .accepted .aShare code) :
    ∃ b, Board.ofLead? (String.ofList (code.toList.take 2)) = some b ∧
      (ofText hint s).board? = some b := by
  obtain ⟨-, -, b, -, begins⟩ : AShare.IsCanonical code.toList := isCanonical_of_validate h
  have board : Board.classify code.toList = some b := Board.classify_eq_some_iff.2 begins
  refine ⟨b, board, ?_⟩
  rw [board?, ofText, h]
  exact board

theorem isSome_board?_iff :
    (ofText hint s).board?.isSome ↔ ∃ code, validate s hint = .accepted .aShare code := by
  constructor
  · intro known
    by_contra none
    rw [board?_eq_none fun code accepted => none ⟨code, accepted⟩] at known
    contradiction
  · rintro ⟨code, h⟩
    obtain ⟨b, -, board⟩ := exists_board h
    rw [board, Option.isSome_some]

end Board

end Entry

structure Listed (l : Language) (b : Board) (code : String) (object : Json) (line : String) :
    Prop where
  lead : Board.ofLead? (String.ofList (code.toList.take 2)) = some b
  code : object.get? "normalizedCode" = some (.text code)
  board : object.get? "board" = some (.text b.key)
  exchange : object.get? "exchange" = some (.text b.exchange)
  profile : b.exchange ∈ Market.aShare.profile.exchanges
  note : ∃ front, line = front ++ ("  " ++ b.exchange ++ " " ++ b.name l)

structure Unlisted (code : String) (object : Json) (line : String) : Prop where
  board : object.get? "board" = none
  exchange : object.get? "exchange" = none
  bare : ∃ front, line = front ++ code

section Reports

variable {hint : Option Market} {s code : String}

theorem listed_of_accepted (l : Language) (h : validate s hint = .accepted .aShare code) :
    ∃ b, Listed l b code ((Entry.ofText hint s).payload l) ((Entry.ofText hint s).line l) := by
  obtain ⟨b, lead, board⟩ := Entry.exists_board h
  have accepted : (Entry.ofText hint s).verdict = .accepted .aShare code := h
  refine ⟨b, lead, ?_, ?_, ?_, b.exchange_mem_profile, ?_⟩
  · rw [Entry.get?_payload_of_verdict l _ "normalizedCode" (by decide), accepted]
    rfl
  · rw [Entry.get?_payload_board, board, Option.map_some]
  · rw [Entry.get?_payload_exchange, board, Option.map_some]
  · rw [Entry.line_of_accepted accepted, board, Entry.boardNote]
    exact ⟨_, rfl⟩

theorem unlisted_of_accepted (l : Language) {m : Market} (h : validate s hint = .accepted m code)
    (other : m ≠ .aShare) :
    Unlisted code ((Entry.ofText hint s).payload l) ((Entry.ofText hint s).line l) := by
  have accepted : (Entry.ofText hint s).verdict = .accepted m code := h
  have nowhere : (Entry.ofText hint s).board? = none := Entry.board?_eq_none fun code' h' => by
    rw [h, Verdict.accepted.injEq] at h'
    exact other h'.1
  refine ⟨?_, ?_, ?_⟩
  · rw [Entry.get?_payload_board, nowhere, Option.map_none]
  · rw [Entry.get?_payload_exchange, nowhere, Option.map_none]
  · rw [Entry.line_of_accepted accepted, nowhere, Entry.boardNote, String.append_empty]
    exact ⟨_, rfl⟩

end Reports

/-- Each entry of a run tells a board and an exchange if it is an accepted A-share, and then in its
object and its line those of the lead of its code. Other accepted codes tell none, although those of
Hong Kong that begin with two zeros begin like A-shares. -/
theorem boards_are_told_of_aShares_alone {l : Language} {hint : Option Market}
    {codes : List String} {i : Nat} {s : String} (h : codes[i]? = some s) :
    ∃ object line, (Response.ofCodes l hint codes).results[i]? = some object ∧
      (Response.ofCodes l hint codes).lines[i]? = some line ∧
      [(object.get? "board").isSome = true, (object.get? "exchange").isSome = true,
        ∃ code, validate s hint = .accepted .aShare code].TFAE ∧
      (∀ code, validate s hint = .accepted .aShare code → ∃ b, Listed l b code object line) ∧
      (∀ m code, validate s hint = .accepted m code → m ≠ .aShare → Unlisted code object line) ∧
      ∀ code, validate s hint = .accepted .hongKong code → "00".toList <+: code.toList →
        Board.classify code.toList = some .shenzhenMain ∧ object.get? "board" = none := by
  refine ⟨(Entry.ofText hint s).payload l, (Entry.ofText hint s).line l, ?_, ?_, ?_,
    fun code => listed_of_accepted l, fun m code => unlisted_of_accepted l, ?_⟩
  · rw [Response.results_ofCodes, List.getElem?_map, batch, List.getElem?_map, h]
    rfl
  · rw [Response.lines_ofCodes, List.getElem?_map, batch, List.getElem?_map, h]
    rfl
  · rw [Entry.get?_payload_board, Entry.get?_payload_exchange, Option.isSome_map,
      Option.isSome_map, ← Entry.isSome_board?_iff]
    exact List.tfae_of_forall ((Entry.ofText hint s).board?.isSome = true) _ (by simp)
  · intro code accepted zeros
    have board : Board.classify code.toList = some .shenzhenMain :=
      Board.classify_eq_some_iff.2 ⟨"00", by decide, zeros⟩
    exact ⟨board, (unlisted_of_accepted l accepted (by decide)).board⟩

theorem shenzhen_code_and_one_that_begins_like_it :
    (∃ object line, (Response.ofCodes .english none ["000001-", "1"]).results[0]? = some object ∧
        (Response.ofCodes .english none ["000001-", "1"]).lines[0]? = some line ∧
        ∃ b, Listed .english b "000001" object line) ∧
      ∃ object line, (Response.ofCodes .english none ["000001-", "1"]).results[1]? = some object ∧
        (Response.ofCodes .english none ["000001-", "1"]).lines[1]? = some line ∧
        Board.classify "00001".toList = some .shenzhenMain ∧ Unlisted "00001" object line := by
  have shenzhen : validate "000001-" none = .accepted .aShare "000001" := by decide +kernel
  have hongKong : validate "1" none = .accepted .hongKong "00001" := by decide +kernel
  obtain ⟨object, line, result, row, -, listed, -⟩ :=
    @boards_are_told_of_aShares_alone .english none ["000001-", "1"] 0 _ rfl
  obtain ⟨object', line', result', row', -, -, unlisted, zeros⟩ :=
    @boards_are_told_of_aShares_alone .english none ["000001-", "1"] 1 _ rfl
  exact ⟨⟨object, line, result, row, listed _ shenzhen⟩, object', line', result', row',
    (zeros _ hongKong (by decide)).1, unlisted _ _ hongKong (by decide)⟩

end CommandLine

end Ticker
