import Ticker.CommandLine.Response
import Ticker.Proofs.MessageLaws

namespace Ticker

namespace Json

def get? (key : String) : Json → Option Json
  | .object fields => fields.lookup key
  | _ => none

theorem lookup_cons_eq_ite (key : String) (f : String × Json) (fields : List (String × Json)) :
    (f :: fields).lookup key = if key = f.1 then some f.2 else fields.lookup key := by
  rw [List.lookup_cons]
  split_ifs with h
  · rw [beq_iff_eq.2 h]
  · rw [beq_eq_false_iff_ne.2 h]

theorem lookup_insertField (key : String) (f : String × Json) (fields : List (String × Json)) :
    (insertField f fields).lookup key = (f :: fields).lookup key := by
  induction fields with
  | nil => rfl
  | cons g fields ih =>
    rw [insertField]
    split_ifs with order
    · rfl
    · have apart : f.1 ≠ g.1 := fun same => order (same ▸ le_refl f.1)
      simp only [lookup_cons_eq_ite, ih]
      split_ifs with hg hf
      · exact absurd (hf.symm.trans hg) apart
      · rfl
      · rfl
      · rfl

theorem get?_record (key : String) (fields : List (String × Json)) :
    (record fields).get? key = fields.lookup key := by
  rw [record, get?]
  induction fields with
  | nil => rfl
  | cons f fields ih =>
    rw [List.foldr_cons, lookup_insertField, lookup_cons_eq_ite, ih, lookup_cons_eq_ite]

theorem lookup_of_record_eq {fields fields' : List (String × Json)}
    (h : record fields = record fields') (key : String) :
    fields.lookup key = fields'.lookup key := by
  rw [← get?_record, h, get?_record]

theorem lookup_field?_of_ne {key name : String} (h : key ≠ name) (value : Option Json) :
    (field? name value).lookup key = none := by
  cases value with
  | none => rfl
  | some j => rw [field?, lookup_cons_eq_ite, if_neg h, List.lookup_nil]

end Json

theorem Market.code_injective : Function.Injective Market.code := fun m k h => by
  simpa using congrArg Market.ofCode? h

open Json

namespace Verdict

theorem fields_accepted (l : Language) (m : Market) (code : String) :
    (accepted m code).fields l =
      [("valid", .bool true), ("market", .text m.code), ("normalizedCode", .text code)] := rfl

theorem fields_rejected (l : Language) (cause : Rejection) :
    (rejected cause).fields l = [("valid", .bool false), ("message", .text (cause.message l))] := rfl

theorem fields_inj {v v' : Verdict} {l l' : Language}
    (h : ∀ key ∈ ["valid", "market", "normalizedCode", "message"],
      (v.fields l).lookup key = (v'.fields l').lookup key) :
    v = v' ∧ (v.isAccepted = false → l = l') := by
  have valid := h "valid" (by simp)
  cases v with
  | accepted m code =>
    cases v' with
    | accepted m' code' =>
      have market : m.code = m'.code := by
        simpa [fields_accepted, lookup_cons_eq_ite] using h "market" (by simp)
      have normalized : code = code' := by
        simpa [fields_accepted, lookup_cons_eq_ite] using h "normalizedCode" (by simp)
      rw [Market.code_injective market, normalized]
      exact ⟨rfl, nofun⟩
    | rejected cause' => simp [fields_accepted, fields_rejected] at valid
  | rejected cause =>
    cases v' with
    | accepted m' code' => simp [fields_accepted, fields_rejected] at valid
    | rejected cause' =>
      have message : cause.message l = cause'.message l' := by
        simpa [fields_rejected, lookup_cons_eq_ite] using h "message" (by simp)
      obtain ⟨rfl, rfl⟩ := Rejection.message_inj message
      exact ⟨rfl, fun _ => rfl⟩

end Verdict

namespace CommandLine

namespace Entry

theorem lookup_fields_of_verdict {key : String} (h : key ∉ ["input", "board", "exchange"])
    (l : Language) (e : Entry) : (e.fields l).lookup key = (e.verdict.fields l).lookup key := by
  simp only [List.mem_cons, List.not_mem_nil, or_false, not_or] at h
  simp [fields, List.lookup_append, lookup_cons_eq_ite, lookup_field?_of_ne, h]

theorem payload_inj {e e' : Entry} {l l' : Language} (h : e.payload l = e'.payload l') :
    e = e' ∧ (e.verdict.isAccepted = false → l = l') := by
  have same := lookup_of_record_eq h
  have input : e.input = e'.input := by simpa [fields] using same "input"
  have others : ∀ key ∈ ["valid", "market", "normalizedCode", "message"],
      key ∉ ["input", "board", "exchange"] := by decide
  have key : e.verdict = e'.verdict ∧ (e.verdict.isAccepted = false → l = l') := by
    apply Verdict.fields_inj
    intro key hkey
    rw [← lookup_fields_of_verdict (others key hkey), same,
      lookup_fields_of_verdict (others key hkey)]
  exact ⟨congrArg₂ Entry.mk input key.1, key.2⟩

theorem payloads_inj {es es' : List Entry} {l l' : Language}
    (h : es.map (·.payload l) = es'.map (·.payload l')) :
    es = es' ∧ ((∃ e ∈ es, e.verdict.isAccepted = false) → l = l') := by
  induction es generalizing es' with
  | nil =>
    obtain rfl : es' = [] := List.map_eq_nil_iff.1 h.symm
    exact ⟨rfl, by simp⟩
  | cons e es ih =>
    cases es' with
    | nil => simp at h
    | cons e' es' =>
      obtain ⟨head, tail⟩ := List.cons.inj h
      obtain ⟨rfl, here⟩ := payload_inj head
      obtain ⟨rfl, there⟩ := ih tail
      refine ⟨rfl, ?_⟩
      rintro ⟨e₀, among, rejected⟩
      cases among with
      | head => exact here rejected
      | tail _ among => exact there ⟨e₀, among, rejected⟩

end Entry

theorem orNull_code_inj {hint hint' : Option Market}
    (h : orNull (hint.map (.text ·.code)) = orNull (hint'.map (.text ·.code))) : hint = hint' := by
  cases hint with
  | none =>
    cases hint' with
    | none => rfl
    | some k => nomatch h
  | some m =>
    cases hint' with
    | none => nomatch h
    | some k => rw [Market.code_injective (Json.text.inj h)]

theorem ofBatch_payload_inj {l l' : Language} {hint hint' : Option Market} {es es' : List Entry}
    (h : (Response.ofBatch l hint es).payload = (Response.ofBatch l' hint' es').payload) :
    hint = hint' ∧ es = es' ∧ ((∃ e ∈ es, e.verdict.isAccepted = false) → l = l') := by
  have same := lookup_of_record_eq h
  refine ⟨?_, Entry.payloads_inj ?_⟩
  · exact orNull_code_inj (by simpa using same "hint")
  · simpa [lookup_cons_eq_ite] using same "results"

@[simp] theorem map_input_batch (hint : Option Market) (codes : List String) :
    (batch hint codes).map Entry.input = codes := by
  simp [batch, Entry.ofText, Function.comp_def]

/-- Two runs with the same payload had the same hint and the same codes, and gave the same verdicts
with the same messages, causes included. They were in one language unless all was accepted. -/
theorem payload_loses_nothing {l l' : Language} {hint hint' : Option Market}
    {codes codes' : List String}
    (h : (Command.respond l (.validate codes hint)).payload =
      (Command.respond l' (.validate codes' hint')).payload) :
    hint = hint' ∧ codes = codes' ∧ batch hint codes = batch hint' codes' ∧
      (∀ e ∈ batch hint codes, e.verdict.message? l = e.verdict.message? l') ∧
      ((∃ e ∈ batch hint codes, e.verdict.isAccepted = false) → l = l') := by
  obtain ⟨hints, entries, language⟩ := ofBatch_payload_inj h
  refine ⟨hints, ?_, entries, ?_, language⟩
  · rw [← map_input_batch hint codes, entries, map_input_batch]
  · intro e he
    cases verdict : e.verdict with
    | accepted => rfl
    | rejected cause => rw [language ⟨e, he, by rw [verdict]; rfl⟩]

theorem rejected_code_shows_language :
    ((Command.respond .chinese (.validate ["700", "600519"] none)).payload =
        (Command.respond .english (.validate ["700", "600519"] none)).payload ∧
      ∀ e ∈ batch none ["700", "600519"],
        e.verdict.message? .chinese = e.verdict.message? .english) ∧
    (Command.respond .chinese (.validate ["700", "12345678", "600519"] none)).payload ≠
      (Command.respond .english (.validate ["700", "12345678", "600519"] none)).payload := by
  have hongKong : validate "700" none = .accepted .hongKong "00700" := by decide +kernel
  have aShare : validate "600519" none = .accepted .aShare "600519" := by decide +kernel
  have long : validate "12345678" none = .rejected (.invalidLength 8) := by decide +kernel
  constructor
  · have same : (Command.respond .chinese (.validate ["700", "600519"] none)).payload =
        (Command.respond .english (.validate ["700", "600519"] none)).payload := by
      simp [Command.respond, Response.ofBatch, batch, Entry.ofText, Entry.payload, Entry.fields,
        hongKong, aShare, Verdict.fields_accepted, Entry.board?]
    exact ⟨same, (payload_loses_nothing same).2.2.2.1⟩
  · intro same
    obtain ⟨-, -, -, -, language⟩ := payload_loses_nothing same
    nomatch language ⟨.ofText none "12345678", by simp [batch], by rw [Entry.ofText, long]; rfl⟩

end CommandLine

end Ticker
