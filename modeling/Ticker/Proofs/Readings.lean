import Ticker.CommandLine.Outcome
import Ticker.Proofs.Payloads

namespace Ticker

inductive Reading where
  | accepted (market code : String)
  | rejected (message : String)
  deriving DecidableEq

namespace Reading

def ofVerdict (l : Language) : Verdict → Reading
  | .accepted m code => .accepted m.code code
  | .rejected cause => .rejected (cause.message l)

/-- Nothing where fields are missing or there are too many. -/
def ofJson (j : Json) : Option Reading :=
  match j.get? "valid", j.get? "market", j.get? "normalizedCode", j.get? "message" with
  | some (.bool true), some (.text market), some (.text code), none => some (.accepted market code)
  | some (.bool false), none, none, some (.text message) => some (.rejected message)
  | _, _, _, _ => none

end Reading

namespace Json

def isInvalid (j : Json) : Bool :=
  match j.get? "valid" with
  | some (.bool valid) => !valid
  | _ => false

def items (key : String) (j : Json) : List Json :=
  match j.get? key with
  | some (.list items) => items
  | _ => []

end Json

namespace CommandLine

namespace Entry

variable (l : Language) (e : Entry)

theorem get?_payload_input : (e.payload l).get? "input" = some (.text e.input) := by
  rw [payload, Json.get?_record, fields, List.append_assoc, List.append_assoc,
    List.singleton_append, Json.lookup_cons_eq_ite, if_pos rfl]

theorem get?_payload_of_verdict (key : String) (h : key ∉ ["input", "board", "exchange"]) :
    (e.payload l).get? key = (e.verdict.fields l).lookup key := by
  rw [payload, Json.get?_record, lookup_fields_of_verdict h]

theorem ofJson_payload : Reading.ofJson (e.payload l) = some (.ofVerdict l e.verdict) := by
  have valid := e.get?_payload_of_verdict l "valid" (by decide)
  have market := e.get?_payload_of_verdict l "market" (by decide)
  have code := e.get?_payload_of_verdict l "normalizedCode" (by decide)
  have message := e.get?_payload_of_verdict l "message" (by decide)
  rw [Reading.ofJson, valid, market, code, message]
  cases e.verdict with
  | accepted m code => simp [Verdict.fields_accepted, Json.lookup_cons_eq_ite, Reading.ofVerdict]
  | rejected cause => simp [Verdict.fields_rejected, Json.lookup_cons_eq_ite, Reading.ofVerdict]

theorem isInvalid_payload : (e.payload l).isInvalid = !e.verdict.isAccepted := by
  rw [Json.isInvalid, get?_payload_of_verdict l e "valid" (by decide)]
  rfl

end Entry

namespace Response

def ofCodes (l : Language) (hint : Option Market) (codes : List String) : Response :=
  (Command.validate codes hint).respond l

def results (r : Response) : List Json := r.payload.items "results"

variable (l : Language) (hint : Option Market) (codes : List String)

theorem lines_ofCodes : (ofCodes l hint codes).lines = (batch hint codes).map (·.line l) := rfl

theorem rejected_ofCodes : (ofCodes l hint codes).rejected = rejectedCount (batch hint codes) := rfl

theorem results_ofCodes :
    (ofCodes l hint codes).results = (batch hint codes).map (·.payload l) := by
  simp [results, Json.items, ofCodes, Command.respond, ofBatch, Json.get?_record,
    Json.lookup_cons_eq_ite]

theorem get?_rejected_ofCodes :
    (ofCodes l hint codes).payload.get? "rejected" =
      some (.number (ofCodes l hint codes).rejected) := by
  simp [ofCodes, Command.respond, ofBatch, Json.get?_record, Json.lookup_cons_eq_ite]

theorem readings_ofCodes :
    (ofCodes l hint codes).results.map Reading.ofJson =
      codes.map fun s => some (.ofVerdict l (validate s hint)) := by
  rw [results_ofCodes, List.map_map, batch, List.map_map]
  refine List.map_congr_left fun s _ => ?_
  rw [Function.comp_apply, Function.comp_apply, Entry.ofJson_payload, Entry.ofText]

theorem countP_isInvalid_ofCodes :
    (ofCodes l hint codes).results.countP Json.isInvalid = (ofCodes l hint codes).rejected := by
  rw [results_ofCodes, List.countP_map, rejected_ofCodes, rejectedCount]
  exact List.countP_congr fun e _ => by rw [Function.comp_apply, Entry.isInvalid_payload]

end Response

end CommandLine

end Ticker
