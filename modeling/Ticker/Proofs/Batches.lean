import Ticker.Proofs.Readings

namespace Ticker.CommandLine

theorem Command.rejected_respond (c : Command) (l l' : Language) :
    (c.respond l).rejected = (c.respond l').rejected := by
  cases c with
  | validate codes hint => rfl
  | format code m => rfl
  | describe m => rfl
  | markets => rfl

theorem exitCode_ofArguments {args : List String} {r : Request}
    (h : Request.ofArguments? args = some r) (setting : Option String) (l : Language) :
    (Outcome.ofArguments args setting).exitCode = (r.command.respond l).exitCode := by
  rw [Outcome.ofArguments_of_some h, Outcome.ofResponse, Request.respond, Response.exitCode,
    Response.exitCode, r.command.rejected_respond _ l]

namespace Response

theorem exitCode_eq (r : Response) : r.exitCode = if 0 < r.rejected then 3 else 0 := by
  rw [exitCode]
  split_ifs <;> first | rfl | omega

section Parts

variable (l : Language) (hint : Option Market) (xs ys : List String)

theorem results_append :
    (ofCodes l hint (xs ++ ys)).results =
      (ofCodes l hint xs).results ++ (ofCodes l hint ys).results := by
  simp only [results_ofCodes, batch_append, List.map_append]

theorem lines_append :
    (ofCodes l hint (xs ++ ys)).lines =
      (ofCodes l hint xs).lines ++ (ofCodes l hint ys).lines := by
  simp only [lines_ofCodes, batch_append, List.map_append]

theorem rejected_append :
    (ofCodes l hint (xs ++ ys)).rejected =
      (ofCodes l hint xs).rejected + (ofCodes l hint ys).rejected := by
  simp only [rejected_ofCodes, batch_append, rejectedCount_append]

theorem forall₂_results :
    List.Forall₂ (fun s j => j.get? "input" = some (.text s) ∧
      Reading.ofJson j = some (.ofVerdict l (validate s hint))) xs (ofCodes l hint xs).results := by
  rw [results_ofCodes, batch, List.map_map, List.forall₂_map_right_iff, List.forall₂_same]
  intro s _
  exact ⟨Entry.get?_payload_input l (.ofText hint s), Entry.ofJson_payload l (.ofText hint s)⟩

end Parts

end Response

open Response in
/-- Results, lines and counts of a batch are those of its parts. The results echo their codes and
carry the verdicts on them, and three counts of the rejected agree. A run exits with 3 if that
count is positive and with 0 otherwise, and other commands always exit with 0. -/
theorem batch_is_sum_of_parts (l : Language) (hint : Option Market) (xs ys : List String) :
    ((ofCodes l hint (xs ++ ys)).results =
          (ofCodes l hint xs).results ++ (ofCodes l hint ys).results ∧
        (ofCodes l hint (xs ++ ys)).lines =
          (ofCodes l hint xs).lines ++ (ofCodes l hint ys).lines ∧
        (ofCodes l hint (xs ++ ys)).rejected =
          (ofCodes l hint xs).rejected + (ofCodes l hint ys).rejected) ∧
      List.Forall₂ (fun s j => j.get? "input" = some (.text s) ∧
        Reading.ofJson j = some (.ofVerdict l (validate s hint))) xs (ofCodes l hint xs).results ∧
      ((ofCodes l hint xs).payload.get? "rejected" =
          some (.number ((ofCodes l hint xs).results.countP Json.isInvalid)) ∧
        (ofCodes l hint xs).rejected = (ofCodes l hint xs).results.countP Json.isInvalid) ∧
      (∀ args setting r, Request.ofArguments? args = some r → r.command = .validate xs hint →
        (Outcome.ofArguments args setting).exitCode =
          if 0 < (ofCodes l hint xs).results.countP Json.isInvalid then 3 else 0) ∧
      ∀ args setting r, Request.ofArguments? args = some r →
        (∀ codes hint, r.command ≠ .validate codes hint) →
        (Outcome.ofArguments args setting).exitCode = 0 := by
  refine ⟨⟨results_append .., lines_append .., rejected_append ..⟩, forall₂_results ..,
    ⟨?_, ?_⟩, ?_, ?_⟩
  · rw [get?_rejected_ofCodes, countP_isInvalid_ofCodes]
  · rw [countP_isInvalid_ofCodes]
  · intro args setting r h command
    rw [exitCode_ofArguments h setting l, command, exitCode_eq, countP_isInvalid_ofCodes, ofCodes]
  · intro args setting r h other
    rw [exitCode_ofArguments h setting l]
    cases command : r.command with
    | validate codes hint => exact absurd command (other codes hint)
    | format | describe | markets => rfl

theorem exit_codes_of_batch_and_of_format :
    (Outcome.ofArguments ["validate", "700", "12345678", "--format", "table"] none).exitCode = 3 ∧
      (Outcome.ofArguments ["format", "12345678", "--market", "hk"] none).exitCode = 0 := by
  have batch : Request.ofArguments? ["validate", "700", "12345678", "--format", "table"] =
      some { command := .validate ["700", "12345678"] none, output := .table } := by
    decide +kernel
  have single : Request.ofArguments? ["format", "12345678", "--market", "hk"] =
      some { command := .format "12345678" .hongKong } := by
    decide +kernel
  obtain ⟨-, -, ⟨-, count⟩, validated, other⟩ :=
    batch_is_sum_of_parts .english none ["700", "12345678"] []
  refine ⟨?_, other _ none _ single (by simp)⟩
  have rejected : (Response.ofCodes .english none ["700", "12345678"]).rejected = 1 := by
    decide +kernel
  rw [validated _ none _ batch rfl, ← count, rejected]
  rfl

end Ticker.CommandLine
