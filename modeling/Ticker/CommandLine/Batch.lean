import Ticker.Fields

namespace Ticker.CommandLine

structure Entry where
  input : String
  verdict : Verdict
  deriving DecidableEq

/-- A text in a table column: filled up with spaces to the width, and never cut. -/
def column (width : Nat) (s : String) : String := String.ofList (s.toList.rightpad width ' ')

namespace Entry

def ofText (hint : Option Market) (s : String) : Entry := ⟨s, validate s hint⟩

def board? (e : Entry) : Option Board :=
  match e.verdict with
  | .accepted .aShare code => Board.classify code.toList
  | _ => none

def fields (l : Language) (e : Entry) : List (String × Json) :=
  [("input", .text e.input)] ++ e.verdict.fields l ++
    Json.field? "board" (e.board?.map (.text ·.key)) ++
    Json.field? "exchange" (e.board?.map (.text ·.exchange))

def payload (l : Language) (e : Entry) : Json := .record (e.fields l)

def boardNote (l : Language) : Option Board → String
  | some b => "  " ++ b.exchange ++ " " ++ b.name l
  | none => ""

def line (l : Language) (e : Entry) : String :=
  match e.verdict with
  | .accepted m code =>
    column 12 e.input ++ " ok    " ++ column 3 m.code ++ " " ++ code ++ boardNote l e.board?
  | .rejected cause => column 12 e.input ++ " error     " ++ cause.message l

end Entry

def batch (hint : Option Market) (codes : List String) : List Entry :=
  codes.map (Entry.ofText hint)

def rejectedCount (entries : List Entry) : Nat :=
  entries.countP (!·.verdict.isAccepted)

@[simp] theorem batch_append (hint : Option Market) (xs ys : List String) :
    batch hint (xs ++ ys) = batch hint xs ++ batch hint ys :=
  List.map_append

@[simp] theorem length_batch (hint : Option Market) (codes : List String) :
    (batch hint codes).length = codes.length :=
  List.length_map ..

@[simp] theorem rejectedCount_append (xs ys : List Entry) :
    rejectedCount (xs ++ ys) = rejectedCount xs + rejectedCount ys :=
  List.countP_append

end Ticker.CommandLine
