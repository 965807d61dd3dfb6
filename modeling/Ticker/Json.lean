namespace Ticker

inductive Json where
  | null
  | bool (b : Bool)
  | number (n : Nat)
  | text (s : String)
  | list (items : List Json)
  | object (fields : List (String × Json))

namespace Json

def texts (ss : List String) : Json := .list (ss.map .text)

def orNull : Option Json → Json
  | some j => j
  | none => .null

def insertField (f : String × Json) : List (String × Json) → List (String × Json)
  | [] => [f]
  | g :: rest => if f.1 ≤ g.1 then f :: g :: rest else g :: insertField f rest

/-- An object lists its fields in ascending order of their keys, in whatever order they are
given here. -/
def record (fields : List (String × Json)) : Json := .object (fields.foldr insertField [])

def field? (key : String) : Option Json → List (String × Json)
  | some j => [(key, j)]
  | none => []

end Json

end Ticker
