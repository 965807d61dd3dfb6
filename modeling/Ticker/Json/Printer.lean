import Ticker.Json

namespace Ticker.Json

def escape (c : Char) : String :=
  if c = '"' then "\\\""
  else if c = '\\' then "\\\\"
  else if c = '\x08' then "\\b"
  else if c = '\t' then "\\t"
  else if c = '\n' then "\\n"
  else if c = '\x0c' then "\\f"
  else if c = '\r' then "\\r"
  else if c.toNat < 0x20 then
    "\\u00" ++ String.ofList [Nat.digitChar (c.toNat / 16), Nat.digitChar (c.toNat % 16)]
  else String.singleton c

def quote (s : String) : String := "\"" ++ String.join (s.toList.map escape) ++ "\""

structure Layout where
  lineBreak : Nat → String
  colon : String

def Layout.compact : Layout := ⟨fun _ => "", ":"⟩

def Layout.pretty : Layout :=
  ⟨fun depth => "\n" ++ String.ofList (List.replicate (2 * depth) ' '), ": "⟩

def Layout.enclose (l : Layout) (depth : Nat) (opening closing : String) :
    List String → String
  | [] => opening ++ closing
  | item :: items =>
    opening ++ l.lineBreak (depth + 1) ++ item ++
      String.join (items.map ("," ++ l.lineBreak (depth + 1) ++ ·)) ++
      l.lineBreak depth ++ closing

mutual

def print (l : Layout) (depth : Nat) : Json → String
  | .null => "null"
  | .bool true => "true"
  | .bool false => "false"
  | .number n => toString n
  | .text s => quote s
  | .list items => l.enclose depth "[" "]" (printItems l (depth + 1) items)
  | .object fields => l.enclose depth "\x7b" "\x7d" (printFields l (depth + 1) fields)

def printItems (l : Layout) (depth : Nat) : List Json → List String
  | [] => []
  | item :: items => print l depth item :: printItems l depth items

def printFields (l : Layout) (depth : Nat) : List (String × Json) → List String
  | [] => []
  | (key, value) :: fields =>
    (quote key ++ l.colon ++ print l depth value) :: printFields l depth fields

end

def compact (j : Json) : String := print .compact 0 j

def pretty (j : Json) : String := print .pretty 0 j

end Ticker.Json
