import Ticker.Rejection
import Ticker.Text
import Ticker.Unicode.Uppercase

namespace Ticker.UnitedStates

open Text

def isWord (low high : Nat) (cs : List Char) : Bool :=
  low ≤ cs.length && cs.length ≤ high && cs.all Char.isUpper

/-- The first period of a ticker, if any, ends its root. -/
def isTicker (cs : List Char) : Bool :=
  match cs.dropWhile (· != '.') with
  | [] => isWord 1 5 cs
  | _ :: shareClass => isWord 1 5 (cs.takeWhile (· != '.')) && isWord 1 1 shareClass

def isMark (c : Char) : Bool := c.isUpper || c == '.'

def marks (cs : List Char) : List Char := (Unicode.upper cs).filter isMark

/-- One to five capitals, and for a share class a period and one capital more. -/
inductive IsCanonical : List Char → Prop
  | plain {root : List Char} :
    root ≠ [] → root.length ≤ 5 → (∀ c ∈ root, c.isUpper) → IsCanonical root
  | classed {root : List Char} {c : Char} :
    root ≠ [] → root.length ≤ 5 → (∀ c ∈ root, c.isUpper) → c.isUpper →
      IsCanonical (root ++ ['.', c])

/-- A ticker of periods alone would be refused as empty. `isTicker` lets none through. -/
def canonical (cs : List Char) : Except Rejection (List Char) :=
  let ticker := marks (trim cs)
  if !isTicker ticker then .error (.invalidFormat .unitedStates)
  else if ticker.all (· == '.') then .error .emptyTicker
  else .ok ticker

end Ticker.UnitedStates
