import Ticker.Rejection
import Ticker.Text
import Ticker.Unicode.Uppercase

namespace Ticker.Malaysia

open Text

def suffix : List Char := ['.', 'K', 'L']

def isBare (cs : List Char) : Bool := cs.length == 4 && cs.all Char.isDigit

/-- Four digits and the suffix, in either ASCII case. -/
def isSuffixed (cs : List Char) : Bool :=
  isBare (cs.take 4) && (cs.drop 4).map Char.toUpper == suffix

def IsCanonical (cs : List Char) : Prop :=
  ∃ ds, ds.length = 4 ∧ (∀ d ∈ ds, d.isDigit) ∧ cs = ds ++ suffix

def canonical (cs : List Char) : Except Rejection (List Char) :=
  let word := Unicode.upper (trim cs)
  if isSuffixed word then .ok word
  else if isBare word then .ok (word ++ suffix)
  else .error (.invalidFormat .malaysia)

end Ticker.Malaysia
