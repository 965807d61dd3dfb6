import Ticker.Code
import Ticker.Unicode.Alphabetic

/-!
The market that a text points to when none is given. Four digits with the Malaysian suffix come
first; then a text without letters goes by its number of digits, and one with an ASCII letter to
the United States. Four bare digits are therefore a Hong Kong code.
-/

namespace Ticker

open Text Unicode

def detectTrimmed (cs : List Char) : Except Rejection Market :=
  if cs.isEmpty then .error .emptyInput
  else if Malaysia.isSuffixed cs then .ok .malaysia
  else if !cs.any isAlphabetic then
    if (digits cs).length = 6 then .ok .aShare
    else if 1 ≤ (digits cs).length ∧ (digits cs).length ≤ 5 then .ok .hongKong
    else .error (.invalidLength (digits cs).length)
  else if cs.any Char.isAlpha then .ok .unitedStates
  else .error .unrecognizedFormat

def detectChars (cs : List Char) : Except Rejection Market := detectTrimmed (trim cs)

def detect (s : String) : Except Rejection Market := detectChars s.toList

end Ticker
