import Ticker.Code.AShare
import Ticker.Code.HongKong
import Ticker.Code.Malaysia
import Ticker.Code.UnitedStates

namespace Ticker.Market

def IsCanonical : Market → List Char → Prop
  | .aShare => AShare.IsCanonical
  | .unitedStates => UnitedStates.IsCanonical
  | .hongKong => HongKong.IsCanonical
  | .malaysia => Malaysia.IsCanonical

def canonicalChars : Market → List Char → Except Rejection (List Char)
  | .aShare => AShare.canonical
  | .unitedStates => UnitedStates.canonical
  | .hongKong => HongKong.canonical
  | .malaysia => Malaysia.canonical

def canonical (m : Market) (s : String) : Except Rejection String :=
  (m.canonicalChars s.toList).map String.ofList

end Ticker.Market
