import Ticker.Market

namespace Ticker.CommandLine

inductive OutputFormat where
  | json
  | table
  deriving DecidableEq

def OutputFormat.ofName? : String → Option OutputFormat
  | "json" => some .json
  | "table" => some .table
  | _ => none

inductive Command where
  | validate (codes : List String) (hint : Option Market)
  | format (code : String) (market : Market)
  | describe (market : Market)
  | markets
  deriving DecidableEq

structure Request where
  command : Command
  output : OutputFormat := .json
  pretty : Bool := false
  language : Option Language := none
  verbose : Bool := false
  deriving DecidableEq

end Ticker.CommandLine
