import Ticker.CommandLine.Outcome

/-! The program: the only place that reads the environment and writes. -/

namespace Ticker.CommandLine

def synopsis : String :=
  "usage: validate CODE.. | format CODE --market MARKET | describe MARKET | markets"

def Page.text : Page → String
  | .help _ => synopsis
  | .version => "0.1.0"

end Ticker.CommandLine

open Ticker.CommandLine in
def main (args : List String) : IO UInt32 := do
  let setting ← IO.getEnv "STOCKCODE_LANG"
  let outcome := Outcome.ofArguments args setting
  if outcome = .usage then IO.eprintln synopsis
  try
    if let some page := outcome.page then IO.println page.text
    IO.print outcome.standardOutput
    return outcome.exitCode.toUInt32
  catch failure =>
    IO.eprintln failure
    return 10
