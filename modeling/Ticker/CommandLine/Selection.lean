import Ticker.CommandLine.Item
import Ticker.CommandLine.Request
import Ticker.Name

/-!
Reading a whole command line. Options may stand before and after the name of the command. On
either side an option may be given once; given on both, it counts as given after the name.
-/

namespace Ticker.CommandLine

structure Selection where
  output : Option OutputFormat := none
  language : Option Language := none
  market : Option Market := none
  pretty : Bool := false
  verbose : Bool := false
  operands : List String := []

namespace Selection

/-- Nothing where the option is there already or its value does not parse. -/
def add? (s : Selection) : Item → Option Selection
  | .switch .pretty => if s.pretty then none else some { s with pretty := true }
  | .switch .verbose => if s.verbose then none else some { s with verbose := true }
  | .setting .output value =>
    if s.output.isSome then none
    else (OutputFormat.ofName? value).map fun f => { s with output := some f }
  | .setting .language value =>
    if s.language.isSome then none
    else (Language.ofName value).toOption.map fun l => { s with language := some l }
  | .setting .market value =>
    if s.market.isSome then none
    else (Market.ofName value).toOption.map fun m => { s with market := some m }
  | .operand text | .literal text => some { s with operands := s.operands ++ [text] }

def ofItems? (items : List Item) : Option Selection := items.foldlM add? {}

end Selection

def Command.of? : String → List String → Option Market → Option Command
  | "validate", code :: codes, hint => some (.validate (code :: codes) hint)
  | "format", [code], some m => some (.format code m)
  | "describe", [name], none => (Market.ofName name).toOption.map .describe
  | "markets", [], none => some .markets
  | _, _, _ => none

/-- Nothing for a command line that is used wrongly or asks for a page. The market belongs to the
command and cannot stand before its name. -/
def Request.ofArguments? (args : List String) : Option Request := do
  let items ← Item.ofArguments? args
  let outer ← Selection.ofItems? (items.takeWhile Item.isOption)
  guard outer.market.isNone
  match items.dropWhile Item.isOption with
  | .operand name :: rest =>
    let inner ← Selection.ofItems? rest
    let command ← Command.of? name inner.operands inner.market
    return {
      command
      output := (inner.output <|> outer.output).getD .json
      pretty := inner.pretty || outer.pretty
      language := inner.language <|> outer.language
      verbose := inner.verbose || outer.verbose }
  | _ => none

end Ticker.CommandLine
