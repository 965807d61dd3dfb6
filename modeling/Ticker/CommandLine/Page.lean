import Ticker.CommandLine.Selection

/-!
Pages about the program, which are shown in place of an answer. What stands before the argument
that asks for a page has to be right as far as it goes, and what stands behind it is not looked at.
Pages are only named here: what they say is left to the program.
-/

namespace Ticker.CommandLine

inductive Topic where
  | validate
  | format
  | describe
  | markets
  | help
  deriving DecidableEq

def Topic.ofName? : String → Option Topic
  | "validate" => some .validate
  | "format" => some .format
  | "describe" => some .describe
  | "markets" => some .markets
  | "help" => some .help
  | _ => none

inductive Page where
  | help (topic : Option Topic)
  | version
  deriving DecidableEq

namespace Selection

/-- Nothing in the selection stands in the way of the command, though something may be missing. -/
def fits (s : Selection) : Topic → Bool
  | .validate => true
  | .format => s.operands.length ≤ 1
  | .describe => s.market.isNone && s.operands.length ≤ 1 &&
      s.operands.all fun name => (Market.ofName name).toOption.isSome
  | .markets => s.market.isNone && s.operands.isEmpty
  | .help => false

end Selection

namespace Page

def goesOn (arg : String) : Bool :=
  Shape.ofArgument arg ∉ [Shape.help, .version, .escape]

/-- The switch that an argument carries besides the letter that asks for a page. -/
def sharedSwitch (arg : String) : List String :=
  if ['-', 'v'] <+: arg.toList then ["-v"] else []

def ofArguments? (args : List String) : Option Page := do
  let front := args.takeWhile goesOn
  let stop := (args.dropWhile goesOn).head?
  let items ← Item.ofArguments? (front ++ stop.elim [] sharedSwitch)
  let outer ← Selection.ofItems? (items.takeWhile Item.isOption)
  guard outer.market.isNone
  match items.dropWhile Item.isOption, stop.map Shape.ofArgument with
  | [], some .help => some (.help none)
  | [], some .version => some .version
  -- What follows the command `help` is the name of a command, and no option.
  | [.operand "help"], none => some (.help none)
  | [.operand "help", .operand name], none => return .help (some (← Topic.ofName? name))
  | .operand name :: rest, some .help =>
    let topic ← Topic.ofName? name
    let inner ← Selection.ofItems? rest
    guard (inner.fits topic)
    return .help (some topic)
  | _, _ => none

end Page

end Ticker.CommandLine
