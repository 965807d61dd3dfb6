/-!
The items of a command line, each an option or an operand. An argument that starts with a hyphen
is an option, except for the hyphen alone; what follows a bare `--` is taken literally.
-/

namespace Ticker.CommandLine

inductive Switch where
  | pretty
  | verbose
  deriving DecidableEq

inductive Setting where
  | output
  | language
  | market
  deriving DecidableEq

inductive Shape where
  | operand
  | escape
  | switch (s : Switch)
  | setting (s : Setting) (attached : Option String)
  | help
  | version
  | unknown
  deriving DecidableEq

namespace Shape

/-- The text of an option after its two hyphens. A value may be attached by the first `=`. -/
def ofLong (cs : List Char) : Shape :=
  let attached := (cs.dropWhile (· != '=')).tail?.map String.ofList
  match String.ofList (cs.takeWhile (· != '=')) with
  | "format" => .setting .output attached
  | "lang" => .setting .language attached
  | "market" => .setting .market attached
  | "pretty" => if attached.isSome then .unknown else .switch .pretty
  | "verbose" => if attached.isSome then .unknown else .switch .verbose
  | "help" => if attached.isSome then .unknown else .help
  | "version" => if attached.isSome then .unknown else .version
  | _ => .unknown

def ofArgument (arg : String) : Shape :=
  match arg.toList with
  | ['-'] => .operand
  | ['-', '-'] => .escape
  | '-' :: '-' :: cs => ofLong cs
  | ['-', 'v'] => .switch .verbose
  -- A letter that asks for a page may share its hyphen with the switch, and hides what follows it.
  | '-' :: 'h' :: _ | '-' :: 'v' :: 'h' :: _ => .help
  | '-' :: 'V' :: _ | '-' :: 'v' :: 'V' :: _ => .version
  | '-' :: _ => .unknown
  | _ => .operand

end Shape

inductive Item where
  | switch (s : Switch)
  | setting (s : Setting) (value : String)
  | operand (text : String)
  /-- An argument after `--`, which cannot name a command. -/
  | literal (text : String)
  deriving DecidableEq

namespace Item

/-- No items where an option is unknown, lacks its value or asks for a page. A value that is an
argument of its own must not look like an option. -/
def ofArguments? : List String → Option (List Item)
  | [] => some []
  | arg :: args =>
    match Shape.ofArgument arg with
    | .operand => (ofArguments? args).map (.operand arg :: ·)
    | .escape => some (args.map .literal)
    | .switch s => (ofArguments? args).map (.switch s :: ·)
    | .setting s (some value) => (ofArguments? args).map (.setting s value :: ·)
    | .setting s none =>
      match args with
      | [] => none
      | value :: args =>
        if Shape.ofArgument value = .operand then
          (ofArguments? args).map (.setting s value :: ·)
        else none
    | .help | .version | .unknown => none

def isOption : Item → Bool
  | .switch _ | .setting .. => true
  | .operand _ | .literal _ => false

end Item

end Ticker.CommandLine
