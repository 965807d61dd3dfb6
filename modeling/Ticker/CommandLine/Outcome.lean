import Ticker.CommandLine.Page
import Ticker.CommandLine.Response
import Ticker.Json.Printer

/-!
One run of the program, as a function of its arguments and of the language setting in its
environment. Payloads can always be written as JSON, so the exit code 4 for one that cannot is left
out; 10, for output that cannot be written, is left to the program itself.
-/

namespace Ticker.CommandLine

namespace Request

def effectiveLanguage (r : Request) (setting : Option String) : Language :=
  r.language.getD (.ofSetting setting)

def respond (r : Request) (setting : Option String) : Response :=
  r.command.respond (r.effectiveLanguage setting)

end Request

namespace Response

def render (output : OutputFormat) (pretty : Bool) (r : Response) : String :=
  match output with
  | .json => (if pretty then r.payload.pretty else r.payload.compact) ++ "\n"
  | .table => String.join (r.lines.map (· ++ "\n"))

def exitCode (r : Response) : Nat := if r.rejected = 0 then 0 else 3

end Response

structure Outcome where
  exitCode : Nat
  standardOutput : String
  /-- A page that is shown, its text being no part of the output above. -/
  page : Option Page := none
  deriving DecidableEq

namespace Outcome

def usage : Outcome := { exitCode := 2, standardOutput := "" }

def ofPage (page : Page) : Outcome := { exitCode := 0, standardOutput := "", page }

def ofResponse (r : Request) (response : Response) : Outcome where
  exitCode := response.exitCode
  standardOutput := response.render r.output r.pretty

def ofArguments (args : List String) (setting : Option String) : Outcome :=
  match Request.ofArguments? args with
  | none => (Page.ofArguments? args).elim usage ofPage
  | some r => ofResponse r (r.respond setting)

theorem ofArguments_of_none {args : List String} (h : Request.ofArguments? args = none)
    (setting : Option String) :
    ofArguments args setting = (Page.ofArguments? args).elim usage ofPage := by
  rw [ofArguments, h]

theorem ofArguments_of_some {args : List String} {r : Request}
    (h : Request.ofArguments? args = some r) (setting : Option String) :
    ofArguments args setting = ofResponse r (r.respond setting) := by
  rw [ofArguments, h]

end Outcome

end Ticker.CommandLine
