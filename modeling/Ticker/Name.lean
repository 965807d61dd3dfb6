import Ticker.Rejection
import Ticker.Text

/-!
Names of markets and languages as people write them. Outer white space, ASCII case and the
choice between hyphen and underscore do not matter; a failure reports the normal form.
-/

namespace Ticker

namespace Name

def fold (c : Char) : Char := if c = '_' then '-' else c.toLower

def normal (s : String) : String := String.ofList ((Text.trim s.toList).map fold)

end Name

namespace Market

def aliases : Market → List String
  | .aShare => ["cn", "a", "a-share", "ashare", "china"]
  | .unitedStates => ["us", "usa"]
  | .hongKong => ["hk", "hongkong", "hong-kong"]
  | .malaysia => ["my", "malaysia", "kl"]

def ofName (s : String) : Except Rejection Market :=
  match all.find? (·.aliases.contains (Name.normal s)) with
  | some m => .ok m
  | none => .error (.unknownMarket (Name.normal s))

end Market

namespace Language

def aliases : Language → List String
  | .chinese => ["zh", "zh-cn", "zh-hans", "cn", "chinese"]
  | .english => ["en", "en-us", "en-gb", "english"]

def ofName (s : String) : Except Rejection Language :=
  match all.find? (·.aliases.contains (Name.normal s)) with
  | some l => .ok l
  | none => .error (.unknownLanguage (Name.normal s))

/-- The language that a setting asks for. An absent setting, and one that names no language,
leave the default in place. -/
def ofSetting : Option String → Language
  | none => default
  | some s => (ofName s).toOption.getD default

end Language

end Ticker
