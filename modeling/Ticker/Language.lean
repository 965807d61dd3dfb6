namespace Ticker

inductive Language where
  | chinese
  | english
  deriving DecidableEq

namespace Language

instance : Inhabited Language := ⟨.chinese⟩

def all : List Language := [.chinese, .english]

theorem mem_all (l : Language) : l ∈ all := by cases l <;> decide

def tag : Language → String
  | .chinese => "zh"
  | .english => "en"

def ofTag? (s : String) : Option Language := all.find? (·.tag == s)

@[simp] theorem ofTag?_tag (l : Language) : ofTag? l.tag = some l := by
  cases l <;> decide

end Language

end Ticker
