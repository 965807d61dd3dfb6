import Ticker.Market
import Ticker.Text

namespace Ticker

inductive Board where
  | shanghaiMain
  | shanghaiStar
  | shenzhenMain
  | chiNext
  | beijing
  deriving DecidableEq

namespace Board

def all : List Board := [.shanghaiMain, .shanghaiStar, .shenzhenMain, .chiNext, .beijing]

theorem mem_all (b : Board) : b ∈ all := by cases b <;> decide

def leads : Board → List String
  | .shanghaiMain => ["60"]
  | .shanghaiStar => ["68"]
  | .shenzhenMain => ["00"]
  | .chiNext => ["30"]
  | .beijing => ["43", "83", "87"]

def ofLead? (lead : String) : Option Board := all.find? (·.leads.contains lead)

/-- The board told by the first two characters, whatever text it is. -/
def classify (cs : List Char) : Option Board := ofLead? (String.ofList (cs.take 2))

def ofFirstBytes? (s : String) : Option Board := (Text.firstBytes? 2 s).bind ofLead?

def key : Board → String
  | .shanghaiMain => "shanghai_main"
  | .shanghaiStar => "shanghai_star"
  | .shenzhenMain => "shenzhen_main"
  | .chiNext => "chi_next"
  | .beijing => "beijing"

def ofKey? (s : String) : Option Board := all.find? (·.key == s)

def exchange : Board → String
  | .shanghaiMain | .shanghaiStar => "SSE"
  | .shenzhenMain | .chiNext => "SZSE"
  | .beijing => "BSE"

def name : Board → Language → String
  | .shanghaiMain, .chinese => "沪市主板"
  | .shanghaiMain, .english => "Shanghai Main Board"
  | .shanghaiStar, .chinese => "科创板"
  | .shanghaiStar, .english => "Shanghai STAR Market"
  | .shenzhenMain, .chinese => "深市主板"
  | .shenzhenMain, .english => "Shenzhen Main Board"
  | .chiNext, .chinese => "创业板"
  | .chiNext, .english => "ChiNext"
  | .beijing, .chinese => "北交所"
  | .beijing, .english => "Beijing Stock Exchange"

@[simp] theorem ofKey?_key (b : Board) : ofKey? b.key = some b := by
  cases b <;> decide

theorem ofLead?_eq_some_iff {lead : String} {b : Board} :
    ofLead? lead = some b ↔ lead ∈ b.leads := by
  constructor
  · intro h
    simpa using List.find?_some h
  · have found : ∀ b ∈ all, ∀ lead ∈ b.leads, ofLead? lead = some b := by decide
    exact found b (mem_all b) lead

theorem length_of_mem_leads {lead : String} {b : Board} (h : lead ∈ b.leads) :
    lead.toList.length = 2 := by
  have two : ∀ b ∈ all, ∀ lead ∈ b.leads, lead.toList.length = 2 := by decide
  exact two b (mem_all b) lead h

theorem classify_eq_some_iff {cs : List Char} {b : Board} :
    classify cs = some b ↔ ∃ lead ∈ b.leads, lead.toList <+: cs := by
  rw [classify, ofLead?_eq_some_iff]
  constructor
  · intro h
    exact ⟨_, h, by simpa using List.take_prefix 2 cs⟩
  · rintro ⟨lead, h, begins⟩
    rw [List.prefix_iff_eq_take, length_of_mem_leads h] at begins
    rwa [← begins, String.ofList_toList]

end Board

end Ticker
