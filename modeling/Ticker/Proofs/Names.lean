import Ticker.Guide
import Ticker.Proofs.TextLaws

namespace Ticker

open Text Unicode

namespace Name

theorem fold_eq_self {c : Char} (small : c.isUpper = false) (hyphenated : c ≠ '_') :
    fold c = c := by
  rw [fold, if_neg hyphenated, Char.toLower_eq_of_not_isUpper (Bool.eq_false_iff.1 small)]

theorem fold_cases (c : Char) :
    c = '_' ∧ fold c = '-' ∨ c.isAlpha ∧ (fold c).isAlpha ∨ c ≠ '_' ∧ fold c = c := by
  by_cases underscore : c = '_'
  · exact .inl ⟨underscore, by rw [fold, if_pos underscore]⟩
  · by_cases upper : c.isUpper
    · have letter := isAlpha_of_isUpper upper
      refine .inr (.inl ⟨letter, ?_⟩)
      rwa [fold, if_neg underscore, Char.isAlpha_toLower_eq_isAlpha]
    · exact .inr (.inr ⟨underscore, fold_eq_self (Bool.eq_false_iff.2 upper) underscore⟩)

theorem isUpper_fold (c : Char) : (fold c).isUpper = false := by
  rw [fold]
  split_ifs
  · rfl
  · exact c.isUpper_toLower_eq_false

theorem fold_ne_underscore (c : Char) : fold c ≠ '_' := by
  rcases fold_cases c with ⟨-, hyphen⟩ | ⟨-, letter⟩ | ⟨other, kept⟩
  · rw [hyphen]
    decide
  · intro underscore
    rw [underscore] at letter
    contradiction
  · rwa [kept]

theorem isWhiteSpace_fold (c : Char) : isWhiteSpace (fold c) = isWhiteSpace c := by
  rcases fold_cases c with ⟨rfl, hyphen⟩ | ⟨letter, letter'⟩ | ⟨-, kept⟩
  · rw [hyphen]
    decide
  · rw [isWhiteSpace_of_isAlpha letter, isWhiteSpace_of_isAlpha letter']
  · rw [kept]

theorem toList_normal (s : String) : (normal s).toList = (trim s.toList).map fold :=
  String.toList_ofList

theorem length_normal (s : String) : (normal s).length = (trim s.toList).length := by
  rw [← String.length_toList, toList_normal, List.length_map]

structure IsNormal (v : String) : Prop where
  trimmed : Trimmed v.toList
  small : ∀ c ∈ v.toList, c.isUpper = false
  hyphenated : '_' ∉ v.toList

theorem isNormal_normal (s : String) : IsNormal (normal s) where
  trimmed := by
    rw [toList_normal, ← trim_map isWhiteSpace_fold]
    exact trimmed_trim _
  small := by
    rw [toList_normal, List.forall_mem_map]
    exact fun c _ => isUpper_fold c
  hyphenated := by
    rw [toList_normal, List.mem_map]
    rintro ⟨c, -, underscore⟩
    exact fold_ne_underscore c underscore

theorem IsNormal.normal_eq_self {v : String} (h : IsNormal v) : normal v = v := by
  have kept : ∀ c ∈ v.toList, fold c = c := fun c hc =>
    fold_eq_self (h.small c hc) fun underscore => h.hyphenated (underscore ▸ hc)
  rw [← String.toList_inj, toList_normal, h.trimmed.trim_eq_self, List.map_congr_left kept,
    List.map_id']

@[simp] theorem normal_normal (s : String) : normal (normal s) = normal s :=
  (isNormal_normal s).normal_eq_self

end Name

open Name

/-- Aliases of which none belongs to two. -/
structure AliasTable (α : Type) where
  all : List α
  aliases : α → List String
  mem_all : ∀ a, a ∈ all
  apart : ∀ a ∈ all, ∀ b ∈ all, ∀ v ∈ aliases a, v ∈ aliases b → a = b

namespace AliasTable

variable {α : Type} (t : AliasTable α) (refusal : String → Rejection)

def lookup (v : String) : Except Rejection α :=
  match t.all.find? fun a => (t.aliases a).contains v with
  | some a => .ok a
  | none => .error (refusal v)

variable {t refusal} {v : String} {a b : α}

theorem eq_of_mem (ha : v ∈ t.aliases a) (hb : v ∈ t.aliases b) : a = b :=
  t.apart a (t.mem_all a) b (t.mem_all b) v ha hb

theorem lookup_eq_ok (h : v ∈ t.aliases a) : t.lookup refusal v = .ok a := by
  rw [lookup]
  cases found : t.all.find? fun a => (t.aliases a).contains v with
  | some b =>
    have other : v ∈ t.aliases b := by simpa using List.find?_some found
    exact congrArg Except.ok (eq_of_mem other h)
  | none => exact absurd (List.contains_iff_mem.2 h) (List.find?_eq_none.1 found a (t.mem_all a))

theorem lookup_eq_error (h : ∀ a, v ∉ t.aliases a) : t.lookup refusal v = .error (refusal v) := by
  rw [lookup, List.find?_eq_none.2]
  exact fun a _ => by simpa using h a

theorem lookup_cases (t : AliasTable α) (refusal : String → Rejection) (v : String) :
    (∃ a, v ∈ t.aliases a ∧ t.lookup refusal v = .ok a) ∨
      (∀ a, v ∉ t.aliases a) ∧ t.lookup refusal v = .error (refusal v) := by
  by_cases known : ∃ a, v ∈ t.aliases a
  · obtain ⟨a, own⟩ := known
    exact .inl ⟨a, own, lookup_eq_ok own⟩
  · have foreign := not_exists.1 known
    exact .inr ⟨foreign, lookup_eq_error foreign⟩

theorem lookup_eq_ok_iff : t.lookup refusal v = .ok a ↔ v ∈ t.aliases a := by
  refine ⟨fun h => ?_, lookup_eq_ok⟩
  rcases t.lookup_cases refusal v with ⟨b, own, found⟩ | ⟨-, refused⟩
  · cases found.symm.trans h
    exact own
  · nomatch refused.symm.trans h

theorem lookup_eq_error_iff {cause : Rejection} :
    t.lookup refusal v = .error cause ↔ (∀ a, v ∉ t.aliases a) ∧ cause = refusal v := by
  constructor
  · intro h
    rcases t.lookup_cases refusal v with ⟨b, -, found⟩ | ⟨foreign, refused⟩
    · nomatch found.symm.trans h
    · exact ⟨foreign, Except.error.inj (h.symm.trans refused)⟩
  · rintro ⟨foreign, rfl⟩
    exact lookup_eq_error foreign

end AliasTable

structure Reads {α : Type} (aliases : α → List String) (refusal : String → Rejection)
    (read : String → Except Rejection α) : Prop where
  ok_iff : ∀ s a, read s = .ok a ↔ normal s ∈ aliases a
  error_iff : ∀ s cause, read s = .error cause ↔
    (∀ a, normal s ∉ aliases a) ∧ cause = refusal (normal s)
  apart : ∀ s a b, normal s ∈ aliases a → normal s ∈ aliases b → a = b
  alike : ∀ s t, normal s = normal t → read s = read t
  again : ∀ s cause, read s = .error cause → read (normal s) = .error cause

theorem AliasTable.reads {α : Type} (t : AliasTable α) {refusal : String → Rejection}
    {read : String → Except Rejection α} (eq : ∀ s, read s = t.lookup refusal (normal s)) :
    Reads t.aliases refusal read where
  ok_iff s a := by rw [eq, lookup_eq_ok_iff]
  error_iff s cause := by rw [eq, lookup_eq_error_iff]
  apart s a b := eq_of_mem
  alike s t same := by rw [eq, eq, same]
  again s cause refused := by rw [eq, normal_normal, ← eq, refused]

namespace Market

def aliasTable : AliasTable Market := ⟨all, aliases, mem_all, by decide +kernel⟩

theorem ofName_eq_lookup (s : String) : ofName s = aliasTable.lookup .unknownMarket (normal s) := by
  rw [ofName, AliasTable.lookup, aliasTable]
  cases all.find? fun m => m.aliases.contains (normal s) <;> rfl

theorem reads : Reads aliases .unknownMarket ofName := aliasTable.reads ofName_eq_lookup

theorem help_ne_empty (m : Market) (l : Language) : m.help l ≠ "" := by
  cases m <;> cases l <;> decide

theorem examples_ne_nil (m : Market) : m.examples ≠ [] := by
  cases m <;> decide

section Guide

variable {name : String} {m : Market}

theorem helpFor_of_ok (h : ofName name = .ok m) (l : Language) : helpFor name l = m.help l := by
  rw [helpFor, h]

theorem examplesFor_of_ok (h : ofName name = .ok m) : examplesFor name = m.examples := by
  rw [examplesFor, h]

theorem helpFor_ne_empty_iff (name : String) (l : Language) :
    helpFor name l ≠ "" ↔ ∃ m, ofName name = .ok m := by
  cases outcome : ofName name with
  | ok m => simp [helpFor_of_ok outcome, help_ne_empty]
  | error cause => simp [helpFor, outcome]

theorem examplesFor_ne_nil_iff (name : String) :
    examplesFor name ≠ [] ↔ ∃ m, ofName name = .ok m := by
  cases outcome : ofName name with
  | ok m => simp [examplesFor_of_ok outcome, examples_ne_nil]
  | error cause => simp [examplesFor, outcome]

end Guide

end Market

namespace Language

def aliasTable : AliasTable Language := ⟨all, aliases, mem_all, by decide +kernel⟩

theorem ofName_eq_lookup (s : String) :
    ofName s = aliasTable.lookup .unknownLanguage (normal s) := by
  rw [ofName, AliasTable.lookup, aliasTable]
  cases all.find? fun l => l.aliases.contains (normal s) <;> rfl

theorem reads : Reads aliases .unknownLanguage ofName := aliasTable.reads ofName_eq_lookup

end Language

/-- Markets and languages are read by the normal forms of their names, and names are refused in
normal form. There is advice for the names of markets alone, and it is that of the market. -/
theorem names_are_read_in_normal_form :
    Reads Market.aliases .unknownMarket Market.ofName ∧
      Reads Language.aliases .unknownLanguage Language.ofName ∧
      (∀ s, IsNormal (normal s) ∧ (normal s).length = (trim s.toList).length) ∧
      ∀ name l,
        (Market.helpFor name l ≠ "" ↔ ∃ m, Market.ofName name = .ok m) ∧
        (Market.examplesFor name ≠ [] ↔ ∃ m, Market.ofName name = .ok m) ∧
        ∀ m, Market.ofName name = .ok m →
          Market.helpFor name l = m.help l ∧ Market.examplesFor name = m.examples := by
  refine ⟨Market.reads, Language.reads, fun s => ⟨isNormal_normal s, length_normal s⟩,
    fun name l => ⟨Market.helpFor_ne_empty_iff name l, Market.examplesFor_ne_nil_iff name, ?_⟩⟩
  exact fun m h => ⟨Market.helpFor_of_ok h l, Market.examplesFor_of_ok h⟩

theorem wide_name_and_kelvin_sign :
    Market.ofName "\u3000Hong_KONG\t" = .ok .hongKong ∧
      Market.helpFor "\u3000Hong_KONG\t" .english = Market.hongKong.help .english ∧
      Market.ofName " \u212aL" = .error (.unknownMarket "\u212al") ∧
      Market.ofName "\u212al" = .error (.unknownMarket "\u212al") := by
  obtain ⟨markets, -, -, guide⟩ := names_are_read_in_normal_form
  have wide : normal "\u3000Hong_KONG\t" = "hong-kong" := by decide +kernel
  have read : Market.ofName "\u3000Hong_KONG\t" = .ok .hongKong :=
    (markets.ok_iff _ _).2 (by rw [wide]; decide)
  have refused : Market.ofName " \u212aL" = .error (.unknownMarket "\u212al") := by decide +kernel
  have kelvin : normal " \u212aL" = "\u212al" := by decide +kernel
  exact ⟨read, ((guide _ _).2.2 _ read).1, refused, kelvin ▸ markets.again _ _ refused⟩

end Ticker
