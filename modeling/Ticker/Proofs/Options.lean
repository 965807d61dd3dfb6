import Mathlib
import Ticker.CommandLine.Page

namespace Ticker.CommandLine

def Item.languageName? : Item → Option String
  | .setting .language value => some value
  | _ => none

theorem Item.languageName?_eq_some_iff {item : Item} {value : String} :
    item.languageName? = some value ↔ item = .setting .language value := by
  cases item with
  | setting setting _ => cases setting <;> simp [languageName?]
  | switch | operand | literal => simp [languageName?]

def languageOptions (args : List String) : List String :=
  ((Item.ofArguments? args).getD []).filterMap Item.languageName?

/-- The language that counts where languages go by these names one after the other. -/
inductive Chosen : List String → Option Language → Prop
  | nothing : Chosen [] none
  | last {names : List String} {name : String} {l : Language} : names.getLast? = some name →
      Language.ofName name = .ok l → Chosen names (some l)

namespace Chosen

variable {names names' : List String} {l l' : Option Language}

theorem append (h : Chosen names l) (h' : Chosen names' l') :
    Chosen (names ++ names') (l' <|> l) := by
  cases h' with
  | nothing => simpa using h
  | last last' known => exact .last (by simp [List.getLast?_append, last']) known

theorem eq_none_iff (h : Chosen names l) : l = none ↔ names = [] := by
  cases h with
  | nothing => simp
  | last last known =>
    refine iff_of_false nofun ?_
    rintro rfl
    nomatch last

theorem eq_some_of_last (h : Chosen names l) {name : String} (last : names.getLast? = some name) :
    ∃ k, Language.ofName name = .ok k ∧ l = some k := by
  cases h with
  | nothing => nomatch last
  | @last _ name' k last' known =>
    rw [last', Option.some_inj] at last
    exact ⟨k, last ▸ known, rfl⟩

end Chosen

namespace Selection

variable {s t : Selection} {item : Item} {items : List Item} {names : List String}

theorem add?_of_language {value : String} (h : s.add? (.setting .language value) = some t) :
    ∃ l, Language.ofName value = .ok l ∧ t.language = some l := by
  rw [add?, Option.ite_none_left_eq_some, Option.map_eq_some_iff] at h
  obtain ⟨-, l, known, rfl⟩ := h
  cases name : Language.ofName value with
  | error => simp [name, Except.toOption] at known
  | ok k =>
    rw [name] at known
    exact ⟨k, rfl, by simpa [Except.toOption] using known.symm⟩

theorem language_of_add? (h : s.add? item = some t) (other : item.languageName? = none) :
    t.language = s.language := by
  cases item with
  | switch switch =>
    cases switch with
    | pretty | verbose =>
      rw [add?, Option.ite_none_left_eq_some] at h
      rw [← Option.some.inj h.2]
  | setting setting value =>
    cases setting with
    | output | market =>
      rw [add?, Option.ite_none_left_eq_some, Option.map_eq_some_iff] at h
      obtain ⟨-, -, -, rfl⟩ := h
      rfl
    | language => nomatch other
  | operand text | literal text => rw [← Option.some.inj h]

theorem chosen_of_add? (h : s.add? item = some t) (chosen : Chosen names s.language) :
    Chosen (names ++ item.languageName?.toList) t.language := by
  cases named : item.languageName? with
  | none => simpa [language_of_add? h named] using chosen
  | some value =>
    obtain rfl := Item.languageName?_eq_some_iff.1 named
    obtain ⟨l, known, language⟩ := add?_of_language h
    rw [language]
    exact .last (by simp) known

theorem chosen_of_foldlM (h : items.foldlM add? s = some t) (chosen : Chosen names s.language) :
    Chosen (names ++ items.filterMap Item.languageName?) t.language := by
  induction items generalizing s names with
  | nil =>
    obtain rfl := Option.some.inj h
    simpa using chosen
  | cons item items ih =>
    rw [List.foldlM_cons] at h
    obtain ⟨next, first, rest⟩ := Option.bind_eq_some_iff.1 h
    -- The names met so far go along with the selection that they led to.
    have step := ih rest (chosen_of_add? first chosen)
    rw [List.append_assoc] at step
    cases named : item.languageName? <;> simpa [named] using step

theorem chosen_of_ofItems? (h : ofItems? items = some t) :
    Chosen (items.filterMap Item.languageName?) t.language :=
  chosen_of_foldlM h .nothing

end Selection

theorem Request.parts_of_ofArguments? {args : List String} {r : Request}
    (h : Request.ofArguments? args = some r) :
    ∃ before name after outer inner,
      Item.ofArguments? args = some (before ++ .operand name :: after) ∧
        (∀ item ∈ before, item.isOption) ∧
        Selection.ofItems? before = some outer ∧ outer.market = none ∧
        Selection.ofItems? after = some inner ∧
        Command.of? name inner.operands inner.market = some r.command ∧
        r.output = (inner.output <|> outer.output).getD .json ∧
        r.pretty = (inner.pretty || outer.pretty) ∧
        r.language = (inner.language <|> outer.language) ∧
        r.verbose = (inner.verbose || outer.verbose) := by
  unfold Request.ofArguments? at h
  obtain ⟨items, hitems, h⟩ := Option.bind_eq_some_iff.1 h
  obtain ⟨outer, houter, h⟩ := Option.bind_eq_some_iff.1 h
  obtain ⟨⟨⟩, market, h⟩ := Option.bind_eq_some_iff.1 h
  split at h
  · next name after split =>
    obtain ⟨inner, hinner, h⟩ := Option.bind_eq_some_iff.1 h
    obtain ⟨command, hcommand, h⟩ := Option.bind_eq_some_iff.1 h
    obtain rfl := Option.some.inj h
    refine ⟨_, name, after, outer, inner, ?_, fun item => List.mem_takeWhile_imp, houter,
      by simpa using market, hinner, hcommand, rfl, rfl, rfl, rfl⟩
    rw [hitems, ← split, List.takeWhile_append_dropWhile]
  · nomatch h

section Names

variable {before after : List Item} {name : String}

theorem Item.takeWhile_isOption (h : ∀ item ∈ before, item.isOption) :
    (before ++ .operand name :: after).takeWhile isOption = before := by
  rw [List.takeWhile_append_of_pos h, List.takeWhile_cons_of_neg Bool.false_ne_true,
    List.append_nil]

theorem Item.dropWhile_isOption (h : ∀ item ∈ before, item.isOption) :
    (before ++ .operand name :: after).dropWhile isOption = .operand name :: after := by
  rw [List.dropWhile_append_of_pos h, List.dropWhile_cons_of_neg Bool.false_ne_true]

end Names

section Lines

variable {args : List String} {r : Request}

theorem Request.chosen_of_ofArguments? (h : Request.ofArguments? args = some r) :
    Chosen (languageOptions args) r.language := by
  obtain ⟨before, name, after, outer, inner, items, -, front, -, back, -, -, -, language, -⟩ :=
    parts_of_ofArguments? h
  rw [languageOptions, items, Option.getD_some, List.filterMap_append, List.filterMap_cons_none rfl,
    language]
  exact (Selection.chosen_of_ofItems? front).append (Selection.chosen_of_ofItems? back)

theorem Page.dropWhile_cons {arg : String}
    (h : Shape.ofArgument arg ∉ [Shape.help, .version, .escape]) :
    (arg :: args).dropWhile goesOn = args.dropWhile goesOn :=
  List.dropWhile_cons_of_pos (decide_eq_true h)

/-- Where arguments can be read to their end, nothing but `--` stops a search for a page. -/
theorem Page.stop_of_ofArguments? {items : List Item} (h : Item.ofArguments? args = some items) :
    (args.dropWhile goesOn).head?.map Shape.ofArgument ∈ [none, some .escape] := by
  fun_induction Item.ofArguments? args generalizing items with
  | case1 => simp
  | case2 arg args shape ih | case4 arg args _ shape ih | case5 arg args _ _ shape ih =>
    obtain ⟨rest, read, -⟩ := Option.map_eq_some_iff.1 h
    rw [dropWhile_cons (by simp [shape])]
    exact ih read
  | case3 arg args shape =>
    rw [List.dropWhile_cons_of_neg (by simp [goesOn, shape])]
    simp [shape]
  | case7 arg _ shape value args valueShape ih =>
    obtain ⟨rest, read, -⟩ := Option.map_eq_some_iff.1 h
    rw [dropWhile_cons (by simp [shape]), dropWhile_cons (by simp [valueShape])]
    exact ih read
  | _ => nomatch h

theorem Page.front_of_stop (h : (args.dropWhile goesOn).head?.map Shape.ofArgument = none) :
    args.takeWhile goesOn ++ (args.dropWhile goesOn).head?.elim [] sharedSwitch = args := by
  rw [Option.map_eq_none_iff, List.head?_eq_none_iff] at h
  have whole := List.takeWhile_append_dropWhile (p := goesOn) (l := args)
  rw [h, List.append_nil] at whole
  rw [h, whole]
  exact List.append_nil args

theorem Command.of?_help (operands : List String) (hint : Option Market) :
    Command.of? "help" operands hint = none := by
  simp [of?]

theorem Page.eq_none_of_ofArguments? (h : Request.ofArguments? args = some r) :
    Page.ofArguments? args = none := by
  obtain ⟨before, name, after, outer, inner, items, options, -, -, -, command, -⟩ :=
    Request.parts_of_ofArguments? h
  have named : name ≠ "help" := by
    rintro rfl
    rw [Command.of?_help] at command
    nomatch command
  refine Option.eq_none_iff_forall_ne_some.2 fun page asked => ?_
  unfold Page.ofArguments? at asked
  obtain ⟨items', read, asked⟩ := Option.bind_eq_some_iff.1 asked
  obtain ⟨_, -, asked⟩ := Option.bind_eq_some_iff.1 asked
  obtain ⟨_, -, asked⟩ := Option.bind_eq_some_iff.1 asked
  -- Without a stop the search reads what the request reads, and `help` is no command.
  rcases List.mem_cons.1 (stop_of_ofArguments? items) with stop | stop
  · rw [front_of_stop stop, items, Option.some_inj] at read
    rw [stop, ← read, Item.dropWhile_isOption options] at asked
    split at asked
    case h_3 same _ | h_4 same _ => exact named (Item.operand.inj (List.cons.inj same).1)
    all_goals contradiction
  · rw [List.mem_singleton.1 stop] at asked
    split at asked <;> contradiction

theorem Command.fits_of_of? {name : String} {s : Selection} {command : Command}
    (h : Command.of? name s.operands s.market = some command) :
    ∃ topic, Topic.ofName? name = some topic ∧ s.fits topic := by
  unfold Command.of? at h
  split at h
  case h_1 => exact ⟨.validate, rfl, rfl⟩
  case h_2 operands _ => exact ⟨.format, rfl, by simp [Selection.fits, operands]⟩
  case h_3 operands market =>
    obtain ⟨m, known, -⟩ := Option.map_eq_some_iff.1 h
    exact ⟨.describe, rfl, by simp [Selection.fits, operands, market, known]⟩
  case h_4 operands market => exact ⟨.markets, rfl, by simp [Selection.fits, operands, market]⟩
  case h_5 => nomatch h

/-- A command line that runs a command asks for help on it with `--help` behind it. -/
theorem Page.ofArguments?_append_help (h : Request.ofArguments? args = some r)
    (whole : ∀ arg ∈ args, Shape.ofArgument arg ≠ .escape) :
    ∃ topic, Page.ofArguments? (args ++ ["--help"]) = some (.help (some topic)) := by
  obtain ⟨before, name, after, outer, inner, items, options, front, market, back, command, -⟩ :=
    Request.parts_of_ofArguments? h
  obtain ⟨topic, named, fits⟩ := Command.fits_of_of? command
  have through : args.dropWhile goesOn = [] := by
    cases rest : args.dropWhile goesOn with
    | nil => rfl
    | cons arg rest' =>
      have among : arg ∈ args := (List.dropWhile_sublist goesOn).mem (by simp [rest])
      have stop := stop_of_ofArguments? items
      simp [rest, whole arg among] at stop
  have plain : ∀ arg ∈ args, goesOn arg := List.dropWhile_eq_nil_iff.1 through
  have asked : ["--help"].takeWhile goesOn = [] ∧ ["--help"].dropWhile goesOn = ["--help"] := by
    decide +kernel
  have alone : sharedSwitch "--help" = [] ∧ Shape.ofArgument "--help" = .help := by
    decide +kernel
  refine ⟨topic, ?_⟩
  simp only [ofArguments?, List.takeWhile_append_of_pos plain, List.dropWhile_append_of_pos plain,
    asked, alone, List.head?_cons, Option.elim_some, Option.map_some, List.append_nil, items,
    Item.takeWhile_isOption options, Item.dropWhile_isOption options, front, back, market, named,
    fits, Option.bind_eq_bind, Option.bind_some, Option.isNone_none, guard_true]
  rfl

end Lines

example : Page.ofArguments? ["describe", "hk", "-vh"] = some (.help (some .describe)) ∧
    Page.ofArguments? ["describe", "hk", "us", "-vh"] = none := by decide +kernel

end Ticker.CommandLine
