import Ticker.Proofs.Batches
import Ticker.Proofs.Options

/-!
The display language decides nothing. It is no part of any verdict, and in a payload it reaches
messages and help texts alone, so that a setting may change what is read and nothing else.
-/

namespace Ticker

namespace Json

def erase (key : String) : Json → Json
  | .object fields => .object (fields.filter (·.1 ≠ key))
  | j => j

def update (key : String) (f : Json → Json) : Json → Json
  | .object fields => .object (fields.map fun g => if g.1 = key then (key, f g.2) else g)
  | j => j

def mapItems (f : Json → Json) : Json → Json
  | .list items => .list (items.map f)
  | j => j

/-- One key, and one value unless the key is the one given. There a function of the values is the
same. -/
structure SameButAt (key : String) (F : Json → Json) (f g : String × Json) : Prop where
  key_eq : f.1 = g.1
  image_eq : f.1 = key → F f.2 = F g.2
  value_eq : f.1 ≠ key → f.2 = g.2

section Fields

variable {key : String} {F : Json → Json} {fs gs : List (String × Json)}

theorem sameButAt_refl (f : String × Json) : SameButAt key F f f :=
  ⟨rfl, fun _ => rfl, fun _ => rfl⟩

theorem sameButAt_of_eq {v w : Json} (h : F v = F w) : SameButAt key F (key, v) (key, w) :=
  ⟨rfl, fun _ => h, fun other => absurd rfl other⟩

theorem forall₂_sameButAt_refl (fs : List (String × Json)) :
    List.Forall₂ (SameButAt key F) fs fs :=
  List.forall₂_same.2 fun f _ => sameButAt_refl f

theorem forall₂_insertField {f g : String × Json} (h : SameButAt key F f g)
    (hs : List.Forall₂ (SameButAt key F) fs gs) :
    List.Forall₂ (SameButAt key F) (insertField f fs) (insertField g gs) := by
  induction hs with
  | nil => exact .cons h .nil
  | @cons f' g' fs gs h' hs ih =>
    -- The place of a field depends on keys alone.
    rw [insertField, insertField, ← h.key_eq, ← h'.key_eq]
    split_ifs with order
    · exact .cons h (.cons h' hs)
    · exact .cons h' ih

theorem forall₂_sorted (hs : List.Forall₂ (SameButAt key F) fs gs) :
    List.Forall₂ (SameButAt key F) (fs.foldr insertField []) (gs.foldr insertField []) := by
  induction hs with
  | nil => exact .nil
  | cons h _ ih => exact forall₂_insertField h ih

theorem filter_eq_of_forall₂ (hs : List.Forall₂ (SameButAt key F) fs gs) :
    fs.filter (·.1 ≠ key) = gs.filter (·.1 ≠ key) := by
  induction hs with
  | nil => rfl
  | @cons f g fs gs h _ ih =>
    rw [List.filter_cons, List.filter_cons, ih, ← h.key_eq]
    by_cases here : f.1 = key
    · simp [here]
    · rw [Prod.ext h.key_eq (h.value_eq here)]

theorem map_eq_of_forall₂ (hs : List.Forall₂ (SameButAt key F) fs gs) :
    fs.map (fun g => if g.1 = key then (key, F g.2) else g) =
      gs.map fun g => if g.1 = key then (key, F g.2) else g := by
  induction hs with
  | nil => rfl
  | @cons f g fs gs h _ ih =>
    rw [List.map_cons, List.map_cons, ih, ← h.key_eq]
    by_cases here : f.1 = key
    · rw [if_pos here, if_pos here, h.image_eq here]
    · rw [if_neg here, if_neg here, Prod.ext h.key_eq (h.value_eq here)]

theorem erase_record_eq (hs : List.Forall₂ (SameButAt key fun _ => .null) fs gs) :
    erase key (record fs) = erase key (record gs) :=
  congrArg Json.object (filter_eq_of_forall₂ (forall₂_sorted hs))

theorem update_record_eq (hs : List.Forall₂ (SameButAt key F) fs gs) :
    update key F (record fs) = update key F (record gs) :=
  congrArg Json.object (map_eq_of_forall₂ (forall₂_sorted hs))

end Fields

end Json

open Json

section Languages

variable (l l' : Language)

theorem Verdict.forall₂_fields (v : Verdict) :
    List.Forall₂ (SameButAt "message" fun _ => .null) (v.fields l) (v.fields l') := by
  cases v with
  | accepted m code => exact forall₂_sameButAt_refl _
  | rejected cause => exact .cons (sameButAt_refl _) (.cons (sameButAt_of_eq rfl) .nil)

namespace CommandLine

theorem Entry.erase_message_payload (e : Entry) :
    erase "message" (e.payload l) = erase "message" (e.payload l') := by
  apply erase_record_eq
  apply List.rel_append (List.rel_append (List.rel_append _ (e.verdict.forall₂_fields l l')) _)
  all_goals exact forall₂_sameButAt_refl _

/-- What a payload holds apart from texts in the display language. -/
def Command.undisplayed : Command → Json → Json
  | .validate .. => update "results" (mapItems (erase "message"))
  | .format .. => id
  | .describe _ => erase "help"
  | .markets => id

theorem Command.undisplayed_respond (c : Command) :
    c.undisplayed (c.respond l).payload = c.undisplayed (c.respond l').payload := by
  cases c with
  | validate codes hint =>
    have results : mapItems (erase "message") (.list ((batch hint codes).map (·.payload l))) =
        mapItems (erase "message") (.list ((batch hint codes).map (·.payload l'))) := by
      simp only [mapItems, List.map_map]
      congr 1
      exact List.map_congr_left fun e _ => e.erase_message_payload l l'
    apply update_record_eq
    exact .cons (sameButAt_refl _) (.cons (sameButAt_refl _) (.cons (sameButAt_of_eq results) .nil))
  | format code m => rfl
  | describe m =>
    apply erase_record_eq
    apply List.rel_append (forall₂_sameButAt_refl _)
    exact .cons (sameButAt_of_eq rfl) (.cons (sameButAt_refl _) .nil)
  | markets => rfl

end CommandLine

end Languages

theorem Language.ofName_of_isBlank {s : String} (blank : Text.isBlank s.toList) :
    Language.ofName s = .error (.unknownLanguage "") := by
  have normal : Name.normal s = "" := by rw [Name.normal, Text.trim_eq_nil_iff.2 blank]; rfl
  rw [ofName, normal]
  rfl

theorem Language.ofSetting_of_ok {s : String} {l : Language} (h : Language.ofName s = .ok l) :
    ofSetting (some s) = l := by
  rw [ofSetting, h]
  rfl

theorem Language.ofSetting_of_error {s : String} (h : ∀ l, Language.ofName s ≠ .ok l) :
    ofSetting (some s) = .chinese := by
  cases name : ofName s with
  | ok l => exact absurd name (h l)
  | error cause =>
    rw [ofSetting, name]
    rfl

namespace CommandLine

/-- Under the setting the command line is answered in the language, and prints that answer. -/
structure AnsweredIn (args : List String) (r : Request) (setting : Option String) (l : Language) :
    Prop where
  effective : r.effectiveLanguage setting = l
  response : r.respond setting = r.command.respond l
  outcome : Outcome.ofArguments args setting = .ofResponse r (r.command.respond l)

section Settings

variable {args : List String} {r : Request} {v w setting : Option String} {l : Language}

theorem answeredIn_of_effectiveLanguage (h : Request.ofArguments? args = some r)
    (effective : r.effectiveLanguage setting = l) : AnsweredIn args r setting l := by
  have response : r.respond setting = r.command.respond l := by rw [Request.respond, effective]
  exact ⟨effective, response, by rw [Outcome.ofArguments_of_some h, response]⟩

theorem AnsweredIn.same (hv : AnsweredIn args r v l) (hw : AnsweredIn args r w l) :
    r.respond v = r.respond w ∧ Outcome.ofArguments args v = Outcome.ofArguments args w :=
  ⟨hv.response.trans hw.response.symm, hv.outcome.trans hw.outcome.symm⟩

theorem answeredIn_of_option (h : Request.ofArguments? args = some r) {name : String}
    (last : (languageOptions args).getLast? = some name) :
    ∃ l, Language.ofName name = .ok l ∧ ∀ setting, AnsweredIn args r setting l := by
  obtain ⟨l, known, language⟩ := (Request.chosen_of_ofArguments? h).eq_some_of_last last
  refine ⟨l, known, fun setting => answeredIn_of_effectiveLanguage h ?_⟩
  rw [Request.effectiveLanguage, language, Option.getD_some]

theorem answeredIn_of_setting (h : Request.ofArguments? args = some r)
    (nothing : languageOptions args = []) (setting : Option String) :
    AnsweredIn args r setting (.ofSetting setting) := by
  apply answeredIn_of_effectiveLanguage h
  rw [Request.effectiveLanguage, (Request.chosen_of_ofArguments? h).eq_none_iff.2 nothing,
    Option.getD_none]

end Settings

end CommandLine

end Ticker
