import Mathlib
import Ticker.Rejection

/-!
Messages tell rejections apart. No heading of a message is the beginning of another, so that it
tells the cause and the language, and the details are read off what stands behind it.
-/

namespace Ticker

/-- As many characters as it takes to know a message of the language. -/
def headingLength : Language → Nat
  | .chinese => 5
  | .english => 9

/-- Texts that have their details between the same two texts, with the heading in the first. -/
def Framed {α : Type} (l : Language) (text detail : α → String) : Prop :=
  ∃ opening closing : String, headingLength l ≤ opening.toList.length ∧
    ∀ a, text a = opening ++ detail a ++ closing

namespace Framed

variable {α : Type} {l : Language} {text detail : α → String}

theorem take_eq (h : Framed l text detail) (a b : α) :
    (text a).toList.take (headingLength l) = (text b).toList.take (headingLength l) := by
  obtain ⟨opening, closing, long, eq⟩ := h
  simp only [eq, String.toList_append, List.append_assoc, List.take_append_of_le_length long]

theorem detail_eq (h : Framed l text detail) {a b : α} (same : text a = text b) :
    detail a = detail b := by
  obtain ⟨opening, closing, -, eq⟩ := h
  rw [eq, eq, String.append_left_inj, String.append_right_inj] at same
  exact same

end Framed

namespace Rejection

theorem framed_unknownLead (l : Language) :
    Framed l (fun lead => (unknownLead lead).message l) id := by
  cases l <;> exact ⟨_, _, by decide, fun _ => rfl⟩

theorem framed_invalidLength (l : Language) :
    Framed l (fun digits => (invalidLength digits).message l) toString := by
  cases l <;> exact ⟨_, _, by decide, fun _ => rfl⟩

theorem framed_unknownMarket (l : Language) :
    Framed l (fun name => (unknownMarket name).message l) id := by
  cases l <;> exact ⟨_, _, by decide, fun _ => rfl⟩

theorem framed_unknownLanguage (l : Language) :
    Framed l (fun name => (unknownLanguage name).message l) id := by
  cases l <;> exact ⟨_, _, by decide, fun _ => rfl⟩

def bare : Rejection → Rejection
  | .unknownLead _ => .unknownLead ""
  | .invalidLength _ => .invalidLength 0
  | .unknownMarket _ => .unknownMarket ""
  | .unknownLanguage _ => .unknownLanguage ""
  | r => r

def allBare : List Rejection :=
  [.emptyInput, .unknownLead "", .emptyTicker, .invalidLength 0, .unrecognizedFormat,
    .unknownMarket "", .unknownLanguage ""] ++ Market.all.map .invalidFormat

theorem bare_mem_allBare (r : Rejection) : r.bare ∈ allBare := by
  cases r with
  | invalidFormat m => exact List.mem_append_right _ (List.mem_map_of_mem m.mem_all)
  | _ => simp [bare, allBare]

def heading (r : Rejection) (l : Language) : List Char :=
  (r.message l).toList.take (headingLength l)

theorem heading_begins (r : Rejection) (l : Language) : r.heading l <+: (r.message l).toList :=
  List.take_prefix ..

theorem heading_bare (r : Rejection) (l : Language) : r.bare.heading l = r.heading l := by
  cases r with
  | unknownLead lead => exact (framed_unknownLead l).take_eq ..
  | invalidLength digits => exact (framed_invalidLength l).take_eq ..
  | unknownMarket name => exact (framed_unknownMarket l).take_eq ..
  | unknownLanguage name => exact (framed_unknownLanguage l).take_eq ..
  | _ => rfl

theorem eq_of_heading_begins {r r' : Rejection} {l l' : Language}
    (h : r.heading l <+: r'.heading l') : r.bare = r'.bare ∧ l = l' := by
  have table : ∀ r ∈ allBare, ∀ r' ∈ allBare, ∀ l ∈ Language.all, ∀ l' ∈ Language.all,
      r.heading l <+: r'.heading l' → r = r' ∧ l = l' := by decide +kernel
  rw [← heading_bare r, ← heading_bare r'] at h
  exact table _ r.bare_mem_allBare _ r'.bare_mem_allBare _ l.mem_all _ l'.mem_all h

theorem heading_ne_nil (r : Rejection) (l : Language) : r.heading l ≠ [] := by
  intro empty
  -- An empty heading would begin a message of the other language.
  have begins : ∀ l', r.heading l <+: r.heading l' := fun l' => empty ▸ List.nil_prefix
  cases l with
  | chinese => nomatch (eq_of_heading_begins (begins .english)).2
  | english => nomatch (eq_of_heading_begins (begins .chinese)).2

theorem message_ne_empty (r : Rejection) (l : Language) : r.message l ≠ "" := by
  intro empty
  have nothing : r.heading l = [] := by rw [heading, empty, String.toList_empty, List.take_nil]
  exact r.heading_ne_nil l nothing

theorem eq_of_bare_eq {r r' : Rejection} {l : Language} (same : r.bare = r'.bare)
    (h : r.message l = r'.message l) : r = r' := by
  cases r with
  | unknownLead lead =>
    cases r' with
    | unknownLead lead' => exact congrArg unknownLead ((framed_unknownLead l).detail_eq h)
    | _ => nomatch same
  | invalidLength digits =>
    cases r' with
    | invalidLength digits' =>
      exact congrArg invalidLength (Nat.repr_injective ((framed_invalidLength l).detail_eq h))
    | _ => nomatch same
  | unknownMarket name =>
    cases r' with
    | unknownMarket name' => exact congrArg unknownMarket ((framed_unknownMarket l).detail_eq h)
    | _ => nomatch same
  | unknownLanguage name =>
    cases r' with
    | unknownLanguage name' =>
      exact congrArg unknownLanguage ((framed_unknownLanguage l).detail_eq h)
    | _ => nomatch same
  | _ =>
    cases r' with
    | unknownLead | invalidLength | unknownMarket | unknownLanguage => nomatch same
    | _ => exact same

theorem message_inj {r r' : Rejection} {l l' : Language} (h : r.message l = r'.message l') :
    r = r' ∧ l = l' := by
  have begins : r'.heading l' <+: (r.message l).toList := h ▸ r'.heading_begins l'
  have key : r.bare = r'.bare ∧ l = l' := by
    -- Two headings begin one message, so that one of them begins the other.
    cases List.prefix_or_prefix_of_prefix (r.heading_begins l) begins with
    | inl shorter => exact eq_of_heading_begins shorter
    | inr longer => exact (eq_of_heading_begins longer).imp Eq.symm Eq.symm
  obtain ⟨same, rfl⟩ := key
  exact ⟨eq_of_bare_eq same h, rfl⟩

end Rejection

/-- A message is that of one cause in one language, and says something. No text that it quotes can
make it another message. -/
theorem messages_identify_rejections (r r' : Rejection) (l l' : Language) :
    (r.message l = r'.message l' ↔ r = r' ∧ l = l') ∧ r.message l ≠ "" := by
  refine ⟨⟨Rejection.message_inj, ?_⟩, r.message_ne_empty l⟩
  rintro ⟨rfl, rfl⟩
  rfl

end Ticker
