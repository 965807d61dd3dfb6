import Ticker.Proofs.Acceptance

namespace Ticker

open Text Unicode

namespace Market

def codes : Market → Set (List Char)
  | .aShare =>
    { cs | cs.length = 6 ∧ (∀ c ∈ cs, c.isDigit) ∧
      ∃ lead ∈ ["60", "68", "00", "30", "43", "83", "87"], lead.toList <+: cs }
  | .unitedStates =>
    { cs | ∃ root shareClass, cs = root ++ shareClass ∧
      1 ≤ root.length ∧ root.length ≤ 5 ∧ (∀ c ∈ root, c.isUpper) ∧
      (shareClass = [] ∨ ∃ c, c.isUpper ∧ shareClass = ['.', c]) }
  | .hongKong => { cs | cs.length = 5 ∧ ∀ c ∈ cs, c.isDigit }
  | .malaysia =>
    { cs | ∃ ds, ds.length = 4 ∧ (∀ d ∈ ds, d.isDigit) ∧ cs = ds ++ ['.', 'K', 'L'] }

theorem mem_codes_iff {m : Market} {cs : List Char} : cs ∈ m.codes ↔ m.IsCanonical cs := by
  cases m with
  | aShare =>
    refine and_congr_right fun _ => and_congr_right fun _ => ?_
    simp [Board.all, Board.leads]
  | unitedStates =>
    constructor
    · rintro ⟨root, shareClass, rfl, long, short, capitals, rfl | ⟨c, capital, rfl⟩⟩
      · rw [List.append_nil]
        exact .plain (List.length_pos_iff.1 long) short capitals
      · exact .classed (List.length_pos_iff.1 long) short capitals capital
    · intro h
      cases h with
      | plain nonempty short capitals =>
        exact ⟨_, [], (List.append_nil _).symm, List.length_pos_iff.2 nonempty, short, capitals,
          .inl rfl⟩
      | classed nonempty short capitals capital =>
        exact ⟨_, _, rfl, List.length_pos_iff.2 nonempty, short, capitals, .inr ⟨_, capital, rfl⟩⟩
  | hongKong => rfl
  | malaysia => rfl

theorem digits_of_isCanonical_unitedStates {cs : List Char} (h : UnitedStates.IsCanonical cs) :
    digits cs = [] := by
  refine List.filter_eq_nil_iff.2 fun c hc digit => ?_
  exact UnitedStates.not_isMark_of_isDigit digit (UnitedStates.isMark_of_isCanonical h c hc)

theorem detectChars_of_isCanonical {m : Market} {cs : List Char} (h : m.IsCanonical cs) :
    detectChars cs = .ok m := by
  apply Detected.eq
  cases m with
  | aShare =>
    obtain ⟨len, dig, -⟩ := h
    exact .six (unlettered_of_digits dig) (by rw [digits_eq_self dig, len])
  | unitedStates =>
    obtain ⟨c, hc, upper⟩ := UnitedStates.exists_isUpper_of_isCanonical h
    refine .latin (List.any_eq_true.2 ⟨c, hc, isAlpha_of_isUpper upper⟩) ?_
    refine Bool.eq_false_iff.2 fun suffixed => ?_
    have len := Malaysia.length_digits (.inl suffixed)
    simp [digits_of_isCanonical_unitedStates h] at len
  | hongKong =>
    obtain ⟨len, dig⟩ := h
    exact .few (unlettered_of_digits dig) (by simp [digits_eq_self dig, len])
      (by simp [digits_eq_self dig, len])
  | malaysia =>
    refine .suffixed ?_
    rw [Malaysia.trim_of_isCanonical h]
    exact Malaysia.isSuffixed_of_isCanonical h

end Market

/-- The codes of a market, the codes it brings texts to, and the codes it leaves as they are, are
the same, and each is accepted as such with the hint and without one. -/
theorem canonical_codes (m : Market) (code : String) :
    [∃ s, m.canonical s = .ok code, m.canonical code = .ok code, code.toList ∈ m.codes].TFAE ∧
      (code.toList ∈ m.codes →
        detect code = .ok m ∧
          ∀ hint ∈ [none, some m], validate code hint = .accepted m code ∧
            ∀ l, (validate code hint).message? l = none) := by
  have fixed : code.toList ∈ m.codes → m.canonical code = .ok code := fun h =>
    Market.canonical_eq_ok_iff.2 (Market.canonicalChars_eq_self (Market.mem_codes_iff.1 h))
  constructor
  · tfae_have 1 → 3 := by
      rintro ⟨s, h⟩
      exact Market.mem_codes_iff.2
        (Market.isCanonical_of_canonicalChars (Market.canonical_eq_ok_iff.1 h))
    tfae_have 3 → 2 := fixed
    tfae_have 2 → 1 := fun h => ⟨code, h⟩
    tfae_finish
  · intro h
    have route : detect code = .ok m :=
      Market.detectChars_of_isCanonical (Market.mem_codes_iff.1 h)
    have hinted : validate code (some m) = .accepted m code :=
      validate_some_eq_accepted_iff.2 ⟨rfl, fixed h⟩
    refine ⟨route, ?_⟩
    intro hint among
    have accepted : validate code hint = .accepted m code := by
      simp only [List.mem_cons, List.not_mem_nil, or_false] at among
      rcases among with rfl | rfl
      · rw [validate_none_of_ok route, hinted]
      · exact hinted
    exact ⟨accepted, fun l => by rw [accepted]; rfl⟩

theorem share_class_needs_no_hint :
    "BRK.B".toList ∈ Market.unitedStates.codes ∧
      validate "BRK.B" none = .accepted .unitedStates "BRK.B" := by
  have code : "BRK.B".toList ∈ Market.unitedStates.codes :=
    ⟨['B', 'R', 'K'], ['.', 'B'], rfl, by simp, by simp, by simp, .inr ⟨'B', rfl, rfl⟩⟩
  exact ⟨code, (((canonical_codes .unitedStates "BRK.B").2 code).2 none (by simp)).1⟩

end Ticker
