import Ticker.Proofs.Hints
import Ticker.Proofs.NormalForms

namespace Ticker

open Text

namespace Market

def formatAll (ms : List Market) (s : String) : String := ms.foldl (fun text m => m.format text) s

@[simp] theorem formatAll_nil (s : String) : formatAll [] s = s := rfl

@[simp] theorem formatAll_cons (m : Market) (ms : List Market) (s : String) :
    formatAll (m :: ms) s = formatAll ms (m.format s) := rfl

theorem formatAll_append (ms ks : List Market) (s : String) :
    formatAll (ms ++ ks) s = formatAll ks (formatAll ms s) :=
  List.foldl_append

theorem format_of_canonical {m : Market} {s code : String} (h : m.canonical s = .ok code) :
    m.format s = code := by
  rw [format, validate_some_eq_accepted_iff.2 ⟨rfl, h⟩]
  rfl

theorem format_of_not_accepts {m : Market} {s : String} (h : ¬ m.accepts s) : m.format s = s := by
  rw [format]
  cases verdict : validate s (some m) with
  | accepted => simp [accepts, verdict, Verdict.isAccepted] at h
  | rejected => rfl

def hongKongForm (code : String) : String := "0" ++ String.ofList (code.toList.take 4)

theorem not_accepts_of_isCanonical {m k : Market} {code : String} (h : m.IsCanonical code.toList)
    (other : k ≠ m) (exception : ¬ (m = .malaysia ∧ k = .hongKong)) : ¬ k.accepts code := by
  have route : detect code = .ok m := detectChars_of_isCanonical h
  cases m with
  | aShare =>
    obtain ⟨us, hk, my, -⟩ := hints_of_aShare route
    cases k with
    | aShare => contradiction
    | unitedStates => exact us
    | hongKong => exact hk
    | malaysia => exact my
  | unitedStates =>
    have none_left : digits code.toList = [] := digits_of_isCanonical_unitedStates h
    cases k with
    | unitedStates => contradiction
    | aShare => simp [accepts_aShare_iff, none_left]
    | hongKong => simp [accepts_hongKong_iff, none_left]
    | malaysia => exact hints_of_unitedStates route
  | hongKong =>
    obtain ⟨-, cn, us, my⟩ := hints_of_hongKong route
    cases k with
    | hongKong => contradiction
    | aShare => exact cn
    | unitedStates => exact us
    | malaysia =>
      rw [my]
      intro bare
      have four := Malaysia.length_digits (.inr (Malaysia.isBare_iff.2 bare))
      rw [digits_eq_self h.2, h.1] at four
      contradiction
  | malaysia =>
    obtain ⟨-, -, cn, us⟩ := hints_of_malaysia route
    cases k with
    | malaysia => contradiction
    | hongKong => exact absurd ⟨rfl, rfl⟩ exception
    | aShare => exact cn
    | unitedStates => exact us

theorem hongKong_canonical_of_malaysia {code : String} (h : malaysia.IsCanonical code.toList) :
    hongKong.canonical code = .ok (hongKongForm code) := by
  have route : detect code = .ok .malaysia := detectChars_of_isCanonical h
  obtain ⟨-, hk, -⟩ := hints_of_malaysia route
  rw [Malaysia.trim_of_isCanonical h] at hk
  exact (validate_some_eq_accepted_iff.1 hk).2

theorem format_of_isCanonical {m k : Market} {code : String} (h : m.IsCanonical code.toList) :
    k.format code = if m = .malaysia ∧ k = .hongKong then hongKongForm code else code := by
  split_ifs with exception
  · obtain ⟨rfl, rfl⟩ := exception
    exact format_of_canonical (hongKong_canonical_of_malaysia h)
  · by_cases own : k = m
    · subst own
      exact format_of_canonical (canonical_eq_ok_iff.2 (canonicalChars_eq_self h))
    · exact format_of_not_accepts (not_accepts_of_isCanonical h own exception)

theorem formatAll_of_isCanonical {m : Market} {code : String} (h : m.IsCanonical code.toList)
    (ms : List Market) :
    formatAll ms code =
      if m = .malaysia ∧ .hongKong ∈ ms then hongKongForm code else code := by
  induction ms generalizing m code with
  | nil => simp
  | cons k ms ih =>
    rw [formatAll_cons, format_of_isCanonical h]
    by_cases exception : m = .malaysia ∧ k = .hongKong
    · obtain ⟨rfl, rfl⟩ := exception
      -- The code is a Hong Kong one from here on, and those stay.
      have settled := ih (isCanonical_of_canonical (hongKong_canonical_of_malaysia h))
      simpa using settled
    · have : m = .malaysia ∧ .hongKong ∈ k :: ms ↔ m = .malaysia ∧ .hongKong ∈ ms := by
        refine and_congr_right fun hm => ?_
        have : Market.hongKong ≠ k := fun hk => exception ⟨hm, hk.symm⟩
        simp [this]
      simp only [if_neg exception, ih h, this]

theorem formatAll_of_not_accepts {ms : List Market} {s : String}
    (h : ∀ m ∈ ms, ¬ m.accepts s) : formatAll ms s = s := by
  induction ms with
  | nil => rfl
  | cons m ms ih =>
    rw [formatAll_cons, format_of_not_accepts (h m (by simp))]
    exact ih fun k hk => h k (by simp [hk])

end Market

open Market

/-- A text that no market of the list has a code for stays as it is. Otherwise the first that has
one decides, and a second run over a canonical code changes it in one case only. -/
theorem formatAll_settles (ms : List Market) (s : String) :
    ((∀ m ∈ ms, ¬ ∃ code, m.canonical s = .ok code) → formatAll ms s = s) ∧
      (∀ before m after code, ms = before ++ m :: after →
        (∀ k ∈ before, ¬ ∃ code, k.canonical s = .ok code) → m.canonical s = .ok code →
        formatAll ms s =
          if m = .malaysia ∧ .hongKong ∈ after then "0" ++ String.ofList (code.toList.take 4)
          else code) ∧
      (∀ m : Market, m.format (m.format s) = m.format s) ∧
      (∀ m k : Market, s.toList ∈ m.codes →
        k.format s =
          if m = .malaysia ∧ k = .hongKong then "0" ++ String.ofList (s.toList.take 4) else s) := by
  refine ⟨?_, ?_, ?_, ?_⟩
  · intro h
    exact formatAll_of_not_accepts fun m hm => mt accepts_iff.1 (h m hm)
  · rintro before m after code rfl earlier h
    have untouched : formatAll before s = s :=
      formatAll_of_not_accepts fun k hk => mt accepts_iff.1 (earlier k hk)
    rw [formatAll_append, untouched, formatAll_cons, format_of_canonical h]
    exact formatAll_of_isCanonical (isCanonical_of_canonical h) after
  · intro m
    by_cases h : m.accepts s
    · obtain ⟨code, h⟩ := accepts_iff.1 h
      have own : ¬ (m = .malaysia ∧ m = .hongKong) := by
        rintro ⟨rfl, hk⟩
        contradiction
      rw [format_of_canonical h, format_of_isCanonical (isCanonical_of_canonical h), if_neg own]
    · rw [format_of_not_accepts h, format_of_not_accepts h]
  · intro m k h
    exact format_of_isCanonical (mem_codes_iff.1 h)

theorem formatAll_malaysian_code :
    unitedStates.canonical "1155.kl" = .error (.invalidFormat .unitedStates) ∧
      malaysia.canonical "1155.kl" = .ok "1155.KL" ∧
      formatAll [.unitedStates, .malaysia, .aShare, .hongKong] "1155.kl" = "01155" := by
  have us : unitedStates.canonical "1155.kl" = .error (.invalidFormat .unitedStates) := by
    decide +kernel
  have my : malaysia.canonical "1155.kl" = .ok "1155.KL" := by decide +kernel
  refine ⟨us, my, ?_⟩
  exact (formatAll_settles _ "1155.kl").2.1 [.unitedStates] .malaysia [.aShare, .hongKong] "1155.KL"
    rfl (by simp [us]) my

end Ticker
