import Ticker.Proofs.Causes
import Ticker.Proofs.Formatting
import Ticker.Proofs.MessageLaws

namespace Ticker

open Text Unicode

namespace Verdict

/-- A market and a code, or else a cause and a message that says something. -/
structure Coherent (l : Language) (v : Verdict) : Prop where
  parts :
    [v.isAccepted = true, v.market?.isSome = true, v.code?.isSome = true, v.message? l = none,
      v.cause? = none].TFAE
  message : ∀ cause, v.cause? = some cause →
    v.message? l = some (cause.message l) ∧ cause.message l ≠ ""

theorem coherent (l : Language) (v : Verdict) : v.Coherent l := by
  cases v with
  | accepted m code =>
    constructor
    · exact List.tfae_of_forall True _ (by simp [isAccepted, market?, code?, message?, cause?])
    · rintro _ ⟨⟩
  | rejected cause =>
    constructor
    · exact List.tfae_of_forall False _ (by simp [isAccepted, market?, code?, message?, cause?])
    · rintro _ ⟨⟩
      exact ⟨rfl, cause.message_ne_empty l⟩

end Verdict

section Routes

variable {s : String} {m : Market}

theorem verdict_eq_accepted_iff {k : Market} {code : String} :
    m.verdict s = .accepted k code ↔ k = m ∧ m.canonical s = .ok code := by
  rw [Market.verdict]
  cases m.canonical s <;> simp [Verdict.ofCanonical, eq_comm]

theorem validate_some_of_visible (visible : isBlank s.toList = false) :
    validate s (some m) = m.verdict s := by
  simp [validate, visible]

theorem verdict_of_isBlank (blank : isBlank s.toList) :
    m.verdict s = .rejected (.invalidFormat m) :=
  verdict_eq_rejected_iff.2 (Market.canonical_eq_error_iff.2 (m.canonicalChars_of_isBlank blank))

theorem format_of_no_canonical (h : ∀ code, m.canonical s ≠ .ok code) : m.format s = s := by
  refine Market.format_of_not_accepts fun accepts => ?_
  obtain ⟨code, own⟩ := Market.accepts_iff.1 accepts
  exact h code own

end Routes

/-- With a hint, by the market itself, by formatting, or by detection where it finds the market: a
text is judged in one way. Only blank texts are told apart, by their cause. -/
theorem routes_agree (s : String) (m : Market) (l : Language) :
    ((∃ c ∈ s.toList, isWhiteSpace c = false) → validate s (some m) = m.verdict s) ∧
      ((∀ c ∈ s.toList, isWhiteSpace c) →
        validate s (some m) = .rejected .emptyInput ∧ m.verdict s = .rejected (.invalidFormat m)) ∧
      (∀ v ∈ [validate s (some m), m.verdict s], ∀ k code,
        v = .accepted k code ↔ k = m ∧ m.canonical s = .ok code) ∧
      (∀ code, m.canonical s = .ok code → m.format s = code) ∧
      ((∀ code, m.canonical s ≠ .ok code) → m.format s = s) ∧
      (∀ k, detect s = .ok k → validate s none = validate s (some k)) ∧
      (∀ cause, detect s = .error cause → validate s none = .rejected cause) ∧
      ∀ v ∈ [validate s (some m), m.verdict s, validate s none], v.Coherent l := by
  refine ⟨?_, ?_, ?_, fun _ => Market.format_of_canonical, format_of_no_canonical,
    fun _ => validate_none_of_ok, fun _ => validate_none_of_error, fun v _ => v.coherent l⟩
  · rintro ⟨c, hc, visible⟩
    exact validate_some_of_visible (not_isBlank_of_mem hc visible)
  · intro white
    have blank : isBlank s.toList := List.all_eq_true.2 white
    exact ⟨validate_blank blank _, verdict_of_isBlank blank⟩
  · intro v among k code
    simp only [List.mem_cons, List.not_mem_nil, or_false] at among
    rcases among with rfl | rfl
    · exact validate_some_eq_accepted_iff
    · exact verdict_eq_accepted_iff

theorem routes_of_four_digits_and_of_none :
    (validate "5347" (some .malaysia) = Market.malaysia.verdict "5347" ∧
        Market.malaysia.format "5347" = "5347.KL" ∧
        validate "5347" none = validate "5347" (some .hongKong)) ∧
      validate " \u3000" (some .malaysia) = .rejected .emptyInput ∧
      Market.malaysia.verdict " \u3000" = .rejected (.invalidFormat .malaysia) := by
  have visible : ∃ c ∈ "5347".toList, isWhiteSpace c = false := ⟨'5', by decide, by decide⟩
  have code : Market.malaysia.canonical "5347" = .ok "5347.KL" := by decide +kernel
  have route : detect "5347" = .ok .hongKong := by decide +kernel
  have white : ∀ c ∈ " \u3000".toList, isWhiteSpace c := List.forall_iff_forall_mem.1 (by decide)
  obtain ⟨same, -, -, formatted, -, detected, -⟩ := routes_agree "5347" .malaysia .english
  exact ⟨⟨same visible, formatted _ code, detected _ route⟩,
    (routes_agree " \u3000" .malaysia .english).2.1 white⟩

end Ticker
