import Ticker.Proofs.CodeLaws

namespace Ticker

namespace Text

def number (ds : List Char) : Nat := Nat.ofDigitChars 10 ds 0

def digitValue (d : Char) : Nat := d.toNat - '0'.toNat

theorem digitValue_lt {d : Char} (h : d.isDigit) : digitValue d < 10 := by
  have := (Char.isDigit_iff_toNat.1 h).2
  simp only [digitValue, Char.reduceToNat] at this ⊢
  omega

theorem digitChar_digitValue {d : Char} (h : d.isDigit) : (digitValue d).digitChar = d := by
  have := (Char.isDigit_iff_toNat.1 h).1
  rw [← Char.toNat_inj, Nat.toNat_digitChar_of_lt_ten (digitValue_lt h)]
  simp only [digitValue, Char.reduceToNat] at this ⊢
  omega

section Digits

variable {ds es : List Char}

theorem number_eq_ofDigits (ds : List Char) :
    number ds = Nat.ofDigits 10 (ds.map digitValue).reverse := by
  induction ds using List.reverseRecOn with
  | nil => rfl
  | append_singleton ds d ih =>
    rw [number, Nat.ofDigitChars_append, ← number, ih, Nat.ofDigitChars_cons, Nat.ofDigitChars_nil,
      List.map_append, List.map_singleton, List.reverse_concat, Nat.ofDigits_cons, add_comm]
    rfl

theorem number_leftpad (width : Nat) (ds : List Char) :
    number (ds.leftpad width '0') = number ds := by
  rw [number, List.leftpad, Nat.ofDigitChars_append, Nat.ofDigitChars_replicate_zero, mul_zero,
    number]

theorem digitValues_lt (h : ∀ d ∈ ds, d.isDigit) : ∀ n ∈ (ds.map digitValue).reverse, n < 10 := by
  intro n hn
  obtain ⟨d, hd, rfl⟩ := List.mem_map.1 (List.mem_reverse.1 hn)
  exact digitValue_lt (h d hd)

theorem map_digitChar_digitValue (h : ∀ d ∈ ds, d.isDigit) :
    (ds.map digitValue).map Nat.digitChar = ds := by
  rw [List.map_map]
  exact (List.map_congr_left fun d hd => digitChar_digitValue (h d hd)).trans (List.map_id ds)

theorem number_lt (h : ∀ d ∈ ds, d.isDigit) : number ds < 10 ^ ds.length := by
  rw [number_eq_ofDigits]
  simpa using Nat.ofDigits_lt_base_pow_length (by decide) (digitValues_lt h)

theorem eq_of_number_eq (hds : ∀ d ∈ ds, d.isDigit) (hes : ∀ d ∈ es, d.isDigit)
    (len : ds.length = es.length) (same : number ds = number es) : ds = es := by
  rw [number_eq_ofDigits, number_eq_ofDigits] at same
  -- Values of one count are told apart by the number, and digits are read back from their values.
  have values : (ds.map digitValue).reverse = (es.map digitValue).reverse :=
    Nat.ofDigits_inj_of_len_eq (by decide) (by simpa using len) (digitValues_lt hds)
      (digitValues_lt hes) same
  rw [← map_digitChar_digitValue hds, List.reverse_injective values, map_digitChar_digitValue hes]

end Digits

end Text

open Text Market

namespace HongKong

variable {cs code code' : List Char}

theorem number_of_canonical (h : canonical cs = .ok code) : number code = number (digits cs) := by
  obtain ⟨-, rfl⟩ := canonical_eq_ok_iff.1 h
  exact number_leftpad 5 _

theorem number_le_of_isCanonical (h : IsCanonical code) : number code ≤ 99999 := by
  have := number_lt h.2
  rw [h.1] at this
  omega

theorem eq_iff_number_eq (h : IsCanonical code) (h' : IsCanonical code') :
    code = code' ↔ number code = number code' :=
  ⟨congrArg number, eq_of_number_eq h.2 h'.2 (h.1.trans h'.1.symm)⟩

end HongKong

namespace Market

variable {s t code code' : String}

theorem hongKong_canonical_eq_ok_iff :
    hongKong.canonical s = .ok code ↔
      (1 ≤ (digits s.toList).length ∧ (digits s.toList).length ≤ 5) ∧
        (digits s.toList).leftpad 5 '0' = code.toList :=
  canonical_eq_ok_iff.trans HongKong.canonical_eq_ok_iff

theorem number_of_hongKong (h : hongKong.canonical s = .ok code) :
    number code.toList = number (digits s.toList) :=
  HongKong.number_of_canonical (canonical_eq_ok_iff.1 h)

theorem hongKong_code_eq_iff (h : hongKong.canonical s = .ok code)
    (h' : hongKong.canonical t = .ok code') :
    code = code' ↔ number code.toList = number code'.toList := by
  rw [← String.toList_inj]
  exact HongKong.eq_iff_number_eq (isCanonical_of_canonical h) (isCanonical_of_canonical h')

theorem exists_hongKong_code {n : Nat} (h : n ≤ 99999) :
    ∃ code, hongKong.canonical n.repr = .ok code ∧ number code.toList = n := by
  have own : digits n.repr.toList = Nat.toDigits 10 n := by
    rw [Nat.toList_repr]
    exact digits_eq_self fun d hd => Nat.isDigit_of_mem_toDigits (by decide) (by decide) hd
  have long : 1 ≤ (Nat.toDigits 10 n).length := Nat.length_toDigits_pos
  have short : (Nat.toDigits 10 n).length ≤ 5 :=
    (Nat.length_toDigits_le_iff (by decide) (by decide)).2 (by omega)
  have accepted :
      hongKong.canonical n.repr = .ok (String.ofList ((Nat.toDigits 10 n).leftpad 5 '0')) := by
    rw [hongKong_canonical_eq_ok_iff, own, String.toList_ofList]
    exact ⟨⟨long, short⟩, rfl⟩
  refine ⟨_, accepted, ?_⟩
  rw [number_of_hongKong accepted, own, number, Nat.ofDigitChars_ten_toDigits]

theorem existsUnique_hongKong_code_iff {n : Nat} :
    (∃! code : String, (∃ s, hongKong.canonical s = .ok code) ∧ number code.toList = n) ↔
      n ≤ 99999 := by
  constructor
  · rintro ⟨code, ⟨⟨s, h⟩, rfl⟩, -⟩
    exact HongKong.number_le_of_isCanonical (isCanonical_of_canonical h)
  · intro h
    obtain ⟨code, own, value⟩ := exists_hongKong_code h
    refine ⟨code, ⟨⟨_, own⟩, value⟩, ?_⟩
    rintro other ⟨⟨t, accepted⟩, same⟩
    exact (hongKong_code_eq_iff accepted own).2 (same.trans value.symm)

end Market

/-- A text is accepted by the count of its digits. Its code is their number in five digits, so texts
have one code when they have one number, and each number of five digits has one code. -/
theorem hongKong_codes_are_numbers :
    (∀ s : String,
      ((∃ code, hongKong.canonical s = .ok code) ↔
        1 ≤ (digits s.toList).length ∧ (digits s.toList).length ≤ 5) ∧
      (hongKong.canonical s = .error (.invalidFormat .hongKong) ↔
        ¬ (1 ≤ (digits s.toList).length ∧ (digits s.toList).length ≤ 5)) ∧
      ∀ code, hongKong.canonical s = .ok code →
        code.length = 5 ∧ (∀ c ∈ code.toList, c.isDigit) ∧
        (∃ zeros, code.toList = List.replicate zeros '0' ++ digits s.toList) ∧
        number code.toList = number (digits s.toList)) ∧
    (∀ s t code code', hongKong.canonical s = .ok code → hongKong.canonical t = .ok code' →
      (hongKong.canonical s = hongKong.canonical t ↔
        number (digits s.toList) = number (digits t.toList))) ∧
    ∀ n, (∃! code : String, (∃ s, hongKong.canonical s = .ok code) ∧ number code.toList = n) ↔
      n ≤ 99999 := by
  refine ⟨fun s => ⟨?_, ?_, ?_⟩, ?_, fun n => existsUnique_hongKong_code_iff⟩
  · constructor
    · rintro ⟨code, h⟩
      exact (hongKong_canonical_eq_ok_iff.1 h).1
    · intro count
      exact ⟨_, hongKong_canonical_eq_ok_iff.2 ⟨count, (String.toList_ofList).symm⟩⟩
  · rw [canonical_eq_error_iff]
    exact HongKong.canonical_eq_error_iff.trans (and_iff_left rfl)
  · intro code h
    obtain ⟨len, dig⟩ := isCanonical_of_canonical h
    exact ⟨len, dig, ⟨_, (hongKong_canonical_eq_ok_iff.1 h).2.symm⟩, number_of_hongKong h⟩
  · intro s t code code' h h'
    rw [← number_of_hongKong h, ← number_of_hongKong h', ← hongKong_code_eq_iff h h', h, h',
      Except.ok.injEq]

theorem noise_and_zeros_around_700 :
    hongKong.canonical "HK 7-00" = .ok "00700" ∧ hongKong.canonical "0700.HK" = .ok "00700" ∧
      number (digits "HK 7-00".toList) = number (digits "0700.HK".toList) := by
  have spaced : hongKong.canonical "HK 7-00" = .ok "00700" := by decide +kernel
  have dotted : hongKong.canonical "0700.HK" = .ok "00700" := by decide +kernel
  exact ⟨spaced, dotted,
    (hongKong_codes_are_numbers.2.1 _ _ _ _ spaced dotted).1 (spaced.trans dotted.symm)⟩

end Ticker
