import Liveness.Text.Numeral
import Mathlib.Data.Nat.Basic

/-! Which texts are read as decimal numerals: digits with any zeros before them, behind a plus sign or
none, as long as their number is within the bound. -/
namespace Liveness.Text

def IsNumeral (s : List Char) (n : Nat) : Prop :=
  ∃ digits, (s = digits ∨ s = '+' :: digits) ∧ digits ≠ [] ∧ (∀ c ∈ digits, c.isDigit) ∧
    Nat.ofDigitChars 10 digits 0 = n

variable {c : Char} {s : List Char} {max value n : Nat}

/-- The letters stand for ten and more, so no decimal numeral holds them. -/
theorem digit?_eq_none (h : c.isDigit = false) : digit? 10 c = none := by
  have hrange : ¬ (0x30 ≤ c.toNat ∧ c.toNat ≤ 0x39) := by
    intro hc
    have hdigit : c.isDigit = true := by
      rw [Char.isDigit, Bool.and_eq_true, decide_eq_true_eq, decide_eq_true_eq]
      exact hc
    rw [h] at hdigit
    nomatch hdigit
  unfold digit?
  simp only [Bool.and_eq_true, decide_eq_true_eq, if_neg hrange]
  split_ifs with hlower hupper
  · rw [Option.filter_some, if_neg]
    rw [decide_eq_true_eq]
    omega
  · rw [Option.filter_some, if_neg]
    rw [decide_eq_true_eq]
    omega
  · rfl

/-- More digits never make a number less. -/
theorem le_ofDigitChars : value ≤ Nat.ofDigitChars 10 s value := by
  rw [Nat.ofDigitChars_eq_ofDigitChars_zero]
  have hpow : 0 < 10 ^ s.length := Nat.pow_pos (by decide)
  have hvalue := Nat.le_mul_of_pos_left value hpow
  omega

theorem readDigits_eq_ok_iff (hvalue : value ≤ max) : readDigits 10 max value s = .ok n ↔
    (∀ c ∈ s, c.isDigit) ∧ Nat.ofDigitChars 10 s value = n ∧ n ≤ max := by
  induction s generalizing value with
  | nil =>
    rw [readDigits, Except.ok.injEq, Nat.ofDigitChars_nil]
    constructor
    · rintro rfl
      exact ⟨List.forall_mem_nil _, rfl, hvalue⟩
    · exact fun h => h.2.1
  | cons c s ih =>
    rw [readDigits, List.forall_mem_cons, Nat.ofDigitChars_cons]
    cases hdigit : c.isDigit with
    | false => simp [digit?_eq_none hdigit]
    | true =>
      have hnext : 10 * value + (c.toNat - '0'.toNat) = value * 10 + (c.toNat - 0x30) := by
        rw [Nat.mul_comm]
        rfl
      rw [(digit?_of_isDigit hdigit).1, hnext]
      dsimp only
      split_ifs with hle
      · rw [ih hle]
        simp only [true_and]
      · -- A number that is too large stays so, whatever digits follow.
        have hgrows : value * 10 + (c.toNat - 0x30) ≤ _ := le_ofDigitChars (s := s)
        constructor
        · intro h
          cases h
        · rintro ⟨-, rfl, hmax⟩
          exact absurd (Nat.le_trans hgrows hmax) hle

theorem readNumeral_eq_ok_iff : readNumeral max s = .ok n ↔ IsNumeral s n ∧ n ≤ max := by
  have hread (digits : List Char) := @readDigits_eq_ok_iff digits max 0 n (Nat.zero_le max)
  have hplus : '+'.isDigit = false := by decide
  unfold readNumeral IsNumeral
  constructor
  · intro h
    split at h
    · nomatch h
    · nomatch h
    next digits hne =>
      obtain ⟨hdigits, hvalue, hmax⟩ := (hread digits).1 h
      exact ⟨⟨digits, .inr rfl, fun hnil => hne (by rw [hnil]), hdigits, hvalue⟩, hmax⟩
    next hnil hplus hsign =>
      obtain ⟨hdigits, hvalue, hmax⟩ := (hread s).1 h
      exact ⟨⟨s, .inl rfl, hnil, hdigits, hvalue⟩, hmax⟩
  · rintro ⟨⟨digits, rfl | rfl, hne, hdigits, hvalue⟩, hmax⟩
    · have hok := (hread s).2 ⟨hdigits, hvalue, hmax⟩
      split
      · exact absurd rfl hne
      · rw [hdigits '+' List.mem_cons_self] at hplus
        nomatch hplus
      · rw [hdigits '+' List.mem_cons_self] at hplus
        nomatch hplus
      · exact hok
    · have hok := (hread digits).2 ⟨hdigits, hvalue, hmax⟩
      cases digits with
      | nil => exact absurd rfl hne
      | cons d digits => exact hok

theorem IsNumeral.of_mem (h : IsNumeral s n) (hc : c ∈ s) : c = '+' ∨ c.isDigit := by
  obtain ⟨digits, rfl | rfl, -, hdigits, -⟩ := h
  · exact .inr (hdigits c hc)
  · exact (List.mem_cons.1 hc).imp_right (hdigits c)

theorem isNumeral_toDigits : IsNumeral (Nat.toDigits 10 n) n := by
  have hdigits : ∀ c ∈ Nat.toDigits 10 n, c.isDigit :=
    fun _ hc => Nat.isDigit_of_mem_toDigits (by decide) (by decide) hc
  exact ⟨_, .inl rfl, Nat.toDigits_ne_nil, hdigits, Nat.ofDigitChars_ten_toDigits⟩

end Liveness.Text
