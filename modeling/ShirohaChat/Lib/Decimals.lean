import Mathlib.Algebra.Order.Ring.Nat
import Mathlib.Data.List.Lex
import Mathlib.Tactic.Ring

/-!
# Dotted decimal numbers in text order

Two numbers joined by a dot are compared as texts with one whose parts are single
digits.  A dot comes before every digit, so what decides is the leading digit of
the first number and, where the first numbers are equal, that of the second.
-/

set_option autoImplicit false

namespace Decimals

def leadingDigit (number : Nat) : Nat :=
  if number < 10 then number else leadingDigit (number / 10)
termination_by number
decreasing_by omega

theorem leadingDigit_of_lt {number : Nat} (small : number < 10) :
    leadingDigit number = number := by
  rw [leadingDigit, if_pos small]

theorem leadingDigit_of_le {number : Nat} (large : 10 ≤ number) :
    leadingDigit number = leadingDigit (number / 10) := by
  rw [leadingDigit, if_neg (by omega)]

theorem leadingDigit_lt (number : Nat) : leadingDigit number < 10 := by
  induction number using leadingDigit.induct with
  | case1 number small => rwa [leadingDigit_of_lt small]
  | case2 number large ih => rwa [leadingDigit_of_le (by omega)]

theorem leadingDigit_eq_zero_iff (number : Nat) : leadingDigit number = 0 ↔ number = 0 := by
  induction number using leadingDigit.induct with
  | case1 number small => rw [leadingDigit_of_lt small]
  | case2 number large ih =>
      rw [leadingDigit_of_le (by omega), ih]
      omega

theorem le_div_ten_iff (digit power number : Nat) :
    digit * 10 ^ power ≤ number / 10 ↔ digit * 10 ^ (power + 1) ≤ number := by
  rw [Nat.le_div_iff_mul_le (by omega), pow_succ, mul_assoc]

theorem div_ten_lt_iff (digit power number : Nat) :
    number / 10 < digit * 10 ^ power ↔ number < digit * 10 ^ (power + 1) := by
  rw [Nat.div_lt_iff_lt_mul (by omega), pow_succ, mul_assoc]

/-- The numbers that start with a digit lie between its multiple of a power of
ten and the next one. -/
theorem leadingDigit_eq_iff {digit : Nat} (positive : 0 < digit) (oneDigit : digit < 10)
    (number : Nat) :
    leadingDigit number = digit ↔
      ∃ power, digit * 10 ^ power ≤ number ∧ number < (digit + 1) * 10 ^ power := by
  induction number using leadingDigit.induct with
  | case1 number small =>
      rw [leadingDigit_of_lt small]
      constructor
      · intro same
        exact ⟨0, by omega, by omega⟩
      · rintro ⟨power, atLeast, below⟩
        cases power with
        | zero => omega
        | succ power =>
            have ten : 10 ≤ 10 ^ (power + 1) := Nat.le_self_pow (by omega) 10
            have more : 10 ^ (power + 1) ≤ digit * 10 ^ (power + 1) :=
              Nat.le_mul_of_pos_left _ positive
            omega
  | case2 number large ih =>
      rw [leadingDigit_of_le (by omega), ih]
      constructor
      · rintro ⟨power, atLeast, below⟩
        exact ⟨power + 1, (le_div_ten_iff digit power number).mp atLeast,
          (div_ten_lt_iff (digit + 1) power number).mp below⟩
      · rintro ⟨power, atLeast, below⟩
        cases power with
        | zero => omega
        | succ power =>
            exact ⟨power, (le_div_ten_iff digit power number).mpr atLeast,
              (div_ten_lt_iff (digit + 1) power number).mpr below⟩

/-! ## Texts -/

/-- Where the number has more than one digit, another digit follows. -/
theorem toDigits_eq_leadingDigit (number : Nat) :
    ∃ tail, Nat.toDigits 10 number = (leadingDigit number).digitChar :: tail ∧
      (number < 10 → tail = []) ∧
      (10 ≤ number → ∃ digit more, digit < 10 ∧ tail = Nat.digitChar digit :: more) := by
  induction number using leadingDigit.induct with
  | case1 number small =>
      rw [Nat.toDigits_of_lt_base small, leadingDigit_of_lt small]
      exact ⟨[], rfl, fun _ => rfl, fun large => absurd small (by omega)⟩
  | case2 number large ih =>
      obtain ⟨tail, split, alone, followed⟩ := ih
      have last : number % 10 < 10 := Nat.mod_lt _ (by omega)
      have atLeast : 10 ≤ number := by omega
      rw [Nat.toDigits_of_base_le (by omega) atLeast, split, leadingDigit_of_le atLeast]
      refine ⟨tail ++ [(number % 10).digitChar], rfl, fun small => absurd small large, ?_⟩
      intro _
      by_cases short : number / 10 < 10
      · exact ⟨number % 10, [], last, by rw [alone short]; rfl⟩
      · obtain ⟨digit, more, oneDigit, shape⟩ := followed (by omega)
        exact ⟨digit, more ++ [(number % 10).digitChar], oneDigit, by rw [shape]; rfl⟩

def dotted (first second : Nat) : List Char :=
  Nat.toDigits 10 first ++ '.' :: Nat.toDigits 10 second

theorem dotted_ascii {first second : Nat} :
    ∀ character ∈ dotted first second, character.toNat < 0x80 := by
  intro character member
  have digits : ∀ number, character ∈ Nat.toDigits 10 number → character.toNat < 0x80 := by
    intro number digit
    have isDigit := Nat.isDigit_of_mem_toDigits (by omega) (by omega) digit
    simp only [Char.isDigit, Bool.and_eq_true, decide_eq_true_eq] at isDigit
    have most : character.toNat ≤ 57 := isDigit.2
    omega
  rw [dotted, List.mem_append, List.mem_cons] at member
  rcases member with inFirst | dot | inSecond
  · exact digits first inFirst
  · rw [dot]
    decide
  · exact digits second inSecond

theorem dotted_lt_iff {leastFirst leastSecond : Nat} (firstDigit : leastFirst < 10)
    (secondDigit : leastSecond < 10) (first second : Nat) :
    (dotted first second).map Char.toNat < (dotted leastFirst leastSecond).map Char.toNat ↔
      leadingDigit first < leastFirst ∨
        (first = leastFirst ∧ leadingDigit second < leastSecond) := by
  obtain ⟨firstTail, firstText, alone, followed⟩ := toDigits_eq_leadingDigit first
  obtain ⟨secondTail, secondText, -, -⟩ := toDigits_eq_leadingDigit second
  have firstCode := Nat.toNat_digitChar_of_lt_ten (leadingDigit_lt first)
  have secondCode := Nat.toNat_digitChar_of_lt_ten (leadingDigit_lt second)
  have leastFirstCode := Nat.toNat_digitChar_of_lt_ten firstDigit
  have leastSecondCode := Nat.toNat_digitChar_of_lt_ten secondDigit
  have dot : Char.toNat '.' = 46 := rfl
  rw [dotted, dotted, firstText, secondText, Nat.toDigits_of_lt_base firstDigit,
    Nat.toDigits_of_lt_base secondDigit]
  by_cases single : first < 10
  · rw [leadingDigit_of_lt single] at firstCode
    rw [alone single, leadingDigit_of_lt single]
    simp only [List.cons_append, List.nil_append, List.map_cons, List.map_nil,
      List.cons_lt_cons_iff, firstCode, secondCode, leastFirstCode, leastSecondCode, dot,
      List.not_lt_nil, true_and, and_false, or_false]
    omega
  · obtain ⟨digit, more, oneDigit, shape⟩ := followed (by omega)
    have code := Nat.toNat_digitChar_of_lt_ten oneDigit
    have other : first ≠ leastFirst := by omega
    rw [shape]
    simp only [List.cons_append, List.nil_append, List.map_cons, List.map_nil,
      List.cons_lt_cons_iff, firstCode, code, leastFirstCode, dot]
    omega

end Decimals
