import LoadLadder.Text.Digits
import Mathlib.Data.List.Forall2
import Mathlib.Data.Nat.Digits.Defs

/-!
# Numerals

A numeral is a run of digits, and denotes the number with these digits in its radix.
This file says which characters are digits and what a run of them denotes, and shows
that the digits of a number, as they are written, denote this number again.
-/

namespace LoadLadder.Text

variable {radix value number : Nat} {char : Char} {digits : List Char}

/-- A character is the digit of a value in a radix; letters count in either case. -/
def IsDigit (radix : Nat) (char : Char) (value : Nat) : Prop :=
  value < radix ∧ (char = lowerDigit value ∨ char = upperDigit value)

/-- A run of digits denotes a number in a radix, the digit in front weighing most. -/
def Denotes (radix : Nat) (digits : List Char) (number : Nat) : Prop :=
  ∃ values, List.Forall₂ (IsDigit radix) digits values ∧
    Nat.ofDigits radix values.reverse = number

/-- Digits are characters of the first half of a byte's range. -/
theorem toNat_lt_of_digitValue? (has : digitValue? radix char = some value) :
    char.toNat < 128 := by
  by_contra high
  have decimal : ¬ char.toNat ≤ 57 := by omega
  have lower : ¬ char.toNat ≤ 102 := by omega
  have upper : ¬ char.toNat ≤ 70 := by omega
  simp [digitValue?, decimal, lower, upper] at has

theorem digitValue?_sixteen_iff :
    digitValue? 16 char = some value ↔
      value < 16 ∧ (char = lowerDigit value ∨ char = upperDigit value) := by
  constructor
  · intro has
    have table : ∀ code < 128, ∀ value < 16,
        digitValue? 16 (Char.ofNat code) = some value →
          Char.ofNat code = lowerDigit value ∨ Char.ofNat code = upperDigit value := by
      decide +kernel
    have small := digitValue?_lt has
    have found := table char.toNat (toNat_lt_of_digitValue? has) value small
    rw [Char.ofNat_toNat] at found
    exact ⟨small, found has⟩
  · rintro ⟨small, digit⟩
    have table : ∀ value < 16, digitValue? 16 (lowerDigit value) = some value ∧
        digitValue? 16 (upperDigit value) = some value := by
      decide
    obtain ⟨lower, upper⟩ := table value small
    rcases digit with rfl | rfl
    · exact lower
    · exact upper

/-- A smaller radix has the same digits, but fewer. -/
theorem digitValue?_narrow_iff (narrow : radix ≤ 16) :
    digitValue? radix char = some value ↔
      digitValue? 16 char = some value ∧ value < radix := by
  simp only [digitValue?, Option.bind_eq_some_iff]
  constructor
  · rintro ⟨raw, has, kept⟩
    split at kept
    · rename_i small
      cases kept
      exact ⟨⟨_, has, if_pos (by omega)⟩, small⟩
    · contradiction
  · rintro ⟨⟨raw, has, kept⟩, small⟩
    split at kept
    · cases kept
      exact ⟨_, has, if_pos small⟩
    · contradiction

theorem digitValue?_eq_some_iff (narrow : radix ≤ 16) :
    digitValue? radix char = some value ↔ IsDigit radix char value := by
  rw [digitValue?_narrow_iff narrow, digitValue?_sixteen_iff, IsDigit]
  constructor
  · rintro ⟨⟨-, digit⟩, small⟩
    exact ⟨small, digit⟩
  · rintro ⟨small, digit⟩
    exact ⟨⟨by omega, digit⟩, small⟩

/-- The number that digits of given values make when they are put behind another
number. -/
def extend (radix number : Nat) (values : List Nat) : Nat :=
  values.foldl (fun number value => radix * number + value) number

theorem extend_zero (radix : Nat) (values : List Nat) :
    extend radix 0 values = Nat.ofDigits radix values.reverse := by
  rw [Nat.ofDigits_eq_foldr, List.foldr_reverse, extend]
  congr 1
  funext number value
  simp [Nat.add_comm]

theorem extend_append (radix number : Nat) (front back : List Nat) :
    extend radix number (front ++ back) =
      extend radix (extend radix number front) back :=
  List.foldl_append

theorem le_extend (positive : 0 < radix) (number : Nat) (values : List Nat) :
    number ≤ extend radix number values := by
  induction values generalizing number with
  | nil => exact Nat.le_refl number
  | cons value values ih =>
      have grown : number ≤ radix * number := Nat.le_mul_of_pos_left number positive
      have rest : radix * number + value ≤ extend radix number (value :: values) :=
        ih (radix * number + value)
      omega

theorem denotes_iff_extend :
    Denotes radix digits number ↔
      ∃ values, List.Forall₂ (IsDigit radix) digits values ∧
        extend radix 0 values = number := by
  simp only [Denotes, extend_zero]

/-- The value of a run of digits, as it is read, is what the run denotes. -/
theorem valueOf_of_denotes (narrow : radix ≤ 16) (denotes : Denotes radix digits number) :
    valueOf radix digits = number := by
  obtain ⟨values, are, rfl⟩ := denotes_iff_extend.mp denotes
  have general (front : Nat) :
      digits.foldl (fun value char => radix * value + (digitValue? radix char).getD 0)
        front = extend radix front values := by
    clear denotes
    induction are generalizing front with
    | nil => rfl
    | cons digit rest ih =>
        have has := (digitValue?_eq_some_iff narrow).mpr digit
        simp only [List.foldl_cons, has, Option.getD_some, ih]
        rfl
  exact general 0

theorem denotes_decimal (number : Nat) : Denotes 10 (decimal number) number := by
  apply denotes_iff_extend.mpr
  induction number using decimal.induct with
  | case1 number small =>
      rw [decimal, if_pos small]
      refine ⟨[number], .cons ⟨small, Or.inl rfl⟩ .nil, ?_⟩
      simp [extend]
  | case2 number large ih =>
      obtain ⟨values, are, same⟩ := ih
      rw [decimal, if_neg large]
      have last : List.Forall₂ (IsDigit 10) [lowerDigit (number % 10)] [number % 10] :=
        .cons ⟨Nat.mod_lt number (by decide), Or.inl rfl⟩ .nil
      refine ⟨values ++ [number % 10], List.rel_append are last, ?_⟩
      rw [extend_append, same]
      exact Nat.div_add_mod number 10

theorem isDigit_lowerDigit {value : Nat} (small : value < 10) :
    (lowerDigit value).isDigit = true := by
  revert value
  decide

theorem isDigit_of_mem_decimal (number : Nat) (member : char ∈ decimal number) :
    char.isDigit = true := by
  induction number using decimal.induct with
  | case1 number small =>
      rw [decimal, if_pos small, List.mem_singleton] at member
      rw [member]
      exact isDigit_lowerDigit small
  | case2 number large ih =>
      rw [decimal, if_neg large, List.mem_append, List.mem_singleton] at member
      rcases member with earlier | rfl
      · exact ih earlier
      · exact isDigit_lowerDigit (Nat.mod_lt number (by decide))

/-- Only zero is written with a zero in front. -/
theorem decimal_cases (number : Nat) :
    ∃ digit digits, decimal number = digit :: digits ∧
      (0 < number → digit ≠ '0') := by
  induction number using decimal.induct with
  | case1 number small =>
      refine ⟨lowerDigit number, [], ?_, ?_⟩
      · rw [decimal, if_pos small]
      · revert number
        decide
  | case2 number large ih =>
      obtain ⟨digit, digits, same, front⟩ := ih
      refine ⟨digit, digits ++ [lowerDigit (number % 10)], ?_, ?_⟩
      · rw [decimal, if_neg large, same, List.cons_append]
      · intro _
        exact front (by omega)

end LoadLadder.Text
