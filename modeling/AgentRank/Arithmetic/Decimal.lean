import Mathlib.Algebra.Order.Field.Rat
import Mathlib.Data.Nat.Log
import Mathlib.Data.Rat.Cast.Defs
import Mathlib.Tactic.FieldSimp
import Mathlib.Tactic.NormNum
import Mathlib.Tactic.Positivity
import Mathlib.Tactic.Push
import Mathlib.Tactic.Ring

/-!
# Decimal arithmetic

This module defines decimal floating point numbers and the operations on them that a
program uses to move a decimal point: a number is a sign, a coefficient and an exponent, and
an operation works in a context that bounds the digits and the exponents of its results.

The context signals what it cannot hold.  Here every signal is an error, so that a result
that is returned is exact.
-/

namespace AgentRank.Arithmetic

/-- A finite decimal number: a sign, a coefficient, and the exponent of its last digit. -/
structure Decimal where
  negative : Bool
  coefficient : Nat
  exponent : Int
deriving DecidableEq

/-- What an operation signals in place of a result. -/
inductive DecimalException
  | invalidOperation
  | overflow
  | rounded
deriving DecidableEq

/-- The bounds that a result is kept in. -/
structure DecimalContext where
  precision : Nat
  emin : Int
  emax : Int

/-- The exponent of the last digit of the smallest numbers. -/
def DecimalContext.etiny (context : DecimalContext) : Int :=
  context.emin - (context.precision - 1)

namespace Decimal

def ofInt (value : Int) : Decimal where
  negative := value < 0
  coefficient := value.natAbs
  exponent := 0

/-- The coefficient with its sign. -/
def signed (figure : Decimal) : Int :=
  if figure.negative then -figure.coefficient else figure.coefficient

/-- The number itself. -/
def value (figure : Decimal) : ℚ :=
  figure.signed * 10 ^ figure.exponent

/-- How many digits the coefficient is written with. -/
def digits (figure : Decimal) : Nat :=
  Nat.log 10 figure.coefficient + 1

/-- The exponent of the first digit. -/
def adjusted (figure : Decimal) : Int :=
  figure.exponent + figure.digits - 1

/-- A comparison with zero.  There is a negative zero, which is not below it. -/
def isNegative (figure : Decimal) : Bool :=
  figure.negative && figure.coefficient != 0

/-- Exact equality of numbers, whatever their exponents. -/
def equal (first second : Decimal) : Bool :=
  let low := min first.exponent second.exponent
  first.signed * 10 ^ (first.exponent - low).toNat ==
    second.signed * 10 ^ (second.exponent - low).toNat

/-- A result brought within its context. -/
def finalize (context : DecimalContext) (figure : Decimal) : Except DecimalException Decimal :=
  if figure.coefficient = 0 then
    -- A zero is clamped, which nothing traps.
    .ok { figure with exponent := max context.etiny (min figure.exponent context.emax) }
  else if context.emax < figure.adjusted then
    .error .overflow
  else if figure.adjusted < context.emin ∧ figure.exponent < context.etiny then
    .error .rounded
  else if context.precision < figure.digits then
    .error .rounded
  else
    .ok figure

/-- `scaleb`: the decimal point is moved. -/
def scaleb (context : DecimalContext) (figure : Decimal) (places : Int) :
    Except DecimalException Decimal :=
  if 2 * (context.emax + context.precision) < |places| then
    .error .invalidOperation
  else
    finalize context { figure with exponent := figure.exponent + places }

/-- A quotient rounded to the nearest number, to the even one of two that are equally near. -/
def roundHalfEven (amount unit : Nat) : Nat :=
  let quotient := amount / unit
  let rest := amount % unit
  if 2 * rest < unit ∨ (2 * rest = unit ∧ quotient % 2 = 0) then quotient else quotient + 1

/-- `to_integral_value`, which keeps no context's precision and signals nothing. -/
def toIntegralValue (figure : Decimal) : Decimal :=
  if 0 ≤ figure.exponent then
    figure
  else
    { figure with
      coefficient := roundHalfEven figure.coefficient (10 ^ (-figure.exponent).toNat)
      exponent := 0 }

/-- `int`, which drops what stands behind the decimal point. -/
def toInt (figure : Decimal) : Int :=
  if 0 ≤ figure.exponent then
    figure.signed * 10 ^ figure.exponent.toNat
  else
    figure.signed.tdiv (10 ^ (-figure.exponent).toNat)

variable {figure shifted : Decimal} {context : DecimalContext} {places : Int}

@[simp]
theorem value_ofInt (value : Int) : (ofInt value).value = value := by
  have isSigned : (ofInt value).signed = value := by
    simp only [signed, ofInt, decide_eq_true_eq]
    split <;> omega
  rw [Decimal.value, isSigned]
  simp [ofInt]

theorem value_of_nonneg (nonneg : 0 ≤ figure.exponent) :
    figure.value = figure.signed * 10 ^ figure.exponent.toNat := by
  rw [value, ← zpow_natCast, Int.toNat_of_nonneg nonneg]

theorem value_of_neg (neg : figure.exponent < 0) :
    figure.value = figure.signed / 10 ^ (-figure.exponent).toNat := by
  rw [value, ← zpow_natCast, Int.toNat_of_nonneg (by omega), zpow_neg, div_inv_eq_mul]

theorem signed_eq_zero_iff : figure.signed = 0 ↔ figure.coefficient = 0 := by
  simp only [signed]
  split <;> omega

theorem isNegative_iff : figure.isNegative = true ↔ figure.value < 0 := by
  have power : (0 : ℚ) < 10 ^ figure.exponent := zpow_pos (by norm_num) _
  have isSigned : figure.isNegative = true ↔ figure.signed < 0 := by
    cases negative : figure.negative <;>
      simp [isNegative, signed, negative, Nat.pos_iff_ne_zero]
  rw [isSigned, value, mul_neg_iff]
  constructor
  · intro below
    exact .inr ⟨by exact_mod_cast below, power⟩
  · rintro (⟨_, below⟩ | ⟨below, _⟩)
    · exact absurd below power.not_gt
    · exact_mod_cast below

theorem value_nonneg (notNegative : figure.isNegative = false) : 0 ≤ figure.value := by
  rw [← not_lt, ← isNegative_iff, notNegative]
  exact Bool.false_ne_true

/-- A number is a whole one exactly when no digit behind the decimal point counts. -/
theorem integral_iff {whole : Int} (neg : figure.exponent < 0) :
    figure.value = whole ↔ figure.signed = whole * 10 ^ (-figure.exponent).toNat := by
  have power : (10 : ℚ) ^ (-figure.exponent).toNat ≠ 0 := by positivity
  rw [value_of_neg neg, div_eq_iff power]
  exact_mod_cast Iff.rfl

theorem roundHalfEven_mul_eq_iff {amount unit : Nat} (pos : 0 < unit) :
    amount = roundHalfEven amount unit * unit ↔ unit ∣ amount := by
  constructor
  · intro same
    exact ⟨_, same.trans (Nat.mul_comm _ _)⟩
  · rintro ⟨quotient, rfl⟩
    simp [roundHalfEven, pos, Nat.mul_comm]

theorem signed_with (coefficient : Nat) (exponent : Int) :
    ({ figure with coefficient := coefficient, exponent := exponent } : Decimal).signed =
      if figure.negative then -(coefficient : Int) else coefficient :=
  rfl

/-- A number equals its rounding exactly when it is a whole number. -/
theorem equal_toIntegralValue_iff :
    figure.equal figure.toIntegralValue = true ↔ ∃ whole : Int, figure.value = whole := by
  by_cases nonneg : 0 ≤ figure.exponent
  · rw [toIntegralValue, if_pos nonneg, value_of_nonneg nonneg]
    constructor
    · intro _
      exact ⟨figure.signed * 10 ^ figure.exponent.toNat, by push_cast; rfl⟩
    · intro _
      exact beq_self_eq_true _
  · have neg : figure.exponent < 0 := by omega
    have pos : 0 < 10 ^ (-figure.exponent).toNat := by positivity
    simp only [toIntegralValue, if_neg nonneg, equal, min_eq_left neg.le, sub_self,
      Int.toNat_zero, pow_zero, mul_one, zero_sub, beq_iff_eq, integral_iff neg, signed_with]
    have divides :
        (∃ whole : Int, figure.signed = whole * 10 ^ (-figure.exponent).toNat) ↔
          10 ^ (-figure.exponent).toNat ∣ figure.coefficient := by
      rw [← Int.natCast_dvd_natCast]
      constructor
      · rintro ⟨whole, same⟩
        have divides : ((10 ^ (-figure.exponent).toNat : Nat) : Int) ∣ figure.signed :=
          ⟨whole, by rw [same, mul_comm]; push_cast; rfl⟩
        simp only [signed] at divides
        split at divides
        · exact (Int.dvd_neg).mp divides
        · exact divides
      · rintro ⟨quotient, same⟩
        push_cast at same
        simp only [signed]
        split
        · exact ⟨-quotient, by rw [same]; ring⟩
        · exact ⟨quotient, by rw [same]; ring⟩
    rw [divides, ← roundHalfEven_mul_eq_iff pos]
    simp only [signed]
    split
    · rw [neg_mul, neg_inj]
      exact_mod_cast Iff.rfl
    · exact_mod_cast Iff.rfl

/-- `int` of a whole number is that number. -/
theorem toInt_eq {whole : Int} (same : figure.value = whole) : figure.toInt = whole := by
  by_cases nonneg : 0 ≤ figure.exponent
  · rw [toInt, if_pos nonneg]
    rw [value_of_nonneg nonneg] at same
    exact_mod_cast same
  · have neg : figure.exponent < 0 := by omega
    rw [toInt, if_neg nonneg, (integral_iff neg).mp same]
    exact Int.mul_tdiv_cancel _ (by positivity)

/-! ## Moving the decimal point -/

theorem value_shift :
    ({ figure with exponent := figure.exponent + places } : Decimal).value =
      figure.value * 10 ^ places := by
  simp only [value, signed]
  rw [zpow_add₀ (by norm_num)]
  ring

/-- What a context holds has the value it was given. -/
theorem finalize_value (held : finalize context figure = .ok shifted) :
    shifted.value = figure.value := by
  unfold finalize at held
  split at held
  · next isZero =>
      cases held
      have zero : figure.signed = 0 := signed_eq_zero_iff.mpr isZero
      have shiftedZero : ({ figure with
          exponent := max context.etiny (min figure.exponent context.emax) } : Decimal).signed =
            0 := zero
      rw [value, value, zero, shiftedZero]
      simp
  · split at held
    · cases held
    · split at held
      · cases held
      · split at held
        · cases held
        · cases held
          rfl

/-- A result that is returned is exact. -/
theorem scaleb_value (held : scaleb context figure places = .ok shifted) :
    shifted.value = figure.value * 10 ^ places := by
  unfold scaleb at held
  split at held
  · cases held
  · rw [finalize_value held, value_shift]

/-- A number that is not zero keeps its digits, so it has no more than the context holds. -/
theorem digits_le_of_finalize (held : finalize context figure = .ok shifted)
    (notZero : figure.coefficient ≠ 0) : figure.digits ≤ context.precision := by
  rw [finalize, if_neg notZero] at held
  split at held
  · cases held
  · split at held
    · cases held
    · split at held
      · cases held
      · next _ _ fits => exact Nat.le_of_not_lt fits

theorem digits_le_of_scaleb (held : scaleb context figure places = .ok shifted)
    (notZero : figure.coefficient ≠ 0) : figure.digits ≤ context.precision := by
  unfold scaleb at held
  split at held
  · cases held
  · exact @digits_le_of_finalize { figure with exponent := figure.exponent + places } _ _ held
      notZero

theorem digits_le_iff {bound : Nat} (pos : 0 < bound) :
    figure.digits ≤ bound ↔ figure.coefficient < 10 ^ bound := by
  rw [digits, Nat.succ_le_iff]
  by_cases isZero : figure.coefficient = 0
  · simp [isZero, pos]
  · exact Nat.log_lt_iff_lt_pow (by decide) isZero

/-- The first digit of a number bounds it. -/
theorem value_bounds (notNegative : figure.negative = false) (notZero : figure.coefficient ≠ 0) :
    (10 : ℚ) ^ figure.adjusted ≤ figure.value ∧ figure.value < 10 ^ (figure.adjusted + 1) := by
  have power : (0 : ℚ) < 10 ^ figure.exponent := zpow_pos (by norm_num) _
  have least : (10 : ℚ) ^ (Nat.log 10 figure.coefficient) ≤ figure.coefficient := by
    exact_mod_cast Nat.pow_log_le_self 10 notZero
  have most : (figure.coefficient : ℚ) < 10 ^ (Nat.log 10 figure.coefficient + 1) := by
    exact_mod_cast Nat.lt_pow_succ_log_self (by decide) figure.coefficient
  have isSigned : (figure.signed : ℚ) = figure.coefficient := by
    simp [signed, notNegative]
  have first : figure.adjusted = Nat.log 10 figure.coefficient + figure.exponent := by
    simp only [adjusted, digits]
    omega
  have beyond : figure.adjusted + 1 =
      ((Nat.log 10 figure.coefficient + 1 : Nat) : Int) + figure.exponent := by
    omega
  rw [beyond, first, value, isSigned, zpow_add₀ (by norm_num), zpow_add₀ (by norm_num),
    zpow_natCast, zpow_natCast]
  exact ⟨by gcongr, by gcongr⟩

/-- A context that holds whole numbers returns every one whose digits it holds. -/
theorem scaleb_of_whole {whole : Nat} {most : Nat} (fits : figure.digits ≤ context.precision)
    (notNegative : figure.negative = false ∨ figure.coefficient = 0)
    (near : |places| ≤ 2 * (context.emax + context.precision)) (holdsOne : context.emin ≤ 0)
    (holdsMost : most ≤ context.emax) (below : whole < 10 ^ (most + 1))
    (same : figure.value * 10 ^ places = whole) :
    ∃ shifted, scaleb context figure places = .ok shifted := by
  rw [scaleb, if_neg (not_lt.mpr near), finalize]
  by_cases isZero : figure.coefficient = 0
  · exact ⟨_, if_pos isZero⟩
  · rw [if_neg (by exact isZero)]
    have positive : figure.negative = false := by
      rcases notNegative with positive | zero
      · exact positive
      · exact absurd zero isZero
    obtain ⟨least, beyond⟩ := @value_bounds { figure with exponent := figure.exponent + places }
      positive isZero
    rw [value_shift, same] at least beyond
    generalize ({ figure with exponent := figure.exponent + places } : Decimal).adjusted =
      adjusted at least beyond ⊢
    -- The number is at least one, so its first digit stands in front of the decimal point.
    have atLeastOne : 0 ≤ adjusted := by
      by_contra behind
      have one : (1 : ℚ) ≤ whole := by
        have notZero : whole ≠ 0 := by
          rintro rfl
          have power : (0 : ℚ) < 10 ^ adjusted := zpow_pos (by norm_num) _
          exact absurd (power.trans_le least) (by norm_num)
        exact_mod_cast Nat.one_le_iff_ne_zero.mpr notZero
      have small : (10 : ℚ) ^ (adjusted + 1) ≤ 1 :=
        zpow_le_one_of_nonpos₀ (by norm_num) (by omega)
      exact absurd (one.trans_lt (beyond.trans_le small)) (lt_irrefl _)
    have atMost : adjusted ≤ most := by
      have small : (10 : ℚ) ^ adjusted < 10 ^ ((most + 1 : Nat) : Int) := by
        rw [zpow_natCast]
        exact lt_of_le_of_lt least (by exact_mod_cast below)
      have order := (zpow_lt_zpow_iff_right₀ (by norm_num : (1 : ℚ) < 10)).mp small
      omega
    rw [if_neg (by omega), if_neg (by omega), if_neg (by exact not_lt.mpr fits)]
    exact ⟨_, rfl⟩

end Decimal

end AgentRank.Arithmetic
