import AgentRank.Arithmetic.NumberText
import Mathlib.Data.Rat.Floor

/-!
# Binary floating point numbers

This module defines the numbers that a double holds and their texts.  A decimal text is read as
the double nearest to the number it names, and a double is written with the fewest digits that
are read back as it.
-/

namespace AgentRank.Arithmetic

/-- The nearest whole number, the even one of two that are equally near. -/
def nearestWhole (value : ℚ) : Int :=
  let size : Int := Decimal.roundHalfEven value.num.natAbs value.den
  if value < 0 then -size else size

/-- The exponent of the last bit of a double of this size. -/
def lastBit (value : ℚ) : Int :=
  max (Int.log 2 |value| - 52) (-1074)

/-- The double nearest to a number, unless it is beyond all of them. -/
def nearestFloat (value : ℚ) : Option ℚ :=
  let rounded : ℚ := nearestWhole (value / 2 ^ lastBit value) * 2 ^ lastBit value
  if |rounded| < 2 ^ 1024 then some rounded else none

/-! ## Writing -/

/-- The nearest number of so many digits. -/
def withDigits (value : ℚ) (count : Nat) : Decimal :=
  let place := Int.log 10 |value| + 1 - count
  { negative := decide (value < 0)
    coefficient := (nearestWhole (|value| / 10 ^ place)).natAbs
    exponent := place }

/-- The fewest digits that are read back as a double.  Seventeen are always enough. -/
def shortest (value : ℚ) : Option Decimal :=
  ((List.range' 1 17).map (withDigits value)).find? fun figure =>
    figure.coefficient != 0 && nearestFloat figure.value == some value

namespace Decimal

/-- Where the point stands among the digits. -/
def point (figure : Decimal) : Int :=
  (Nat.toDigits 10 figure.coefficient).length + figure.exponent

/-- The text of a number: with a point where it is near the digits, else with an exponent. -/
def parts (figure : Decimal) : NumberText :=
  let digits := Nat.toDigits 10 figure.coefficient
  if -4 < figure.point ∧ figure.point ≤ 16 then
    if figure.point ≤ 0 then
      { negative := figure.negative
        whole := ['0']
        fraction := List.replicate (-figure.point).toNat '0' ++ digits
        exponent := none }
    else if 0 ≤ figure.exponent then
      { negative := figure.negative
        whole := digits ++ List.replicate figure.exponent.toNat '0'
        fraction := ['0']
        exponent := none }
    else
      { negative := figure.negative
        whole := digits.take figure.point.toNat
        fraction := digits.drop figure.point.toNat
        exponent := none }
  else
    { negative := figure.negative
      whole := digits.take 1
      fraction := digits.drop 1
      exponent := some (figure.point - 1) }

variable {figure : Decimal}

/-- The parts name the number, whatever form is taken. -/
theorem value_parts : figure.parts.decimal.value = figure.value := by
  have digits : Nat.ofDigitChars 10 (Nat.toDigits 10 figure.coefficient) 0 = figure.coefficient :=
    Nat.ofDigitChars_ten_toDigits
  have length := Nat.length_toDigits_pos (b := 10) (n := figure.coefficient)
  unfold parts
  simp only
  split
  · split
    · rename_i isPoint
      have exponentEq : -((-figure.point).toNat + (Nat.toDigits 10 figure.coefficient).length : Int) =
          figure.exponent := by
        rw [point] at isPoint ⊢
        omega
      simp [NumberText.decimal, value, signed, Nat.ofDigitChars_append, digits,
        Nat.ofDigitChars_cons, ← exponentEq]
    · split
      · rename_i nonneg
        obtain ⟨places, placesEq⟩ := Int.eq_ofNat_of_zero_le nonneg
        have shifted : Nat.ofDigitChars 10 (Nat.toDigits 10 figure.coefficient ++
            List.replicate places '0' ++ ['0']) 0 = 10 ^ (places + 1) * figure.coefficient := by
          rw [Nat.ofDigitChars_append, Nat.ofDigitChars_append, digits,
            Nat.ofDigitChars_replicate_zero, Nat.ofDigitChars_cons, Nat.ofDigitChars_nil,
            Nat.sub_self]
          ring
        simp only [NumberText.decimal, value, signed, placesEq, Int.toNat_natCast, shifted]
        split <;>
          simp only [Option.getD_none, List.length_singleton, zpow_sub₀ (by norm_num : (10 : ℚ) ≠ 0),
            zpow_natCast, Nat.cast_mul, Nat.cast_pow, Int.cast_neg, Int.cast_mul, Int.cast_natCast,
            Int.cast_pow] <;>
          push_cast <;>
          ring
      · rename_i inside negative
        have split := List.take_append_drop figure.point.toNat (Nat.toDigits 10 figure.coefficient)
        have exponentEq : 0 - (((Nat.toDigits 10 figure.coefficient).drop
            figure.point.toNat).length : Int) = figure.exponent := by
          rw [List.length_drop, point] at *
          omega
        simp only [NumberText.decimal, value, signed, split, digits, Option.getD_none, exponentEq]
  · have split := List.take_append_drop 1 (Nat.toDigits 10 figure.coefficient)
    have exponentEq : figure.point - 1 -
        (((Nat.toDigits 10 figure.coefficient).drop 1).length : Int) = figure.exponent := by
      rw [List.length_drop, point]
      omega
    simp only [NumberText.decimal, value, signed, split, digits, Option.getD_some, exponentEq]

/-- The parts of a number other than zero are written as a number. -/
theorem isText_parts (nonzero : figure.coefficient ≠ 0) : figure.parts.IsText := by
  have length := Nat.length_toDigits_pos (b := 10) (n := figure.coefficient)
  have leading := NumberText.head?_toDigits (Nat.pos_of_ne_zero nonzero)
  have isDigits : ∀ char ∈ Nat.toDigits 10 figure.coefficient, char.isDigit = true := fun _ =>
    NumberText.isDigit_toDigits
  have isZeros : ∀ count, ∀ char ∈ List.replicate count '0', char.isDigit = true := by
    intro count char member
    rw [List.eq_of_mem_replicate member]
    rfl
  have leadingTake : ∀ count, 0 < count →
      ((Nat.toDigits 10 figure.coefficient).take count).head? ≠ some '0' := by
    intro count positive
    rw [List.head?_take, if_neg (by omega)]
    exact leading
  have stated : ∀ count, 0 < count → (Nat.toDigits 10 figure.coefficient).take count ≠ [] := by
    intro count positive isEmpty
    rw [List.take_eq_nil_iff] at isEmpty
    rcases isEmpty with none | none
    · omega
    · rw [none] at length
      exact absurd length (by decide)
  unfold parts
  simp only
  split
  · split
    · exact
        { wholeStated := List.cons_ne_nil _ _
          wholeDigits := isZeros 1
          fractionDigits := fun char member =>
            (List.mem_append.mp member).elim (isZeros _ char) (isDigits char)
          noLeadingZero := Or.inl rfl }
    · split
      · exact
          { wholeStated := fun isEmpty => Nat.toDigits_ne_nil (List.append_eq_nil_iff.mp isEmpty).1
            wholeDigits := fun char member =>
              (List.mem_append.mp member).elim (isDigits char) (isZeros _ char)
            fractionDigits := isZeros 1
            noLeadingZero := Or.inr (by
              rw [List.head?_append_of_ne_nil _ Nat.toDigits_ne_nil]
              exact leading) }
      · exact
          { wholeStated := stated _ (by omega)
            wholeDigits := fun char member => isDigits char (List.mem_of_mem_take member)
            fractionDigits := fun char member => isDigits char (List.mem_of_mem_drop member)
            noLeadingZero := Or.inr (leadingTake _ (by omega)) }
  · exact
      { wholeStated := stated 1 (by decide)
        wholeDigits := fun char member => isDigits char (List.mem_of_mem_take member)
        fractionDigits := fun char member => isDigits char (List.mem_of_mem_drop member)
        noLeadingZero := Or.inr (leadingTake 1 (by decide)) }

/-- A number's text has a fraction or an exponent. -/
theorem parts_notWhole : figure.parts.fraction ≠ [] ∨ figure.parts.exponent ≠ none := by
  have length := Nat.length_toDigits_pos (b := 10) (n := figure.coefficient)
  unfold parts
  simp only
  split
  · left
    split
    · exact fun isEmpty => Nat.toDigits_ne_nil (List.append_eq_nil_iff.mp isEmpty).2
    · split
      · exact List.cons_ne_nil _ _
      · rename_i inside positive negative
        intro isEmpty
        rw [List.drop_eq_nil_iff, point] at *
        omega
  · exact Or.inr (Option.some_ne_none _)

end Decimal

/-- What is written for a double is read back as it. -/
theorem shortest_sound {value : ℚ} {figure : Decimal} (found : shortest value = some figure) :
    figure.coefficient ≠ 0 ∧ nearestFloat figure.value = some value := by
  have holds := List.find?_some found
  simpa only [Bool.and_eq_true, bne_iff_ne, ne_eq, beq_iff_eq] using holds

example : (shortest (3 / 4)).map Decimal.parts =
    some { negative := false, whole := ['0'], fraction := ['7', '5'], exponent := none } := by
  decide +kernel

end AgentRank.Arithmetic
