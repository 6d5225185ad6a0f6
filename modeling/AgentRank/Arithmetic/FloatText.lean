import AgentRank.Arithmetic.Floats

/-!
# How long the text of a double is

The shortest text of a double has seventeen digits at most, and its exponent has three.
-/

namespace AgentRank.Arithmetic

theorem roundHalfEven_le (amount unit : Nat) :
    Decimal.roundHalfEven amount unit ≤ amount / unit + 1 := by
  unfold Decimal.roundHalfEven
  dsimp only
  split
  · exact Nat.le_succ _
  · exact Nat.le_refl _

/-- A number below a whole one is rounded to it at most. -/
theorem nearestWhole_le {value : ℚ} {most : Nat} (nonneg : 0 ≤ value) (below : value < most) :
    (nearestWhole value).natAbs ≤ most := by
  have rounded : (nearestWhole value).natAbs =
      Decimal.roundHalfEven value.num.natAbs value.den := by
    rw [nearestWhole, if_neg (not_lt.mpr nonneg), Int.natAbs_natCast]
  have product : value.num.natAbs < most * value.den := by
    have cleared : (value.num : ℚ) < most * value.den := by
      rw [← Rat.mul_den_eq_num]
      exact mul_lt_mul_of_pos_right below (by exact_mod_cast value.den_pos)
    have whole : value.num < most * value.den := by exact_mod_cast cleared
    have isNat := Rat.num_nonneg.mpr nonneg
    omega
  have quotient : value.num.natAbs / value.den < most :=
    (Nat.div_lt_iff_lt_mul value.den_pos).mpr product
  calc
    (nearestWhole value).natAbs = Decimal.roundHalfEven value.num.natAbs value.den := rounded
    _ ≤ value.num.natAbs / value.den + 1 := roundHalfEven_le _ _
    _ ≤ most := quotient

theorem coefficient_withDigits_le {value : ℚ} (count : Nat) :
    (withDigits value count).coefficient ≤ 10 ^ count := by
  have positive : (0 : ℚ) < 10 ^ (Int.log 10 |value| + 1 - count) := zpow_pos (by norm_num) _
  apply nearestWhole_le
  · exact div_nonneg (abs_nonneg value) positive.le
  · have below : |value| < (10 : ℚ) ^ (Int.log 10 |value| + 1) := by
      exact_mod_cast Int.lt_zpow_succ_log_self (by decide : 1 < 10) |value|
    rw [div_lt_iff₀ positive]
    calc
      |value| < (10 : ℚ) ^ (Int.log 10 |value| + 1) := below
      _ = ((10 ^ count : Nat) : ℚ) * 10 ^ (Int.log 10 |value| + 1 - count) := by
        rw [Nat.cast_pow, ← zpow_natCast, Nat.cast_ofNat, ← zpow_add₀ (by norm_num)]
        congr 1
        ring

theorem length_digits_le {value : ℚ} {count : Nat} (few : count ≤ 17) :
    (Nat.toDigits 10 (withDigits value count).coefficient).length ≤ 18 := by
  rw [Nat.length_toDigits_le_iff (by decide) (by decide)]
  calc
    (withDigits value count).coefficient ≤ 10 ^ count := coefficient_withDigits_le count
    _ ≤ 10 ^ 17 := Nat.pow_le_pow_right (by decide) few
    _ < 10 ^ 18 := by norm_num

/-- A double other than zero is neither too small nor too large. -/
theorem log_nearestFloat {value rounded : ℚ} (isFloat : nearestFloat value = some rounded)
    (nonzero : rounded ≠ 0) :
    -324 ≤ Int.log 10 |rounded| ∧ Int.log 10 |rounded| < 309 := by
  unfold nearestFloat at isFloat
  dsimp only at isFloat
  split at isFloat
  · rename_i below
    cases isFloat
    have positive : 0 < |(nearestWhole (value / 2 ^ lastBit value) : ℚ) * 2 ^ lastBit value| :=
      abs_pos.mpr nonzero
    constructor
    · rw [← Int.zpow_le_iff_le_log (by decide) positive]
      have whole : (1 : ℚ) ≤ |(nearestWhole (value / 2 ^ lastBit value) : ℚ)| := by
        have stated : nearestWhole (value / 2 ^ lastBit value) ≠ 0 := by
          intro isZero
          apply nonzero
          rw [isZero, Int.cast_zero, zero_mul]
        exact_mod_cast Int.one_le_abs stated
      have least : (2 : ℚ) ^ (-1074 : Int) ≤ 2 ^ lastBit value :=
        zpow_le_zpow_right₀ (by norm_num) (le_max_right _ _)
      have unit : (0 : ℚ) < 2 ^ lastBit value := zpow_pos (by norm_num) _
      have powers : (2 : ℚ) ^ 1074 ≤ 10 ^ 324 := by
        have naturals : 2 ^ 1074 ≤ 10 ^ 324 := by decide +kernel
        exact_mod_cast naturals
      rw [abs_mul, abs_of_pos unit]
      calc
        ((10 : Nat) : ℚ) ^ (-324 : Int) = ((10 : ℚ) ^ 324)⁻¹ := by
          rw [zpow_neg, Nat.cast_ofNat]
          rfl
        _ ≤ ((2 : ℚ) ^ 1074)⁻¹ := inv_anti₀ (pow_pos (by norm_num) _) powers
        _ = 2 ^ (-1074 : Int) := by
          rw [zpow_neg]
          rfl
        _ ≤ 2 ^ lastBit value := least
        _ = 1 * 2 ^ lastBit value := (one_mul _).symm
        _ ≤ _ := mul_le_mul_of_nonneg_right whole unit.le
    · rw [← Int.lt_zpow_iff_log_lt (by decide) positive]
      have powers : (2 : ℚ) ^ 1024 ≤ 10 ^ 309 := by
        have naturals : 2 ^ 1024 ≤ 10 ^ 309 := by decide +kernel
        exact_mod_cast naturals
      calc
        _ < (2 : ℚ) ^ 1024 := below
        _ ≤ (10 : ℚ) ^ 309 := powers
        _ = ((10 : Nat) : ℚ) ^ (309 : Int) := by
          rw [Nat.cast_ofNat]
          rfl
  · cases isFloat

theorem length_exponentText_le {power : Int} (bounded : power.natAbs < 1000) :
    (NumberText.exponentText power).length ≤ 4 := by
  have digits : (Nat.toDigits 10 power.natAbs).length ≤ 3 :=
    (Nat.length_toDigits_le_iff (by decide) (by decide)).mpr bounded
  rw [NumberText.exponentText, List.length_cons, List.length_append, List.length_replicate]
  omega

theorem length_fractionText_le (digits : List Char) :
    (NumberText.fractionText digits).length ≤ digits.length + 1 := by
  cases digits with
  | nil => exact Nat.zero_le _
  | cons digit rest => exact Nat.le_refl _

theorem length_text_le {parts : NumberText}
    (bounded : ∀ power ∈ parts.exponent, power.natAbs < 1000) :
    parts.text.length ≤ parts.whole.length + parts.fraction.length + 7 := by
  have fraction := length_fractionText_le parts.fraction
  have sign : (if parts.negative = true then ['-'] else []).length ≤ 1 := by
    split
    · exact Nat.le_refl 1
    · exact Nat.zero_le 1
  have exponent : (parts.exponent.elim [] fun power =>
      'e' :: NumberText.exponentText power).length ≤ 5 := by
    cases isExponent : parts.exponent with
    | none => exact Nat.zero_le 5
    | some power =>
        exact Nat.succ_le_succ (length_exponentText_le (bounded power isExponent))
  rw [NumberText.text, List.length_append, List.length_append, List.length_append]
  omega

/-- The digits of the parts are those of the number, and few zeros. -/
theorem Decimal.length_parts_le {figure : Decimal}
    (few : (Nat.toDigits 10 figure.coefficient).length ≤ 18) :
    figure.parts.whole.length + figure.parts.fraction.length ≤ 22 := by
  unfold Decimal.parts
  dsimp only
  split
  · rename_i inside
    rw [Decimal.point] at inside ⊢
    split
    · simp only [List.length_singleton, List.length_append, List.length_replicate]
      omega
    · split
      · simp only [List.length_singleton, List.length_append, List.length_replicate]
        omega
      · rw [List.length_take, List.length_drop]
        omega
  · rw [List.length_take, List.length_drop]
    omega

/-- The text of a double is short. -/
theorem length_shortest_le {value : ℚ} {figure : Decimal} (found : shortest value = some figure)
    (nonzero : value ≠ 0) : figure.parts.text.length ≤ 29 := by
  obtain ⟨count, isCount, rfl⟩ := List.mem_map.mp (List.mem_of_find?_eq_some found)
  obtain ⟨least, most⟩ := log_nearestFloat (shortest_sound found).2 nonzero
  have few : count ≤ 17 := by
    have within := (List.mem_range'_1.mp isCount).2
    omega
  have digits : (Nat.toDigits 10 (withDigits value count).coefficient).length ≤ 18 :=
    length_digits_le few
  have exponentEq : (withDigits value count).exponent = Int.log 10 |value| + 1 - count := rfl
  have bounded : ∀ power ∈ (withDigits value count).parts.exponent, power.natAbs < 1000 := by
    intro power isPower
    unfold Decimal.parts at isPower
    dsimp only at isPower
    split at isPower
    · split at isPower
      · cases isPower
      · split at isPower <;> cases isPower
    · cases isPower
      rw [Decimal.point, exponentEq]
      omega
  have parts := Decimal.length_parts_le digits
  have text := length_text_le bounded
  omega

end AgentRank.Arithmetic
