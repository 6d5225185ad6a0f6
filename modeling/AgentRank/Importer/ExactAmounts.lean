import AgentRank.Importer.Amounts

/-!
# Prices are read exactly

This module says which number a published price writes, and proves that a price is read as
exactly that number of minor units or refused.
-/

namespace AgentRank.Importer

open Text Arithmetic

theorem orRefuse_eq_ok_iff {α : Type} {operation : Except DecimalException α} {reason detail : String}
    {result : α} : orRefuse operation reason detail = .ok result ↔ operation = .ok result := by
  cases operation <;> simp [orRefuse, refuse]

/-- A failure to read a price is a refusal with a reason. -/
def IsRefusal (failure : PriceFailure) : Prop :=
  ∃ error : RefusedAmountError, failure = .refused error

variable {failure : PriceFailure}

theorem isRefusal_of_refuse {α : Type} {reason detail : String}
    (raised : (refuse reason detail : Except PriceFailure α) = .error failure) :
    IsRefusal failure := by
  cases raised
  exact ⟨_, rfl⟩

theorem isRefusal_of_orRefuse {α : Type} {operation : Except DecimalException α}
    {reason detail : String} (raised : orRefuse operation reason detail = .error failure) :
    IsRefusal failure := by
  cases operation with
  | ok result => cases raised
  | error signal => exact isRefusal_of_refuse raised

section Reading

variable [CharacterTables]

/-! ## The number that a price writes -/

/-- A plain unsigned decimal: digits, with at most one point among them. -/
inductive PlainDecimal : List Char → List Char → List Char → Prop
  | whole {digits : List Char} (nonempty : digits ≠ [])
      (all : ∀ char ∈ digits, isDigit char = true) : PlainDecimal digits digits []
  | pointed {digits fraction : List Char} (nonempty : digits ≠ []) (more : fraction ≠ [])
      (all : ∀ char ∈ digits, isDigit char = true)
      (allMore : ∀ char ∈ fraction, isDigit char = true) :
      PlainDecimal (digits ++ '.' :: fraction) digits fraction

/-- The number that a published price writes, when it writes one. -/
inductive Writes : Published → ℚ → Prop
  | integer (value : Int) : Writes (.integer value) value
  | decimal (value : Decimal) : Writes (.decimal value) value.value
  | string {text : String} {digits fraction : List Char}
      (plain : PlainDecimal (strip text).toList digits fraction) :
      Writes (.string text) (positional digits + positional fraction / 10 ^ fraction.length)

/-- The bounds on what is read: the digits of a text in front of its point and behind it, and
the significant digits of a number. -/
def WithinBounds : Published → Prop
  | .string text =>
      ((strip text).toList.takeWhile isDigit).length ≤ 15 ∧
        ((strip text).toList.dropWhile isDigit).length ≤ 1 + 8
  | .decimal value => value.coefficient < 10 ^ arithmeticPrecision
  | _ => True

theorem isDigit_point : isDigit '.' = false :=
  rfl

variable {text digits fraction : List Char}

theorem PlainDecimal.split (plain : PlainDecimal text digits fraction) :
    text.takeWhile isDigit = digits ∧
      text.dropWhile isDigit = if fraction = [] then [] else '.' :: fraction := by
  cases plain with
  | whole _ all =>
      rw [List.takeWhile_eq_self_iff.mpr all, List.dropWhile_eq_nil_iff.mpr all]
      simp
  | pointed _ more all _ =>
      rw [List.takeWhile_append_of_pos all, List.dropWhile_append_of_pos all, if_neg more]
      simp [isDigit_point]

theorem PlainDecimal.nonempty (plain : PlainDecimal text digits fraction) : text ≠ [] := by
  cases plain with
  | whole nonempty _ => exact nonempty
  | pointed nonempty _ _ _ => exact List.append_ne_nil_of_left_ne_nil nonempty _

theorem PlainDecimal.mem (plain : PlainDecimal text digits fraction) {char : Char}
    (member : char ∈ text) :
    isDigit char = true ∨ char = '.' := by
  cases plain with
  | whole _ all => exact .inl (all char member)
  | pointed _ _ all allMore =>
      rcases List.mem_append.mp member with isWhole | isRest
      · exact .inl (all char isWhole)
      · rcases List.mem_cons.mp isRest with rfl | isFraction
        · exact .inr rfl
        · exact .inl (allMore char isFraction)

variable {published : Published}

/-- A price writes one figure. -/
theorem writes_unique {first second : ℚ} (one : Writes published first)
    (another : Writes published second) : first = second := by
  cases one with
  | integer value =>
      cases another
      rfl
  | decimal value =>
      cases another
      rfl
  | string plain =>
      cases another with
      | string other =>
          obtain ⟨whole, rest⟩ := plain.split
          obtain ⟨sameWhole, sameRest⟩ := other.split
          rw [whole] at sameWhole
          rw [rest] at sameRest
          subst sameWhole
          split at sameRest <;> split at sameRest <;> simp_all

/-- The pattern takes the plain decimals within its bounds, and no other text. -/
theorem fullMatch_plainDecimal_iff {text : String} :
    (fullMatch plainDecimal text).isSome = true ↔
      ∃ digits fraction, PlainDecimal text.toList digits fraction ∧ digits.length ≤ 15 ∧
        fraction.length ≤ 8 := by
  rw [fullMatch_isSome_iff, plainDecimal, reads_seq]
  simp only [reads_many, reads_optional, reads_group, reads_seq, reads_char]
  constructor
  · rintro ⟨digits, _, whole, ⟨_, all, nonempty, within⟩, ⟨_, fraction, rfl, ⟨point, rfl, isPoint, _⟩,
      ⟨_, allMore, more, withinMore⟩⟩ | rfl⟩
    · cases beq_iff_eq.mp isPoint
      rw [whole]
      exact ⟨digits, fraction, .pointed (List.ne_nil_of_length_pos nonempty)
        (List.ne_nil_of_length_pos more) all allMore, within, withinMore⟩
    · rw [whole, List.append_nil]
      exact ⟨digits, [], .whole (List.ne_nil_of_length_pos nonempty) all, within, by decide⟩
  · rintro ⟨digits, fraction, plain, within, withinMore⟩
    generalize text.toList = chars at plain
    cases plain with
    | whole nonempty all =>
        exact ⟨digits, [], (List.append_nil _).symm,
          ⟨List.prefix_refl _, all, List.length_pos_iff.mpr nonempty, within⟩, .inr rfl⟩
    | pointed nonempty more all allMore =>
        refine ⟨digits, '.' :: fraction, rfl,
          ⟨List.prefix_append _ _, all, List.length_pos_iff.mpr nonempty, within⟩,
          .inl ⟨['.'], fraction, rfl, ⟨'.', rfl, beq_self_eq_true _, ?_⟩, ?_, allMore,
            List.length_pos_iff.mpr more, withinMore⟩⟩
        · rw [List.drop_left]
          exact ⟨fraction, rfl⟩
        · simp

theorem foldl_positional (digits : List Char) (start : Nat) :
    digits.foldl (fun number digit => 10 * number + digitOf digit) start =
      start * 10 ^ digits.length + positional digits := by
  induction digits generalizing start with
  | nil => simp [positional]
  | cons digit rest ih =>
      rw [positional, List.foldl_cons, List.foldl_cons, ih, ih (10 * 0 + digitOf digit),
        List.length_cons]
      ring

theorem positional_append (digits more : List Char) :
    positional (digits ++ more) = positional digits * 10 ^ more.length + positional more := by
  rw [positional, List.foldl_append, ← positional, foldl_positional]

/-- A plain decimal is converted to the number that it writes. -/
theorem decimalOf_plain (plain : PlainDecimal text digits fraction) :
    decimalOf text = .ok
      { negative := false
        coefficient := positional (digits ++ fraction)
        exponent := -fraction.length } := by
  obtain ⟨isWhole, isRest⟩ := plain.split
  rw [decimalOf, isWhole, isRest]
  cases plain with
  | whole _ _ => simp
  | pointed _ more _ allMore =>
      rw [if_neg more]
      exact if_pos ⟨rfl, List.all_eq_true.mpr allMore⟩

theorem value_plain (digits fraction : List Char) :
    ({ negative := false
       coefficient := positional (digits ++ fraction)
       exponent := -fraction.length } : Decimal).value =
      positional digits + positional fraction / 10 ^ fraction.length := by
  have power : (10 : ℚ) ^ fraction.length ≠ 0 := by positivity
  rw [Decimal.value, Decimal.signed, positional_append]
  simp only [Bool.false_eq_true, if_false, zpow_neg, zpow_natCast]
  push_cast
  field_simp

/-! ## Reading the figure -/

variable {figure : Decimal}

/-- A text is read exactly when it is a plain decimal within its bounds. -/
theorem decimalOfText_eq_ok_iff {text : String} :
    decimalOfText text = .ok figure ↔
      ∃ digits fraction, PlainDecimal (strip text).toList digits fraction ∧ digits.length ≤ 15 ∧
        fraction.length ≤ 8 ∧
          figure =
            { negative := false
              coefficient := positional (digits ++ fraction)
              exponent := -fraction.length } := by
  constructor
  · intro read
    dsimp only [decimalOfText] at read
    split at read
    · cases read
    · split at read
      · cases read
      · next isMatch =>
          rw [Option.isNone_iff_eq_none, ← Option.not_isSome_iff_eq_none, not_not,
            fullMatch_plainDecimal_iff] at isMatch
          obtain ⟨digits, fraction, plain, within, withinMore⟩ := isMatch
          rw [orRefuse_eq_ok_iff, decimalOf_plain plain] at read
          cases read
          exact ⟨digits, fraction, plain, within, withinMore, rfl⟩
  · rintro ⟨digits, fraction, plain, within, withinMore, rfl⟩
    have notEmpty : (strip text).isEmpty = false := by
      rw [Bool.eq_false_iff]
      intro isEmpty
      exact plain.nonempty (by rw [String.isEmpty_iff.mp isEmpty]; rfl)
    have isMatch : (fullMatch plainDecimal (strip text)).isNone = false := by
      rw [Option.isNone_eq_false_iff, fullMatch_plainDecimal_iff]
      exact ⟨digits, fraction, plain, within, withinMore⟩
    simp only [decimalOfText, notEmpty, isMatch, Bool.false_eq_true, if_false]
    exact orRefuse_eq_ok_iff.mpr (decimalOf_plain plain)

/-- Text with another character in it is no plain decimal. -/
theorem decimalOfText_of_mem {text : String} {char : Char} (member : char ∈ text.toList)
    (visible : isSpace char = false) (notDigit : isDigit char = false) (notPoint : char ≠ '.') :
    decimalOfText text ≠ .ok figure := by
  intro read
  obtain ⟨digits, fraction, plain, _⟩ := decimalOfText_eq_ok_iff.mp read
  have inside : char ∈ (strip text).toList := by
    rw [strip, String.toList_ofList]
    exact mem_stripChars_of_visible member visible
  rcases plain.mem inside with isDecimal | isPoint
  · rw [notDigit] at isDecimal
    cases isDecimal
  · exact notPoint isPoint

variable [Representations]

/-- A published price that is read as a figure writes that figure. -/
theorem writes_of_decimal (read : decimal published = .ok figure) :
    Writes published figure.value ∧ (WithinBounds published ∨ published = .decimal figure) := by
  cases published with
  | null =>
      rw [decimal] at read
      obtain ⟨_, _, plain, _⟩ := decimalOfText_eq_ok_iff.mp read
      exact absurd rfl plain.nonempty
  | boolean value => cases read
  | float value => cases read
  | integer value =>
      cases read
      rw [Decimal.value_ofInt]
      exact ⟨.integer value, .inl trivial⟩
  | decimal value =>
      cases read
      exact ⟨.decimal figure, .inr rfl⟩
  | string text =>
      rw [decimal] at read
      obtain ⟨digits, fraction, plain, within, withinMore, rfl⟩ := decimalOfText_eq_ok_iff.mp read
      obtain ⟨isWhole, isRest⟩ := plain.split
      rw [value_plain]
      refine ⟨.string plain, .inl ⟨?_, ?_⟩⟩
      · rw [isWhole]
        exact within
      · rw [isRest]
        split
        · decide
        · rw [List.length_cons]
          omega
  | array items =>
      have bracket : '[' ∈ (str (.array items)).toList := by simp [str]
      rw [decimal] at read
      exact absurd read (decimalOfText_of_mem bracket rfl rfl (by decide))
  | object fields =>
      have bracket : '\x7b' ∈ (str (.object fields)).toList := by simp [str]
      rw [decimal] at read
      exact absurd read (decimalOfText_of_mem bracket rfl rfl (by decide))

/-- A price that writes a figure within its bounds is read as that figure. -/
theorem decimal_of_writes {figure : ℚ} (writes : Writes published figure)
    (within : WithinBounds published) :
    ∃ read, decimal published = .ok read ∧ read.value = figure ∧
      (read.coefficient < 10 ^ arithmeticPrecision ∨ -8 ≤ read.exponent) := by
  cases writes with
  | integer value =>
      exact ⟨_, rfl, Decimal.value_ofInt value, .inr (by simp [Decimal.ofInt])⟩
  | decimal value => exact ⟨value, rfl, rfl, .inl within⟩
  | @string text digits fraction plain =>
      obtain ⟨isWhole, isRest⟩ := plain.split
      obtain ⟨withinWhole, withinRest⟩ := within
      rw [isWhole] at withinWhole
      have withinFraction : fraction.length ≤ 8 := by
        rw [isRest] at withinRest
        split at withinRest
        · next isEmpty => simp [isEmpty]
        · rw [List.length_cons] at withinRest
          omega
      have read := decimalOfText_eq_ok_iff.mpr
        ⟨digits, fraction, plain, withinWhole, withinFraction, rfl⟩
      rw [← decimal] at read
      refine ⟨_, read, value_plain digits fraction, .inr ?_⟩
      simp only
      omega

/-! ## Reading the amount -/

variable {currency : String}

theorem minorUnits_eq_ok_iff {places : Nat} (known : exponent currency = some places)
    {amount : Int} :
    minorUnits published currency = .ok amount ↔
      ∃ figure shifted, decimal published = .ok figure ∧ figure.isNegative = false ∧
        figure.scaleb arithmetic places = .ok shifted ∧
          shifted.equal shifted.toIntegralValue = true ∧
            shifted.toInt ≤ maxPriceAmountMinor ∧ shifted.toInt = amount := by
  rw [minorUnits, known]
  dsimp only
  constructor
  · intro read
    cases isFigure : decimal published with
    | error failure =>
        rw [isFigure] at read
        cases read
    | ok figure =>
        simp only [isFigure, Bind.bind, Except.bind] at read
        split at read
        · cases read
        · next notNegative =>
            cases isShifted : figure.scaleb arithmetic places with
            | error signal =>
                rw [isShifted] at read
                cases read
            | ok shifted =>
                simp only [isShifted, orRefuse] at read
                split at read
                · next isWhole =>
                    split at read
                    · cases read
                    · next fits =>
                        cases read
                        exact ⟨figure, shifted, rfl, by simpa using notNegative, isShifted,
                          isWhole, not_lt.mp fits, rfl⟩
                · cases read
  · rintro ⟨figure, shifted, isFigure, notNegative, isShifted, isWhole, fits, rfl⟩
    simp [isFigure, notNegative, isShifted, isWhole, not_lt.mpr fits, Bind.bind, Except.bind,
      orRefuse]

omit [CharacterTables] [Representations] in
/-- A figure whose amount is stored has few enough digits for the arithmetic. -/
theorem coefficient_lt {places : Nat} {amount : Int} (least : -8 ≤ figure.exponent)
    (same : figure.value * 10 ^ places = amount) (nonneg : 0 ≤ amount)
    (most : amount ≤ maxPriceAmountMinor) : figure.coefficient < 10 ^ arithmeticPrecision := by
  have isSigned : (figure.signed : ℚ) = amount * 10 ^ (-(figure.exponent + places)) := by
    rw [← same, Decimal.value, mul_assoc, mul_assoc, ← zpow_natCast (10 : ℚ) places,
      ← zpow_add₀ (by norm_num), ← zpow_add₀ (by norm_num)]
    simp
  have power : (10 : ℚ) ^ (-(figure.exponent + places)) ≤ 10 ^ (8 : Int) :=
    zpow_le_zpow_right₀ (by norm_num) (by omega)
  have bound : (figure.signed : ℚ) ≤ 10 ^ 20 := by
    rw [isSigned]
    calc (amount : ℚ) * 10 ^ (-(figure.exponent + places)) ≤ 10 ^ 12 * 10 ^ (8 : Int) := by
          have mostRat : (amount : ℚ) ≤ 10 ^ 12 := by exact_mod_cast most
          exact mul_le_mul mostRat power (zpow_nonneg (by norm_num) _) (by norm_num)
      _ = 10 ^ 20 := by norm_num
  have least : (0 : ℚ) ≤ figure.signed := by
    rw [isSigned]
    have nonnegRat : (0 : ℚ) ≤ amount := by exact_mod_cast nonneg
    exact mul_nonneg nonnegRat (zpow_nonneg (by norm_num) _)
  have boundInt : figure.signed ≤ 10 ^ 20 := by exact_mod_cast bound
  have leastInt : 0 ≤ figure.signed := by exact_mod_cast least
  have small : (figure.coefficient : Int) ≤ 10 ^ 20 := by
    simp only [Decimal.signed] at boundInt leastInt
    split at boundInt
    · rw [if_pos ‹_›] at leastInt
      omega
    · exact boundInt
  have smallNat : figure.coefficient ≤ 10 ^ 20 := by exact_mod_cast small
  exact smallNat.trans_lt (by decide)

/-- The figure that a price writes, within the bounds on what is read, is this amount. -/
def StatesAmount (published : Published) (places : Nat) (amount : Int) : Prop :=
  ∃ figure : ℚ, Writes published figure ∧ WithinBounds published ∧
    (amount : ℚ) = figure * 10 ^ places ∧ 0 ≤ amount ∧ amount ≤ maxPriceAmountMinor

/-- A price is read as the amount that it states, and no other price is read. -/
theorem minorUnits_eq_ok_iff_states {places : Nat} (known : exponent currency = some places)
    {amount : Int} :
    minorUnits published currency = .ok amount ↔ StatesAmount published places amount := by
  rw [minorUnits_eq_ok_iff known]
  constructor
  · rintro ⟨figure, shifted, read, notNegative, isShifted, isWhole, fits, rfl⟩
    obtain ⟨whole, isValue⟩ := Decimal.equal_toIntegralValue_iff.mp isWhole
    rw [Decimal.toInt_eq isValue] at fits ⊢
    rw [Decimal.scaleb_value isShifted, zpow_natCast] at isValue
    obtain ⟨writes, within⟩ := writes_of_decimal read
    refine ⟨figure.value, writes, ?_, isValue.symm, ?_, fits⟩
    · rcases within with within | rfl
      · exact within
      · by_cases isZero : figure.coefficient = 0
        · rw [WithinBounds, isZero]
          decide
        · exact (Decimal.digits_le_iff (by decide)).mp
            (Decimal.digits_le_of_scaleb isShifted isZero)
    · have nonneg : (0 : ℚ) ≤ whole := by
        rw [← isValue]
        exact mul_nonneg (Decimal.value_nonneg notNegative) (by positivity)
      exact_mod_cast nonneg
  · rintro ⟨_, writes, within, isAmount, nonneg, most⟩
    obtain ⟨figure, read, rfl, small⟩ := decimal_of_writes writes within
    have isValue : figure.value * 10 ^ (places : Int) = (amount.toNat : ℚ) := by
      rw [zpow_natCast, ← isAmount]
      exact_mod_cast (Int.toNat_of_nonneg nonneg).symm
    have fits : figure.digits ≤ arithmetic.precision := by
      rw [Decimal.digits_le_iff (by decide)]
      rcases small with few | least
      · exact few
      · exact coefficient_lt least isAmount.symm nonneg most
    have notNegative : figure.isNegative = false := by
      rw [Bool.eq_false_iff, ne_eq, Decimal.isNegative_iff, not_lt]
      have power : (0 : ℚ) < 10 ^ places := by positivity
      have product : 0 ≤ figure.value * 10 ^ places := by
        rw [← isAmount]
        exact_mod_cast nonneg
      exact nonneg_of_mul_nonneg_left product power
    have unsigned : figure.negative = false ∨ figure.coefficient = 0 := by
      simpa [Decimal.isNegative, or_iff_not_imp_left] using notNegative
    have below : amount.toNat < 10 ^ (12 + 1) := by
      have bound : amount ≤ 10 ^ 12 := most
      omega
    have near : |(places : Int)| ≤ 2 * (arithmetic.emax + arithmetic.precision) := by
      have few := exponent_le known
      rw [abs_of_nonneg (by omega)]
      simp only [arithmetic, arithmeticPrecision]
      omega
    obtain ⟨shifted, isShifted⟩ := Decimal.scaleb_of_whole fits unsigned near (by decide)
      (by decide) below isValue
    have isWhole : shifted.value = amount := by
      rw [Decimal.scaleb_value isShifted, zpow_natCast, isAmount]
    refine ⟨figure, shifted, read, notNegative, isShifted,
      Decimal.equal_toIntegralValue_iff.mpr ⟨amount, isWhole⟩, ?_, Decimal.toInt_eq isWhole⟩
    rw [Decimal.toInt_eq isWhole]
    exact most

omit [Representations] in
theorem decimalOfText_refuses {text : String} (raised : decimalOfText text = .error failure) :
    IsRefusal failure := by
  dsimp only [decimalOfText] at raised
  split at raised
  · exact isRefusal_of_refuse raised
  · split at raised
    · exact isRefusal_of_refuse raised
    · exact isRefusal_of_orRefuse raised

theorem decimal_refuses (raised : decimal published = .error failure) : IsRefusal failure := by
  cases published <;> rw [decimal] at raised
  case integer | decimal => cases raised
  case boolean | float => exact isRefusal_of_refuse raised
  case null | string | array | object => exact decimalOfText_refuses raised

theorem minorUnits_refuses (raised : minorUnits published currency = .error failure) :
    IsRefusal failure := by
  unfold minorUnits at raised
  split at raised
  · exact isRefusal_of_refuse raised
  · next places _ =>
      cases isFigure : decimal published with
      | error failed =>
          rw [isFigure] at raised
          cases raised
          exact decimal_refuses isFigure
      | ok figure =>
          simp only [isFigure, Bind.bind, Except.bind] at raised
          split at raised
          · exact isRefusal_of_refuse raised
          · cases isShifted : orRefuse (figure.scaleb arithmetic places) "price_malformed"
                "the page publishes a price AgentRank cannot convert exactly" with
            | error failed =>
                rw [isShifted] at raised
                cases raised
                exact isRefusal_of_orRefuse isShifted
            | ok shifted =>
                simp only [isShifted] at raised
                split at raised
                · split at raised
                  · exact isRefusal_of_refuse raised
                  · cases raised
                · exact isRefusal_of_refuse raised

/-- A range whose two ends are both published is accepted exactly where they are one amount. -/
theorem offeredAmount_range {offer : List (String × Published)} {amount : Int}
    (aggregate : aggregateOfferType ∈ types offer) (hasLow : get offer "lowPrice" ≠ .null)
    (hasHigh : get offer "highPrice" ≠ .null) :
    offeredAmount offer currency = .ok (some amount) ↔
      minorUnits (get offer "lowPrice") currency = .ok amount ∧
        minorUnits (get offer "highPrice") currency = .ok amount := by
  rw [offeredAmount, if_pos aggregate]
  generalize get offer "lowPrice" = low at hasLow ⊢
  generalize get offer "highPrice" = high at hasHigh ⊢
  split
  · exact absurd rfl hasLow
  · exact absurd rfl hasLow
  · exact absurd rfl hasHigh
  · cases isLow : minorUnits low currency with
    | error failure => simp [Bind.bind, Except.bind]
    | ok lowest =>
        cases isHigh : minorUnits high currency with
        | error failure => simp [Bind.bind, Except.bind]
        | ok highest =>
            by_cases same : lowest = highest
            · simp [Bind.bind, Except.bind, same, pure, Except.pure]
            · simp only [Bind.bind, Except.bind, same, if_false, pure, Except.pure]
              constructor
              · intro impossible
                cases impossible
              · rintro ⟨isLowest, isHighest⟩
                cases isLowest
                cases isHighest
                exact absurd rfl same

/-- Money is read exactly or refused.  A price is read as an amount exactly when the figure
that it writes, within the bounds on what is read, is that amount; two prices that write one
figure are read alike; what is not read is refused; and the two ends of a range are accepted
exactly where they are one amount. -/
theorem minorUnits_exact {currency : String} {places : Nat}
    (known : exponent currency = some places) :
    (∀ published amount,
      minorUnits published currency = .ok amount ↔ StatesAmount published places amount) ∧
      (∀ first second figure amount other, Writes first figure → Writes second figure →
        minorUnits first currency = .ok amount → minorUnits second currency = .ok other →
          amount = other) ∧
      (∀ published failure, minorUnits published currency = .error failure →
        IsRefusal failure) ∧
      ∀ offer amount, aggregateOfferType ∈ types offer → get offer "lowPrice" ≠ .null →
        get offer "highPrice" ≠ .null →
          (offeredAmount offer currency = .ok (some amount) ↔
            minorUnits (get offer "lowPrice") currency = .ok amount ∧
              minorUnits (get offer "highPrice") currency = .ok amount) := by
  refine ⟨fun _ _ => minorUnits_eq_ok_iff_states known, ?_, fun _ _ => minorUnits_refuses,
    fun _ _ => offeredAmount_range⟩
  intro first second figure amount other writesFirst writesSecond readFirst readSecond
  obtain ⟨_, written, _, isAmount, _⟩ := (minorUnits_eq_ok_iff_states known).mp readFirst
  obtain ⟨_, writtenOther, _, isOther, _⟩ := (minorUnits_eq_ok_iff_states known).mp readSecond
  rw [writes_unique written writesFirst] at isAmount
  rw [writes_unique writtenOther writesSecond] at isOther
  exact_mod_cast isAmount.trans isOther.symm

end Reading

/-- A price in rupees, written with two decimals and with eight, and one with grouped digits. -/
theorem minorUnits_exact_sample :
    let _ := asciiTables
    let _ := emptyRepresentations
    minorUnits (.string "1,234.56") "INR" =
        refuse "price_malformed"
          "the price is not a plain number, so AgentRank cannot read it without guessing" ∧
      StatesAmount (.string " 4999.10 ") 2 499910 ∧
        StatesAmount (.string "4999.10000000") 2 499910 ∧
          StatesAmount (.decimal { negative := false, coefficient := 49991, exponent := -1 }) 2
            499910 :=
  let _ := asciiTables
  let _ := emptyRepresentations
  have read := (@minorUnits_exact _ _ "INR" 2 rfl).1
  ⟨by decide +kernel, (read _ _).mp (by decide +kernel), (read _ _).mp (by decide +kernel),
    (read _ _).mp (by decide +kernel)⟩

end AgentRank.Importer
