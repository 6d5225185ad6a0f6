import AgentRank.Arithmetic.Decimal
import Mathlib.Data.Int.Log
import Mathlib.Tactic.Linarith

/-!
# The texts of numbers

This module defines the text of a number: a sign, a whole part, a fraction and an exponent, all
in decimal digits.  The longest such text in front of another one is read back as the parts it
was written from.

A binary floating point number is written with the fewest digits that are read back as it.
-/

namespace AgentRank.Arithmetic

/-- The parts of a text.  There is a point where the fraction has digits. -/
structure NumberText where
  negative : Bool
  whole : List Char
  fraction : List Char
  exponent : Option Int
deriving DecidableEq

namespace NumberText

/-- At least two digits behind a sign. -/
def exponentText (power : Int) : List Char :=
  let digits := Nat.toDigits 10 power.natAbs
  (if power < 0 then '-' else '+') :: (List.replicate (2 - digits.length) '0' ++ digits)

def fractionText : List Char → List Char
  | [] => []
  | digits => '.' :: digits

def text (parts : NumberText) : List Char :=
  (if parts.negative then ['-'] else []) ++
    (parts.whole ++ (fractionText parts.fraction ++
      parts.exponent.elim [] fun power => 'e' :: exponentText power))

/-- The number that the parts name. -/
def decimal (parts : NumberText) : Decimal where
  negative := parts.negative
  coefficient := Nat.ofDigitChars 10 (parts.whole ++ parts.fraction) 0
  exponent := parts.exponent.getD 0 - parts.fraction.length

/-- The text of a whole number. -/
def ofInt (value : Int) : NumberText where
  negative := decide (value < 0)
  whole := Nat.toDigits 10 value.natAbs
  fraction := []
  exponent := none

def readDigits (text : List Char) : List Char × List Char :=
  (text.takeWhile Char.isDigit, text.dropWhile Char.isDigit)

def readMinus : List Char → Bool × List Char
  | '-' :: rest => (true, rest)
  | text => (false, text)

/-- No other digit stands behind a leading zero. -/
def readWhole : List Char → Option (List Char × List Char)
  | '0' :: rest => some (['0'], rest)
  | text =>
      match readDigits text with
      | ([], _) => none
      | found => some found

def readFraction : List Char → List Char × List Char
  | '.' :: rest =>
      match readDigits rest with
      | ([], _) => ([], '.' :: rest)
      | found => found
  | text => ([], text)

def readSign : List Char → Bool × List Char
  | '-' :: rest => (true, rest)
  | '+' :: rest => (false, rest)
  | text => (false, text)

def readExponent : List Char → Option Int × List Char
  | [] => (none, [])
  | char :: rest =>
      if char = 'e' ∨ char = 'E' then
        match readDigits (readSign rest).2 with
        | ([], _) => (none, char :: rest)
        | (digits, behind) =>
            let size : Int := Nat.ofDigitChars 10 digits 0
            (some (if (readSign rest).1 then -size else size), behind)
      else (none, char :: rest)

/-- The longest number that a text begins with, and the text behind it. -/
def read (text : List Char) : Option (NumberText × List Char) := do
  let (negative, unsigned) := readMinus text
  let (whole, behindWhole) ← readWhole unsigned
  let (fraction, behindFraction) := readFraction behindWhole
  let (exponent, behind) := readExponent behindFraction
  return ({ negative := negative, whole := whole, fraction := fraction, exponent := exponent },
    behind)

/-! ## What is written is read back -/

/-- Parts that are written as a number. -/
structure IsText (parts : NumberText) : Prop where
  wholeStated : parts.whole ≠ []
  wholeDigits : ∀ char ∈ parts.whole, char.isDigit = true
  fractionDigits : ∀ char ∈ parts.fraction, char.isDigit = true
  noLeadingZero : parts.whole = ['0'] ∨ parts.whole.head? ≠ some '0'

/-- A text in which no number goes on. -/
def Ends (text : List Char) : Prop :=
  ∀ char ∈ text.head?, char.isDigit = false ∧ char ≠ '.' ∧ char ≠ 'e' ∧ char ≠ 'E'

theorem ends_nil : Ends [] := by
  intro char member
  cases member

theorem readDigits_append {digits : List Char} (rest : List Char)
    (isDigits : ∀ char ∈ digits, char.isDigit = true)
    (ends : ∀ char ∈ rest.head?, char.isDigit = false) :
    readDigits (digits ++ rest) = (digits, rest) := by
  have taken : rest.takeWhile Char.isDigit = [] := by
    cases rest with
    | nil => rfl
    | cons char rest => rw [List.takeWhile_cons, ends char rfl, if_neg (by decide)]
  have dropped : rest.dropWhile Char.isDigit = rest := by
    cases rest with
    | nil => rfl
    | cons char rest => rw [List.dropWhile_cons, ends char rfl, if_neg (by decide)]
  rw [readDigits, List.takeWhile_append_of_pos isDigits, List.dropWhile_append_of_pos isDigits,
    taken, dropped, List.append_nil]

theorem readMinus_text {parts : NumberText} {unsigned : List Char}
    (notMinus : unsigned.head? ≠ some '-') :
    readMinus ((if parts.negative then ['-'] else []) ++ unsigned) = (parts.negative, unsigned) := by
  cases isNegative : parts.negative with
  | true => rfl
  | false =>
      cases unsigned with
      | nil => rfl
      | cons char rest =>
          change readMinus (char :: rest) = _
          rw [readMinus]
          rintro _ ⟨⟩
          exact notMinus rfl

variable {rest : List Char}

theorem readWhole_append {whole : List Char} (stated : whole ≠ [])
    (isDigits : ∀ char ∈ whole, char.isDigit = true)
    (noLeadingZero : whole = ['0'] ∨ whole.head? ≠ some '0')
    (ends : ∀ char ∈ rest.head?, char.isDigit = false) :
    readWhole (whole ++ rest) = some (whole, rest) := by
  rcases noLeadingZero with rfl | noLeadingZero
  · rfl
  · cases whole with
    | nil => exact absurd rfl stated
    | cons char whole =>
        have notZero : char ≠ '0' := fun isZero => noLeadingZero (congrArg some isZero)
        have found := readDigits_append rest isDigits ends
        rw [List.cons_append] at found ⊢
        rw [readWhole, found]
        rintro _ ⟨⟩
        exact notZero rfl

theorem readFraction_append {fraction : List Char}
    (isDigits : ∀ char ∈ fraction, char.isDigit = true)
    (ends : ∀ char ∈ rest.head?, char.isDigit = false ∧ char ≠ '.') :
    readFraction (fractionText fraction ++ rest) = (fraction, rest) := by
  cases fraction with
  | nil =>
      cases rest with
      | nil => rfl
      | cons char rest =>
          change readFraction (char :: rest) = _
          rw [readFraction]
          rintro _ ⟨⟩
          exact (ends _ rfl).2 rfl
  | cons digit digits =>
      have found := readDigits_append rest isDigits fun char member => (ends char member).1
      change readFraction ('.' :: (digit :: digits ++ rest)) = _
      rw [readFraction, found]

theorem isDigit_toDigits {value : Nat} {char : Char} (member : char ∈ Nat.toDigits 10 value) :
    char.isDigit = true :=
  Nat.isDigit_of_mem_toDigits (by decide) (by decide) member

theorem readSign_exponentText (power : Int) (rest : List Char) :
    readSign (exponentText power ++ rest) =
      (decide (power < 0), List.replicate (2 - (Nat.toDigits 10 power.natAbs).length) '0' ++
        Nat.toDigits 10 power.natAbs ++ rest) := by
  unfold exponentText
  by_cases negative : power < 0
  · simp [negative, readSign]
  · simp [negative, readSign]

theorem readExponent_append {exponent : Option Int} (ends : Ends rest) :
    readExponent ((exponent.elim [] fun power => 'e' :: exponentText power) ++ rest) =
      (exponent, rest) := by
  cases exponent with
  | none =>
      cases rest with
      | nil => rfl
      | cons char rest =>
          have notExponent : ¬(char = 'e' ∨ char = 'E') := by
            rintro (isExponent | isExponent)
            · exact (ends char rfl).2.2.1 isExponent
            · exact (ends char rfl).2.2.2 isExponent
          change readExponent (char :: rest) = _
          rw [readExponent, if_neg notExponent]
  | some power =>
      have isDigits : ∀ char ∈ List.replicate (2 - (Nat.toDigits 10 power.natAbs).length) '0' ++
          Nat.toDigits 10 power.natAbs, char.isDigit = true := by
        intro char member
        rcases List.mem_append.mp member with padding | digit
        · rw [List.eq_of_mem_replicate padding]
          rfl
        · exact isDigit_toDigits digit
      have found := readDigits_append rest isDigits fun char member =>
        (ends char member).1
      have size : Nat.ofDigitChars 10
          (List.replicate (2 - (Nat.toDigits 10 power.natAbs).length) '0' ++
            Nat.toDigits 10 power.natAbs) 0 = power.natAbs := by
        rw [Nat.ofDigitChars_append, Nat.ofDigitChars_replicate_zero, Nat.mul_zero,
          Nat.ofDigitChars_ten_toDigits]
      have signed : (if power < 0 then -(power.natAbs : Int) else (power.natAbs : Int)) = power := by
        split <;> omega
      change readExponent ('e' :: (exponentText power ++ rest)) = _
      rw [readExponent, if_pos (Or.inl rfl), readSign_exponentText, found]
      split
      · rename_i isEmpty
        have length := congrArg (fun pair => pair.1.length) isEmpty
        have stated := Nat.length_toDigits_pos (b := 10) (n := power.natAbs)
        simp only [List.length_append, List.length_nil] at length
        omega
      · rename_i digits behind _ same
        cases same
        simp only [size, decide_eq_true_eq, signed]

/-- The head of a number's end, or the mark of the part that follows. -/
theorem head?_exponent (exponent : Option Int) (ends : Ends rest) :
    ∀ char ∈ ((exponent.elim [] fun power => 'e' :: exponentText power) ++ rest).head?,
      char.isDigit = false ∧ char ≠ '.' := by
  intro char member
  cases exponent with
  | none => exact ⟨(ends char member).1, (ends char member).2.1⟩
  | some power =>
      cases member
      exact ⟨rfl, by decide⟩

theorem head?_fraction (fraction : List Char) (ends : ∀ char ∈ rest.head?, char.isDigit = false) :
    ∀ char ∈ (fractionText fraction ++ rest).head?, char.isDigit = false := by
  intro char member
  cases fraction with
  | nil => exact ends char member
  | cons digit digits =>
      cases member
      rfl

/-- A number is read back up to its end. -/
theorem read_text {parts : NumberText} (isText : parts.IsText) (ends : Ends rest) :
    read (parts.text ++ rest) = some (parts, rest) := by
  obtain ⟨stated, wholeDigits, fractionDigits, noLeadingZero⟩ := isText
  have exponentEnds := head?_exponent parts.exponent ends
  have fractionEnds := head?_fraction parts.fraction
    fun char member => (exponentEnds char member).1
  have notMinus : (parts.whole ++ (fractionText parts.fraction ++
      ((parts.exponent.elim [] fun power => 'e' :: exponentText power) ++ rest))).head? ≠
        some '-' := by
    intro isMinus
    cases wholeEq : parts.whole with
    | nil => exact stated wholeEq
    | cons char whole =>
        rw [wholeEq] at isMinus
        cases isMinus
        have isDigit := wholeDigits '-' (by rw [wholeEq]; exact List.mem_cons_self)
        cases isDigit
  unfold read
  rw [text, List.append_assoc, List.append_assoc, List.append_assoc, readMinus_text notMinus]
  simp only [readWhole_append stated wholeDigits noLeadingZero fractionEnds,
    readFraction_append fractionDigits exponentEnds, readExponent_append ends, bind, Option.bind,
    pure]

theorem head?_toDigits {value : Nat} (positive : 0 < value) :
    (Nat.toDigits 10 value).head? ≠ some '0' := by
  induction value using Nat.strongRecOn with
  | ind value ih =>
      by_cases small : value < 10
      · have notZero : ∀ digit < 10, 0 < digit → digit.digitChar ≠ '0' := by decide
        rw [Nat.toDigits_of_lt_base small]
        exact fun same => notZero value small positive (Option.some.inj same)
      · have smaller : 0 < value / 10 := by omega
        have digits := Nat.toDigits_of_base_le (b := 10) (by decide) (by omega : 10 ≤ value)
        rw [digits, List.head?_append_of_ne_nil _ Nat.toDigits_ne_nil]
        exact ih _ (by omega) smaller

theorem isText_ofInt (value : Int) : (ofInt value).IsText where
  wholeStated := Nat.toDigits_ne_nil
  wholeDigits _ member := isDigit_toDigits member
  fractionDigits := by
    intro char member
    cases member
  noLeadingZero := by
    by_cases isZero : value.natAbs = 0
    · exact Or.inl (by rw [ofInt, isZero]; rfl)
    · exact Or.inr (head?_toDigits (by omega))

theorem signed_ofInt (value : Int) : (ofInt value).decimal.signed = value := by
  simp only [Decimal.signed, decimal, ofInt, List.append_nil, Nat.ofDigitChars_ten_toDigits,
    decide_eq_true_eq]
  split <;> omega

end NumberText
end AgentRank.Arithmetic
