import AgentRank.Arithmetic.FloatText
import AgentRank.Representation.JsonRoundTrip

/-!
# How long a JSON text is

Every character of a text is written in ASCII, and one of the basic plane takes six of them at
most.  An object is as long as its fields, in whatever order they are written.
-/

namespace AgentRank.Representation

open Arithmetic Constraints Relational

/-- All characters are of the ASCII range. -/
def IsAscii (text : List Char) : Prop :=
  ∀ char ∈ text, char.toNat < 128

section Parts

variable {char : Char} {first second : List Char}

theorem isAscii_nil : IsAscii [] :=
  List.forall_mem_nil _

theorem IsAscii.cons (head : char.toNat < 128) (tail : IsAscii first) : IsAscii (char :: first) :=
  List.forall_mem_cons.mpr ⟨head, tail⟩

theorem IsAscii.append (former : IsAscii first) (later : IsAscii second) :
    IsAscii (first ++ second) :=
  List.forall_mem_append.mpr ⟨former, later⟩

theorem isAscii_of_digits (digits : ∀ char ∈ first, char.isDigit = true) : IsAscii first := by
  intro char member
  have bounds := isDigit_bounds (digits char member)
  omega

/-- Of a text that is given, the characters are looked through. -/
theorem isAscii_of_all (all : (first.all fun char => decide (char.toNat < 128)) = true) :
    IsAscii first := by
  intro char member
  exact of_decide_eq_true (List.all_eq_true.mp all char member)

theorem isAscii_gap (isGap : Bool) : IsAscii (gap isGap) := by
  cases isGap with
  | false => exact isAscii_nil
  | true => exact isAscii_nil.cons (by decide)

theorem isAscii_intercalate {separator : List Char} {texts : List (List Char)}
    (between : IsAscii separator) (each : ∀ text ∈ texts, IsAscii text) :
    IsAscii (List.intercalate separator texts) := by
  induction texts with
  | nil => exact isAscii_nil
  | cons text rest ih =>
      obtain ⟨first, later⟩ := List.forall_mem_cons.mp each
      cases rest with
      | nil =>
          rw [List.intercalate_singleton]
          exact first
      | cons other rest =>
          rw [intercalate_cons]
          exact first.append (between.append (ih later))

end Parts

theorem escapedUnit_toList {unit : Nat} (below : unit < 65536) :
    (escapedUnit unit).toList =
      ['\\', 'u', Nat.digitChar (unit / 4096), Nat.digitChar (unit / 256 % 16),
        Nat.digitChar (unit / 16 % 16), Nat.digitChar (unit % 16)] := by
  rw [escapedUnit, String.toList_append, toDigits_four below, String.toList_ofList,
    String.toList_ofList]
  rfl

theorem isAscii_escapedUnit {unit : Nat} (below : unit < 65536) :
    IsAscii (escapedUnit unit).toList := by
  have digit : ∀ value < 16, (Nat.digitChar value).toNat < 128 := by decide
  rw [escapedUnit_toList below]
  have digits : IsAscii [Nat.digitChar (unit / 4096), Nat.digitChar (unit / 256 % 16),
      Nat.digitChar (unit / 16 % 16), Nat.digitChar (unit % 16)] :=
    (((isAscii_nil.cons (digit _ (by omega))).cons (digit _ (by omega))).cons
      (digit _ (by omega))).cons (digit _ (by omega))
  exact (digits.cons (by decide)).cons (by decide)

theorem toNat_lt_of_valid (char : Char) : char.toNat < 0x110000 := by
  have valid := char.valid
  simp only [UInt32.isValidChar, Nat.isValidChar] at valid
  change char.val.toNat < _
  omega

theorem isAscii_escapedChar (char : Char) : IsAscii (escapedChar char).toList := by
  have bounded := toNat_lt_of_valid char
  have short : ∀ letter : Char, letter.toNat < 128 → IsAscii ['\\', letter] := fun letter small =>
    (isAscii_nil.cons small).cons (by decide)
  unfold escapedChar
  split_ifs with isQuote isSlash isLine isReturn isTab isBackspace isFeed isPlain isSmall
  · exact short '"' (by decide)
  · exact short '\\' (by decide)
  · exact short 'n' (by decide)
  · exact short 'r' (by decide)
  · exact short 't' (by decide)
  · exact short 'b' (by decide)
  · exact short 'f' (by decide)
  · have textEq : char.toString.toList = [char] := by simp [Char.toString]
    rw [textEq]
    exact isAscii_nil.cons (by omega)
  · exact isAscii_escapedUnit isSmall
  · rw [String.toList_append]
    exact (isAscii_escapedUnit (by omega)).append (isAscii_escapedUnit (by omega))

/-- A character of the basic plane is written in six characters at most. -/
theorem length_escapedChar_le {char : Char} (small : char.toNat < 65536) :
    (escapedChar char).toList.length ≤ 6 := by
  unfold escapedChar
  split_ifs
  · decide
  · decide
  · decide
  · decide
  · decide
  · decide
  · decide
  · have textEq : char.toString.toList = [char] := by simp [Char.toString]
    rw [textEq]
    exact Nat.le_of_ble_eq_true rfl
  · rw [escapedUnit_toList small]
    exact Nat.le_of_ble_eq_true rfl

/-! ## Texts -/

theorem isAscii_quoted (text : String) : IsAscii (quoted text).toList := by
  have inner : IsAscii (escapedChars text.toList) := by
    intro char member
    obtain ⟨source, _, inSource⟩ := List.mem_flatMap.mp member
    exact isAscii_escapedChar source char inSource
  rw [toList_quoted]
  exact (inner.append (isAscii_nil.cons (by decide))).cons (by decide)

theorem length_quoted_le {text : String} (small : ∀ char ∈ text.toList, char.toNat < 65536) :
    (quoted text).toList.length ≤ 6 * text.toList.length + 2 := by
  have inner : ∀ chars : List Char, (∀ char ∈ chars, char.toNat < 65536) →
      (escapedChars chars).length ≤ 6 * chars.length := by
    intro chars
    induction chars with
    | nil => exact fun _ => Nat.le_refl 0
    | cons char rest ih =>
        intro each
        obtain ⟨first, later⟩ := List.forall_mem_cons.mp each
        have bound := ih later
        have here := length_escapedChar_le first
        rw [escapedChars, List.flatMap_cons, List.length_append, List.length_cons, ← escapedChars]
        omega
  have bound := inner text.toList small
  rw [toList_quoted, List.length_cons, List.length_append, List.length_singleton]
  omega

theorem isAscii_parts {parts : NumberText} (isText : parts.IsText) : IsAscii parts.text := by
  have sign : IsAscii (if parts.negative = true then ['-'] else []) := by
    split
    · exact isAscii_nil.cons (by decide)
    · exact isAscii_nil
  have fraction : IsAscii (NumberText.fractionText parts.fraction) := by
    have digits := isAscii_of_digits isText.fractionDigits
    cases isFraction : parts.fraction with
    | nil => exact isAscii_nil
    | cons digit rest =>
        rw [isFraction] at digits
        exact digits.cons (by decide)
  have exponent : IsAscii
      (parts.exponent.elim [] fun power => 'e' :: NumberText.exponentText power) := by
    cases parts.exponent with
    | none => exact isAscii_nil
    | some power =>
        have digits : IsAscii (Nat.toDigits 10 power.natAbs) :=
          isAscii_of_digits fun char member => NumberText.isDigit_toDigits member
        have padding : IsAscii (List.replicate (2 - (Nat.toDigits 10 power.natAbs).length) '0') := by
          intro char member
          rw [List.eq_of_mem_replicate member]
          decide
        have written : IsAscii (NumberText.exponentText power) := by
          rw [NumberText.exponentText]
          exact (padding.append digits).cons (by split <;> decide)
        exact written.cons (by decide)
  rw [NumberText.text]
  exact sign.append ((isAscii_of_digits isText.wholeDigits).append (fraction.append exponent))

theorem isAscii_number {number : Number} {text : List Char}
    (written : numberText number = some text) : IsAscii text := by
  cases number with
  | posInf =>
      cases written
      exact isAscii_of_all (by decide)
  | negInf =>
      cases written
      exact isAscii_of_all (by decide)
  | nan =>
      cases written
      exact isAscii_of_all (by decide)
  | finite value =>
      rw [numberText] at written
      split at written
      · dsimp only at written
        split at written
        · cases written
          exact isAscii_parts (NumberText.isText_ofInt _)
        · cases written
      · obtain ⟨figure, found, rfl⟩ := Option.map_eq_some_iff.mp written
        exact isAscii_parts (figure.isText_parts (shortest_sound found).1)

/-- A number is written with no more digits than an integer may have. -/
theorem length_number_le {number : Number} {text : List Char}
    (written : numberText number = some text) : text.length ≤ maxIntegerDigits + 1 := by
  cases number with
  | posInf =>
      cases written
      decide
  | negInf =>
      cases written
      decide
  | nan =>
      cases written
      decide
  | finite value =>
      rw [numberText] at written
      split at written
      · dsimp only at written
        split at written
        · rename_i within
          cases written
          have sign : (if (NumberText.ofInt value.num).negative = true then ['-'] else []).length ≤
              1 := by
            split
            · exact Nat.le_refl 1
            · exact Nat.zero_le 1
          have tail : NumberText.fractionText (NumberText.ofInt value.num).fraction ++
              ((NumberText.ofInt value.num).exponent.elim [] fun power =>
                'e' :: NumberText.exponentText power) = [] := rfl
          rw [NumberText.text, tail, List.append_nil, List.length_append]
          omega
        · cases written
      · rename_i notWhole
        obtain ⟨figure, found, rfl⟩ := Option.map_eq_some_iff.mp written
        have nonzero : value ≠ 0 := by
          rintro rfl
          exact notWhole rfl
        exact (length_shortest_le found nonzero).trans (by decide)

theorem isAscii_scalar {value : ScalarValue} {text : List Char}
    (written : scalarText value = some text) : IsAscii text := by
  match value with
  | .string stated =>
      cases written
      exact isAscii_quoted stated
  | .number number => exact isAscii_number written
  | .boolean true =>
      cases written
      exact isAscii_of_all (by decide)
  | .boolean false =>
      cases written
      exact isAscii_of_all (by decide)

mutual

/-- Whatever is written is ASCII. -/
theorem isAscii_write {gaps : Gaps} :
    (value : Json) → ∀ {text}, write gaps value = some text → IsAscii text
  | .null => by
      rintro ⟨⟩
      exact isAscii_of_all (by decide)
  | .scalar value => isAscii_scalar
  | .array items => by
      intro written
      simp only [write, bind, Option.bind_eq_some_iff, pure, Option.some.injEq] at written
      obtain ⟨texts, textsEq, rfl⟩ := written
      have separator : IsAscii (',' :: gap gaps.item) := (isAscii_gap _).cons (by decide)
      have inner := isAscii_intercalate separator (isAscii_writeItems items textsEq)
      exact (inner.append (isAscii_nil.cons (by decide))).cons (by decide)
  | .object fields => by
      intro written
      simp only [write, bind, Option.bind_eq_some_iff, pure, Option.some.injEq] at written
      obtain ⟨texts, textsEq, rfl⟩ := written
      have separator : IsAscii (',' :: gap gaps.item) := (isAscii_gap _).cons (by decide)
      have inner := isAscii_intercalate separator (isAscii_writeFields fields textsEq)
      exact (inner.append (isAscii_nil.cons (by decide))).cons (by decide)

theorem isAscii_writeItems {gaps : Gaps} :
    (items : List Json) → ∀ {texts}, writeItems gaps items = some texts →
      ∀ text ∈ texts, IsAscii text
  | [] => by
      rintro ⟨⟩
      exact List.forall_mem_nil _
  | item :: rest => by
      intro written
      simp only [writeItems, bind, Option.bind_eq_some_iff, pure, Option.some.injEq] at written
      obtain ⟨first, firstEq, others, othersEq, rfl⟩ := written
      exact List.forall_mem_cons.mpr
        ⟨isAscii_write item firstEq, isAscii_writeItems rest othersEq⟩

theorem isAscii_writeFields {gaps : Gaps} :
    (fields : List (String × Json)) → ∀ {texts}, writeFields gaps fields = some texts →
      ∀ text ∈ texts, IsAscii text
  | [] => by
      rintro ⟨⟩
      exact List.forall_mem_nil _
  | (key, value) :: rest => by
      intro written
      simp only [writeFields, bind, Option.bind_eq_some_iff, pure, Option.some.injEq] at written
      obtain ⟨first, firstEq, others, othersEq, rfl⟩ := written
      have valueText := (isAscii_gap gaps.key).append (isAscii_write value firstEq)
      exact List.forall_mem_cons.mpr
        ⟨(isAscii_quoted key).append (valueText.cons (by decide)),
          isAscii_writeFields rest othersEq⟩

end

theorem length_intercalate_le {separator : List Char} {texts : List (List Char)} :
    (List.intercalate separator texts).length ≤
      (texts.map fun text => text.length + separator.length).sum := by
  induction texts with
  | nil => exact Nat.le_refl 0
  | cons text rest ih =>
      rw [List.map_cons, List.sum_cons]
      cases rest with
      | nil =>
          rw [List.intercalate_singleton]
          omega
      | cons other rest =>
          rw [intercalate_cons, List.length_append, List.length_append]
          omega

/-- How long a field is, with the colon in it and a comma behind it. -/
def fieldLength (name : String) (value : Json) : Nat :=
  (quoted name).toList.length + ((write compact value).getD []).length + 2

theorem length_writeFields {fields : List (String × Json)} {texts : List (List Char)}
    (written : writeFields compact fields = some texts) :
    (texts.map fun text => text.length + 1).sum =
      (fields.map fun field => fieldLength field.1 field.2).sum := by
  induction fields generalizing texts with
  | nil =>
      cases written
      rfl
  | cons field rest ih =>
      obtain ⟨name, value⟩ := field
      simp only [writeFields, bind, Option.bind_eq_some_iff, pure, Option.some.injEq] at written
      obtain ⟨first, firstEq, others, othersEq, rfl⟩ := written
      have gapEq : gap compact.key = [] := rfl
      rw [List.map_cons, List.map_cons, List.sum_cons, List.sum_cons, ih othersEq, fieldLength,
        firstEq, gapEq, List.nil_append, List.length_append, List.length_cons, Option.getD_some]
      dsimp only
      omega

theorem sortFields_eq_map (fields : List (String × Json)) :
    sortFields fields = fields.map fun field => (field.1, sortKeys field.2) := by
  induction fields with
  | nil => rfl
  | cons field rest ih =>
      obtain ⟨name, value⟩ := field
      rw [sortFields, ih, List.map_cons]

/-- An object is no longer than its fields and two braces. -/
theorem length_write_object_le {fields : List (String × Json)}
    (distinct : (fields.map Prod.fst).Nodup) :
    ((write compact (sortKeys (.object fields))).getD []).length ≤
      (fields.map fun field => fieldLength field.1 (sortKeys field.2)).sum + 2 := by
  have sameKeys : (sortFields fields).map Prod.fst = fields.map Prod.fst := by
    rw [sortFields_eq_map, List.map_map]
    rfl
  have perm : (Mapping.ofEntries (sortFields fields)).entries.Perm (sortFields fields) :=
    Mapping.entries_ofEntries_perm (sameKeys ▸ distinct)
  have sameSum := (perm.map fun field => fieldLength field.1 field.2).sum_eq
  cases isWritten : write compact (sortKeys (.object fields)) with
  | none => exact Nat.zero_le _
  | some text =>
      simp only [sortKeys, write, bind, Option.bind_eq_some_iff, pure, Option.some.injEq]
        at isWritten
      obtain ⟨texts, textsEq, rfl⟩ := isWritten
      have joined := @length_intercalate_le (',' :: gap compact.item) texts
      have total := length_writeFields textsEq
      rw [sameSum, sortFields_eq_map, List.map_map] at total
      rw [Option.getD_some, List.length_cons, List.length_append, List.length_singleton]
      change _ ≤ (texts.map fun text => text.length + 1).sum at joined
      rw [total] at joined
      exact Nat.succ_le_succ (Nat.succ_le_succ joined)

end AgentRank.Representation
