import AgentRank.Representation.JsonText

/-!
# What is written as JSON is read back

A value whose objects have no key twice is read back from its text, with or without gaps.  The
proof follows the value: every part of the text is read up to where the next part begins.
-/

namespace AgentRank.Representation

open Arithmetic Constraints Relational

/-- No object of a value has a key twice. -/
inductive DistinctKeys : Json → Prop
  | null : DistinctKeys .null
  | scalar (value : ScalarValue) : DistinctKeys (.scalar value)
  | array (items : List Json) (each : ∀ item ∈ items, DistinctKeys item) :
      DistinctKeys (.array items)
  | object (fields : List (String × Json)) (keys : (fields.map Prod.fst).Nodup)
      (each : ∀ field ∈ fields, DistinctKeys field.2) : DistinctKeys (.object fields)

/-- The text of a value begins with no blank and closes nothing. -/
def Starts (text : List Char) : Prop :=
  ∃ char more, text = char :: more ∧ isBlankChar char = false ∧ char ≠ ']' ∧ char ≠ '\x7d'

variable {rest : List Char}

theorem ends_cons {char : Char}
    (isEnd : char.isDigit = false ∧ char ≠ '.' ∧ char ≠ 'e' ∧ char ≠ 'E') :
    NumberText.Ends (char :: rest) := by
  rintro _ ⟨⟩
  exact isEnd

variable {text : List Char}

theorem skipBlanks_gap (isGap : Bool) (starts : Starts text) (rest : List Char) :
    skipBlanks (gap isGap ++ (text ++ rest)) = text ++ rest := by
  obtain ⟨char, more, rfl, notBlank, _⟩ := starts
  have stops : skipBlanks (char :: more ++ rest) = char :: more ++ rest := by
    rw [skipBlanks, List.cons_append, List.dropWhile_cons, notBlank, if_neg (by decide)]
  cases isGap with
  | false => exact stops
  | true => exact stops

/-- A text that begins a value is left as it is. -/
theorem skipBlanks_of_starts (starts : Starts text) (rest : List Char) :
    skipBlanks (text ++ rest) = text ++ rest :=
  skipBlanks_gap false starts rest

theorem skipBlanks_cons {char : Char} (notBlank : isBlankChar char = false) :
    skipBlanks (char :: rest) = char :: rest := by
  rw [skipBlanks, List.dropWhile_cons, notBlank, if_neg (by decide)]

/-! ## Numbers and constants -/

/-- The text of a number begins with a digit, or with a minus before one. -/
theorem head_text {parts : NumberText} (isText : parts.IsText) :
    ∃ digit more, digit.isDigit = true ∧
      (parts.text = digit :: more ∨ parts.text = '-' :: digit :: more) := by
  cases wholeEq : parts.whole with
  | nil => exact absurd wholeEq isText.wholeStated
  | cons digit whole =>
      have isDigit := isText.wholeDigits digit (by rw [wholeEq]; exact List.mem_cons_self)
      refine ⟨digit, whole ++ (NumberText.fractionText parts.fraction ++
        parts.exponent.elim [] fun power => 'e' :: NumberText.exponentText power), isDigit, ?_⟩
      rw [NumberText.text, wholeEq]
      cases parts.negative with
      | false => exact Or.inl rfl
      | true => exact Or.inr rfl

theorem isDigit_bounds {char : Char} (isDigit : char.isDigit = true) :
    48 ≤ char.toNat ∧ char.toNat ≤ 57 := by
  simp only [Char.isDigit, ge_iff_le, Bool.and_eq_true, decide_eq_true_eq,
    UInt32.le_iff_toNat_le] at isDigit
  exact isDigit

theorem ne_of_isDigit {char other : Char} (isDigit : char.isDigit = true)
    (outside : other.isDigit = false) : char ≠ other := by
  rintro rfl
  rw [isDigit] at outside
  cases outside

/-- No constant begins like a number. -/
theorem readAtom_number {parts : NumberText} (isText : parts.IsText) (rest : List Char) :
    readAtom (parts.text ++ rest) = readNumber (parts.text ++ rest) := by
  obtain ⟨digit, more, isDigit, textEq⟩ := head_text isText
  have notLetter : ∀ other : Char, other.isDigit = false → (other == digit) = false := by
    intro other outside
    exact beq_false_of_ne (ne_of_isDigit isDigit outside).symm
  have none : (constants.find? fun constant =>
      constant.1.toList.isPrefixOf (parts.text ++ rest)) = none := by
    rw [List.find?_eq_none]
    intro constant member isPrefix
    rcases textEq with textEq | textEq
    all_goals
      rw [textEq] at isPrefix
      simp only [constants, List.mem_cons, List.not_mem_nil, or_false] at member
      rcases member with rfl | rfl | rfl | rfl | rfl | rfl <;>
        simp [List.isPrefixOf, notLetter] at isPrefix
  rw [readAtom, none]

theorem readValue_atom {fuel : Nat} {char : Char} {more : List Char}
    (isAtom : char ≠ '"' ∧ char ≠ '[' ∧ char ≠ '\x7b') :
    readValue (fuel + 1) (char :: more) = readAtom (char :: more) := by
  rw [readValue]
  · rintro _ ⟨⟩
    exact isAtom.1 rfl
  · rintro _ ⟨⟩
    exact isAtom.2.1 rfl
  · rintro _ ⟨⟩
    exact isAtom.2.2 rfl

/-- A value is read from its text, up to where the text ends. -/
structure Reads (value : Json) (text : List Char) : Prop where
  starts : Starts text
  isRead : ∀ fuel rest, text.length ≤ fuel → NumberText.Ends rest →
    readValue fuel (text ++ rest) = .ok (value, rest)

theorem reads_parts {parts : NumberText} {number : Number} (isText : parts.IsText)
    (isNumber : numberOf parts = .ok number) : Reads (.scalar (.number number)) parts.text := by
  obtain ⟨digit, more, isDigit, textEq⟩ := head_text isText
  have outside : ∀ other : Char, other.isDigit = false → digit ≠ other := fun other =>
    ne_of_isDigit isDigit
  have visible : isBlankChar digit = false := by
    simp [isBlankChar, outside]
  constructor
  · rcases textEq with textEq | textEq
    · exact ⟨digit, more, textEq, visible, outside _ rfl, outside _ rfl⟩
    · exact ⟨'-', _, textEq, rfl, by decide, by decide⟩
  · intro fuel rest enough ends
    have found := NumberText.read_text isText ends
    have atom := readAtom_number isText rest
    have value : readAtom (parts.text ++ rest) = .ok (.scalar (.number number), rest) := by
      rw [atom, readNumber, found]
      simp only [isNumber]
      rfl
    cases fuel with
    | zero => rcases textEq with textEq | textEq <;> simp [textEq] at enough
    | succ fuel =>
        rcases textEq with textEq | textEq
        · rw [textEq, List.cons_append] at value ⊢
          rw [readValue_atom ⟨outside _ rfl, outside _ rfl, outside _ rfl⟩, value]
        · rw [textEq, List.cons_append] at value ⊢
          rw [readValue_atom (by decide), value]

theorem numberOf_ofInt {value : Int}
    (bounded : (NumberText.ofInt value).whole.length ≤ maxIntegerDigits) :
    numberOf (NumberText.ofInt value) = .ok (.finite value) := by
  rw [numberOf, if_pos ⟨rfl, rfl⟩, if_pos bounded, NumberText.signed_ofInt]

theorem numberOf_parts {value : ℚ} {figure : Decimal} (found : shortest value = some figure) :
    numberOf figure.parts = .ok (.finite value) := by
  have notWhole : ¬(figure.parts.fraction = [] ∧ figure.parts.exponent = none) := fun whole =>
    figure.parts_notWhole.elim (fun stated => stated whole.1) fun stated => stated whole.2
  rw [numberOf, if_neg notWhole, Decimal.value_parts, (shortest_sound found).2]

/-- Constants are read whatever follows them. -/
theorem reads_constant {value : Json} {text : String}
    (isConstant : (text, value) ∈ constants) : Reads value text.toList := by
  simp only [constants, List.mem_cons, Prod.mk.injEq, List.not_mem_nil, or_false] at isConstant
  rcases isConstant with ⟨rfl, rfl⟩ | ⟨rfl, rfl⟩ | ⟨rfl, rfl⟩ | ⟨rfl, rfl⟩ | ⟨rfl, rfl⟩ | ⟨rfl, rfl⟩
  all_goals
    refine ⟨⟨_, _, rfl, by decide, by decide, by decide⟩, fun fuel rest enough _ => ?_⟩
    cases fuel with
    | zero => exact absurd enough (by decide)
    | succ fuel => exact (readValue_atom (by decide)).trans rfl

theorem reads_number {number : Number} (written : numberText number = some text) :
    Reads (.scalar (.number number)) text := by
  cases number with
  | posInf =>
      cases written
      exact reads_constant (by simp [constants])
  | negInf =>
      cases written
      exact reads_constant (by simp [constants])
  | nan =>
      cases written
      exact reads_constant (by simp [constants])
  | finite value =>
      simp only [numberText] at written
      split at written
      · rename_i isWhole
        split at written
        · rename_i bounded
          cases written
          have same : ((value.num : Int) : ℚ) = value := Rat.coe_int_num_of_den_eq_one isWhole
          have number := numberOf_ofInt bounded
          rw [same] at number
          exact reads_parts (NumberText.isText_ofInt _) number
        · cases written
      · obtain ⟨figure, found, rfl⟩ := Option.map_eq_some_iff.mp written
        exact reads_parts (figure.isText_parts (shortest_sound found).1) (numberOf_parts found)

theorem reads_text (text : String) : Reads (.scalar (.string text)) (quoted text).toList := by
  rw [toList_quoted]
  constructor
  · exact ⟨'"', _, rfl, by decide, by decide, by decide⟩
  · intro fuel rest enough _
    have length := length_le_escapedChars text.toList
    rw [List.length_cons, List.length_append] at enough
    cases fuel with
    | zero => exact absurd enough (Nat.not_succ_le_zero _)
    | succ fuel =>
        have chars := readChars_escapedChars text.toList rest fuel (by
          simp only [List.length_singleton] at enough
          omega)
        rw [List.cons_append, List.append_assoc, List.singleton_append, readValue, chars]
        simp only [bind, Except.bind, pure, Except.pure, String.ofList_toList]

theorem reads_scalar {value : ScalarValue} (written : scalarText value = some text) :
    Reads (.scalar value) text := by
  match value with
  | .string stated =>
      cases written
      exact reads_text stated
  | .number number => exact reads_number written
  | .boolean true =>
      cases written
      exact reads_constant (by simp [constants])
  | .boolean false =>
      cases written
      exact reads_constant (by simp [constants])

theorem intercalate_cons {separator first second : List Char} {rest : List (List Char)} :
    List.intercalate separator (first :: second :: rest) =
      first ++ (separator ++ List.intercalate separator (second :: rest)) := by
  rw [List.intercalate_cons_cons, List.append_assoc]

theorem starts_intercalate (separator : List Char) (rest : List (List Char))
    (starts : Starts text) : Starts (List.intercalate separator (text :: rest)) := by
  obtain ⟨char, more, rfl, holds⟩ := starts
  cases rest with
  | nil => exact ⟨char, more, by simp, holds⟩
  | cons second rest =>
      rw [intercalate_cons]
      exact ⟨char, _, rfl, holds⟩

theorem ends_comma : NumberText.Ends (',' :: rest) :=
  ends_cons (by decide)

variable {texts : List (List Char)}

/-- Items are read up to the bracket that closes them. -/
theorem readItems_joined (isGap : Bool) {items : List Json}
    (each : List.Forall₂ Reads items texts) (stated : items ≠ []) :
    ∀ fuel rest, (List.intercalate (',' :: gap isGap) texts).length + 1 ≤ fuel →
      readItems fuel (List.intercalate (',' :: gap isGap) texts ++ ']' :: rest) =
        .ok (items, rest) := by
  induction each with
  | nil => exact absurd rfl stated
  | @cons item text items texts first later ih =>
      intro fuel rest enough
      cases fuel with
      | zero => exact absurd enough (Nat.not_succ_le_zero _)
      | succ fuel =>
          cases later with
          | nil =>
              rw [List.intercalate_singleton] at enough ⊢
              rw [readItems, first.isRead fuel _ (by omega) (ends_cons (by decide))]
              simp only [bind, Except.bind, skipBlanks_cons (show isBlankChar ']' = false from rfl)]
              rfl
          | @cons second secondText others otherTexts one more =>
              rw [intercalate_cons] at enough ⊢
              simp only [List.length_append, List.length_cons] at enough
              have starts := starts_intercalate (',' :: gap isGap) otherTexts one.starts
              have behind := ih (List.cons_ne_nil _ _) fuel rest (by omega)
              rw [List.append_assoc, List.append_assoc, List.cons_append, readItems,
                first.isRead fuel _ (by omega) ends_comma]
              simp only [bind, Except.bind, skipBlanks_cons (show isBlankChar ',' = false from rfl),
                skipBlanks_gap _ starts, behind]
              rfl

theorem writeItems_eq_some {gaps : Gaps} {items : List Json}
    (written : writeItems gaps items = some texts) :
    List.Forall₂ (fun item text => write gaps item = some text) items texts := by
  induction items generalizing texts with
  | nil =>
      cases written
      exact .nil
  | cons item items ih =>
      simp only [writeItems, bind, Option.bind_eq_some_iff, pure, Option.some.injEq] at written
      obtain ⟨text, textEq, others, othersEq, rfl⟩ := written
      exact .cons textEq (ih othersEq)

/-! ## Fields -/

/-- A field as it is written. -/
def ReadsField (isGap : Bool) (field : String × Json) (text : List Char) : Prop :=
  ∃ valueText, text = (quoted field.1).toList ++ ':' :: (gap isGap ++ valueText) ∧
    Reads field.2 valueText

variable {field : String × Json}

theorem ReadsField.starts {isGap : Bool} (reads : ReadsField isGap field text) : Starts text := by
  obtain ⟨valueText, rfl, _⟩ := reads
  rw [toList_quoted]
  exact ⟨'"', _, rfl, by decide, by decide, by decide⟩

/-- The key and the value of one field are read, up to the comma or the brace behind it. -/
theorem readPairs_field {isGap : Bool} (reads : ReadsField isGap field text) {fuel : Nat}
    (enough : text.length ≤ fuel) (ends : NumberText.Ends rest) :
    readPairs (fuel + 1) (text ++ rest) =
      match skipBlanks rest with
      | '\x7d' :: behind => .ok ([field], behind)
      | ',' :: behind => do
          let (pairs, last) ← readPairs fuel (skipBlanks behind)
          return (field :: pairs, last)
      | _ => .error .malformed := by
  obtain ⟨valueText, rfl, value⟩ := reads
  rw [toList_quoted] at enough ⊢
  simp only [List.length_cons, List.length_append, List.length_nil] at enough
  have length := length_le_escapedChars field.1.toList
  have key := readChars_escapedChars field.1.toList (':' :: (gap isGap ++ (valueText ++ rest)))
    fuel (by omega)
  simp only [List.cons_append, List.append_assoc, List.nil_append, readPairs, key, bind,
    Except.bind, skipBlanks_cons (show isBlankChar ':' = false from rfl),
    skipBlanks_gap _ value.starts, value.isRead fuel rest (by omega) ends, String.ofList_toList]
  rfl

variable {fields : List (String × Json)}

/-- Fields are read up to the brace that closes them. -/
theorem readPairs_joined (itemGap : Bool) {keyGap : Bool}
    (each : List.Forall₂ (ReadsField keyGap) fields texts) (stated : fields ≠ []) :
    ∀ fuel rest, (List.intercalate (',' :: gap itemGap) texts).length + 1 ≤ fuel →
      readPairs fuel (List.intercalate (',' :: gap itemGap) texts ++ '\x7d' :: rest) =
        .ok (fields, rest) := by
  induction each with
  | nil => exact absurd rfl stated
  | @cons field text fields texts first later ih =>
      intro fuel rest enough
      cases fuel with
      | zero => exact absurd enough (Nat.not_succ_le_zero _)
      | succ fuel =>
          cases later with
          | nil =>
              rw [List.intercalate_singleton] at enough ⊢
              rw [readPairs_field first (by omega) (ends_cons (by decide)),
                skipBlanks_cons (by decide)]
              rfl
          | @cons second secondText others otherTexts one more =>
              rw [intercalate_cons] at enough ⊢
              simp only [List.length_append, List.length_cons] at enough
              have starts := starts_intercalate (',' :: gap itemGap) otherTexts one.starts
              have behind := ih (List.cons_ne_nil _ _) fuel rest (by omega)
              rw [List.append_assoc, List.append_assoc, List.cons_append,
                readPairs_field first (by omega) ends_comma, skipBlanks_cons (by decide)]
              simp only [skipBlanks_gap _ starts, behind]
              rfl

theorem writeFields_eq_some {gaps : Gaps} (written : writeFields gaps fields = some texts) :
    List.Forall₂ (fun field text => ∃ valueText, write gaps field.2 = some valueText ∧
      text = (quoted field.1).toList ++ ':' :: (gap gaps.key ++ valueText)) fields texts := by
  induction fields generalizing texts with
  | nil =>
      cases written
      exact .nil
  | cons field fields ih =>
      simp only [writeFields, bind, Option.bind_eq_some_iff, pure, Option.some.injEq] at written
      obtain ⟨text, textEq, others, othersEq, rfl⟩ := written
      exact .cons ⟨text, textEq, rfl⟩ (ih othersEq)

/-- A dictionary of pairs with distinct keys lists the pairs. -/
theorem dictOf_distinct {pairs : List (String × Json)} (keys : (pairs.map Prod.fst).Nodup) :
    dictOf pairs = pairs := by
  have step : ∀ (rest before : List (String × Json)), ((before ++ rest).map Prod.fst).Nodup →
      rest.foldl setPair before = before ++ rest := by
    intro rest
    induction rest with
    | nil =>
        intro before _
        rw [List.foldl_nil, List.append_nil]
    | cons pair rest ih =>
        intro before distinct
        have absent : before.lookup pair.1 = none := by
          rw [List.lookup_eq_none_iff]
          rintro ⟨key, held⟩ member
          rw [List.map_append, List.map_cons] at distinct
          have disjoint := (List.nodup_append.mp distinct).2.2
          have different := disjoint key (List.mem_map_of_mem member) pair.1 List.mem_cons_self
          exact bne_iff_ne.mpr different.symm
        have added : setPair before pair = before ++ [pair] := by
          rw [setPair, absent]
          rfl
        rw [List.foldl_cons, added, ih _ (by rwa [List.append_assoc, List.singleton_append]),
          List.append_assoc, List.singleton_append]
  exact step pairs [] keys

theorem nodup_setPair (pair : String × Json) (keys : (fields.map Prod.fst).Nodup) :
    ((setPair fields pair).map Prod.fst).Nodup := by
  unfold setPair
  split
  · rw [List.map_map]
    have same : (Prod.fst ∘ fun field : String × Json => if field.1 = pair.1 then pair else field) =
        Prod.fst := by
      funext field
      rw [Function.comp_apply]
      split
      · rename_i same
        exact same.symm
      · rfl
    rwa [same]
  · rename_i absent
    rw [List.map_append, List.nodup_append]
    refine ⟨keys, List.nodup_singleton _, ?_⟩
    intro key isKey other isOther
    rw [List.map_singleton, List.mem_singleton] at isOther
    subst isOther
    rintro rfl
    obtain ⟨field, member, keyEq⟩ := List.mem_map.mp isKey
    apply absent
    rw [← keyEq, (Mapping.lookup_eq_some_iff keys).mpr member]
    rfl

theorem mem_setPair {pair : String × Json} (member : field ∈ setPair fields pair) :
    field = pair ∨ field ∈ fields := by
  unfold setPair at member
  split at member
  · obtain ⟨other, isOther, rfl⟩ := List.mem_map.mp member
    split
    · exact Or.inl rfl
    · exact Or.inr isOther
  · rcases List.mem_append.mp member with earlier | last
    · exact Or.inr earlier
    · exact Or.inl (List.mem_singleton.mp last)

/-- A dictionary has distinct keys, and its fields are among the pairs. -/
theorem dictOf_fields (pairs : List (String × Json)) :
    ((dictOf pairs).map Prod.fst).Nodup ∧ ∀ field ∈ dictOf pairs, field ∈ pairs := by
  have run : ∀ (rest before : List (String × Json)), (before.map Prod.fst).Nodup →
      ((rest.foldl setPair before).map Prod.fst).Nodup ∧
        ∀ field ∈ rest.foldl setPair before, field ∈ before ∨ field ∈ rest := by
    intro rest
    induction rest with
    | nil => exact fun before keys => ⟨keys, fun field member => Or.inl member⟩
    | cons pair rest ih =>
        intro before keys
        obtain ⟨distinct, among⟩ := ih (setPair before pair) (nodup_setPair pair keys)
        refine ⟨distinct, fun field member => ?_⟩
        rcases among field member with earlier | later
        · rcases mem_setPair earlier with rfl | inBefore
          · exact Or.inr List.mem_cons_self
          · exact Or.inl inBefore
        · exact Or.inr (List.mem_cons_of_mem _ later)
  obtain ⟨distinct, among⟩ := run pairs [] List.nodup_nil
  exact ⟨distinct, fun field member => (among field member).resolve_left List.not_mem_nil⟩

/-- Every value is read from its text. -/
theorem reads_write {gaps : Gaps} {value : Json} (distinct : DistinctKeys value) :
    ∀ {text}, write gaps value = some text → Reads value text := by
  induction distinct with
  | null =>
      rintro _ ⟨⟩
      exact reads_constant (by simp [constants])
  | scalar value =>
      intro text written
      exact reads_scalar written
  | array items _ ih =>
      intro text written
      simp only [write, bind, Option.bind_eq_some_iff, pure, Option.some.injEq] at written
      obtain ⟨texts, textsEq, rfl⟩ := written
      have each : List.Forall₂ Reads items texts :=
        ((List.forall₂_and_left _ _).mpr ⟨ih, writeItems_eq_some textsEq⟩).imp
          fun item text both => both.1 both.2
      refine ⟨⟨'[', _, rfl, by decide, by decide, by decide⟩, fun fuel rest enough _ => ?_⟩
      rw [List.length_cons, List.length_append] at enough
      cases fuel with
      | zero => exact absurd enough (Nat.not_succ_le_zero _)
      | succ fuel =>
          cases each with
          | nil => rfl
          | @cons first firstText others otherTexts one more =>
              have starts := starts_intercalate (',' :: gap gaps.item) otherTexts one.starts
              have inner := readItems_joined gaps.item (.cons one more)
                (List.cons_ne_nil _ _) fuel rest (by simpa using enough)
              rw [List.cons_append, List.append_assoc, List.singleton_append, readValue,
                skipBlanks_of_starts starts]
              obtain ⟨char, behind, textEq, _, notClosing, _⟩ := starts
              rw [textEq, List.cons_append] at inner ⊢
              split
              · rename_i closing
                exact absurd (List.cons.inj closing).1 notClosing
              · simp only [inner, bind, Except.bind]
                rfl
  | object fields keys _ ih =>
      intro text written
      simp only [write, bind, Option.bind_eq_some_iff, pure, Option.some.injEq] at written
      obtain ⟨texts, textsEq, rfl⟩ := written
      have each : List.Forall₂ (ReadsField gaps.key) fields texts := by
        refine ((List.forall₂_and_left _ _).mpr ⟨ih, writeFields_eq_some textsEq⟩).imp ?_
        rintro field text ⟨read, valueText, valueWritten, rfl⟩
        exact ⟨valueText, rfl, read valueWritten⟩
      refine ⟨⟨'\x7b', _, rfl, by decide, by decide, by decide⟩, fun fuel rest enough _ => ?_⟩
      rw [List.length_cons, List.length_append] at enough
      cases fuel with
      | zero => exact absurd enough (Nat.not_succ_le_zero _)
      | succ fuel =>
          cases each with
          | nil => rfl
          | @cons first firstText others otherTexts one more =>
              have starts := starts_intercalate (',' :: gap gaps.item) otherTexts one.starts
              have inner := readPairs_joined gaps.item (.cons one more)
                (List.cons_ne_nil _ _) fuel rest (by simpa using enough)
              rw [List.cons_append, List.append_assoc, List.singleton_append, readValue,
                skipBlanks_of_starts starts]
              obtain ⟨char, behind, textEq, _, _, notClosing⟩ := starts
              rw [textEq, List.cons_append] at inner ⊢
              split
              · rename_i closing
                exact absurd (List.cons.inj closing).1 notClosing
              · simp only [inner, bind, Except.bind, dictOf_distinct keys]
                rfl

/-- What `json.dumps` writes, `json.loads` reads back. -/
theorem loads_dumps {gaps : Gaps} {value : Json} {text : String} (distinct : DistinctKeys value)
    (written : dumps gaps value = some text) : loads text = .ok value := by
  obtain ⟨chars, charsEq, rfl⟩ := Option.map_eq_some_iff.mp written
  have reads := reads_write distinct charsEq
  have skipped := skipBlanks_of_starts reads.starts []
  rw [List.append_nil] at skipped
  have found := reads.isRead (2 * chars.length + 2) [] (by omega) NumberText.ends_nil
  rw [List.append_nil] at found
  rw [loads, String.toList_ofList, String.length_ofList, skipped, found]
  rfl

end AgentRank.Representation
