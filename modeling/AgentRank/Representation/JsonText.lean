import AgentRank.Arithmetic.Floats
import AgentRank.Representation.Canonical
import AgentRank.Store.Hexadecimal

/-!
# JSON texts

This module models `json.dumps` and `json.loads`.  A value is written with or without gaps
between its parts, and what is written is read back as the same value.

A double that is whole is written as the integer it equals.  Texts hold no lone surrogates.
-/

namespace AgentRank.Representation

open Arithmetic Constraints Relational Store

/-- The blanks behind a comma and behind a colon. -/
structure Gaps where
  item : Bool
  key : Bool

/-- The separators of `json.dumps`, which are not stated. -/
def spaced : Gaps := ⟨true, true⟩

/-- `separators=(",", ":")`. -/
def compact : Gaps := ⟨false, false⟩

def gap (isGap : Bool) : List Char :=
  if isGap then [' '] else []

/-- Longer integers are neither written nor read. -/
def maxIntegerDigits : Nat := 4300

def numberText : Number → Option (List Char)
  | .finite value =>
      if value.den = 1 then
        let parts := NumberText.ofInt value.num
        if parts.whole.length ≤ maxIntegerDigits then some parts.text else none
      else (shortest value).map fun figure => figure.parts.text
  | .posInf => some "Infinity".toList
  | .negInf => some "-Infinity".toList
  | .nan => some "NaN".toList

def scalarText : ScalarValue → Option (List Char)
  | .string text => some (quoted text).toList
  | .number value => numberText value
  | .boolean true => some "true".toList
  | .boolean false => some "false".toList

mutual

/-- The text of a value.  A number that is neither an integer nor a double has none. -/
def write (gaps : Gaps) : Json → Option (List Char)
  | .null => some "null".toList
  | .scalar value => scalarText value
  | .array items => do
      return '[' :: (List.intercalate (',' :: gap gaps.item) (← writeItems gaps items) ++ [']'])
  | .object fields => do
      return '\x7b' ::
        (List.intercalate (',' :: gap gaps.item) (← writeFields gaps fields) ++ ['\x7d'])

def writeItems (gaps : Gaps) : List Json → Option (List (List Char))
  | [] => some []
  | item :: rest => do return (← write gaps item) :: (← writeItems gaps rest)

def writeFields (gaps : Gaps) : List (String × Json) → Option (List (List Char))
  | [] => some []
  | (key, value) :: rest => do
      return ((quoted key).toList ++ ':' :: (gap gaps.key ++ (← write gaps value))) ::
        (← writeFields gaps rest)

end

/-- `json.dumps(value)`. -/
def dumps (gaps : Gaps) (value : Json) : Option String :=
  (write gaps value).map String.ofList

mutual

/-- `sort_keys=True`. -/
def sortKeys : Json → Json
  | .null => .null
  | .scalar value => .scalar value
  | .array items => .array (sortItems items)
  | .object fields => .object (Mapping.ofEntries (sortFields fields)).entries

def sortItems : List Json → List Json
  | [] => []
  | item :: rest => sortKeys item :: sortItems rest

def sortFields : List (String × Json) → List (String × Json)
  | [] => []
  | (name, value) :: rest => (name, sortKeys value) :: sortFields rest

end

/-! ## Reading -/

/-- What reading a text may raise.  Only the first is a `JSONDecodeError`. -/
inductive LoadError
  | malformed
  | tooManyDigits
deriving DecidableEq

def isBlankChar (char : Char) : Bool :=
  char == ' ' || char == '\t' || char == '\n' || char == '\r'

def skipBlanks (text : List Char) : List Char :=
  text.dropWhile isBlankChar

/-- Four hexadecimal digits. -/
def readUnit : List Char → Option (Nat × List Char)
  | first :: second :: third :: fourth :: rest =>
      let digits := [first, second, third, fourth].map Char.toLower
      if digits.all isHexDigit then
        some (digits.foldl (fun unit digit => 16 * unit + hexValue digit) 0, rest)
      else none
  | _ => none

/-- What stands behind `\u`: a character, or the first half of one whose other half follows. -/
def readEscapedUnit (text : List Char) : Option (Char × List Char) := do
  let (unit, behind) ← readUnit text
  if 0xd800 ≤ unit ∧ unit < 0xdc00 then
    match behind with
    | '\\' :: 'u' :: second => do
        let (low, rest) ← readUnit second
        if 0xdc00 ≤ low ∧ low < 0xe000 then
          return (Char.ofNat (0x10000 + (unit - 0xd800) * 0x400 + (low - 0xdc00)), rest)
        else none
    | _ => none
  else if 0xdc00 ≤ unit ∧ unit < 0xe000 then none
  else return (Char.ofNat unit, behind)

/-- The characters that a backslash stands before. -/
def escapes : List (Char × Char) :=
  [('"', '"'), ('\\', '\\'), ('/', '/'), ('b', Char.ofNat 8), ('f', Char.ofNat 12), ('n', '\n'),
    ('r', '\r'), ('t', '\t')]

/-- One character of a text, which is not the closing quote. -/
def readChar : List Char → Option (Char × List Char)
  | [] => none
  | first :: rest =>
      if first = '\\' then
        match rest with
        | [] => none
        | mark :: behind =>
            if mark = 'u' then readEscapedUnit behind
            else (escapes.lookup mark).map fun char => (char, behind)
      else if first.toNat < 0x20 then none
      else some (first, rest)

/-- The characters up to the closing quote. -/
def readChars : Nat → List Char → Except LoadError (List Char × List Char)
  | 0, _ => .error .malformed
  | fuel + 1, text =>
      match text with
      | '"' :: rest => .ok ([], rest)
      | _ =>
          match readChar text with
          | none => .error .malformed
          | some (char, behind) => do
              let (chars, rest) ← readChars fuel behind
              return (char :: chars, rest)

def constants : List (String × Json) :=
  [("null", .null), ("true", .scalar (.boolean true)), ("false", .scalar (.boolean false)),
    ("NaN", .scalar (.number .nan)), ("Infinity", .scalar (.number .posInf)),
    ("-Infinity", .scalar (.number .negInf))]

/-- The number that the parts of a text are read as. -/
def numberOf (parts : NumberText) : Except LoadError Number :=
  if parts.fraction = [] ∧ parts.exponent = none then
    if parts.whole.length ≤ maxIntegerDigits then .ok (.finite parts.decimal.signed)
    else .error .tooManyDigits
  else
    match nearestFloat parts.decimal.value with
    | some value => .ok (.finite value)
    | none => .ok (if parts.negative then .negInf else .posInf)

def readNumber (text : List Char) : Except LoadError (Json × List Char) :=
  match NumberText.read text with
  | none => .error .malformed
  | some (parts, rest) => do return (.scalar (.number (← numberOf parts)), rest)

/-- A constant or a number. -/
def readAtom (text : List Char) : Except LoadError (Json × List Char) :=
  match constants.find? fun constant => constant.1.toList.isPrefixOf text with
  | some constant => .ok (constant.2, text.drop constant.1.length)
  | none => readNumber text

/-- A pair added to a dictionary: a later value takes the place of an earlier one. -/
def setPair (fields : List (String × Json)) (pair : String × Json) : List (String × Json) :=
  if (fields.lookup pair.1).isSome then
    fields.map fun field => if field.1 = pair.1 then pair else field
  else fields ++ [pair]

/-- `dict(pairs)`. -/
def dictOf (pairs : List (String × Json)) : List (String × Json) :=
  pairs.foldl setPair []

mutual

/-- One value in front of a text. -/
def readValue : Nat → List Char → Except LoadError (Json × List Char)
  | 0, _ => .error .malformed
  | fuel + 1, text =>
      match text with
      | '"' :: rest => do
          let (chars, behind) ← readChars fuel rest
          return (.scalar (.string (String.ofList chars)), behind)
      | '[' :: rest =>
          match skipBlanks rest with
          | ']' :: behind => .ok (.array [], behind)
          | inner => do
              let (items, behind) ← readItems fuel inner
              return (.array items, behind)
      | '\x7b' :: rest =>
          match skipBlanks rest with
          | '\x7d' :: behind => .ok (.object [], behind)
          | inner => do
              let (pairs, behind) ← readPairs fuel inner
              return (.object (dictOf pairs), behind)
      | _ => readAtom text

/-- The items up to the closing bracket. -/
def readItems : Nat → List Char → Except LoadError (List Json × List Char)
  | 0, _ => .error .malformed
  | fuel + 1, text => do
      let (item, behind) ← readValue fuel text
      match skipBlanks behind with
      | ']' :: rest => return ([item], rest)
      | ',' :: rest => do
          let (items, rest) ← readItems fuel (skipBlanks rest)
          return (item :: items, rest)
      | _ => .error .malformed

/-- The pairs up to the closing brace. -/
def readPairs : Nat → List Char → Except LoadError (List (String × Json) × List Char)
  | 0, _ => .error .malformed
  | fuel + 1, text =>
      match text with
      | '"' :: inner => do
          let (key, behindKey) ← readChars fuel inner
          match skipBlanks behindKey with
          | ':' :: stated => do
              let (value, behind) ← readValue fuel (skipBlanks stated)
              let pair := (String.ofList key, value)
              match skipBlanks behind with
              | '\x7d' :: rest => return ([pair], rest)
              | ',' :: rest => do
                  let (pairs, rest) ← readPairs fuel (skipBlanks rest)
                  return (pair :: pairs, rest)
              | _ => .error .malformed
          | _ => .error .malformed
      | _ => .error .malformed

end

/-- `json.loads(text)`.  Every character is passed in at most two steps. -/
def loads (text : String) : Except LoadError Json := do
  let (value, behind) ← readValue (2 * text.length + 2) (skipBlanks text.toList)
  if skipBlanks behind = [] then return value else .error .malformed

/-! ## Characters -/

theorem toDigits_four {unit : Nat} (below : unit < 65536) :
    List.replicate (4 - (Nat.toDigits 16 unit).length) '0' ++ Nat.toDigits 16 unit =
      [Nat.digitChar (unit / 4096), Nat.digitChar (unit / 256 % 16),
        Nat.digitChar (unit / 16 % 16), Nat.digitChar (unit % 16)] := by
  have step := fun value => Nat.toDigits_eq_if (b := 16) (n := value) (by decide)
  by_cases one : unit < 16
  · have zero : unit / 4096 = 0 ∧ unit / 256 % 16 = 0 ∧ unit / 16 % 16 = 0 ∧ unit % 16 = unit := by
      omega
    rw [step unit, if_pos one, zero.1, zero.2.1, zero.2.2.1, zero.2.2.2]
    rfl
  by_cases two : unit < 256
  · have zero : unit / 4096 = 0 ∧ unit / 256 % 16 = 0 ∧ unit / 16 % 16 = unit / 16 := by omega
    rw [step unit, if_neg one, step (unit / 16), if_pos (by omega), zero.1, zero.2.1, zero.2.2]
    rfl
  by_cases three : unit < 4096
  · have zero : unit / 4096 = 0 ∧ unit / 256 % 16 = unit / 16 / 16 := by omega
    rw [step unit, if_neg one, step (unit / 16), if_neg (by omega), step (unit / 16 / 16),
      if_pos (by omega), zero.1, zero.2]
    rfl
  · have same : unit / 16 / 16 / 16 = unit / 4096 ∧ unit / 16 / 16 % 16 = unit / 256 % 16 := by omega
    rw [step unit, if_neg one, step (unit / 16), if_neg (by omega), step (unit / 16 / 16),
      if_neg (by omega), step (unit / 16 / 16 / 16), if_pos (by omega), same.1, same.2]
    rfl

/-- The digits that a unit is escaped with are read as the unit. -/
theorem readUnit_escapedUnit {unit : Nat} (below : unit < 65536) (rest : List Char) :
    ∃ digits, (escapedUnit unit).toList = '\\' :: 'u' :: digits ∧
      readUnit (digits ++ rest) = some (unit, rest) := by
  have lowered : ∀ value < 16, (Nat.digitChar value).toLower = Nat.digitChar value ∧
      hexValue (Nat.digitChar value) = value := by decide
  refine ⟨[Nat.digitChar (unit / 4096), Nat.digitChar (unit / 256 % 16),
    Nat.digitChar (unit / 16 % 16), Nat.digitChar (unit % 16)], ?_, ?_⟩
  · rw [escapedUnit, String.toList_append, toDigits_four below, String.toList_ofList,
      String.toList_ofList]
    rfl
  · have first := lowered (unit / 4096) (by omega)
    have second := lowered (unit / 256 % 16) (by omega)
    have third := lowered (unit / 16 % 16) (by omega)
    have fourth := lowered (unit % 16) (by omega)
    have sum : 16 * (16 * (16 * (unit / 4096) + unit / 256 % 16) + unit / 16 % 16) + unit % 16 =
        unit := by omega
    simp only [readUnit, List.cons_append, List.nil_append, List.map_cons, List.map_nil, first,
      second, third, fourth, List.all_cons, List.all_nil, List.foldl_cons, List.foldl_nil,
      isHexDigit_digitChar (show unit / 4096 < 16 by omega),
      isHexDigit_digitChar (show unit / 256 % 16 < 16 by omega),
      isHexDigit_digitChar (show unit / 16 % 16 < 16 by omega),
      isHexDigit_digitChar (show unit % 16 < 16 by omega), Bool.and_true, Nat.mul_zero,
      Nat.zero_add, sum, if_true]

theorem readChar_unit (text : List Char) : readChar ('\\' :: 'u' :: text) = readEscapedUnit text :=
  rfl

theorem readEscapedUnit_small {char : Char} (below : char.toNat < 65536) (rest : List Char) :
    readChar ((escapedUnit char.toNat).toList ++ rest) = some (char, rest) := by
  obtain ⟨digits, textEq, isRead⟩ := readUnit_escapedUnit below rest
  have notSurrogate : ¬(0xd800 ≤ char.toNat ∧ char.toNat < 0xe000) := by
    have valid := char.valid
    simp only [UInt32.isValidChar, Nat.isValidChar] at valid
    change ¬(0xd800 ≤ char.val.toNat ∧ char.val.toNat < 0xe000)
    omega
  rw [textEq, List.cons_append, List.cons_append, readChar_unit, readEscapedUnit, isRead]
  simp only [bind, Option.bind]
  rw [if_neg (by omega), if_neg (by omega), Char.ofNat_toNat]
  rfl

/-- Two units that are halves of a character. -/
theorem readEscapedUnit_pair {high low : Nat} {text second rest : List Char}
    (highRead : readUnit text = some (high, '\\' :: 'u' :: second))
    (lowRead : readUnit second = some (low, rest)) (isHigh : 0xd800 ≤ high ∧ high < 0xdc00)
    (isLow : 0xdc00 ≤ low ∧ low < 0xe000) :
    readEscapedUnit text =
      some (Char.ofNat (0x10000 + (high - 0xd800) * 0x400 + (low - 0xdc00)), rest) := by
  rw [readEscapedUnit, highRead]
  simp only [bind, Option.bind]
  rw [if_pos isHigh]
  simp only [lowRead]
  rw [if_pos isLow]
  rfl

theorem readEscapedUnit_large {char : Char} (above : 65536 ≤ char.toNat) (rest : List Char) :
    readChar ((escapedUnit (0xd800 + (char.toNat - 0x10000) / 0x400)).toList ++
      ((escapedUnit (0xdc00 + (char.toNat - 0x10000) % 0x400)).toList ++ rest)) =
        some (char, rest) := by
  have bounded : char.toNat < 0x110000 := by
    have valid := char.valid
    simp only [UInt32.isValidChar, Nat.isValidChar] at valid
    change char.val.toNat < _
    omega
  obtain ⟨low, lowText, lowRead⟩ := readUnit_escapedUnit
    (by omega : 0xdc00 + (char.toNat - 0x10000) % 0x400 < 65536) rest
  obtain ⟨high, highText, highRead⟩ := readUnit_escapedUnit
    (by omega : 0xd800 + (char.toNat - 0x10000) / 0x400 < 65536) ('\\' :: 'u' :: (low ++ rest))
  have sum : 0x10000 + (0xd800 + (char.toNat - 0x10000) / 0x400 - 0xd800) * 0x400 +
      (0xdc00 + (char.toNat - 0x10000) % 0x400 - 0xdc00) = char.toNat := by omega
  have pair := readEscapedUnit_pair highRead lowRead (by omega) (by omega)
  rw [sum, Char.ofNat_toNat] at pair
  rw [highText, lowText]
  simp only [List.cons_append]
  rw [readChar_unit, pair]

/-- A character is read back from the way it is escaped. -/
theorem readChar_escapedChar (char : Char) (rest : List Char) :
    readChar ((escapedChar char).toList ++ rest) = some (char, rest) := by
  unfold escapedChar
  split_ifs with isQuote isSlash isLine isReturn isTab isBackspace isFeed isPlain isSmall
  · rw [isQuote]; rfl
  · rw [isSlash]; rfl
  · rw [isLine]; rfl
  · rw [isReturn]; rfl
  · rw [isTab]; rfl
  · rw [← Char.ofNat_toNat char, isBackspace]; rfl
  · rw [← Char.ofNat_toNat char, isFeed]; rfl
  · have textEq : char.toString.toList = [char] := by simp [Char.toString]
    rw [textEq, List.singleton_append]
    simp only [readChar]
    rw [if_neg isSlash, if_neg (by omega)]
  · exact readEscapedUnit_small isSmall rest
  · rw [String.toList_append, List.append_assoc]
    exact readEscapedUnit_large (by omega) rest

/-- No escaped character is a quote. -/
theorem head?_escapedChar (char : Char) :
    ∃ first more, (escapedChar char).toList = first :: more ∧ first ≠ '"' := by
  have unit : ∀ value, ∃ more, (escapedUnit value).toList = '\\' :: more := by
    intro value
    exact ⟨_, by rw [escapedUnit, String.toList_append]; rfl⟩
  unfold escapedChar
  split_ifs with isQuote isSlash isLine isReturn isTab isBackspace isFeed isPlain isSmall
  · exact ⟨'\\', _, rfl, by decide⟩
  · exact ⟨'\\', _, rfl, by decide⟩
  · exact ⟨'\\', _, rfl, by decide⟩
  · exact ⟨'\\', _, rfl, by decide⟩
  · exact ⟨'\\', _, rfl, by decide⟩
  · exact ⟨'\\', _, rfl, by decide⟩
  · exact ⟨'\\', _, rfl, by decide⟩
  · exact ⟨char, [], by simp [Char.toString], isQuote⟩
  · obtain ⟨more, textEq⟩ := unit char.toNat
    exact ⟨'\\', more, textEq, by decide⟩
  · obtain ⟨more, textEq⟩ := unit (0xd800 + (char.toNat - 0x10000) / 0x400)
    exact ⟨'\\', _, by rw [String.toList_append, textEq]; rfl, by decide⟩

/-- Escaped characters, one behind the other. -/
def escapedChars (chars : List Char) : List Char :=
  chars.flatMap fun char => (escapedChar char).toList

theorem toList_quoted (text : String) :
    (quoted text).toList = '"' :: (escapedChars text.toList ++ ['"']) := by
  have joined : ∀ chars : List Char,
      (String.join (chars.map escapedChar)).toList = escapedChars chars := by
    intro chars
    simp [escapedChars, String.toList_join, List.flatMap_map]
  rw [quoted, String.toList_append, String.toList_append, joined]
  rfl

theorem length_le_escapedChars (chars : List Char) : chars.length ≤ (escapedChars chars).length := by
  induction chars with
  | nil => exact Nat.le_refl 0
  | cons char rest ih =>
      obtain ⟨first, more, textEq, _⟩ := head?_escapedChar char
      rw [escapedChars, List.flatMap_cons, textEq, List.length_append, List.length_cons,
        List.length_cons]
      change rest.length ≤ (rest.flatMap _).length at ih
      omega

/-- The characters of a text are read back. -/
theorem readChars_escapedChars (chars rest : List Char) (fuel : Nat) (enough : chars.length < fuel) :
    readChars fuel (escapedChars chars ++ '"' :: rest) = .ok (chars, rest) := by
  induction chars generalizing fuel with
  | nil =>
      obtain ⟨fuel, rfl⟩ := Nat.exists_eq_add_of_lt enough
      rfl
  | cons char chars ih =>
      cases fuel with
      | zero => exact absurd enough (Nat.not_lt_zero _)
      | succ fuel =>
          obtain ⟨first, more, textEq, notQuote⟩ := head?_escapedChar char
          have isRead := readChar_escapedChar char (escapedChars chars ++ '"' :: rest)
          have behind := ih fuel (by simpa using enough)
          rw [escapedChars, List.flatMap_cons, List.append_assoc, ← escapedChars]
          rw [textEq] at isRead ⊢
          rw [List.cons_append] at isRead ⊢
          rw [readChars, isRead]
          · simp only [behind]
            rfl
          · rintro _ ⟨⟩
            exact notQuote rfl

end AgentRank.Representation
