import AgentRank.Store.Identifiers
import Mathlib.Data.List.DropRight
import Mathlib.Data.Nat.Digits.Lemmas

/-!
# Identifiers in hexadecimal

An identifier is also written as its thirty two digits without the hyphens, and read back from
them.
-/

namespace AgentRank.Store

/-- `[0-9a-f]`. -/
def isHexDigit (char : Char) : Bool :=
  ('0' ≤ char && char ≤ '9') || ('a' ≤ char && char ≤ 'f')

def hexValue (char : Char) : Nat :=
  if char ≤ '9' then char.toNat - '0'.toNat else char.toNat - 'a'.toNat + 10

theorem mem_hexDigits {char : Char} (isHex : isHexDigit char = true) :
    char ∈ "0123456789abcdef".toList := by
  simp only [isHexDigit, Bool.or_eq_true, Bool.and_eq_true, decide_eq_true_eq, Char.le_def,
    UInt32.le_iff_toNat_le] at isHex
  have bounds : 48 ≤ char.toNat ∧ char.toNat ≤ 57 ∨ 97 ≤ char.toNat ∧ char.toNat ≤ 102 := isHex
  have digits : ∀ value, 48 ≤ value ∧ value ≤ 57 ∨ 97 ≤ value ∧ value ≤ 102 →
      Char.ofNat value ∈ "0123456789abcdef".toList := by
    intro value range
    have below : value < 103 := by omega
    interval_cases value <;> first | omega | decide
  rw [← Char.ofNat_toNat char]
  exact digits char.toNat bounds

theorem hexValue_lt {char : Char} (isHex : isHexDigit char = true) : hexValue char < 16 := by
  have all : ("0123456789abcdef".toList.all fun char => hexValue char < 16) = true := by decide
  exact of_decide_eq_true (List.all_eq_true.mp all char (mem_hexDigits isHex))

theorem digitChar_hexValue {char : Char} (isHex : isHexDigit char = true) :
    Nat.digitChar (hexValue char) = char := by
  have all : ("0123456789abcdef".toList.all fun char =>
      Nat.digitChar (hexValue char) = char) = true := by decide
  exact of_decide_eq_true (List.all_eq_true.mp all char (mem_hexDigits isHex))

/-- `id.hex`. -/
def hexOf (id : Uuid) : List Char :=
  id.hexGroup 31 32

/-- `UUID(hex=...)`. -/
def ofHex (digits : List Char) : Uuid :=
  ⟨BitVec.ofNat 128 (Nat.ofDigits 16 (digits.reverse.map hexValue))⟩

/-- An identifier is the only one that is written with its digits. -/
theorem hexOf_ofHex {digits : List Char} (isHex : ∀ char ∈ digits, isHexDigit char = true)
    (length : digits.length = 32) : hexOf (ofHex digits) = digits := by
  have small : ∀ value ∈ digits.reverse.map hexValue, value < 16 := by
    intro value member
    rcases List.mem_map.mp member with ⟨char, isDigit, rfl⟩
    exact hexValue_lt (isHex char (List.mem_reverse.mp isDigit))
  have count : (digits.reverse.map hexValue).length = 32 := by simp [length]
  have bound : Nat.ofDigits 16 (digits.reverse.map hexValue) < 2 ^ 128 := by
    have below := Nat.ofDigits_lt_base_pow_length (by decide : 1 < 16) small
    rw [count] at below
    exact below
  apply List.ext_getElem
  · rw [hexOf, Uuid.length_hexGroup, length]
  · intro offset inside before
    have offsetLt : offset < 32 := by rw [length] at before; exact before
    have position : 31 - offset < (digits.reverse.map hexValue).length := by rw [count]; omega
    have digit : Nat.ofDigits 16 (digits.reverse.map hexValue) / 16 ^ (31 - offset) % 16 =
        hexValue digits[offset] := by
      rw [Nat.ofDigits_div_pow_eq_ofDigits_drop (31 - offset) (by decide) _ small,
        List.drop_eq_getElem_cons position, Nat.ofDigits_cons, Nat.add_mul_mod_self_left,
        Nat.mod_eq_of_lt (small _ (List.getElem_mem position)), List.getElem_map,
        List.getElem_reverse]
      congr 2
      omega
    simp only [hexOf, Uuid.hexGroup, List.getElem_map, List.getElem_range, Uuid.hexDigit, ofHex,
      BitVec.toNat_ofNat, Nat.mod_eq_of_lt bound, digit]
    exact digitChar_hexValue (isHex _ (List.getElem_mem before))

/-- Identifiers with the same digits are the same. -/
theorem hexOf_injective {first second : Uuid} (same : hexOf first = hexOf second) :
    first = second :=
  Uuid.eq_of_digits fun position below =>
    Uuid.digit_eq_of_hexGroup_eq same (by omega) (by omega)

theorem isHexDigit_digitChar {value : Nat} (small : value < 16) :
    isHexDigit (Nat.digitChar value) = true := by
  revert small
  revert value
  decide

theorem hexOf_isHex (id : Uuid) : ∀ char ∈ hexOf id, isHexDigit char = true := by
  intro char member
  rcases List.mem_map.mp member with ⟨offset, _, rfl⟩
  exact isHexDigit_digitChar (Nat.mod_lt _ (by decide))

/-- An identifier is read back from its digits. -/
theorem ofHex_hexOf (id : Uuid) : ofHex (hexOf id) = id :=
  hexOf_injective (hexOf_ofHex (hexOf_isHex id) (Uuid.length_hexGroup id 31 32))

/-! ## Text -/

/-- `text.replace(pattern, "")`, after some characters that a match covers. -/
def removeAll (pattern : List Char) : Nat → List Char → List Char
  | _, [] => []
  | covered + 1, _ :: rest => removeAll pattern covered rest
  | 0, char :: rest =>
      if pattern.isPrefixOf (char :: rest) then removeAll pattern (pattern.length - 1) rest
      else char :: removeAll pattern 0 rest

def isBrace (char : Char) : Bool :=
  char == '\x7b' || char == '\x7d'

/-- `uuid.UUID(text)`: thirty two hexadecimal digits, whose braces, hyphens and URN prefix are
left aside. -/
def uuidOf (text : String) : Option Uuid :=
  let unlabelled := removeAll "uuid:".toList 0 (removeAll "urn:".toList 0 text.toList)
  let unbraced := (unlabelled.dropWhile isBrace).rdropWhile isBrace
  let digits := (unbraced.filter (· != '-')).map Char.toLower
  if digits.length = 32 ∧ digits.all isHexDigit then some (ofHex digits) else none

/-- A text without the first character of a pattern holds no match of it. -/
theorem removeAll_of_absent {first : Char} {pattern chars : List Char} (absent : first ∉ chars) :
    removeAll (first :: pattern) 0 chars = chars := by
  induction chars with
  | nil => rfl
  | cons char rest ih =>
      rw [List.mem_cons, not_or] at absent
      rw [removeAll, List.isPrefixOf, beq_false_of_ne absent.1, Bool.false_and, if_neg (by decide),
        ih absent.2]

/-- An identifier is written in hexadecimal digits and hyphens. -/
theorem isHexDigit_of_mem_chars {id : Uuid} {char : Char} (member : char ∈ id.chars) :
    isHexDigit char = true ∨ char = '-' := by
  have ofGroup : ∀ {start count : Nat}, char ∈ id.hexGroup start count →
      isHexDigit char = true := by
    intro start count inGroup
    obtain ⟨offset, _, rfl⟩ := List.mem_map.mp inGroup
    exact isHexDigit_digitChar (Nat.mod_lt _ (by decide))
  simp only [Uuid.chars, List.mem_append, List.mem_cons] at member
  rcases member with digit | hyphen | digit | hyphen | digit | hyphen | digit | hyphen | digit
  · exact Or.inl (ofGroup digit)
  · exact Or.inr hyphen
  · exact Or.inl (ofGroup digit)
  · exact Or.inr hyphen
  · exact Or.inl (ofGroup digit)
  · exact Or.inr hyphen
  · exact Or.inl (ofGroup digit)
  · exact Or.inr hyphen
  · exact Or.inl (ofGroup digit)

theorem hexGroup_append (id : Uuid) (start first second : Nat) :
    id.hexGroup start first ++ id.hexGroup (start - first) second =
      id.hexGroup start (first + second) := by
  simp only [Uuid.hexGroup, List.range_add, List.map_append, List.map_map, Function.comp_def,
    Nat.sub_sub]

theorem filter_hexGroup (id : Uuid) (start count : Nat) :
    (id.hexGroup start count).filter (· != '-') = id.hexGroup start count := by
  refine List.filter_eq_self.mpr fun char member => ?_
  obtain ⟨offset, _, rfl⟩ := List.mem_map.mp member
  have digits : ∀ value < 16, (Nat.digitChar value != '-') = true := by decide
  exact digits _ (Nat.mod_lt _ (by decide))

/-- Without its hyphens, an identifier is its digits. -/
theorem filter_chars (id : Uuid) : id.chars.filter (· != '-') = hexOf id := by
  have hyphen : ('-' != '-') = false := by decide
  simp only [Uuid.chars, List.filter_append, List.filter_cons, filter_hexGroup, hyphen]
  have joined := hexGroup_append id
  rw [hexOf, ← joined 31 8 24, ← joined 23 4 20, ← joined 19 4 16, ← joined 15 4 12]
  rfl

/-- An identifier is read back from its text. -/
theorem uuidOf_toString (id : Uuid) : uuidOf (toString id) = some id := by
  have plain : ∀ {char : Char}, isHexDigit char = false → char ≠ '-' → char ∉ id.chars := by
    intro char notHex notHyphen member
    rcases isHexDigit_of_mem_chars member with isHex | isHyphen
    · rw [notHex] at isHex
      cases isHex
    · exact notHyphen isHyphen
  have noLabel : 'u' ∉ id.chars := plain (by decide) (by decide)
  have noBrace : ∀ char ∈ id.chars, isBrace char = false := by
    intro char member
    by_contra isLabel
    rw [Bool.not_eq_false, isBrace, Bool.or_eq_true, beq_iff_eq, beq_iff_eq] at isLabel
    rcases isLabel with rfl | rfl
    · exact plain (by decide) (by decide) member
    · exact plain (by decide) (by decide) member
  have lower : (hexOf id).map Char.toLower = hexOf id := by
    have digits : ∀ value < 16, (Nat.digitChar value).toLower = Nat.digitChar value := by decide
    refine (List.map_congr_left fun char member => ?_).trans (List.map_id _)
    obtain ⟨offset, _, rfl⟩ := List.mem_map.mp member
    exact digits _ (Nat.mod_lt _ (by decide))
  have unbraced : (id.chars.dropWhile isBrace).rdropWhile isBrace = id.chars := by
    have kept : id.chars.dropWhile isBrace = id.chars := by
      cases chars : id.chars with
      | nil => rfl
      | cons char rest =>
          rw [List.dropWhile_cons_of_neg]
          simp [noBrace char (chars ▸ List.mem_cons_self)]
    rw [kept, List.rdropWhile_eq_self_iff]
    intro nonempty
    simp [noBrace _ (List.getLast_mem nonempty)]
  rw [uuidOf, Uuid.toList_toString]
  have urn : removeAll "urn:".toList 0 id.chars = id.chars := removeAll_of_absent noLabel
  have label : removeAll "uuid:".toList 0 id.chars = id.chars := removeAll_of_absent noLabel
  simp only [urn, label, unbraced, filter_chars, lower]
  rw [if_pos, ofHex_hexOf]
  exact ⟨Uuid.length_hexGroup id 31 32, List.all_eq_true.mpr (hexOf_isHex id)⟩

end AgentRank.Store
