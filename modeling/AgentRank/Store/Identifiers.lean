import Mathlib.Data.List.Basic
import Mathlib.Tactic.NormNum

/-!
# Row identifiers

An identifier is a 128 bit value, written as thirty two hexadecimal digits in five
groups.  Identifiers are compared, ordered and printed, never computed.
-/

namespace AgentRank.Store

structure Uuid where
  bits : BitVec 128
deriving DecidableEq

namespace Uuid

instance (value : Nat) : OfNat Uuid value :=
  ⟨⟨BitVec.ofNat 128 value⟩⟩

instance : LE Uuid :=
  ⟨fun first second => first.bits ≤ second.bits⟩

instance (first second : Uuid) : Decidable (first ≤ second) :=
  inferInstanceAs (Decidable (first.bits ≤ second.bits))

/-- The hexadecimal digit at a position, counted from the right. -/
def hexDigit (id : Uuid) (position : Nat) : Char :=
  Nat.digitChar (id.bits.toNat / 16 ^ position % 16)

/-- `count` digits, from a position to the right. -/
def hexGroup (id : Uuid) (first count : Nat) : List Char :=
  (List.range count).map fun offset => hexDigit id (first - offset)

/-- The characters of `str(id)`. -/
def chars (id : Uuid) : List Char :=
  hexGroup id 31 8 ++ '-' :: (hexGroup id 23 4 ++ '-' :: (hexGroup id 19 4 ++
    '-' :: (hexGroup id 15 4 ++ '-' :: hexGroup id 11 12)))

instance : ToString Uuid :=
  ⟨fun id => String.ofList id.chars⟩

theorem toList_toString (id : Uuid) : (toString id).toList = id.chars :=
  String.toList_ofList

@[simp]
theorem length_hexGroup (id : Uuid) (first count : Nat) :
    (hexGroup id first count).length = count := by
  simp [hexGroup]

/-- An identifier is written in thirty six characters. -/
theorem length_chars (id : Uuid) : id.chars.length = 36 := by
  simp [chars]

/-- A digit is neither a blank nor a NUL. -/
theorem digitChar_ne {value : Nat} (small : value < 16) :
    Nat.digitChar value ≠ ' ' ∧ Nat.digitChar value ≠ '\x00' := by
  revert small
  revert value
  decide

theorem ne_of_mem_hexGroup {id : Uuid} {first count : Nat} {char : Char}
    (member : char ∈ hexGroup id first count) : char ≠ ' ' ∧ char ≠ '\x00' := by
  obtain ⟨offset, _, rfl⟩ := List.mem_map.mp member
  exact digitChar_ne (Nat.mod_lt _ (by decide))

/-- An identifier is written without blanks and without NUL. -/
theorem ne_of_mem_chars {id : Uuid} {char : Char} (member : char ∈ id.chars) :
    char ≠ ' ' ∧ char ≠ '\x00' := by
  simp only [chars, List.mem_append, List.mem_cons] at member
  rcases member with digit | rfl | digit | rfl | digit | rfl | digit | rfl | digit
  · exact ne_of_mem_hexGroup digit
  · decide
  · exact ne_of_mem_hexGroup digit
  · decide
  · exact ne_of_mem_hexGroup digit
  · decide
  · exact ne_of_mem_hexGroup digit
  · decide
  · exact ne_of_mem_hexGroup digit

theorem digitChar_injOn {first second : Nat} (firstSmall : first < 16) (secondSmall : second < 16)
    (same : Nat.digitChar first = Nat.digitChar second) : first = second := by
  have injective : ∀ first second : Fin 16,
      Nat.digitChar first = Nat.digitChar second → first = second := by
    decide
  exact Fin.mk.inj (injective ⟨first, firstSmall⟩ ⟨second, secondSmall⟩ same)

/-- Numbers with the same hexadecimal digits up to a position agree up to there. -/
theorem mod_pow_eq_of_digits {first second count : Nat}
    (digits : ∀ position < count, first / 16 ^ position % 16 = second / 16 ^ position % 16) :
    first % 16 ^ count = second % 16 ^ count := by
  induction count with
  | zero => simp [Nat.mod_one]
  | succ count ih =>
      have lower := ih fun position below => digits position (Nat.lt_succ_of_lt below)
      rw [Nat.mod_pow_succ, Nat.mod_pow_succ, lower, digits count (Nat.lt_succ_self count)]

theorem digit_eq_of_hexGroup_eq {first second : Uuid} {start count position : Nat}
    (same : hexGroup first start count = hexGroup second start count)
    (fromLeft : position ≤ start) (inside : start < position + count) :
    first.bits.toNat / 16 ^ position % 16 = second.bits.toNat / 16 ^ position % 16 := by
  have sameDigit := List.map_inj_left.mp same (start - position) (List.mem_range.mpr (by omega))
  rw [Nat.sub_sub_self fromLeft] at sameDigit
  exact digitChar_injOn (Nat.mod_lt _ (by decide)) (Nat.mod_lt _ (by decide)) sameDigit

theorem bits_lt (id : Uuid) : id.bits.toNat < 16 ^ 32 :=
  lt_of_lt_of_eq id.bits.isLt (by norm_num)

/-- Identifiers with the same digits are the same. -/
theorem eq_of_digits {first second : Uuid}
    (digits : ∀ position < 32,
      first.bits.toNat / 16 ^ position % 16 = second.bits.toNat / 16 ^ position % 16) :
    first = second := by
  have sameNat := mod_pow_eq_of_digits digits
  rw [Nat.mod_eq_of_lt first.bits_lt, Nat.mod_eq_of_lt second.bits_lt] at sameNat
  cases first
  cases second
  exact congrArg Uuid.mk (BitVec.eq_of_toNat_eq sameNat)

/-- Identifiers that are written alike are the same. -/
theorem chars_injective {first second : Uuid} (same : first.chars = second.chars) :
    first = second := by
  obtain ⟨group1, rest⟩ := List.append_inj same (by simp)
  obtain ⟨group2, rest⟩ := List.append_inj (List.cons.inj rest).2 (by simp)
  obtain ⟨group3, rest⟩ := List.append_inj (List.cons.inj rest).2 (by simp)
  obtain ⟨group4, rest⟩ := List.append_inj (List.cons.inj rest).2 (by simp)
  have group5 := (List.cons.inj rest).2
  have digits : ∀ position < 32,
      first.bits.toNat / 16 ^ position % 16 = second.bits.toNat / 16 ^ position % 16 := by
    intro position below
    rcases Nat.lt_or_ge position 12 with right | left
    · exact digit_eq_of_hexGroup_eq group5 (by omega) (by omega)
    rcases Nat.lt_or_ge position 16 with right | left
    · exact digit_eq_of_hexGroup_eq group4 (by omega) (by omega)
    rcases Nat.lt_or_ge position 20 with right | left
    · exact digit_eq_of_hexGroup_eq group3 (by omega) (by omega)
    rcases Nat.lt_or_ge position 24 with right | left
    · exact digit_eq_of_hexGroup_eq group2 (by omega) (by omega)
    · exact digit_eq_of_hexGroup_eq group1 (by omega) (by omega)
  exact eq_of_digits digits

end Uuid

end AgentRank.Store
