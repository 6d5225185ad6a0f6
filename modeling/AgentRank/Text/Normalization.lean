import Mathlib.Data.List.DropRight
import Mathlib.Data.String.Basic

/-!
# Trimming and case folding of text

This module defines the two Python string operations that an exact comparison
after normalization needs: `str.strip` and `str.casefold`.  Text is read as its
sequence of code points.

The set of whitespace code points is written out.  The full case folding table
of the Unicode standard is a parameter, `CaseFolding`, because it has more than
fifteen hundred entries and no result depends on any of them.
-/

namespace AgentRank.Text

/-- The full case folding table: every code point maps to a short sequence. -/
class CaseFolding where
  foldChar : Char → List Char

/-- The code points for which Python's `str.isspace` holds. -/
def isSpace (char : Char) : Bool :=
  let code := char.toNat
  (0x09 ≤ code && code ≤ 0x0d) || (0x1c ≤ code && code ≤ 0x20) ||
    code == 0x85 || code == 0xa0 || code == 0x1680 ||
    (0x2000 ≤ code && code ≤ 0x200a) || code == 0x2028 || code == 0x2029 ||
    code == 0x202f || code == 0x205f || code == 0x3000

/-- `str.strip()`, on code points. -/
def stripChars (chars : List Char) : List Char :=
  (chars.dropWhile isSpace).rdropWhile isSpace

/-- `str.strip()`. -/
def strip (text : String) : String :=
  String.ofList (stripChars text.toList)

/-- `str.casefold()`. -/
def casefold [CaseFolding] (text : String) : String :=
  String.ofList (text.toList.flatMap CaseFolding.foldChar)

/-- `not text.strip()`: nothing but whitespace. -/
def isBlank (text : String) : Bool :=
  (stripChars text.toList).isEmpty

/-- Text is blank exactly when every code point of it is whitespace. -/
theorem isBlank_iff (text : String) :
    isBlank text = true ↔ ∀ char ∈ text.toList, isSpace char = true := by
  simp only [isBlank, stripChars, List.isEmpty_iff, List.rdropWhile_eq_nil_iff]
  constructor
  · intro allTrimmed char member
    by_cases found : char ∈ text.toList.dropWhile isSpace
    · exact allTrimmed char found
    · have split := List.takeWhile_append_dropWhile (p := isSpace) (l := text.toList)
      rw [← split, List.mem_append] at member
      rcases member with taken | dropped
      · exact List.mem_takeWhile_imp taken
      · exact absurd dropped found
  · intro allSpace char member
    exact allSpace char ((List.dropWhile_suffix isSpace).subset member)

/-- What is trimmed stands in the text. -/
theorem stripChars_within (chars : List Char) : stripChars chars <:+: chars :=
  ((List.rdropWhile_prefix _ _).isInfix).trans (List.dropWhile_suffix _).isInfix

theorem mem_dropWhile_of_visible {chars : List Char} {char : Char} (member : char ∈ chars)
    (visible : isSpace char = false) : char ∈ chars.dropWhile isSpace := by
  have split := List.takeWhile_append_dropWhile (p := isSpace) (l := chars)
  rw [← split, List.mem_append] at member
  rcases member with taken | left
  · have space := List.mem_takeWhile_imp taken
    rw [visible] at space
    cases space
  · exact left

/-- Trimming takes whitespace only. -/
theorem mem_stripChars_of_visible {chars : List Char} {char : Char} (member : char ∈ chars)
    (visible : isSpace char = false) : char ∈ stripChars chars := by
  have inner := mem_dropWhile_of_visible member visible
  have reversed := mem_dropWhile_of_visible (List.mem_reverse.mpr inner) visible
  exact List.mem_reverse.mpr reversed

/-- Text with a visible character is not blank. -/
theorem isBlank_of_visible {text : String} {char : Char} (member : char ∈ text.toList)
    (visible : isSpace char = false) : isBlank text = false := by
  rw [Bool.eq_false_iff]
  intro blank
  have space := (isBlank_iff text).mp blank char member
  rw [visible] at space
  cases space

/-- The case folding of text restricted to the ASCII range. -/
@[reducible]
def asciiFolding : CaseFolding where
  foldChar char := [char.toLower]

end AgentRank.Text
