import AgentRank.Limits.Nesting
import Mathlib.Data.List.TakeWhile

/-!
# Documents

This module models what the application's JSON parser accepts, over the code points of a text,
and proves that the scan follows it: the scan comes as deep into a document as its brackets nest.

A document keeps every pair of an object, as it is written.  Of a name that is repeated the parser
keeps the last value, so a value may nest less than its document.  Strings may hold lone
surrogates, as the parser's do.
-/

namespace AgentRank.Limits

open Transition

/-- What a JSON text says, up to what its atoms are. -/
inductive Document
  | leaf
  | array (items : List Document)
  | object (members : List (List Nat × Document))

namespace Document

mutual

/-- How deep the brackets of the document nest. -/
def levels : Document → Nat
  | .leaf => 0
  | .array items => levelsOfItems items + 1
  | .object members => levelsOfMembers members + 1

def levelsOfItems : List Document → Nat
  | [] => 0
  | item :: rest => max item.levels (levelsOfItems rest)

def levelsOfMembers : List (List Nat × Document) → Nat
  | [] => 0
  | (_, value) :: rest => max value.levels (levelsOfMembers rest)

end

mutual

/-- How deep the parsed value nests.  A later value takes the place of an earlier one. -/
def valueLevels : Document → Nat
  | .leaf => 0
  | .array items => valueLevelsOfItems items + 1
  | .object members => valueLevelsOfMembers members + 1

def valueLevelsOfItems : List Document → Nat
  | [] => 0
  | item :: rest => max item.valueLevels (valueLevelsOfItems rest)

def valueLevelsOfMembers : List (List Nat × Document) → Nat
  | [] => 0
  | (name, value) :: rest =>
      if name ∈ rest.map Prod.fst then valueLevelsOfMembers rest
      else max value.valueLevels (valueLevelsOfMembers rest)

end

mutual

/-- A parsed value nests no deeper than its document. -/
theorem valueLevels_le : ∀ document : Document, document.valueLevels ≤ document.levels
  | .leaf => le_rfl
  | .array items => Nat.succ_le_succ (valueLevelsOfItems_le items)
  | .object members => Nat.succ_le_succ (valueLevelsOfMembers_le members)

theorem valueLevelsOfItems_le : ∀ items : List Document,
    valueLevelsOfItems items ≤ levelsOfItems items
  | [] => le_rfl
  | item :: rest => max_le_max (valueLevels_le item) (valueLevelsOfItems_le rest)

theorem valueLevelsOfMembers_le : ∀ members : List (List Nat × Document),
    valueLevelsOfMembers members ≤ levelsOfMembers members
  | [] => le_rfl
  | (name, value) :: rest => by
      rw [valueLevelsOfMembers, levelsOfMembers]
      have later := valueLevelsOfMembers_le rest
      split
      · exact later.trans (le_max_right _ _)
      · exact max_le_max (valueLevels_le value) later

end

end Document

/-! ## Reading -/

/-- `" \t\n\r"`. -/
def isBlank (point : Nat) : Bool :=
  point = 32 ∨ point = 9 ∨ point = 10 ∨ point = 13

def skipBlanks (text : List Nat) : List Nat :=
  text.dropWhile isBlank

def hexDigit (point : Nat) : Option Nat :=
  if 48 ≤ point ∧ point ≤ 57 then some (point - 48)
  else if 97 ≤ point ∧ point ≤ 102 then some (point - 87)
  else if 65 ≤ point ∧ point ≤ 70 then some (point - 55)
  else none

/-- Four hexadecimal digits. -/
def readUnit : List Nat → Option (Nat × List Nat)
  | first :: second :: third :: fourth :: rest => do
      let first ← hexDigit first
      let second ← hexDigit second
      let third ← hexDigit third
      let fourth ← hexDigit fourth
      return (4096 * first + 256 * second + 16 * third + fourth, rest)
  | _ => none

/-- What stands behind `\u`.  Two halves of a pair are one code point, a lone half is itself. -/
def readEscapedUnit (text : List Nat) : Option (Nat × List Nat) := do
  let (unit, behind) ← readUnit text
  if 0xd800 ≤ unit ∧ unit < 0xdc00 then
    match behind with
    | 92 :: 117 :: second => do
        let (low, rest) ← readUnit second
        if 0xdc00 ≤ low ∧ low < 0xe000 then
          return (0x10000 + (unit - 0xd800) * 0x400 + (low - 0xdc00), rest)
        else return (unit, behind)
    | _ => return (unit, behind)
  else return (unit, behind)

/-- The code points that a backslash stands before. -/
def escapes : List (Nat × Nat) :=
  [(34, 34), (92, 92), (47, 47), (98, 8), (102, 12), (110, 10), (114, 13), (116, 9)]

/-- One code point of a string, which is not the closing quote. -/
def readPoint : List Nat → Option (Nat × List Nat)
  | [] => none
  | first :: rest =>
      if first = backslash then
        match rest with
        | [] => none
        | mark :: behind =>
            if mark = 117 then readEscapedUnit behind
            else (escapes.lookup mark).map fun point => (point, behind)
      else if first < 0x20 then none
      else some (first, rest)

/-- The code points up to the closing quote. -/
def readString : Nat → List Nat → Option (List Nat × List Nat)
  | 0, _ => none
  | fuel + 1, text =>
      match text with
      | 34 :: rest => some ([], rest)
      | _ => do
          let (point, behind) ← readPoint text
          let (points, rest) ← readString fuel behind
          return (point :: points, rest)

def isDigit (point : Nat) : Bool :=
  48 ≤ point ∧ point ≤ 57

/-- Longer integers are not read. -/
def maxIntegerDigits : Nat := 4300

/-- The digits behind a point, where a digit follows it. -/
def readFraction : List Nat → Option (List Nat)
  | 46 :: first :: rest => if isDigit first then some (rest.dropWhile isDigit) else none
  | _ => none

/-- The sign of an exponent is optional. -/
def dropSign : List Nat → List Nat
  | sign :: rest => if sign = 43 ∨ sign = 45 then rest else sign :: rest
  | [] => []

/-- An exponent, where a digit is in it. -/
def readExponent : List Nat → Option (List Nat)
  | mark :: rest =>
      if mark = 101 ∨ mark = 69 then
        if (dropSign rest).head?.any isDigit then some ((dropSign rest).dropWhile isDigit)
        else none
      else none
  | [] => none

/-- What is left behind the digits of a number in front of a text. -/
def readDigits : List Nat → Option (List Nat)
  | 48 :: rest => some rest
  | first :: rest => if isDigit first then some (rest.dropWhile isDigit) else none
  | [] => none

def dropMinus (text : List Nat) : List Nat :=
  if text.head? = some 45 then text.tail else text

/-- What is left behind a number. -/
def readNumber (text : List Nat) : Option (List Nat) := do
  let whole ← readDigits (dropMinus text)
  match readFraction whole with
  | some fraction => return (readExponent fraction).getD fraction
  | none =>
      match readExponent whole with
      | some exponent => return exponent
      | none => if (dropMinus text).length - whole.length ≤ maxIntegerDigits then some whole else none

/-- `null`, `true`, `false`, `NaN`, `Infinity` and `-Infinity`. -/
def constants : List (List Nat) :=
  ["null", "true", "false", "NaN", "Infinity", "-Infinity"].map fun name =>
    name.toList.map Char.toNat

/-- What is left behind a constant or a number. -/
def readAtom (text : List Nat) : Option (List Nat) :=
  match constants.find? (·.isPrefixOf text) with
  | some name => some (text.drop name.length)
  | none => readNumber text

mutual

/-- One value in front of a text. -/
def readValue : Nat → List Nat → Option (Document × List Nat)
  | 0, _ => none
  | fuel + 1, text =>
      match text with
      | 34 :: rest => do
          let (_, behind) ← readString fuel rest
          return (.leaf, behind)
      | 91 :: rest =>
          match skipBlanks rest with
          | 93 :: behind => some (.array [], behind)
          | inner => do
              let (items, behind) ← readItems fuel inner
              return (.array items, behind)
      | 123 :: rest =>
          match skipBlanks rest with
          | 125 :: behind => some (.object [], behind)
          | inner => do
              let (members, behind) ← readMembers fuel inner
              return (.object members, behind)
      | _ => (readAtom text).map fun behind => (.leaf, behind)

/-- The items up to the closing bracket. -/
def readItems : Nat → List Nat → Option (List Document × List Nat)
  | 0, _ => none
  | fuel + 1, text => do
      let (item, behind) ← readValue fuel text
      match skipBlanks behind with
      | 93 :: rest => return ([item], rest)
      | 44 :: rest => do
          let (items, rest) ← readItems fuel (skipBlanks rest)
          return (item :: items, rest)
      | _ => none

/-- The pairs up to the closing brace. -/
def readMembers : Nat → List Nat → Option (List (List Nat × Document) × List Nat)
  | 0, _ => none
  | fuel + 1, text =>
      match text with
      | 34 :: inner => do
          let (name, behindName) ← readString fuel inner
          match skipBlanks behindName with
          | 58 :: stated => do
              let (value, behind) ← readValue fuel (skipBlanks stated)
              match skipBlanks behind with
              | 125 :: rest => return ([(name, value)], rest)
              | 44 :: rest => do
                  let (members, rest) ← readMembers fuel (skipBlanks rest)
                  return ((name, value) :: members, rest)
              | _ => none
          | _ => none
      | _ => none

end

/-- `json.loads`, of a text: it is accepted as the document. -/
def Accepts (text : List Nat) (document : Document) : Prop :=
  ∃ fuel rest, readValue fuel (skipBlanks text) = some (document, rest) ∧ skipBlanks rest = []

/-! ## The scan of a string -/

/-- The scan inside of a string. -/
def inside (depth : Nat) : Scan where
  depth := depth
  inString := true

/-- A part of a string that the scan goes through without leaving the string. -/
def Stays (text : List Nat) : Prop :=
  ∀ depth, run Scan.step (inside depth) text = inside depth ∧ peak (inside depth) text = depth

theorem Stays.append {first second : List Nat} (stays : Stays first) (also : Stays second) :
    Stays (first ++ second) := by
  intro depth
  obtain ⟨ends, deep⟩ := stays depth
  obtain ⟨alsoEnds, alsoDeep⟩ := also depth
  constructor
  · rw [run_append, ends, alsoEnds]
  · rw [peak_append, ends, deep, alsoDeep, max_self]

theorem stays_plain {point : Nat} (notQuote : point ≠ quote) (notBackslash : point ≠ backslash) :
    Stays [point] := by
  intro depth
  have step : (inside depth).step point = inside depth := by
    simp [Scan.step, Scan.inText, inside, notQuote, notBackslash]
  rw [run_cons, peak, step, peak]
  exact ⟨rfl, max_self _⟩

/-- A backslash takes the meaning of what follows it. -/
theorem stays_escape (mark : Nat) : Stays [backslash, mark] := by
  intro depth
  have first : (inside depth).step backslash = { inside depth with escaped := true } := by
    simp [Scan.step, Scan.inText, inside]
  have second : Scan.step mark { inside depth with escaped := true } = inside depth := by
    simp [Scan.step, Scan.inText, inside]
  rw [run_cons, run_cons, peak, peak, first, second, peak]
  refine ⟨rfl, ?_⟩
  simp [inside]

theorem plain_of_hexDigit {point value : Nat} (digit : hexDigit point = some value) :
    point ≠ quote ∧ point ≠ backslash := by
  rw [hexDigit] at digit
  simp only [quote, backslash]
  split at digit
  · omega
  · split at digit
    · omega
    · split at digit
      · omega
      · cases digit

variable {rest text : List Nat}

theorem stays_of_readUnit {unit : Nat} (reads : readUnit text = some (unit, rest)) :
    ∃ taken, text = taken ++ rest ∧ Stays taken := by
  rw [readUnit.eq_def] at reads
  split at reads
  · next first second third fourth behind =>
      simp only [Option.bind_eq_bind, Option.bind_eq_some_iff, Option.pure_def, Option.some.injEq,
        Prod.mk.injEq] at reads
      obtain ⟨_, one, _, two, _, three, _, four, _, rfl⟩ := reads
      have stays := fun {point value : Nat} (digit : hexDigit point = some value) =>
        stays_plain (plain_of_hexDigit digit).1 (plain_of_hexDigit digit).2
      exact ⟨[first, second, third, fourth], rfl,
        ((stays one).append (stays two)).append ((stays three).append (stays four))⟩
  · cases reads

theorem stays_of_readEscapedUnit {point : Nat} (reads : readEscapedUnit text = some (point, rest)) :
    ∃ taken, text = taken ++ rest ∧ Stays taken := by
  rw [readEscapedUnit, Option.bind_eq_bind, Option.bind_eq_some_iff] at reads
  obtain ⟨⟨unit, behind⟩, first, reads⟩ := reads
  obtain ⟨taken, rfl, stays⟩ := stays_of_readUnit first
  dsimp only at reads
  split at reads
  · split at reads
    · next second _ =>
        rw [Option.bind_eq_some_iff] at reads
        obtain ⟨⟨low, left⟩, also, reads⟩ := reads
        obtain ⟨more, rfl, alsoStays⟩ := stays_of_readUnit also
        dsimp only at reads
        split at reads
        · simp only [Option.pure_def, Option.some.injEq, Prod.mk.injEq] at reads
          obtain ⟨_, rfl⟩ := reads
          exact ⟨taken ++ ([backslash, 117] ++ more), by simp [backslash],
            stays.append ((stays_escape 117).append alsoStays)⟩
        · cases reads
          exact ⟨taken, rfl, stays⟩
    · cases reads
      exact ⟨taken, rfl, stays⟩
  · cases reads
    exact ⟨taken, rfl, stays⟩

theorem stays_of_readPoint {point : Nat} (notQuote : text.head? ≠ some quote)
    (reads : readPoint text = some (point, rest)) :
    ∃ taken, text = taken ++ rest ∧ Stays taken := by
  rw [readPoint.eq_def] at reads
  split at reads
  · cases reads
  · next first behind =>
      split at reads
      · next isBackslash =>
          subst isBackslash
          split at reads
          · cases reads
          · next mark left =>
              split at reads
              · obtain ⟨taken, rfl, stays⟩ := stays_of_readEscapedUnit reads
                exact ⟨[backslash, mark] ++ taken, rfl, (stays_escape mark).append stays⟩
              · rw [Option.map_eq_some_iff] at reads
                obtain ⟨_, _, same⟩ := reads
                cases same
                exact ⟨[backslash, mark], rfl, stays_escape mark⟩
      · next notBackslash =>
          split at reads
          · cases reads
          · cases reads
            have plain : point ≠ quote := fun isQuote => notQuote (by rw [isQuote]; rfl)
            exact ⟨[point], rfl, stays_plain plain notBackslash⟩

/-- A string and its closing quote. -/
theorem closes_of_readString {fuel : Nat} {points : List Nat}
    (reads : readString fuel text = some (points, rest)) :
    ∃ taken, text = taken ++ quote :: rest ∧ Stays taken := by
  induction fuel generalizing text points with
  | zero => cases reads
  | succ fuel ih =>
      rw [readString.eq_def] at reads
      dsimp only at reads
      split at reads
      · cases reads
        exact ⟨[], rfl, fun _ => ⟨rfl, rfl⟩⟩
      · next notQuote =>
          simp only [Option.bind_eq_bind, Option.bind_eq_some_iff, Option.pure_def,
            Option.some.injEq, Prod.mk.injEq] at reads
          obtain ⟨⟨point, behind⟩, first, ⟨more, left⟩, later, rfl, rfl⟩ := reads
          have open_ : text.head? ≠ some quote := by
            intro isQuote
            rw [List.head?_eq_some_iff] at isQuote
            obtain ⟨tail, rfl⟩ := isQuote
            exact notQuote tail rfl
          obtain ⟨taken, rfl, stays⟩ := stays_of_readPoint open_ first
          obtain ⟨others, rfl, alsoStays⟩ := ih later
          exact ⟨taken ++ others, by rw [List.append_assoc], stays.append alsoStays⟩

/-- The scan passes over a string. -/
theorem passes_string {inner : List Nat} (stays : Stays inner) :
    Passes (quote :: (inner ++ [quote])) 0 := by
  intro depth
  have opened : (outside depth).step quote = inside depth := rfl
  have closed : (inside depth).step quote = outside depth := by
    simp [Scan.step, Scan.inText, inside, outside, quote, backslash]
  obtain ⟨ends, deep⟩ := stays depth
  constructor
  · rw [run_cons, opened, run_append, ends, run_cons, closed, run_nil]
  · rw [peak, opened, peak_append, ends, deep, peak, closed, peak]
    simp [outside, inside]

/-! ## The scan of an atom -/

instance : DecidablePred IsQuiet :=
  fun _ => inferInstanceAs (Decidable (_ ∧ _ ∧ _))

/-- What is taken from the front of a text is passed over. -/
def TakesQuiet (text rest : List Nat) : Prop :=
  ∃ taken, text = taken ++ rest ∧ ∀ point ∈ taken, IsQuiet point

namespace TakesQuiet

theorem refl (text : List Nat) : TakesQuiet text text :=
  ⟨[], rfl, nofun⟩

theorem trans {middle : List Nat} (first : TakesQuiet text middle)
    (second : TakesQuiet middle rest) : TakesQuiet text rest := by
  obtain ⟨taken, rfl, quiet⟩ := first
  obtain ⟨more, rfl, alsoQuiet⟩ := second
  refine ⟨taken ++ more, by rw [List.append_assoc], fun point member => ?_⟩
  rcases List.mem_append.mp member with early | late
  · exact quiet point early
  · exact alsoQuiet point late

theorem cons {point : Nat} (quiet : IsQuiet point) {text rest : List Nat}
    (takes : TakesQuiet text rest) : TakesQuiet (point :: text) rest :=
  trans ⟨[point], rfl, fun _ member => List.mem_singleton.mp member ▸ quiet⟩ takes

theorem dropWhile {accepts : Nat → Bool} (quiet : ∀ point, accepts point = true → IsQuiet point)
    (text : List Nat) : TakesQuiet text (text.dropWhile accepts) :=
  ⟨text.takeWhile accepts, List.takeWhile_append_dropWhile.symm, fun point member =>
    quiet point (List.mem_takeWhile_imp member)⟩

theorem passes (takes : TakesQuiet text rest) :
    ∃ taken, text = taken ++ rest ∧ Passes taken 0 := by
  obtain ⟨taken, split, quiet⟩ := takes
  exact ⟨taken, split, passes_of_isQuiet quiet⟩

end TakesQuiet

theorem isQuiet_of_isDigit {point : Nat} (digit : isDigit point = true) : IsQuiet point := by
  simp only [isDigit, decide_eq_true_eq] at digit
  simp only [IsQuiet, quote, opening, closing, List.mem_cons, List.not_mem_nil, or_false]
  omega

theorem takesQuiet_skipBlanks (text : List Nat) : TakesQuiet text (skipBlanks text) := by
  apply TakesQuiet.dropWhile
  intro point blank
  simp only [isBlank, decide_eq_true_eq] at blank
  rcases blank with rfl | rfl | rfl | rfl <;> decide

theorem takesQuiet_digits (text : List Nat) : TakesQuiet text (text.dropWhile isDigit) :=
  TakesQuiet.dropWhile (fun _ digit => isQuiet_of_isDigit digit) text

theorem takesQuiet_readFraction (reads : readFraction text = some rest) :
    TakesQuiet text rest := by
  rw [readFraction.eq_def] at reads
  split at reads
  · split at reads
    · next digit =>
        cases reads
        exact .cons (by decide) (.cons (isQuiet_of_isDigit digit) (takesQuiet_digits _))
    · cases reads
  · cases reads

theorem takesQuiet_dropSign (text : List Nat) : TakesQuiet text (dropSign text) := by
  rw [dropSign.eq_def]
  split
  · next sign rest =>
      split
      · next isSign =>
          have quiet : IsQuiet sign := by
            rcases isSign with rfl | rfl <;> decide
          exact .cons quiet (.refl _)
      · exact .refl _
  · exact .refl _

theorem takesQuiet_readExponent (reads : readExponent text = some rest) :
    TakesQuiet text rest := by
  rw [readExponent.eq_def] at reads
  split at reads
  · next mark behind =>
      split at reads
      · next isMark =>
          have quiet : IsQuiet mark := by
            rcases isMark with rfl | rfl <;> decide
          split at reads
          · cases reads
            exact .cons quiet ((takesQuiet_dropSign behind).trans (takesQuiet_digits _))
          · cases reads
      · cases reads
  · cases reads

theorem takesQuiet_readDigits (reads : readDigits text = some rest) :
    TakesQuiet text rest := by
  rw [readDigits.eq_def] at reads
  split at reads
  · cases reads
    exact .cons (by decide) (.refl _)
  · split at reads
    · next digit =>
        cases reads
        exact .cons (isQuiet_of_isDigit digit) (takesQuiet_digits _)
    · cases reads
  · cases reads

theorem takesQuiet_readNumber (reads : readNumber text = some rest) :
    TakesQuiet text rest := by
  rw [readNumber] at reads
  rw [Option.bind_eq_bind, Option.bind_eq_some_iff] at reads
  obtain ⟨whole, digits, reads⟩ := reads
  have start : TakesQuiet text (dropMinus text) := by
    rw [dropMinus]
    split
    · next minus =>
        obtain ⟨tail, rfl⟩ := List.head?_eq_some_iff.mp minus
        exact .cons (by decide) (.refl _)
    · exact .refl _
  have integer := start.trans (takesQuiet_readDigits digits)
  split at reads
  · next fraction found =>
      cases reads
      have withFraction := integer.trans (takesQuiet_readFraction found)
      cases exponent : readExponent fraction with
      | none => exact withFraction
      | some behind => exact withFraction.trans (takesQuiet_readExponent exponent)
  · split at reads
    · next exponent found =>
        cases reads
        exact integer.trans (takesQuiet_readExponent found)
    · split at reads
      · cases reads
        exact integer
      · cases reads

theorem takesQuiet_readAtom (reads : readAtom text = some rest) :
    TakesQuiet text rest := by
  rw [readAtom] at reads
  split at reads
  · next name found =>
      cases reads
      have isPrefix := List.find?_some found
      rw [List.isPrefixOf_iff_prefix] at isPrefix
      obtain ⟨behind, rfl⟩ := isPrefix
      rw [List.drop_left]
      refine ⟨name, rfl, fun point member => ?_⟩
      have names : (constants.all fun name => name.all fun point => decide (IsQuiet point)) =
          true := by decide +kernel
      rw [List.all_eq_true] at names
      have quiet := List.all_eq_true.mp (names name (List.mem_of_find?_eq_some found)) point member
      exact of_decide_eq_true quiet
  · exact takesQuiet_readNumber reads

/-! ## The scan of a document -/

/-- What the parser takes for a value, the scan passes with the levels of the value. -/
def PassesValues (fuel : Nat) : Prop :=
  ∀ text document rest, readValue fuel text = some (document, rest) →
    ∃ taken, text = taken ++ rest ∧ Passes taken document.levels

def PassesItems (fuel : Nat) : Prop :=
  ∀ text items rest, readItems fuel text = some (items, rest) →
    ∃ taken last, text = taken ++ last :: rest ∧ last ∈ closing ∧
      Passes taken (Document.levelsOfItems items)

def PassesMembers (fuel : Nat) : Prop :=
  ∀ text members rest, readMembers fuel text = some (members, rest) →
    ∃ taken last, text = taken ++ last :: rest ∧ last ∈ closing ∧
      Passes taken (Document.levelsOfMembers members)

variable {taken : List Nat}

/-- Blanks are passed over. -/
theorem Passes.blanks {levels : Nat} (passes : Passes taken levels) (behind : List Nat)
    (left : skipBlanks behind = rest) :
    ∃ blanks, behind = blanks ++ rest ∧ Passes (taken ++ blanks) levels := by
  obtain ⟨blanks, split, quiet⟩ := (takesQuiet_skipBlanks behind).passes
  refine ⟨blanks, by rw [← left]; exact split, ?_⟩
  have both := passes.append quiet
  rwa [Nat.max_zero] at both

theorem passes_opened {first : Nat} {inner : List Nat} {levels last : Nat}
    (opens : first ∈ opening) (closes : last ∈ closing) (passes : Passes taken levels)
    (behind : List Nat) (left : skipBlanks behind = inner) (split : inner = taken ++ last :: rest) :
    ∃ whole, first :: behind = whole ++ rest ∧ Passes whole (levels + 1) := by
  obtain ⟨blanks, blanksSplit, quiet⟩ := passes_nil.blanks behind left
  have deep := (quiet.append passes).bracketed opens closes
  rw [Nat.zero_max] at deep
  refine ⟨_, ?_, deep⟩
  rw [blanksSplit, split]
  simp

theorem passesValues_succ {fuel : Nat} (ofItems : PassesItems fuel)
    (ofMembers : PassesMembers fuel) : PassesValues (fuel + 1) := by
  intro text document rest reads
  rw [readValue.eq_def] at reads
  dsimp only at reads
  split at reads
  · next behind =>
      rw [Option.bind_eq_bind, Option.bind_eq_some_iff] at reads
      obtain ⟨⟨points, left⟩, string, same⟩ := reads
      cases same
      obtain ⟨taken, rfl, stays⟩ := closes_of_readString string
      exact ⟨quote :: (taken ++ [quote]), by simp [quote], passes_string stays⟩
  · next behind =>
      split at reads
      · next left empty =>
          cases reads
          exact passes_opened (by decide) (by decide) passes_nil behind empty rfl
      · rw [Option.bind_eq_bind, Option.bind_eq_some_iff] at reads
        obtain ⟨⟨items, left⟩, found, same⟩ := reads
        cases same
        obtain ⟨taken, last, inner, closes, deep⟩ := ofItems _ _ _ found
        exact passes_opened (by decide) closes deep behind rfl inner
  · next behind =>
      split at reads
      · next left empty =>
          cases reads
          exact passes_opened (by decide) (by decide) passes_nil behind empty rfl
      · rw [Option.bind_eq_bind, Option.bind_eq_some_iff] at reads
        obtain ⟨⟨members, left⟩, found, same⟩ := reads
        cases same
        obtain ⟨taken, last, inner, closes, deep⟩ := ofMembers _ _ _ found
        exact passes_opened (by decide) closes deep behind rfl inner
  · rw [Option.map_eq_some_iff] at reads
    obtain ⟨behind, atom, same⟩ := reads
    cases same
    exact (takesQuiet_readAtom atom).passes

/-- What the parser takes for one part, and behind it: the end, or a comma and more parts. -/
theorem passes_parts {levels : Nat} (passes : Passes taken levels) {behind : List Nat}
    {mark : Nat} (left : skipBlanks behind = mark :: rest) :
    ∃ blanks, taken ++ behind = (taken ++ blanks) ++ mark :: rest ∧
      Passes (taken ++ blanks) levels := by
  obtain ⟨blanks, split, quiet⟩ := passes.blanks behind left
  exact ⟨blanks, by rw [split, List.append_assoc], quiet⟩

theorem passes_separated {others left tail : List Nat} {levels more mark : Nat}
    (isQuiet : IsQuiet mark) (passes : Passes taken levels) (also : Passes others more)
    (split : skipBlanks left = others ++ tail) :
    ∃ whole, taken ++ mark :: left = whole ++ tail ∧ Passes whole (max levels more) := by
  have separator : Passes [mark] 0 :=
    passes_of_isQuiet fun _ member => List.mem_singleton.mp member ▸ isQuiet
  obtain ⟨gap, gapSplit, quiet⟩ := separator.blanks left split
  have deep := passes.append (quiet.append also)
  rw [Nat.zero_max] at deep
  refine ⟨_, ?_, deep⟩
  rw [gapSplit]
  simp

theorem passesItems_succ {fuel : Nat} (ofValue : PassesValues fuel) (ofItems : PassesItems fuel) :
    PassesItems (fuel + 1) := by
  intro text items rest reads
  rw [readItems, Option.bind_eq_bind, Option.bind_eq_some_iff] at reads
  obtain ⟨⟨item, behind⟩, first, reads⟩ := reads
  obtain ⟨taken, rfl, deep⟩ := ofValue _ _ _ first
  dsimp only at reads
  split at reads
  · next left ends =>
      cases reads
      obtain ⟨blanks, split, quiet⟩ := passes_parts deep ends
      exact ⟨_, _, split, by decide, by simpa [Document.levelsOfItems] using quiet⟩
  · next left comma =>
      rw [Option.bind_eq_bind, Option.bind_eq_some_iff] at reads
      obtain ⟨⟨more, after⟩, later, same⟩ := reads
      cases same
      obtain ⟨others, last, inner, closes, alsoDeep⟩ := ofItems _ _ _ later
      obtain ⟨blanks, split, quiet⟩ := passes_parts deep comma
      have isQuiet : IsQuiet 44 := by decide
      obtain ⟨whole, wholeSplit, levels⟩ := passes_separated isQuiet quiet alsoDeep inner
      exact ⟨whole, last, split.trans wholeSplit, closes, levels⟩
  · cases reads

theorem passesMembers_succ {fuel : Nat} (ofValue : PassesValues fuel)
    (ofMembers : PassesMembers fuel) : PassesMembers (fuel + 1) := by
  intro text members rest reads
  rw [readMembers.eq_def] at reads
  dsimp only at reads
  split at reads
  · next stated =>
      rw [Option.bind_eq_bind, Option.bind_eq_some_iff] at reads
      obtain ⟨⟨name, behindName⟩, string, reads⟩ := reads
      obtain ⟨inner, rfl, stays⟩ := closes_of_readString string
      have named := passes_string stays
      dsimp only at reads
      split at reads
      · next value colon =>
          rw [Option.bind_eq_bind, Option.bind_eq_some_iff] at reads
          obtain ⟨⟨document, behind⟩, first, reads⟩ := reads
          obtain ⟨taken, valueSplit, deep⟩ := ofValue _ _ _ first
          obtain ⟨blanks, nameSplit, quietName⟩ := passes_parts named colon
          have isQuiet : IsQuiet 58 := by decide
          obtain ⟨pair, pairSplit, pairPasses⟩ :=
            passes_separated isQuiet quietName deep valueSplit
          rw [Nat.zero_max] at pairPasses
          have start : 34 :: (inner ++ quote :: behindName) = pair ++ behind := by
            rw [← pairSplit, ← nameSplit]
            simp [quote]
          dsimp only at reads
          split at reads
          · next left ends =>
              cases reads
              obtain ⟨gap, split, quiet⟩ := passes_parts pairPasses ends
              exact ⟨_, _, start.trans split, by decide, by
                simpa [Document.levelsOfMembers] using quiet⟩
          · next left comma =>
              rw [Option.bind_eq_bind, Option.bind_eq_some_iff] at reads
              obtain ⟨⟨more, after⟩, later, same⟩ := reads
              cases same
              obtain ⟨others, last, moreSplit, closes, alsoDeep⟩ := ofMembers _ _ _ later
              obtain ⟨gap, split, quiet⟩ := passes_parts pairPasses comma
              have isQuietComma : IsQuiet 44 := by decide
              obtain ⟨whole, wholeSplit, levels⟩ :=
                passes_separated isQuietComma quiet alsoDeep moreSplit
              exact ⟨whole, last, start.trans (split.trans wholeSplit), closes, levels⟩
          · cases reads
      · cases reads
  · cases reads

/-- The scan passes whatever a reader of the parser takes. -/
theorem passes_of_reads (fuel : Nat) :
    PassesValues fuel ∧ PassesItems fuel ∧ PassesMembers fuel := by
  induction fuel with
  | zero => exact ⟨nofun, nofun, nofun⟩
  | succ fuel ih =>
      obtain ⟨ofValue, ofItems, ofMembers⟩ := ih
      exact ⟨passesValues_succ ofItems ofMembers, passesItems_succ ofValue ofItems,
        passesMembers_succ ofValue ofMembers⟩

/-- The scan comes as deep into an accepted document as its brackets nest. -/
theorem peak_of_accepts {document : Document} (accepts : Accepts text document) :
    peak {} text = document.levels := by
  obtain ⟨fuel, rest, reads, ends⟩ := accepts
  obtain ⟨taken, split, passes⟩ := (passes_of_reads fuel).1 _ _ _ reads
  obtain ⟨blanks, first, quiet⟩ := passes_nil.blanks text split
  obtain ⟨gap, last, quietEnd⟩ := passes_nil.blanks rest ends
  have whole := quiet.append (passes.append quietEnd)
  have same : text = ([] ++ blanks) ++ (taken ++ ([] ++ gap)) := by
    rw [first, last]
    simp
  rw [same]
  have deep := (whole 0).2
  rw [Nat.zero_max, Nat.max_zero, Nat.zero_add] at deep
  exact deep

end AgentRank.Limits
