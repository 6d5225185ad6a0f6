import AgentRank.Text.Normalization

/-!
# Patterns over text

This module gives the meaning of the regular expressions that a program searches text with:
a pattern tries its ways in order, as a backtracking matcher does, and a search answers with
the first way at the leftmost place that has one.

The classes of letters and digits of the Unicode standard are a parameter, as the tables are
long and no result depends on more than what the parameter states.
-/

namespace AgentRank.Text

/-- The character tables behind `\w`, `\d`, `int` and `str.lower`. -/
class CharacterTables where
  isWord : Char → Bool
  isDecimal : Char → Bool
  digitValue : Char → Nat
  lowerChar : Char → List Char

/-- The tables of the ASCII range. -/
@[reducible]
def asciiTables : CharacterTables where
  isWord char := char.isAlphanum || char == '_'
  isDecimal char := char.isDigit
  digitValue char := char.toNat - '0'.toNat
  lowerChar char := [char.toLower]

/-- A regular expression.  A repetition is over a class of characters, and takes as many as
it can before it gives any back. -/
inductive Pattern
  | empty
  | char (accepts : Char → Bool)
  | many (accepts : Char → Bool) (least : Nat) (most : Option Nat)
  | boundary
  | group (inner : Pattern)
  | seq (first second : Pattern)
  | alt (first second : Pattern)

/-- The text that a pattern took, and the text of its groups. -/
structure Match where
  text : List Char
  groups : List (List Char) := []
deriving DecidableEq

/-- `\b`: a word begins or ends between two places. -/
def atBoundary [CharacterTables] (read ahead : List Char) : Bool :=
  (read.head?.any CharacterTables.isWord) != (ahead.head?.any CharacterTables.isWord)

/-- The longest run of a class of characters, up to a bound. -/
def longestRun (accepts : Char → Bool) (most : Option Nat) (ahead : List Char) : List Char :=
  match most with
  | none => ahead.takeWhile accepts
  | some bound => (ahead.takeWhile accepts).take bound

namespace Pattern

/-- The ways in which a pattern matches at a place, the preferred one first.  The characters
that were read are listed last one first. -/
def ways [CharacterTables] : Pattern → List Char → List Char → List Match
  | empty, _, _ => [{ text := [] }]
  | char accepts, _, ahead =>
      match ahead with
      | [] => []
      | first :: _ => if accepts first then [{ text := [first] }] else []
  | many accepts least most, _, ahead =>
      let run := longestRun accepts most ahead
      (List.range (run.length + 1 - least)).map fun back =>
        { text := run.take (run.length - back) }
  | boundary, read, ahead => if atBoundary read ahead then [{ text := [] }] else []
  | group inner, read, ahead =>
      (inner.ways read ahead).map fun found =>
        { found with groups := found.text :: found.groups }
  | seq first second, read, ahead =>
      (first.ways read ahead).flatMap fun found =>
        (second.ways (found.text.reverse ++ read) (ahead.drop found.text.length)).map fun later =>
          { text := found.text ++ later.text, groups := found.groups ++ later.groups }
  | alt first second, read, ahead => first.ways read ahead ++ second.ways read ahead

-- The equations of `ways` are stated once, before the proofs that rewrite with them.
attribute [local simp] ways

/-- The patterns one after the other. -/
def sequence : List Pattern → Pattern
  | [] => empty
  | first :: rest => seq first (sequence rest)

/-- One of some patterns, the first ones preferred. -/
def oneOf : List Pattern → Pattern
  | [] => many (fun _ => false) 1 (some 0)
  | first :: rest => alt first (oneOf rest)

/-- A pattern that may be left out. -/
def optional (inner : Pattern) : Pattern :=
  alt inner empty

end Pattern

/-- A match that a search found, and what stands around it. -/
structure Found where
  read : List Char
  found : Match
  ahead : List Char

section Search

variable [CharacterTables]

/-- The leftmost match. -/
def findFrom (pattern : Pattern) (read : List Char) : List Char → Option Found
  | [] =>
      (pattern.ways read []).head?.map fun found => { read := read, found := found, ahead := [] }
  | first :: rest =>
      match (pattern.ways read (first :: rest)).head? with
      | some found =>
          some
            { read := read
              found := found
              ahead := (first :: rest).drop found.text.length }
      | none => findFrom pattern (first :: read) rest

/-- `re.search`. -/
def search (pattern : Pattern) (text : String) : Option Match :=
  (findFrom pattern [] text.toList).map Found.found

/-- The matches from left to right, none of which overlaps another. -/
def findAllFrom (pattern : Pattern) : Nat → List Char → List Char → List Match
  | 0, _, _ => []
  | fuel + 1, read, ahead =>
      match findFrom pattern read ahead with
      | none => []
      | some found =>
          found.found ::
            findAllFrom pattern fuel (found.found.text.reverse ++ found.read) found.ahead

/-- `re.finditer`, for a pattern that takes at least one character. -/
def findAll (pattern : Pattern) (text : String) : List Match :=
  findAllFrom pattern text.length [] text.toList

/-- `re.fullmatch`. -/
def fullMatch (pattern : Pattern) (text : String) : Option Match :=
  (pattern.ways [] text.toList).find? fun found => found.text.length == text.length

/-- `str.lower`. -/
def lower (text : String) : String :=
  String.ofList (text.toList.flatMap CharacterTables.lowerChar)

/-- `int`, on decimal digits. -/
def parseInt (digits : List Char) : Nat :=
  digits.foldl (fun value digit => 10 * value + CharacterTables.digitValue digit) 0

end Search

/-- A letter of a pattern whose case is ignored.  Three letters have a further form outside
of the ASCII range. -/
def ignoringCase (letter char : Char) : Bool :=
  char.toLower == letter || (letter == 'i' && (char == 'İ' || char == 'ı')) ||
    (letter == 's' && char == 'ſ') || (letter == 'k' && char == 'K')

/-- A word of a pattern whose case is ignored. -/
def wordIgnoringCase (word : String) : Pattern :=
  Pattern.sequence (word.toList.map fun letter => .char (ignoringCase letter))

/-- `str.removeprefix`, where the text begins so. -/
def afterOpening? (opening text : String) : Option String :=
  if opening.toList.isPrefixOf text.toList then
    some (String.ofList (text.toList.drop opening.length))
  else none

variable {text : String}

theorem afterOpening?_eq_some_iff {opening rest : String} :
    afterOpening? opening text = some rest ↔ text = opening ++ rest := by
  unfold afterOpening?
  constructor
  · intro begins
    split at begins
    · next isOpening =>
        cases begins
        obtain ⟨tail, split⟩ := List.isPrefixOf_iff_prefix.mp isOpening
        apply String.toList_injective
        rw [String.toList_append, ← split, ← String.length_toList, List.drop_left,
          String.toList_ofList]
    · cases begins
  · rintro rfl
    have isOpening : opening.toList.isPrefixOf (opening ++ rest).toList = true := by
      rw [String.toList_append]
      exact List.isPrefixOf_iff_prefix.mpr ⟨_, rfl⟩
    rw [if_pos isOpening, String.toList_append, ← String.length_toList, List.drop_left,
      String.ofList_toList]

/-! ## What a match took -/

theorem longestRun_taken (accepts : Char → Bool) (most : Option Nat) (ahead : List Char) :
    longestRun accepts most ahead <+: ahead := by
  cases most with
  | none => exact List.takeWhile_prefix _
  | some bound =>
      exact List.IsPrefix.trans ( List.take_prefix _ _) ( List.takeWhile_prefix _)

theorem length_longestRun (accepts : Char → Bool) (bound : Nat) (ahead : List Char) :
    (longestRun accepts (some bound) ahead).length ≤ bound := by
  rw [longestRun, List.length_take]
  exact Nat.min_le_left _ _

variable {accepts : Char → Bool}

theorem mem_longestRun {most : Option Nat} {ahead : List Char} {char : Char}
    (member : char ∈ longestRun accepts most ahead) : accepts char = true := by
  cases most with
  | none => exact List.mem_takeWhile_imp member
  | some bound => exact List.mem_takeWhile_imp (List.mem_of_mem_take member)

theorem longestRun_append (accepts : Char → Bool) (most : Option Nat) (ahead more : List Char) :
    longestRun accepts most ahead <+: longestRun accepts most (ahead ++ more) := by
  have run : ahead.takeWhile accepts <+: (ahead ++ more).takeWhile accepts := by
    rw [List.takeWhile_append]
    split
    · rename_i all
      rw [(List.takeWhile_prefix accepts).eq_of_length all]
      exact List.prefix_append _ _
    · exact List.prefix_refl _
  cases most with
  | none => exact run
  | some bound =>
      obtain ⟨behind, isSplit⟩ := run
      rw [longestRun, longestRun, ← isSplit, List.take_append]
      exact List.prefix_append _ _

/-- A letter is visible in every form of it. -/
theorem isSpace_of_ignoringCase {letter char : Char} (visible : isSpace letter = false)
    (accepted : ignoringCase letter char = true) : isSpace char = false := by
  rw [Bool.eq_false_iff]
  intro space
  have sameLower : char.toLower = char := by
    have isCode : ∀ code : Nat, char.toNat = code → ¬ (65 ≤ code ∧ code ≤ 90) →
        char.toLower = char := by
      rintro code rfl notUpper
      unfold Char.toLower
      rw [dif_neg]
      intro upper
      exact notUpper
        ⟨UInt32.le_iff_toNat_le.mp upper.1, UInt32.le_iff_toNat_le.mp upper.2⟩
    apply isCode _ rfl
    simp only [isSpace, Bool.or_eq_true, Bool.and_eq_true, decide_eq_true_eq, beq_iff_eq] at space
    omega
  simp only [ignoringCase, sameLower, Bool.or_eq_true, Bool.and_eq_true, beq_iff_eq] at accepted
  rcases accepted with ((rfl | ⟨_, rfl | rfl⟩) | ⟨_, rfl⟩) | ⟨_, rfl⟩
  · rw [visible] at space
    cases space
  all_goals exact absurd space (by decide)

section Took

variable [CharacterTables] {pattern first second : Pattern} {read ahead : List Char}
  {found : Match}

theorem mem_ways_char (member : found ∈ (Pattern.char accepts).ways read ahead) :
    ∃ char rest, ahead = char :: rest ∧ accepts char = true ∧ found = { text := [char] } := by
  cases ahead with
  | nil => cases member
  | cons char rest =>
      by_cases accepted : accepts char = true
      · simp only [Pattern.ways, accepted, if_true, List.mem_singleton] at member
        exact ⟨char, rest, rfl, accepted, member⟩
      · simp [Pattern.ways, accepted] at member

theorem mem_ways_many {least : Nat} {most : Option Nat}
    (member : found ∈ (Pattern.many accepts least most).ways read ahead) :
    least ≤ found.text.length ∧ found.text <+: longestRun accepts most ahead ∧
      found.groups = [] := by
  simp only [Pattern.ways, List.mem_map, List.mem_range] at member
  rcases member with ⟨back, backLt, rfl⟩
  refine ⟨?_, List.take_prefix _ _, rfl⟩
  simp only [List.length_take]
  omega

theorem mem_ways_seq :
    found ∈ (Pattern.seq first second).ways read ahead ↔
      ∃ former ∈ first.ways read ahead,
        ∃ later ∈ second.ways (former.text.reverse ++ read) (ahead.drop former.text.length),
          found =
            { text := former.text ++ later.text, groups := former.groups ++ later.groups } := by
  simp only [Pattern.ways, List.mem_flatMap, List.mem_map, eq_comm]

/-- A match takes the text that lies ahead. -/
theorem ways_taken (member : found ∈ pattern.ways read ahead) : found.text <+: ahead := by
  induction pattern generalizing read ahead found with
  | empty =>
      rw [Pattern.ways, List.mem_singleton] at member
      rw [member]
      exact List.nil_prefix
  | char accepts =>
      obtain ⟨char, rest, rfl, _, rfl⟩ := mem_ways_char member
      exact ⟨rest, rfl⟩
  | many accepts least most =>
      exact (mem_ways_many member).2.1.trans (longestRun_taken accepts most ahead)
  | boundary =>
      rw [Pattern.ways] at member
      split at member
      · rw [List.mem_singleton.mp member]
        exact List.nil_prefix
      · cases member
  | group inner ih =>
      rcases List.mem_map.mp member with ⟨inside, insideMem, rfl⟩
      exact @ih _ _ inside insideMem
  | seq first second firstIh secondIh =>
      obtain ⟨former, formerMem, later, laterMem, rfl⟩ := mem_ways_seq.mp member
      obtain ⟨afterFormer, rfl⟩ := firstIh formerMem
      have laterPrefix := secondIh laterMem
      rw [List.drop_left] at laterPrefix
      exact (List.prefix_append_right_inj _).mpr laterPrefix
  | alt first second firstIh secondIh =>
      rcases List.mem_append.mp member with firstMem | secondMem
      · exact firstIh firstMem
      · exact secondIh secondMem

/-- Every way to match takes a character of a kind. -/
def Pattern.Takes (kind : Char → Prop) (pattern : Pattern) : Prop :=
  ∀ read ahead, ∀ found ∈ pattern.ways read ahead, ∃ char ∈ found.text, kind char

variable {kind : Char → Prop}

theorem Pattern.takes_char (isKind : ∀ char, accepts char = true → kind char) :
    (Pattern.char accepts).Takes kind := by
  intro read ahead found member
  obtain ⟨char, rest, _, accepted, rfl⟩ := mem_ways_char member
  exact ⟨char, List.mem_singleton_self char, isKind char accepted⟩

theorem Pattern.Takes.left (takes : first.Takes kind) :
    (Pattern.seq first second).Takes kind := by
  intro read ahead found member
  obtain ⟨former, formerMem, later, _, rfl⟩ := mem_ways_seq.mp member
  obtain ⟨char, charMem, isKind⟩ := takes read ahead former formerMem
  exact ⟨char, List.mem_append_left _ charMem, isKind⟩

theorem Pattern.Takes.right (takes : second.Takes kind) :
    (Pattern.seq first second).Takes kind := by
  intro read ahead found member
  obtain ⟨former, _, later, laterMem, rfl⟩ := mem_ways_seq.mp member
  obtain ⟨char, charMem, isKind⟩ := takes _ _ later laterMem
  exact ⟨char, List.mem_append_right _ charMem, isKind⟩

/-- A word takes its first letter. -/
theorem takes_wordIgnoringCase {word : String} {letter : Char} {rest : List Char}
    (isWord : word.toList = letter :: rest) (visible : isSpace letter = false) :
    (wordIgnoringCase word).Takes fun char => isSpace char = false := by
  rw [wordIgnoringCase, isWord]
  exact (Pattern.takes_char fun char accepted => isSpace_of_ignoringCase visible accepted).left

/-- What a search found is a way to match at a place of the text. -/
theorem findFrom_sound {result : Found} (isFound : findFrom pattern read ahead = some result) :
    ∃ skipped, ahead = skipped ++ result.found.text ++ result.ahead ∧
      ∃ rest, result.found ∈ pattern.ways result.read rest := by
  induction ahead generalizing read with
  | nil =>
      simp only [findFrom, Option.map_eq_some_iff] at isFound
      rcases isFound with ⟨found, isHead, rfl⟩
      have member := List.mem_of_head? isHead
      refine ⟨[], ?_, [], member⟩
      simp [List.prefix_nil.mp (ways_taken member)]
  | cons char rest ih =>
      rw [findFrom] at isFound
      split at isFound
      · next found isHead =>
          cases isFound
          have member := List.mem_of_head? isHead
          exact ⟨[], (List.prefix_iff_eq_append.mp (ways_taken member)).symm, _, member⟩
      · obtain ⟨skipped, rfl, isWay⟩ := ih isFound
        exact ⟨char :: skipped, rfl, isWay⟩

/-- The text that a search found stands in the text that was searched. -/
theorem findFrom_within {result : Found} (isFound : findFrom pattern read ahead = some result) :
    result.found.text <:+: ahead := by
  obtain ⟨skipped, split, _⟩ := findFrom_sound isFound
  exact ⟨skipped, result.ahead, split.symm⟩

theorem search_within (isFound : search pattern text = some found) :
    found.text <:+: text.toList := by
  obtain ⟨result, isResult, rfl⟩ := Option.map_eq_some_iff.mp isFound
  exact findFrom_within isResult

theorem search_takes (takes : pattern.Takes kind) (isFound : search pattern text = some found) :
    ∃ char ∈ found.text, kind char := by
  obtain ⟨result, isResult, rfl⟩ := Option.map_eq_some_iff.mp isFound
  obtain ⟨_, _, rest, isWay⟩ := findFrom_sound isResult
  exact takes _ _ _ isWay

theorem mem_findAllFrom {fuel : Nat} (member : found ∈ findAllFrom pattern fuel read ahead) :
    found.text <:+: ahead ∧ ∃ place rest, found ∈ pattern.ways place rest := by
  induction fuel generalizing read ahead with
  | zero => cases member
  | succ fuel ih =>
      rw [findAllFrom] at member
      split at member
      · cases member
      · next result isFound =>
          obtain ⟨skipped, split, rest, isWay⟩ := findFrom_sound isFound
          rcases List.mem_cons.mp member with rfl | later
          · exact ⟨findFrom_within isFound, _, rest, isWay⟩
          · obtain ⟨inside, isLaterWay⟩ := ih later
            refine ⟨inside.trans ?_, isLaterWay⟩
            exact ⟨skipped ++ result.found.text, [], by rw [split, List.append_nil]⟩

theorem findAll_within (member : found ∈ findAll pattern text) :
    found.text <:+: text.toList :=
  (mem_findAllFrom member).1

theorem findAll_takes (takes : pattern.Takes kind) (member : found ∈ findAll pattern text) :
    ∃ char ∈ found.text, kind char := by
  obtain ⟨_, place, rest, isWay⟩ := mem_findAllFrom member
  exact takes _ _ _ isWay

/-- A full match takes the whole text. -/
theorem fullMatch_text (isFound : fullMatch pattern text = some found) :
    found.text = text.toList := by
  have whole := List.find?_some isFound
  have isPrefix := ways_taken (List.mem_of_find?_eq_some isFound)
  apply isPrefix.eq_of_length
  rw [String.length_toList]
  simpa using whole

/-- A pattern can take this text at a place. -/
def Pattern.Reads (pattern : Pattern) (read ahead taken : List Char) : Prop :=
  ∃ found ∈ pattern.ways read ahead, found.text = taken

variable {taken : List Char}

theorem reads_empty : Pattern.empty.Reads read ahead taken ↔ taken = [] := by
  simp [Pattern.Reads, Pattern.ways, eq_comm]

theorem reads_char :
    (Pattern.char accepts).Reads read ahead taken ↔
      ∃ char, taken = [char] ∧ accepts char = true ∧ taken <+: ahead := by
  constructor
  · rintro ⟨found, member, rfl⟩
    obtain ⟨char, rest, rfl, accepted, rfl⟩ := mem_ways_char member
    exact ⟨char, rfl, accepted, rest, rfl⟩
  · rintro ⟨char, rfl, accepted, rest, rfl⟩
    exact ⟨{ text := [char] }, by simp [Pattern.ways, accepted], rfl⟩

/-- A repetition takes every beginning of its longest run that is long enough. -/
theorem reads_many_iff {least : Nat} {most : Option Nat} :
    (Pattern.many accepts least most).Reads read ahead taken ↔
      taken <+: longestRun accepts most ahead ∧ least ≤ taken.length := by
  constructor
  · rintro ⟨found, member, rfl⟩
    obtain ⟨enough, isPrefix, _⟩ := mem_ways_many member
    exact ⟨isPrefix, enough⟩
  · rintro ⟨isPrefix, enough⟩
    have atMost := isPrefix.length_le
    refine ⟨{ text := taken }, ?_, rfl⟩
    simp only [Pattern.ways, List.mem_map, List.mem_range]
    refine ⟨(longestRun accepts most ahead).length - taken.length, by omega, ?_⟩
    rw [Nat.sub_sub_self atMost, ← List.prefix_iff_eq_take.mp isPrefix]

/-- A bounded repetition takes every text of its class within its bounds. -/
theorem reads_many {least most : Nat} :
    (Pattern.many accepts least (some most)).Reads read ahead taken ↔
      taken <+: ahead ∧ (∀ char ∈ taken, accepts char = true) ∧
        least ≤ taken.length ∧ taken.length ≤ most := by
  rw [reads_many_iff]
  constructor
  · rintro ⟨isPrefix, enough⟩
    refine ⟨isPrefix.trans (longestRun_taken accepts (some most) ahead), ?_, enough,
      isPrefix.length_le.trans (length_longestRun accepts most ahead)⟩
    intro char inside
    exact mem_longestRun (isPrefix.subset inside)
  · rintro ⟨⟨rest, rfl⟩, all, enough, within⟩
    refine ⟨?_, enough⟩
    rw [longestRun, List.takeWhile_append_of_pos all]
    exact List.prefix_take_iff.mpr ⟨List.prefix_append _ _, within⟩

theorem reads_group :
    (Pattern.group pattern).Reads read ahead taken ↔ pattern.Reads read ahead taken := by
  simp [Pattern.Reads, Pattern.ways]

theorem reads_seq :
    (Pattern.seq first second).Reads read ahead taken ↔
      ∃ former later, taken = former ++ later ∧ first.Reads read ahead former ∧
        second.Reads (former.reverse ++ read) (ahead.drop former.length) later := by
  constructor
  · rintro ⟨found, member, rfl⟩
    obtain ⟨former, formerMem, later, laterMem, rfl⟩ := mem_ways_seq.mp member
    exact ⟨former.text, later.text, rfl, ⟨former, formerMem, rfl⟩, ⟨later, laterMem, rfl⟩⟩
  · rintro ⟨_, _, rfl, ⟨former, formerMem, rfl⟩, ⟨later, laterMem, rfl⟩⟩
    exact ⟨_, mem_ways_seq.mpr ⟨former, formerMem, later, laterMem, rfl⟩, rfl⟩

theorem reads_alt :
    (Pattern.alt first second).Reads read ahead taken ↔
      first.Reads read ahead taken ∨ second.Reads read ahead taken := by
  simp [Pattern.Reads, Pattern.ways, or_and_right, exists_or]

theorem reads_optional :
    (Pattern.optional pattern).Reads read ahead taken ↔
      pattern.Reads read ahead taken ∨ taken = [] := by
  rw [Pattern.optional, reads_alt, reads_empty]

/-- A text matches in full exactly when the pattern can take the whole of it. -/
theorem fullMatch_isSome_iff :
    (fullMatch pattern text).isSome = true ↔ pattern.Reads [] text.toList text.toList := by
  rw [fullMatch, List.find?_isSome]
  constructor
  · rintro ⟨found, member, whole⟩
    refine ⟨found, member, (ways_taken member).eq_of_length ?_⟩
    rw [String.length_toList]
    exact beq_iff_eq.mp whole
  · rintro ⟨found, member, whole⟩
    refine ⟨found, member, ?_⟩
    rw [whole, String.length_toList]
    exact beq_self_eq_true _

/-- A pattern that asks for no boundary.  What it takes depends on nothing behind it. -/
def Pattern.isPlain : Pattern → Bool
  | boundary => false
  | empty | char _ | many _ _ _ => true
  | group inner => inner.isPlain
  | seq first second => first.isPlain && second.isPlain
  | alt first second => first.isPlain && second.isPlain

/-- What a plain pattern can take, it can take of a longer text as well. -/
theorem Pattern.Reads.longer (plain : pattern.isPlain = true)
    (reads : pattern.Reads read ahead taken) (more : List Char) :
    pattern.Reads read (ahead ++ more) taken := by
  induction pattern generalizing read ahead taken with
  | empty => exact reads_empty.mpr (reads_empty.mp reads)
  | char accepts =>
      obtain ⟨char, isChar, accepted, isPrefix⟩ := reads_char.mp reads
      exact reads_char.mpr ⟨char, isChar, accepted, isPrefix.trans (List.prefix_append _ _)⟩
  | many accepts least most =>
      obtain ⟨isPrefix, enough⟩ := reads_many_iff.mp reads
      exact reads_many_iff.mpr ⟨isPrefix.trans (longestRun_append _ _ _ _), enough⟩
  | boundary => cases plain
  | group inner ih => exact reads_group.mpr (ih plain (reads_group.mp reads))
  | seq first second firstIh secondIh =>
      obtain ⟨firstPlain, secondPlain⟩ := Bool.and_eq_true_iff.mp plain
      obtain ⟨former, later, rfl, isFormer, isLater⟩ := reads_seq.mp reads
      have within : former.length ≤ ahead.length := by
        obtain ⟨found, member, rfl⟩ := isFormer
        exact (ways_taken member).length_le
      refine reads_seq.mpr ⟨former, later, rfl, firstIh firstPlain isFormer, ?_⟩
      rw [List.drop_append_of_le_length within]
      exact secondIh secondPlain isLater
  | alt first second firstIh secondIh =>
      obtain ⟨firstPlain, secondPlain⟩ := Bool.and_eq_true_iff.mp plain
      rcases reads_alt.mp reads with isFirst | isSecond
      · exact reads_alt.mpr (Or.inl (firstIh firstPlain isFirst))
      · exact reads_alt.mpr (Or.inr (secondIh secondPlain isSecond))

/-- A search finds something exactly where the pattern can take something at a place. -/
theorem findFrom_isSome_iff :
    (findFrom pattern read ahead).isSome = true ↔
      ∃ skipped rest taken, ahead = skipped ++ rest ∧
        pattern.Reads (skipped.reverse ++ read) rest taken := by
  have here : ∀ {place rest : List Char}, (∃ taken, pattern.Reads place rest taken) ↔
      (pattern.ways place rest).head?.isSome = true := by
    intro place rest
    cases isWays : pattern.ways place rest <;> simp [Pattern.Reads, isWays]
  induction ahead generalizing read with
  | nil =>
      rw [findFrom, Option.isSome_map, ← here]
      constructor
      · rintro ⟨taken, reads⟩
        exact ⟨[], [], taken, rfl, reads⟩
      · rintro ⟨skipped, rest, taken, isSplit, reads⟩
        obtain ⟨rfl, rfl⟩ := List.append_eq_nil_iff.mp isSplit.symm
        exact ⟨taken, reads⟩
  | cons char rest ih =>
      constructor
      · intro isFound
        rw [findFrom] at isFound
        split at isFound
        · rename_i found isHead
          obtain ⟨taken, reads⟩ := here.mpr (by rw [isHead]; rfl)
          exact ⟨[], char :: rest, taken, rfl, reads⟩
        · obtain ⟨skipped, behind, taken, rfl, reads⟩ := ih.mp isFound
          refine ⟨char :: skipped, behind, taken, rfl, ?_⟩
          rwa [List.reverse_cons, List.append_assoc]
      · rintro ⟨skipped, behind, taken, isSplit, reads⟩
        rw [findFrom]
        split
        · rfl
        · rename_i isHead
          cases skipped with
          | nil =>
              have stated := here.mp ⟨taken, reads⟩
              rw [List.nil_append] at isSplit
              rw [← isSplit, List.reverse_nil, List.nil_append, isHead] at stated
              cases stated
          | cons first skipped =>
              obtain ⟨rfl, rfl⟩ := List.cons.inj isSplit
              refine ih.mpr ⟨skipped, behind, taken, rfl, ?_⟩
              rwa [List.reverse_cons, List.append_assoc] at reads

/-- What is found in the beginning of a text is found in the text. -/
theorem search_isSome_of_take {text : String} {length : Nat} (plain : pattern.isPlain = true)
    (isFound : (search pattern (String.ofList (text.toList.take length))).isSome = true) :
    (search pattern text).isSome = true := by
  rw [search, Option.isSome_map, findFrom_isSome_iff] at isFound ⊢
  obtain ⟨skipped, rest, taken, isSplit, reads⟩ := isFound
  rw [String.toList_ofList] at isSplit
  refine ⟨skipped, rest ++ text.toList.drop length, taken, ?_, reads.longer plain _⟩
  rw [← List.append_assoc, ← isSplit, List.take_append_drop]

/-- The most characters that a pattern can take, when there is a most. -/
def Pattern.longest : Pattern → Option Nat
  | empty | boundary => some 0
  | char _ => some 1
  | many _ _ most => most
  | group inner => inner.longest
  | seq first second =>
      first.longest.bind fun former => second.longest.map fun later => former + later
  | alt first second =>
      first.longest.bind fun one => second.longest.map fun other => max one other

theorem length_le_of_longest {bound : Nat} (isLongest : pattern.longest = some bound)
    (member : found ∈ pattern.ways read ahead) : found.text.length ≤ bound := by
  induction pattern generalizing read ahead found bound with
  | empty =>
      rw [List.mem_singleton.mp member]
      exact Nat.zero_le _
  | char accepts =>
      cases isLongest
      obtain ⟨char, rest, _, _, rfl⟩ := mem_ways_char member
      exact le_refl 1
  | many accepts least most =>
      cases isLongest
      exact (mem_ways_many member).2.1.length_le.trans (length_longestRun accepts bound ahead)
  | boundary =>
      rw [Pattern.ways] at member
      split at member
      · rw [List.mem_singleton.mp member]
        exact Nat.zero_le _
      · cases member
  | group inner ih =>
      rcases List.mem_map.mp member with ⟨inside, insideMem, rfl⟩
      exact @ih _ _ inside _ isLongest insideMem
  | seq first second firstIh secondIh =>
      obtain ⟨former, isFormer, isRest⟩ := Option.bind_eq_some_iff.mp isLongest
      obtain ⟨later, isLater, rfl⟩ := Option.map_eq_some_iff.mp isRest
      obtain ⟨one, oneMem, other, otherMem, rfl⟩ := mem_ways_seq.mp member
      rw [List.length_append]
      exact Nat.add_le_add (firstIh isFormer oneMem) (secondIh isLater otherMem)
  | alt first second firstIh secondIh =>
      obtain ⟨one, isOne, isRest⟩ := Option.bind_eq_some_iff.mp isLongest
      obtain ⟨other, isOther, rfl⟩ := Option.map_eq_some_iff.mp isRest
      rcases List.mem_append.mp member with firstMem | secondMem
      · exact (firstIh isOne firstMem).trans (Nat.le_max_left _ _)
      · exact (secondIh isOther secondMem).trans (Nat.le_max_right _ _)

theorem search_length_le {bound : Nat} (isLongest : pattern.longest = some bound)
    (isFound : search pattern text = some found) : found.text.length ≤ bound := by
  obtain ⟨result, isResult, rfl⟩ := Option.map_eq_some_iff.mp isFound
  obtain ⟨_, _, rest, isWay⟩ := findFrom_sound isResult
  exact length_le_of_longest isLongest isWay

theorem head?_ways_seq {former later : Match}
    (isFormer : (first.ways read ahead).head? = some former)
    (isLater : (second.ways (former.text.reverse ++ read)
      (ahead.drop former.text.length)).head? = some later) :
    ((Pattern.seq first second).ways read ahead).head? =
      some { text := former.text ++ later.text, groups := former.groups ++ later.groups } := by
  obtain ⟨others, isFirst⟩ := List.head?_eq_some_iff.mp isFormer
  rw [Pattern.ways, isFirst, List.flatMap_cons, List.head?_append, List.head?_map, isLater]
  rfl

theorem head?_ways_alt (isFound : (first.ways read ahead).head? = some found) :
    ((Pattern.alt first second).ways read ahead).head? = some found := by
  rw [Pattern.ways, List.head?_append, isFound]
  rfl

theorem head?_ways_group (isFound : (pattern.ways read ahead).head? = some found) :
    ((Pattern.group pattern).ways read ahead).head? =
      some { found with groups := found.text :: found.groups } := by
  rw [Pattern.ways, List.head?_map, isFound]
  rfl

/-- A repetition takes all that it can. -/
theorem head?_ways_many {accepts : Char → Bool} {least : Nat} {most : Option Nat}
    (enough : least ≤ (longestRun accepts most ahead).length) :
    ((Pattern.many accepts least most).ways read ahead).head? =
      some { text := longestRun accepts most ahead } := by
  have count : (longestRun accepts most ahead).length + 1 - least =
      (longestRun accepts most ahead).length - least + 1 := by omega
  rw [Pattern.ways, count, List.range_succ_eq_map, List.map_cons, List.head?_cons, Nat.sub_zero,
    List.take_length]

theorem search_eq_of_head? (isFound : (pattern.ways [] text.toList).head? = some found) :
    search pattern text = some found := by
  unfold search
  cases isText : text.toList with
  | nil =>
      rw [isText] at isFound
      rw [findFrom, isFound]
      rfl
  | cons char rest =>
      rw [isText] at isFound
      rw [findFrom, isFound]
      rfl

end Took

end AgentRank.Text
