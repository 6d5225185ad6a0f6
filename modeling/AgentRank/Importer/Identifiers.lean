import AgentRank.Auth.Tokens
import AgentRank.Text.Pattern
import AgentRank.Text.Runs

/-!
# Imported identities

This module models how a merchant's string becomes an external identifier or a SKU.  A string
that is an identifier is used as it is; any other becomes a bounded slug and a digest of the
whole of it.  What was assigned is recorded, so that a string never takes the identifier of
another one.
-/

namespace AgentRank.Importer

open Text Auth Store

def maxIdentifierLength : Nat := 64

/-- `[A-Za-z0-9]`. -/
def isLeading (char : Char) : Bool :=
  char.isAlphanum

/-- `[A-Za-z0-9_-]`. -/
def isAllowed (char : Char) : Bool :=
  char.isAlphanum || char == '_' || char == '-'

/-- `IDENTIFIER_PATTERN`. -/
def identifierPattern : Pattern :=
  .seq (.char isLeading) (.many isAllowed 0 (some 63))

/-- What the pattern takes: a letter or a digit, and at most 63 further characters. -/
structure IsIdentifier (text : List Char) : Prop where
  leading : ∃ char rest, text = char :: rest ∧ isLeading char = true
  allowed : ∀ char ∈ text, isAllowed char = true
  bounded : text.length ≤ maxIdentifierLength

theorem isAllowed_of_isHexDigit {char : Char} (isHex : isHexDigit char = true) :
    isAllowed char = true := by
  have all : ("0123456789abcdef".toList.all isAllowed) = true := by decide
  exact List.all_eq_true.mp all char (mem_hexDigits isHex)

theorem isAllowed_of_isLeading {char : Char} (leads : isLeading char = true) :
    isAllowed char = true := by
  simp only [isLeading] at leads
  simp [isAllowed, leads]

section Digest

variable [Sha256]

/-- `_digest`. -/
def digest (raw : String) : List Char :=
  (Sha256.hexdigest raw).chars.take 12

theorem length_digest (raw : String) : (digest raw).length = 12 := by
  rw [digest, List.length_take, (Sha256.hexdigest raw).length]
  rfl

theorem isAllowed_digest {raw : String} {char : Char} (member : char ∈ digest raw) :
    isAllowed char = true :=
  isAllowed_of_isHexDigit
    (List.all_eq_true.mp (Sha256.hexdigest raw).isHex char (List.mem_of_mem_take member))

end Digest

variable [CharacterTables]

theorem fullMatch_identifier_iff {text : String} :
    (fullMatch identifierPattern text).isSome = true ↔ IsIdentifier text.toList := by
  rw [fullMatch_isSome_iff, identifierPattern, reads_seq]
  simp only [reads_char, reads_many]
  constructor
  · rintro ⟨_, rest, whole, ⟨char, rfl, leads, _⟩, _, allowed, _, within⟩
    rw [whole]
    refine ⟨⟨char, rest, rfl, leads⟩, ?_, ?_⟩
    · intro other member
      rcases List.mem_cons.mp member with rfl | inRest
      · exact isAllowed_of_isLeading leads
      · exact allowed other inRest
    · simp only [List.singleton_append, List.length_cons, maxIdentifierLength]
      omega
  · rintro ⟨⟨char, rest, whole, leads⟩, allowed, bounded⟩
    rw [whole] at allowed bounded ⊢
    refine ⟨[char], rest, rfl, ⟨char, rfl, leads, rest, rfl⟩, ?_, ?_, Nat.zero_le _, ?_⟩
    · exact List.prefix_refl rest
    · exact fun other member => allowed other (List.mem_cons_of_mem _ member)
    · simp only [List.length_cons, maxIdentifierLength] at bounded
      omega

/-- `_slug`. -/
def slug (raw : String) : String :=
  let replaced := replaceRuns (fun char => !isAllowed char) 1 ['-'] (strip raw).toList
  let trimmed :=
    stripOf (fun char => char == '-' || char == '_')
      (replaced.dropWhile fun char => !isLeading char)
  let collapsed :=
    String.ofList (stripOf (fun char => char == '-' || char == '_')
      ((replaceRuns (· == '-') 2 ['-'] trimmed).take maxIdentifierLength))
  if (fullMatch identifierPattern collapsed).isSome then collapsed else ""

/-- A slug is an identifier, or there is none. -/
theorem slug_spec (raw : String) : slug raw = "" ∨ IsIdentifier (slug raw).toList := by
  dsimp only [slug]
  split
  · next isMatch => exact .inr (fullMatch_identifier_iff.mp isMatch)
  · exact .inl rfl

variable [Sha256]

/-- `_derived`. -/
def derived (raw : String) : String :=
  let suffix := '-' :: digest raw
  let base := (slug raw).toList.take (maxIdentifierLength - suffix.length)
  String.ofList ((if base = [] then "item".toList else base) ++ suffix)

/-- The identifier that a string is given: a function of the string alone. -/
def identifierFor (raw : String) : String :=
  if (fullMatch identifierPattern raw).isSome then raw else derived raw

/-- The beginning of a derived identifier: a part of the slug, or a word for want of one. -/
theorem derived_base (raw : String) :
    ∃ base : List Char, (derived raw).toList = base ++ '-' :: digest raw ∧ base.length ≤ 51 ∧
      (∃ char rest, base = char :: rest ∧ isLeading char = true) ∧
        ∀ char ∈ base, isAllowed char = true := by
  dsimp only [derived]
  rw [String.toList_ofList, List.length_cons, length_digest]
  refine ⟨_, rfl, ?_⟩
  split
  · exact ⟨by decide, ⟨'i', "tem".toList, rfl, rfl⟩, by
      have all : ("item".toList.all isAllowed) = true := by decide
      exact fun char member => List.all_eq_true.mp all char member⟩
  · next notEmpty =>
      rcases slug_spec raw with isEmpty | ⟨⟨char, rest, whole, leads⟩, allowed, _⟩
      · rw [isEmpty] at notEmpty
        exact absurd rfl notEmpty
      · refine ⟨List.length_take_le _ _, ?_, ?_⟩
        · rw [whole]
          exact ⟨char, _, rfl, leads⟩
        · exact fun other member => allowed other (List.mem_of_mem_take member)

/-- Whatever a merchant publishes, the identifier given for it is one. -/
theorem identifierFor_isIdentifier (raw : String) : IsIdentifier (identifierFor raw).toList := by
  unfold identifierFor
  split
  · next isMatch => exact fullMatch_identifier_iff.mp isMatch
  · obtain ⟨base, whole, short, ⟨char, rest, begins, leads⟩, allowed⟩ := derived_base raw
    rw [whole]
    refine ⟨⟨char, rest ++ '-' :: digest raw, ?_, leads⟩, ?_, ?_⟩
    · rw [begins, List.cons_append]
    · intro other member
      rcases List.mem_append.mp member with inBase | inSuffix
      · exact allowed other inBase
      · rcases List.mem_cons.mp inSuffix with rfl | inDigest
        · rfl
        · exact isAllowed_digest inDigest
    · simp only [List.length_append, List.length_cons, length_digest, maxIdentifierLength]
      omega

/-- The identifiers of one namespace, and the strings that they were given for. -/
abbrev Taken :=
  List (String × String)

/-- Two different merchant strings that would become one identifier. -/
structure IdentityCollisionError where
  candidate : String
deriving DecidableEq

/-- `_assign`. -/
def assign (taken : Taken) (raw : String) : Except IdentityCollisionError String × Taken :=
  let candidate := identifierFor raw
  match taken.lookup candidate with
  | some settled =>
      if settled = raw then (.ok candidate, taken) else (.error ⟨candidate⟩, taken)
  | none => (.ok candidate, (candidate, raw) :: taken)

/-- One string after the other, each asked for its identifier. -/
def assignEach (taken : Taken) : List String → List (Except IdentityCollisionError String) × Taken
  | [] => ([], taken)
  | raw :: rest =>
      let (answer, now) := assign taken raw
      let (answers, final) := assignEach now rest
      (answer :: answers, final)

/-- The string that an identifier belongs to: the first that would be given it. -/
def ownerOf (raws : List String) (candidate : String) : Option String :=
  raws.find? fun raw => identifierFor raw = candidate

/-- What a string is answered: its identifier, unless that belongs to another string. -/
def answerFor (owner : Option String) (raw : String) : Except IdentityCollisionError String :=
  if owner = some raw then .ok (identifierFor raw) else .error ⟨identifierFor raw⟩

theorem assign_answer (taken : Taken) (raw : String) :
    (assign taken raw).1 =
      answerFor ((taken.lookup (identifierFor raw)).or (some raw)) raw := by
  dsimp only [assign]
  cases held : taken.lookup (identifierFor raw) with
  | none => simp [answerFor]
  | some settled => by_cases same : settled = raw <;> simp [answerFor, same]

/-- A string that finds its identifier free takes it, and nothing else changes. -/
theorem lookup_assign (taken : Taken) (raw candidate : String) :
    (assign taken raw).2.lookup candidate =
      (taken.lookup candidate).or (if identifierFor raw = candidate then some raw else none) := by
  dsimp only [assign]
  cases held : taken.lookup (identifierFor raw) with
  | none =>
      by_cases isCandidate : identifierFor raw = candidate
      · rw [← isCandidate, held]
        simp
      · rw [List.lookup_cons, beq_false_of_ne (Ne.symm isCandidate), if_neg isCandidate]
        simp
  | some settled =>
      have kept : (if settled = raw then
          ((.ok (identifierFor raw), taken) : Except IdentityCollisionError String × Taken)
        else (.error ⟨identifierFor raw⟩, taken)).2 = taken := by
        split <;> rfl
      rw [kept]
      by_cases isCandidate : identifierFor raw = candidate
      · rw [← isCandidate, held]
        rfl
      · rw [if_neg isCandidate, Option.or_none]

/-- Whoever comes first keeps an identifier, and every string is answered by its owner. -/
theorem assignEach_spec (taken : Taken) (raws : List String) :
    (assignEach taken raws).1 =
        raws.map (fun raw =>
          answerFor ((taken.lookup (identifierFor raw)).or
            (ownerOf raws (identifierFor raw))) raw) ∧
      ∀ candidate, (assignEach taken raws).2.lookup candidate =
        (taken.lookup candidate).or (ownerOf raws candidate) := by
  induction raws generalizing taken with
  | nil => simp [assignEach, ownerOf]
  | cons raw rest ih =>
      obtain ⟨answers, lookups⟩ := ih (assign taken raw).2
      have owners : ∀ candidate, ownerOf (raw :: rest) candidate =
          (if identifierFor raw = candidate then some raw else none).or
            (ownerOf rest candidate) := by
        intro candidate
        by_cases isCandidate : identifierFor raw = candidate <;>
          simp [ownerOf, isCandidate]
      dsimp only [assignEach]
      constructor
      · rw [assign_answer, answers, List.map_cons]
        congr 1
        · rw [owners, if_pos rfl]
          simp
        · apply List.map_congr_left
          intro other _
          rw [lookup_assign, owners, Option.or_assoc]
      · intro candidate
        rw [lookups, lookup_assign, owners, Option.or_assoc]

end AgentRank.Importer
