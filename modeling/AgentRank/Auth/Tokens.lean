import AgentRank.Store.Hexadecimal

/-!
# Tokens and verifiers

This module models `auth/tokens.py` and the grammar of `auth/console.py`: how a merchant API
key is written and parsed, what a console session verifier looks like, and how secret material
is hashed.

Two texts that differ in their environment marker, or in a line feed at the end, are parsed
alike: the marker is never read, and the end of the pattern also matches before a final line
feed.
-/

namespace AgentRank.Auth

open Store

/-- Sixty four hexadecimal digits: a secret, or a digest. -/
structure Hex64 where
  chars : List Char
  isHex : chars.all isHexDigit = true
  length : chars.length = 64
deriving DecidableEq

@[ext]
theorem Hex64.ext {first second : Hex64} (same : first.chars = second.chars) :
    first = second := by
  cases first
  cases second
  cases same
  rfl

inductive TokenMarker
  | live
  | development
deriving DecidableEq

def TokenMarker.value : TokenMarker → List Char
  | live => "live".toList
  | development => "dev".toList

structure ParsedToken where
  credentialId : Uuid
  secret : Hex64
deriving DecidableEq

def tokenChars (credentialId : Uuid) (secret : Hex64) (marker : TokenMarker) : List Char :=
  "ar_".toList ++ (marker.value ++ ('_' :: (hexOf credentialId ++ ('_' :: secret.chars))))

/-- `format_token`. -/
def formatToken (credentialId : Uuid) (secret : Hex64) (marker : TokenMarker) : String :=
  String.ofList (tokenChars credentialId secret marker)

/-- The hexadecimal digits that a text begins with, exactly so many, and the rest. -/
def takeHex (count : Nat) (chars : List Char) : Option (List Char × List Char) :=
  if (chars.take count).length = count ∧ (chars.take count).all isHexDigit = true then
    some (chars.take count, chars.drop count)
  else none

/-- What `$` matches before: the end, or a line feed that ends the text. -/
def atEnd (chars : List Char) : Bool :=
  chars == [] || chars == ['\n']

/-- Sixty four digits that end a text. -/
def takeSecret (chars : List Char) : Option Hex64 :=
  match hex : takeHex 64 chars with
  | none => none
  | some (digits, ending) =>
      if atEnd ending then
        some
          { chars := digits
            isHex := by
              simp only [takeHex] at hex
              split at hex
              · next whole => cases hex; exact whole.2
              · cases hex
            length := by
              simp only [takeHex] at hex
              split at hex
              · next whole => cases hex; exact whole.1
              · cases hex }
      else none

/-- `parse_token`. -/
def parseToken (raw : String) : Option ParsedToken := do
  let marked ← raw.toList.dropPrefix? "ar_".toList
  let separated ←
    (marked.dropPrefix? TokenMarker.live.value).or
      (marked.dropPrefix? TokenMarker.development.value)
  let identified ← separated.dropPrefix? ['_']
  let (identifier, rest) ← takeHex 32 identified
  let secretPart ← rest.dropPrefix? ['_']
  let secret ← takeSecret secretPart
  pure { credentialId := ofHex identifier, secret := secret }

def verifierChars (digits : Hex64) : List Char :=
  "ars_".toList ++ digits.chars

/-- The verifier of a session, as a console presents it. -/
def verifierText (digits : Hex64) : String :=
  String.ofList (verifierChars digits)

/-- `is_console_session_verifier`. -/
def isConsoleSessionVerifier (presented : String) : Bool :=
  ((presented.toList.dropPrefix? "ars_".toList).bind takeSecret).isSome

/-- `hashlib.sha256(...).hexdigest()`. -/
class Sha256 where
  hexdigest : String → Hex64

/-- `hash_secret`. -/
def hashSecret [Sha256] (secret : String) : String :=
  "sha256:" ++ String.ofList (Sha256.hexdigest secret).chars

/-- `verify_secret`. -/
def verifySecret [Sha256] (secret stored : String) : Bool :=
  let algorithm := stored.toList.takeWhile (· ≠ ':')
  match stored.toList.dropWhile (· ≠ ':') with
  | ':' :: digest => algorithm == "sha256".toList && (Sha256.hexdigest secret).chars == digest
  | _ => false

/-! ## What is parsed -/

section Parsing

variable {chars digits rest ending : List Char} {presented : String}

theorem dropPrefix?_eq_some {lead : List Char} :
    chars.dropPrefix? lead = some rest ↔ chars = lead ++ rest := by
  simp only [List.dropPrefix?_eq_some_iff, beq_iff_eq]
  exact ⟨fun ⟨_, whole, same⟩ => same ▸ whole, fun whole => ⟨lead, whole, rfl⟩⟩

theorem takeHex_eq_some {count : Nat} (taken : takeHex count chars = some (digits, rest)) :
    chars = digits ++ rest ∧ digits.length = count ∧ ∀ char ∈ digits, isHexDigit char = true := by
  simp only [takeHex] at taken
  split at taken
  · next whole =>
      cases taken
      exact ⟨(List.take_append_drop count chars).symm, whole.1, List.all_eq_true.mp whole.2⟩
  · cases taken

theorem takeHex_append {count : Nat} (length : digits.length = count)
    (isHex : digits.all isHexDigit = true) :
    takeHex count (digits ++ rest) = some (digits, rest) := by
  have taken : (digits ++ rest).take count = digits := by
    rw [← length, List.take_left]
  have dropped : (digits ++ rest).drop count = rest := by
    rw [← length, List.drop_left]
  rw [takeHex, taken, dropped, if_pos ⟨length, isHex⟩]

theorem takeSecret_eq_some {secret : Hex64} (taken : takeSecret chars = some secret) :
    ∃ ending, chars = secret.chars ++ ending ∧ atEnd ending = true := by
  unfold takeSecret at taken
  split at taken
  · cases taken
  · next digits ending hex =>
      split at taken
      · next isEnd =>
          cases taken
          exact ⟨ending, (takeHex_eq_some hex).1, isEnd⟩
      · cases taken

theorem takeSecret_chars (secret : Hex64) (isEnd : atEnd ending = true) :
    takeSecret (secret.chars ++ ending) = some secret := by
  have hex := @takeHex_append secret.chars ending 64 secret.length secret.isHex
  unfold takeSecret
  split
  · next none => rw [hex] at none; cases none
  · next digits rest some =>
      rw [hex] at some
      cases some
      rw [if_pos isEnd]

/-- A text that is parsed is a token with one of the two markers, up to a final line feed. -/
theorem parseToken_eq_some {parsed : ParsedToken} (isParsed : parseToken presented = some parsed) :
    ∃ marker ending, atEnd ending = true ∧
      presented.toList = tokenChars parsed.credentialId parsed.secret marker ++ ending := by
  simp only [parseToken, Option.bind_eq_bind, Option.bind_eq_some_iff, Option.or_eq_some_iff,
    Option.pure_def, Option.some.injEq, Prod.exists] at isParsed
  rcases isParsed with ⟨marked, isMarked, separated, isSeparated, identified, isIdentified,
    identifier, rest, isTaken, secretPart, isSecretPart, secret, isSecret, rfl⟩
  rcases takeHex_eq_some isTaken with ⟨identifiedEq, length, isHex⟩
  rcases takeSecret_eq_some isSecret with ⟨ending, secretEq, isEnd⟩
  have isMarker : ∃ marker : TokenMarker, marked = marker.value ++ separated := by
    rcases isSeparated with isLive | ⟨_, isDevelopment⟩
    · exact ⟨.live, dropPrefix?_eq_some.mp isLive⟩
    · exact ⟨.development, dropPrefix?_eq_some.mp isDevelopment⟩
  rcases isMarker with ⟨marker, markedEq⟩
  refine ⟨marker, ending, isEnd, ?_⟩
  rw [dropPrefix?_eq_some.mp isMarked, markedEq, dropPrefix?_eq_some.mp isIdentified,
    identifiedEq, dropPrefix?_eq_some.mp isSecretPart, secretEq, tokenChars,
    hexOf_ofHex isHex length]
  simp only [List.append_assoc, List.cons_append, List.nil_append]

/-- A token is parsed into its two halves, whatever its marker. -/
theorem parseToken_formatToken (credentialId : Uuid) (secret : Hex64) (marker : TokenMarker) :
    parseToken (formatToken credentialId secret marker) =
      some { credentialId := credentialId, secret := secret } := by
  have separated : ((marker.value ++ '_' :: (hexOf credentialId ++ '_' :: secret.chars)).dropPrefix?
        TokenMarker.live.value).or
      ((marker.value ++ '_' :: (hexOf credentialId ++ '_' :: secret.chars)).dropPrefix?
        TokenMarker.development.value) =
        some ('_' :: (hexOf credentialId ++ '_' :: secret.chars)) := by
    cases marker
    · rw [dropPrefix?_eq_some.mpr rfl]
      rfl
    · rw [@dropPrefix?_eq_some _ ('_' :: (hexOf credentialId ++ '_' :: secret.chars))
        TokenMarker.development.value |>.mpr rfl]
      rfl
  have identified : takeHex 32 (hexOf credentialId ++ '_' :: secret.chars) =
      some (hexOf credentialId, '_' :: secret.chars) :=
    takeHex_append (Uuid.length_hexGroup credentialId 31 32)
      (List.all_eq_true.mpr (hexOf_isHex credentialId))
  have taken : takeSecret secret.chars = some secret := by
    have ended := @takeSecret_chars [] secret rfl
    rwa [List.append_nil] at ended
  have scheme : ∀ rest, ("ar_".toList ++ rest).dropPrefix? "ar_".toList = some rest :=
    fun rest => dropPrefix?_eq_some.mpr rfl
  have separator : ∀ rest, ('_' :: rest).dropPrefix? ['_'] = some rest :=
    fun rest => dropPrefix?_eq_some.mpr rfl
  rw [parseToken, formatToken, String.toList_ofList, tokenChars]
  simp only [scheme, separated, separator, identified, taken, ofHex_hexOf, Option.bind_eq_bind,
    Option.bind_some, Option.pure_def]

/-- A text without a line feed at its end that is parsed is a token. -/
theorem formatToken_of_parseToken {parsed : ParsedToken}
    (isParsed : parseToken presented = some parsed)
    (noLineFeed : presented.toList.getLast? ≠ some '\n') :
    ∃ marker, presented = formatToken parsed.credentialId parsed.secret marker := by
  rcases parseToken_eq_some isParsed with ⟨marker, ending, isEnd, whole⟩
  refine ⟨marker, ?_⟩
  simp only [atEnd, Bool.or_eq_true, beq_iff_eq] at isEnd
  rcases isEnd with rfl | rfl
  · rw [formatToken, ← List.append_nil (tokenChars _ _ _), ← whole, String.ofList_toList]
  · rw [whole, List.getLast?_append] at noLineFeed
    exact absurd rfl noLineFeed

/-- No text is both a verifier and a token. -/
theorem not_verifier_of_parseToken {parsed : ParsedToken}
    (isParsed : parseToken presented = some parsed) :
    isConsoleSessionVerifier presented = false := by
  rcases parseToken_eq_some isParsed with ⟨marker, ending, _, whole⟩
  rw [isConsoleSessionVerifier, whole]
  rfl

end Parsing

section Hashing

variable [Sha256] {secret other : String}

theorem toList_hashSecret : (hashSecret secret).toList =
    "sha256:".toList ++ (Sha256.hexdigest secret).chars := by
  simp only [hashSecret, String.toList_append, String.toList_ofList]

/-- Secrets with one hash have one digest. -/
theorem hexdigest_of_hashSecret (same : hashSecret secret = hashSecret other) :
    Sha256.hexdigest secret = Sha256.hexdigest other := by
  have sameChars := congrArg String.toList same
  rw [toList_hashSecret, toList_hashSecret] at sameChars
  exact Hex64.ext (List.append_cancel_left sameChars)

/-- What is verified against a hash has the digest that is in it. -/
theorem verifySecret_hashSecret :
    verifySecret secret (hashSecret other) =
      decide (Sha256.hexdigest secret = Sha256.hexdigest other) := by
  have split : (hashSecret other).toList.takeWhile (· ≠ ':') = "sha256".toList ∧
      (hashSecret other).toList.dropWhile (· ≠ ':') =
        ':' :: (Sha256.hexdigest other).chars := by
    rw [toList_hashSecret]
    exact ⟨rfl, rfl⟩
  rw [verifySecret, split.1, split.2]
  simp [Hex64.ext_iff, Bool.beq_eq_decide_eq]

end Hashing

end AgentRank.Auth
