import AgentRank.Auth.Access

/-!
# What the two grammars accept

A text that ends in no line feed is parsed exactly where it is the token of what is parsed, with
either marker, and passes as a verifier exactly where it is the text of one.  No text is both.
-/

namespace AgentRank.Auth

open Relational Store

/-- A text that does not end in a line feed. -/
structure PlainText where
  text : String
  plain : text.toList.getLast? ≠ some '\n'

section Grammars

variable {presented : PlainText}

/-- A plain text is parsed as a token exactly where it is one, with one of the two markers. -/
theorem parseToken_eq_some_iff {parsed : ParsedToken} :
    parseToken presented.text = some parsed ↔
      ∃ marker, presented.text = formatToken parsed.credentialId parsed.secret marker := by
  constructor
  · intro isParsed
    exact formatToken_of_parseToken isParsed presented.plain
  · rintro ⟨marker, isToken⟩
    rw [isToken, parseToken_formatToken]

theorem atEnd_of_plain {chars ending : List Char}
    (plain : (chars ++ ending).getLast? ≠ some '\n') (isEnd : atEnd ending = true) :
    ending = [] := by
  simp only [atEnd, Bool.or_eq_true, beq_iff_eq] at isEnd
  rcases isEnd with rfl | rfl
  · rfl
  · rw [List.getLast?_append] at plain
    exact absurd rfl plain

/-- A plain text passes as a verifier exactly where it is the scheme and sixty four digits. -/
theorem isConsoleSessionVerifier_iff :
    isConsoleSessionVerifier presented.text = true ↔
      ∃ digits : Hex64, presented.text = verifierText digits := by
  rw [isConsoleSessionVerifier, Option.isSome_iff_exists]
  constructor
  · rintro ⟨digits, isTaken⟩
    obtain ⟨rest, isPrefixed, taken⟩ := Option.bind_eq_some_iff.mp isTaken
    obtain ⟨ending, restEq, isEnd⟩ := takeSecret_eq_some taken
    have whole := dropPrefix?_eq_some.mp isPrefixed
    have plain := presented.plain
    rw [whole, restEq, ← List.append_assoc] at plain
    rw [atEnd_of_plain plain isEnd, List.append_nil] at restEq
    refine ⟨digits, ?_⟩
    rw [verifierText, verifierChars, ← restEq, ← whole, String.ofList_toList]
  · rintro ⟨digits, isVerifier⟩
    have taken := takeSecret_chars digits (rfl : atEnd [] = true)
    rw [List.append_nil] at taken
    refine ⟨digits, ?_⟩
    rw [isVerifier, verifierText, String.toList_ofList, verifierChars,
      dropPrefix?_eq_some.mpr rfl]
    exact taken

end Grammars

section Authentication

variable [Sha256] {store : AccessStore}

/-- A plain text authenticates as an active credential exactly where it is a token of that
credential, with either marker, whose secret has the stored hash. -/
theorem authenticateKey_eq_some_iff {presented : PlainText} {principal : AuthenticatedMerchant} :
    authenticateKey store presented.text = some principal ↔
      ∃ credential ∈ store.credentials, credential.revokedAt = none ∧
        principal = credential.principal ∧
        ∃ secret marker, presented.text = formatToken credential.id secret marker ∧
          verifySecret (secretText secret) credential.secretHash = true := by
  rw [authenticateKey]
  constructor
  · intro authenticated
    split at authenticated
    · cases authenticated
    · rename_i parsed isParsed
      obtain ⟨marker, isToken⟩ := parseToken_eq_some_iff.mp isParsed
      split at authenticated
      · cases authenticated
      · rename_i credential isActive
        obtain ⟨member, sameId, active⟩ := getActive_eq_some_iff.mp isActive
        split at authenticated
        · rename_i verified
          cases authenticated
          rw [← sameId] at isToken
          exact ⟨credential, member, active, rfl, parsed.secret, marker, isToken, verified⟩
        · cases authenticated
  · rintro ⟨credential, member, active, rfl, secret, marker, isToken, verified⟩
    have isActive : getActive store credential.id = some credential :=
      getActive_eq_some_iff.mpr ⟨member, rfl, active⟩
    rw [isToken, parseToken_formatToken]
    dsimp only
    rw [isActive]
    exact if_pos verified

/-- Up to a final line feed the grammars are exact, no text has both, and what authenticates as a
credential is a token of it, of whichever marker, with a secret of the stored hash. -/
theorem grammars_exact :
    (∀ (presented : PlainText) parsed, parseToken presented.text = some parsed ↔
      ∃ marker, presented.text = formatToken parsed.credentialId parsed.secret marker) ∧
    (∀ presented : PlainText, isConsoleSessionVerifier presented.text = true ↔
      ∃ digits : Hex64, presented.text = verifierText digits) ∧
    (∀ presented, ¬((parseToken presented).isSome = true ∧
      isConsoleSessionVerifier presented = true)) ∧
    ∀ (store : AccessStore) (presented : PlainText) principal,
      authenticateKey store presented.text = some principal ↔
        ∃ credential ∈ store.credentials, credential.revokedAt = none ∧
          principal = credential.principal ∧
          ∃ secret marker, presented.text = formatToken credential.id secret marker ∧
            verifySecret (secretText secret) credential.secretHash = true := by
  refine ⟨fun _ _ => parseToken_eq_some_iff, fun _ => isConsoleSessionVerifier_iff, ?_,
    fun _ _ _ => authenticateKey_eq_some_iff⟩
  rintro presented ⟨isSome, isVerifier⟩
  obtain ⟨parsed, isParsed⟩ := Option.isSome_iff_exists.mp isSome
  rw [not_verifier_of_parseToken isParsed] at isVerifier
  cases isVerifier

end Authentication

def plainSecret : Hex64 where
  chars := List.replicate 64 '0'
  isHex := by decide
  length := by decide

@[reducible]
def plainDigest : Sha256 where
  hexdigest _ := plainSecret

def developmentKey : MerchantApiCredential where
  id := 7
  merchantId := 1
  benchmarkRunId := none
  secretHash := let _ := plainDigest; hashSecret (secretText plainSecret)
  label := "laptop"
  revokedAt := none

def developmentStore : AccessStore where
  now := 0
  merchants := [1]
  runs := []
  credentials := { rows := [developmentKey], keysNodup := by simp }
  sessions := { rows := [], keysNodup := by simp }

/-- A token is parsed with a line feed behind it, where it is no token, and the token of another
marker authenticates as the credential. -/
theorem grammars_inexact :
    let _ := plainDigest
    (parseToken (formatToken 7 plainSecret .development ++ "\n") =
        some { credentialId := 7, secret := plainSecret } ∧
      ∀ marker, formatToken 7 plainSecret .development ++ "\n" ≠ formatToken 7 plainSecret marker) ∧
    authenticateKey developmentStore (formatToken 7 plainSecret .live) =
        some developmentKey.principal ∧
      formatToken 7 plainSecret .live ≠ formatToken 7 plainSecret .development := by
  refine ⟨⟨?_, ?_⟩, ?_, ?_⟩
  · decide +kernel
  · intro marker same
    cases marker <;> exact absurd (congrArg String.toList same) (by decide +kernel)
  · decide +kernel
  · intro same
    exact absurd (congrArg String.toList same) (by decide +kernel)

end AgentRank.Auth
