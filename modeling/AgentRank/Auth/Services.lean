import AgentRank.Auth.Tokens
import AgentRank.Payments.Recovery
import AgentRank.Relational.Unique

/-!
# Credentials and console sessions

This module models `auth/service.py`, `auth/repository.py` and `auth/console.py`, under the
constraints and triggers of the migrations that add the two tables, and the dependencies of
`dependencies.py` that turn a presented string into a merchant.

Neither the trail of audit events nor the display of a session is modelled: nothing here reads
them.
-/

namespace AgentRank.Auth

open Constraints Payments Relational Store Text

structure MerchantApiCredential where
  id : Uuid
  merchantId : Uuid
  benchmarkRunId : Option Uuid
  secretHash : String
  label : String
  revokedAt : Option Instant
deriving DecidableEq

structure MerchantConsoleSession where
  id : Uuid
  merchantId : Uuid
  credentialId : Uuid
  verifierHash : String
  expiresAt : Instant
  revokedAt : Option Instant
deriving DecidableEq

instance : Keyed MerchantApiCredential Uuid where
  key credential := credential.id

instance : Keyed MerchantConsoleSession Uuid where
  key session := session.id

/-- Who a request has proved itself to be. -/
structure AuthenticatedMerchant where
  merchantId : Uuid
  credentialId : Uuid
  benchmarkCapability : Option BenchmarkRunCapability
deriving DecidableEq

/-- A credential that was handed out, with the secret that only its holder has. -/
structure CredentialIssue where
  credentialId : Uuid
  merchantId : Uuid
  benchmarkRunId : Option Uuid
  secret : Hex64
  marker : TokenMarker
deriving DecidableEq

/-- A session that was opened, with the verifier that only its console has. -/
structure SessionOpening where
  sessionId : Uuid
  merchantId : Uuid
  credentialId : Uuid
  verifier : String
  expiresAt : Instant
deriving DecidableEq

/-- The database with its clock, and what has been handed out and withdrawn so far. -/
structure AccessStore where
  now : Instant
  merchants : List Uuid
  runs : List BenchmarkRun
  credentials : Table MerchantApiCredential
  sessions : Table MerchantConsoleSession
  issued : List CredentialIssue := []
  withdrawn : List Uuid := []
  opened : List SessionOpening := []
  closed : List Uuid := []
  purged : List Uuid := []

/-- The token that is handed out. -/
def CredentialIssue.token (issue : CredentialIssue) : String :=
  formatToken issue.credentialId issue.secret issue.marker

def secretText (secret : Hex64) : String :=
  String.ofList secret.chars

/-! ## Credentials -/

def maxLabelLength : Nat := 100

/-- `validate_label`. -/
def validateLabel [PrintableText] (label : String) : Except ValueError String :=
  let trimmed := strip label
  if trimmed.isEmpty then .error { message := "a credential label cannot be blank" }
  else if maxLabelLength < trimmed.length then
    .error
      { message :=
          s!"a credential label is at most {maxLabelLength} characters, got {trimmed.length}" }
  else if !trimmed.toList.all PrintableText.isPrintable then
    .error
      { message := "a credential label must be a single line of printable characters" }
  else .ok trimmed

/-- What is drawn for a row: an identifier, and for a credential its secret. -/
structure AccessDraw where
  id : Uuid
  secret : Hex64

section Services

variable [Sha256] [PrintableText] (store : AccessStore)

/-- A new credential under the constraints of its table, and the token that is returned. -/
def createCredential (merchantId : Uuid) (benchmarkRunId : Option Uuid) (label : String)
    (marker : TokenMarker) (draw : AccessDraw) : Except Failure AccessStore :=
  let row : MerchantApiCredential :=
    { id := draw.id
      merchantId := merchantId
      benchmarkRunId := benchmarkRunId
      secretHash := hashSecret (secretText draw.secret)
      label := label
      revokedAt := none }
  if store.credentials.rows.any fun other => other.secretHash = row.secretHash then
    .error (.integrityError "ix_merchant_api_credential_secret_hash")
  else
    match store.credentials.insert? row with
    | none => .error (.integrityError "pk_merchant_api_credential")
    | some credentials =>
        .ok
          { store with
            credentials := credentials
            issued := store.issued ++
              [{ credentialId := draw.id, merchantId := merchantId
                 benchmarkRunId := benchmarkRunId, secret := draw.secret, marker := marker }] }

/-- `issue`. -/
def issue (merchantId : Uuid) (label : String) (marker : TokenMarker) (draw : AccessDraw) :
    Except Failure AccessStore :=
  if merchantId ∉ store.merchants then .error (.notFound "merchant" (toString merchantId))
  else
    match validateLabel label with
    | .error refusal => .error (.valueError refusal)
    | .ok trimmed => createCredential store merchantId none trimmed marker draw

/-- `require_active`. -/
def requireActive (capability : BenchmarkRunCapability) : Except Failure Unit :=
  if store.runs.any fun run => run.id = capability.runId &&
      run.merchantId = capability.merchantId && run.status = .running then .ok ()
  else
    .error (.conflict "benchmark_world_active"
      "a benchmark credential may be issued only for the run that currently owns its world"
      (some "benchmark_environment") (some (toString capability.runId)))

/-- `issue_for_benchmark`. -/
def issueForBenchmark (capability : BenchmarkRunCapability) (label : String)
    (marker : TokenMarker) (draw : AccessDraw) : Except Failure AccessStore :=
  match requireActive store capability with
  | .error failure => .error failure
  | .ok _ =>
      if capability.merchantId ∉ store.merchants then
        .error (.notFound "merchant" (toString capability.merchantId))
      else
        match validateLabel label with
        | .error refusal => .error (.valueError refusal)
        | .ok trimmed =>
            createCredential store capability.merchantId (some capability.runId) trimmed marker draw

/-- The read of `revoke`, which takes no lock. -/
def readCredential (credentialId : Uuid) : Except Failure MerchantApiCredential :=
  match store.credentials.get? credentialId with
  | none => .error (.notFound "merchant_api_credential" (toString credentialId))
  | some credential => .ok credential

/-- The write of `revoke`, under the trigger of the table. -/
def revokeCredential (credentialId : Uuid) : Except Failure AccessStore :=
  match store.credentials.get? credentialId with
  | none => .error (.notFound "merchant_api_credential" (toString credentialId))
  | some credential =>
      if credential.revokedAt.isSome ∧ credential.revokedAt ≠ some store.now then
        .error (.integrityError "a revoked merchant api credential cannot be changed")
      else
        .ok
          { store with
            credentials := store.credentials.set { credential with revokedAt := some store.now }
            withdrawn := store.withdrawn ++ [credentialId] }

/-- `get_active`. -/
def getActive (credentialId : Uuid) : Option MerchantApiCredential :=
  (store.credentials.get? credentialId).filter fun credential => credential.revokedAt.isNone

/-- The principal of a credential. -/
def MerchantApiCredential.principal (credential : MerchantApiCredential) :
    AuthenticatedMerchant where
  merchantId := credential.merchantId
  credentialId := credential.id
  benchmarkCapability := credential.benchmarkRunId.map fun runId =>
    { runId := runId, merchantId := credential.merchantId }

/-- `MerchantCredentialService.authenticate`. -/
def authenticateKey (presented : String) : Option AuthenticatedMerchant :=
  match parseToken presented with
  | none => none
  | some parsed =>
      match getActive store parsed.credentialId with
      | none => none
      | some credential =>
          if verifySecret (secretText parsed.secret) credential.secretHash then
            some credential.principal
          else none

/-- Twelve hours, in microseconds. -/
def sessionLifetime : Int := 12 * 60 * 60 * 1000000

def consoleSessionExists (merchantId : Uuid) : Failure :=
  .conflict "console_session_exists" "that session credential is already registered"
    (some "merchant_console_session") (some (toString merchantId))

/-- `ConsoleSessionService.open`.  A row that any constraint refuses is answered alike. -/
def openSession (merchantId credentialId : Uuid) (verifier : String) (sessionId : Uuid) :
    Except Failure AccessStore :=
  let row : MerchantConsoleSession :=
    { id := sessionId
      merchantId := merchantId
      credentialId := credentialId
      verifierHash := hashSecret verifier
      expiresAt := store.now + sessionLifetime
      revokedAt := none }
  if store.sessions.rows.any fun other => other.verifierHash = row.verifierHash then
    .error (consoleSessionExists merchantId)
  else if !store.credentials.rows.any fun credential =>
      credential.id = credentialId && credential.merchantId = merchantId then
    .error (consoleSessionExists merchantId)
  else
    match store.sessions.insert? row with
    | none => .error (consoleSessionExists merchantId)
    | some sessions =>
        .ok
          { store with
            sessions := sessions
            opened := store.opened ++
              [{ sessionId := sessionId, merchantId := merchantId, credentialId := credentialId
                 verifier := verifier, expiresAt := row.expiresAt }] }

/-- `_open`: the one statement that decides whether a verifier names an open session. -/
def openRecord (presented : String) : Option MerchantConsoleSession :=
  if !isConsoleSessionVerifier presented then none
  else
    store.sessions.rows.find? fun session =>
      session.verifierHash = hashSecret presented && session.revokedAt.isNone &&
        store.now < session.expiresAt && (getActive store session.credentialId).isSome

/-- `ConsoleSessionService.authenticate`. -/
def authenticateSession (presented : String) : Option AuthenticatedMerchant :=
  if !isConsoleSessionVerifier presented then none
  else
    (openRecord store presented).map fun record =>
      { merchantId := record.merchantId
        credentialId := record.credentialId
        benchmarkCapability := none }

/-- Stamp the chosen rows as revoked.  The trigger lets no row be revoked twice, and nobody
chooses a row that is. -/
def closeSessions (chosen : MerchantConsoleSession → Bool) : AccessStore :=
  { store with
    sessions := store.sessions.amend
      (fun session =>
        if chosen session then { session with revokedAt := some store.now } else session)
      (fun session => by split <;> rfl)
    closed := store.closed ++ (store.sessions.rows.filter chosen).map MerchantConsoleSession.id }

/-- `ConsoleSessionService.revoke`. -/
def revokeSession (presented : String) : AccessStore :=
  if !isConsoleSessionVerifier presented then store
  else
    closeSessions store fun session =>
      session.verifierHash = hashSecret presented && session.revokedAt.isNone

/-- `revoke_for_merchant`. -/
def revokeForMerchant (merchantId : Uuid) : AccessStore :=
  closeSessions store fun session => session.merchantId = merchantId && session.revokedAt.isNone

/-- The first statement of `purge_settled`: which rows are settled. -/
def settledSessions (olderThan limit : Int) : Except ValueError (List Uuid) :=
  if olderThan < 0 then
    .error
      { message :=
          "older_than must not be negative: a cutoff in the future would select sessions that are still open" }
  else if limit < 1 then .error { message := "limit must be at least 1" }
  else
    let cutoff := store.now - olderThan
    let settled := store.sessions.rows.filter fun session =>
      session.expiresAt < cutoff || session.revokedAt.any fun revokedAt => revokedAt < cutoff
    let ordered := settled.mergeSort fun first second => first.expiresAt ≤ second.expiresAt
    .ok ((ordered.take limit.toNat).map MerchantConsoleSession.id)

/-- The second statement of `purge_settled`. -/
def deleteSessions (doomed : List Uuid) : AccessStore :=
  { store with
    sessions := store.sessions.keep fun session => !doomed.contains session.id
    purged := store.purged ++
      (store.sessions.rows.filter fun session => doomed.contains session.id).map
        MerchantConsoleSession.id }

/-- `_principal`: the shape of the value decides which kind arrived. -/
def authenticate (presented : String) : Option AuthenticatedMerchant :=
  if isConsoleSessionVerifier presented then authenticateSession store presented
  else authenticateKey store presented

/-- `require_operator_key`: a merchant API key, neither a session nor a key of a benchmark. -/
def requireOperatorKey (presented : String) : Option AuthenticatedMerchant :=
  if isConsoleSessionVerifier presented then none
  else (authenticateKey store presented).filter fun merchant => merchant.benchmarkCapability.isNone

end Services

end AgentRank.Auth
