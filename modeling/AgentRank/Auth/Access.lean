import AgentRank.Auth.Services
import AgentRank.Transition.Clients

/-!
# Access ends when it is withdrawn

Any number of clients issue and revoke credentials, open, close and purge sessions, while the
clock of the database goes on and its other tables change.  A session is opened in another
transaction than the one that authenticates its key, a credential is revoked in another
statement than the one that reads it, and a purge deletes in another statement than the one
that selects.

What has been handed out and what has been withdrawn is recorded as it is committed.  Every
row agrees with that record, so a string that authenticates is one that was handed out and has
not been withdrawn.
-/

namespace AgentRank.Auth

open Payments Relational Store Transition

/-! ## Clients -/

inductive AccessCall
  | issue (merchantId : Uuid) (label : String) (marker : TokenMarker)
  | issueForBenchmark (capability : BenchmarkRunCapability) (label : String)
      (marker : TokenMarker)
  | revoke (credentialId : Uuid)
  /-- The body of the request carries a verifier of the right shape. -/
  | openSession (presented : String) (verifier : Hex64)
  | closeSession (presented : String)
  | revokeForMerchant (merchantId : Uuid)
  | purgeSettled (olderThan limit : Int)

inductive AccessStage
  | issuing (merchantId : Uuid) (label : String) (marker : TokenMarker)
  | issuingForBenchmark (capability : BenchmarkRunCapability) (label : String)
      (marker : TokenMarker)
  | reading (credentialId : Uuid)
  | revoking (credentialId : Uuid)
  | presentingKey (presented : String) (verifier : Hex64)
  | opening (merchant : AuthenticatedMerchant) (verifier : Hex64)
  | presenting (presented : String)
  | closing (presented : String)
  | closingAll (merchantId : Uuid)
  | selecting (olderThan limit : Int)
  | deleting (doomed : List Uuid)

/-- What happens outside of the clients: the clock goes on, and other tables change. -/
inductive AccessOccurrence
  | elapsed (duration : Nat)
  | changed (merchants : List Uuid) (runs : List BenchmarkRun)

def AccessCall.enter : AccessCall → AccessStage
  | issue merchantId label marker => .issuing merchantId label marker
  | issueForBenchmark capability label marker => .issuingForBenchmark capability label marker
  | revoke credentialId => .reading credentialId
  | openSession presented verifier => .presentingKey presented verifier
  | closeSession presented => .presenting presented
  | revokeForMerchant merchantId => .closingAll merchantId
  | purgeSettled olderThan limit => .selecting olderThan limit

/-- What a transaction leaves: its result when it commits, and nothing when it raises. -/
def committedOr (store : AccessStore) : Except Failure AccessStore → AccessStore
  | .ok final => final
  | .error _ => store

section Stages

variable [Sha256] [PrintableText]

/-- One step of a client.  No identifier is drawn twice: a client that is about to open a
session waits for a draw of its own. -/
def AccessStage.act (stage : AccessStage) (draw : AccessDraw) (store : AccessStore) :
    AccessStore × Option AccessStage :=
  match stage with
  | issuing merchantId label marker =>
      (committedOr store (issue store merchantId label marker draw), none)
  | issuingForBenchmark capability label marker =>
      (committedOr store (issueForBenchmark store capability label marker draw), none)
  | reading credentialId =>
      match readCredential store credentialId with
      | .error _ => (store, none)
      | .ok credential =>
          if credential.revokedAt.isSome then (store, none)
          else (store, some (revoking credentialId))
  | revoking credentialId => (committedOr store (revokeCredential store credentialId), none)
  | presentingKey presented verifier =>
      match requireOperatorKey store presented with
      | none => (store, none)
      | some merchant => (store, some (opening merchant verifier))
  | opening merchant verifier =>
      if store.opened.any fun earlier => earlier.sessionId = draw.id then
        (store, some (opening merchant verifier))
      else
        (committedOr store (openSession store merchant.merchantId merchant.credentialId
          (verifierText verifier) draw.id), none)
  | presenting presented =>
      match authenticate store presented with
      | none => (store, none)
      | some _ => (store, some (closing presented))
  | closing presented => (revokeSession store presented, none)
  | closingAll merchantId => (revokeForMerchant store merchantId, none)
  | selecting olderThan limit =>
      match settledSessions store olderThan limit with
      | .error _ => (store, none)
      | .ok doomed => (store, some (deleting doomed))
  | deleting doomed => (deleteSessions store doomed, none)

def AccessOccurrence.act (event : AccessOccurrence) (store : AccessStore) : AccessStore :=
  match event with
  | elapsed duration => { store with now := store.now + duration }
  | changed merchants runs => { store with merchants := merchants, runs := runs }

def accessSystem : System AccessStore AccessCall AccessStage AccessDraw AccessOccurrence where
  enter := AccessCall.enter
  act draw stage store := stage.act draw store
  outside event store := event.act store

end Stages

abbrev AccessEvent := Event AccessCall AccessDraw AccessOccurrence

/-- No other secret or verifier that was handed out has the digest of what is presented. -/
structure NoCollision [Sha256] (store : AccessStore) (presented : String) : Prop where
  secrets : ∀ parsed, parseToken presented = some parsed → ∀ issue ∈ store.issued,
    Sha256.hexdigest (secretText parsed.secret) = Sha256.hexdigest (secretText issue.secret) →
      parsed.secret = issue.secret
  verifiers : ∀ opening ∈ store.opened,
    Sha256.hexdigest presented = Sha256.hexdigest opening.verifier → presented = opening.verifier

/-- The string is the token of a credential that is not withdrawn, with either marker, and the
principal is the one the credential was issued for. -/
def TokenOf (store : AccessStore) (presented : String) (principal : AuthenticatedMerchant) :
    Prop :=
  ∃ issue ∈ store.issued, issue.credentialId ∉ store.withdrawn ∧
    (∃ marker, presented = formatToken issue.credentialId issue.secret marker) ∧
      principal.merchantId = issue.merchantId ∧ principal.credentialId = issue.credentialId ∧
        principal.benchmarkCapability = issue.benchmarkRunId.map fun runId =>
          { runId := runId, merchantId := issue.merchantId }

/-- The string is the verifier of a session that is neither closed nor expired, and that was
opened with an ordinary credential that is not withdrawn. -/
def VerifierOf (store : AccessStore) (presented : String) (principal : AuthenticatedMerchant) :
    Prop :=
  ∃ opening ∈ store.opened, presented = opening.verifier ∧
    opening.sessionId ∉ store.closed ∧ store.now < opening.expiresAt ∧
      opening.credentialId ∉ store.withdrawn ∧
        principal.merchantId = opening.merchantId ∧
          principal.credentialId = opening.credentialId ∧ principal.benchmarkCapability = none

/-- A session that nobody can authenticate with again. -/
def SessionOpening.Settled (store : AccessStore) (opening : SessionOpening) : Prop :=
  opening.sessionId ∈ store.closed ∨ opening.expiresAt < store.now

/-- What holds of every store that is reached. -/
structure AccessEnds [Sha256] (store : AccessStore) : Prop where
  authenticated : ∀ presented principal, authenticate store presented = some principal →
    NoCollision store presented → presented.toList.getLast? ≠ some '\n' →
      TokenOf store presented principal ∨ VerifierOf store presented principal
  /-- A credential is issued once, and no session is opened with one of a benchmark. -/
  ordinary : ∀ opening ∈ store.opened,
    (∃ issue ∈ store.issued, issue.credentialId = opening.credentialId) ∧
      ∀ issue ∈ store.issued, issue.credentialId = opening.credentialId →
        issue.merchantId = opening.merchantId ∧ issue.benchmarkRunId = none
  purged : ∀ opening ∈ store.opened, opening.sessionId ∈ store.purged → opening.Settled store

/-- The row of a credential that was issued. -/
structure Issues [Sha256] (issue : CredentialIssue) (credential : MerchantApiCredential) :
    Prop where
  id : issue.credentialId = credential.id
  merchant : issue.merchantId = credential.merchantId
  run : issue.benchmarkRunId = credential.benchmarkRunId
  secret : credential.secretHash = hashSecret (secretText issue.secret)

/-- The row of a session that was opened. -/
structure Opens [Sha256] (opening : SessionOpening) (session : MerchantConsoleSession) : Prop where
  id : opening.sessionId = session.id
  merchant : opening.merchantId = session.merchantId
  credential : opening.credentialId = session.credentialId
  verifier : session.verifierHash = hashSecret opening.verifier
  expires : opening.expiresAt = session.expiresAt

structure AccessGood [Sha256] (store : AccessStore) : Prop where
  filed : ∀ credential ∈ store.credentials, ∃ issue ∈ store.issued, Issues issue credential
  kept : ∀ issue ∈ store.issued, ∃ credential ∈ store.credentials, Issues issue credential
  issuedOnce : ∀ first ∈ store.issued, ∀ second ∈ store.issued,
    first.credentialId = second.credentialId → first = second
  revoked : ∀ credential ∈ store.credentials,
    credential.revokedAt = none ↔ credential.id ∉ store.withdrawn
  withdrawnIssued : ∀ credentialId ∈ store.withdrawn, ∃ issue ∈ store.issued,
    issue.credentialId = credentialId
  recorded : ∀ session ∈ store.sessions, ∃ opening ∈ store.opened, Opens opening session
  openedOnce : ∀ first ∈ store.opened, ∀ second ∈ store.opened,
    first.sessionId = second.sessionId → first = second
  closedRow : ∀ session ∈ store.sessions,
    session.revokedAt.isSome = true ↔ session.id ∈ store.closed
  closedOpened : ∀ sessionId ∈ store.closed, ∃ opening ∈ store.opened,
    opening.sessionId = sessionId
  purgedSettled : ∀ sessionId ∈ store.purged, ∃ opening ∈ store.opened,
    opening.sessionId = sessionId ∧ opening.Settled store
  ordinary : ∀ opening ∈ store.opened, ∃ issue ∈ store.issued,
    issue.credentialId = opening.credentialId ∧ issue.merchantId = opening.merchantId ∧
      issue.benchmarkRunId = none

/-! ## What a step does -/

/-- What one step does to the store. -/
inductive AccessMove [Sha256] (store : AccessStore) : AccessStore → Prop
  | stayed : AccessMove store store
  | outside (event : AccessOccurrence) : AccessMove store (event.act store)
  | issued {issue : CredentialIssue} {row : MerchantApiCredential}
      {credentials : Table MerchantApiCredential}
      (isNew : store.credentials.insert? row = some credentials) (issues : Issues issue row)
      (active : row.revokedAt = none) :
      AccessMove store { store with credentials := credentials, issued := store.issued ++ [issue] }
  | withdrawn {row : MerchantApiCredential} (stored : row ∈ store.credentials) :
      AccessMove store
        { store with
          credentials := store.credentials.set { row with revokedAt := some store.now }
          withdrawn := store.withdrawn ++ [row.id] }
  | opened {opening : SessionOpening} {row : MerchantConsoleSession}
      {sessions : Table MerchantConsoleSession}
      (isNew : store.sessions.insert? row = some sessions) (opens : Opens opening row)
      (active : row.revokedAt = none)
      (fresh : ∀ earlier ∈ store.opened, earlier.sessionId ≠ opening.sessionId)
      (ordinary : ∃ issue ∈ store.issued, issue.credentialId = opening.credentialId ∧
        issue.merchantId = opening.merchantId ∧ issue.benchmarkRunId = none) :
      AccessMove store { store with sessions := sessions, opened := store.opened ++ [opening] }
  | closed (chosen : MerchantConsoleSession → Bool) : AccessMove store (closeSessions store chosen)
  | purged (doomed : List Uuid)
      (settled : ∀ sessionId ∈ doomed, ∃ opening ∈ store.opened,
        opening.sessionId = sessionId ∧ opening.Settled store) :
      AccessMove store (deleteSessions store doomed)

section Moves

variable {store final : AccessStore}

/-- The records only grow, and the clock never goes back. -/
structure Grows (store final : AccessStore) : Prop where
  now : store.now ≤ final.now
  issued : ∀ issue ∈ store.issued, issue ∈ final.issued
  opened : ∀ opening ∈ store.opened, opening ∈ final.opened
  closed : ∀ sessionId ∈ store.closed, sessionId ∈ final.closed

theorem Grows.settled (grows : Grows store final) {opening : SessionOpening}
    (settled : opening.Settled store) : opening.Settled final :=
  settled.imp (grows.closed _) fun expired => lt_of_lt_of_le expired grows.now

theorem mem_closeSessions_iff {chosen : MerchantConsoleSession → Bool}
    {session : MerchantConsoleSession} :
    session ∈ (closeSessions store chosen).sessions ↔ ∃ old ∈ store.sessions,
      (if chosen old then { old with revokedAt := some store.now } else old) = session :=
  List.mem_map

variable [Sha256]

theorem grows_of_move (moves : AccessMove store final) : Grows store final := by
  cases moves with
  | stayed => exact ⟨le_refl _, fun _ => id, fun _ => id, fun _ => id⟩
  | outside event =>
      cases event with
      | elapsed duration =>
          refine ⟨?_, fun _ => id, fun _ => id, fun _ => id⟩
          exact le_add_of_nonneg_right (Int.natCast_nonneg duration)
      | changed merchants runs => exact ⟨le_refl _, fun _ => id, fun _ => id, fun _ => id⟩
  | issued isNew issues active =>
      exact ⟨le_refl _, fun _ => List.mem_append_left _, fun _ => id, fun _ => id⟩
  | withdrawn stored => exact ⟨le_refl _, fun _ => id, fun _ => id, fun _ => id⟩
  | opened isNew opens active fresh ordinary =>
      exact ⟨le_refl _, fun _ => id, fun _ => List.mem_append_left _, fun _ => id⟩
  | closed chosen => exact ⟨le_refl _, fun _ => id, fun _ => id, fun _ => List.mem_append_left _⟩
  | purged doomed settled => exact ⟨le_refl _, fun _ => id, fun _ => id, fun _ => id⟩

/-- The row of an issue, at any later time of its life. -/
theorem Issues.revoke {issue : CredentialIssue} {row : MerchantApiCredential}
    (issues : Issues issue row) (revokedAt : Option Instant) :
    Issues issue { row with revokedAt := revokedAt } :=
  ⟨issues.id, issues.merchant, issues.run, issues.secret⟩

/-- Issuing a credential keeps the record. -/
theorem AccessGood.issued (good : AccessGood store) {issue : CredentialIssue}
    {row : MerchantApiCredential} {credentials : Table MerchantApiCredential}
    (isNew : store.credentials.insert? row = some credentials) (issues : Issues issue row)
    (active : row.revokedAt = none) :
    AccessGood { store with credentials := credentials, issued := store.issued ++ [issue] } := by
  have fresh := (Table.insert?_eq_some_iff.mp isNew).1
  have member : ∀ other, other ∈ credentials ↔ other ∈ store.credentials ∨ other = row :=
    fun other => Table.mem_insert?_iff isNew
  have notIssued : ∀ earlier ∈ store.issued, earlier.credentialId ≠ issue.credentialId := by
    intro earlier isEarlier same
    rcases good.kept earlier isEarlier with ⟨credential, stored, files⟩
    exact fresh credential stored (files.id.symm.trans (same.trans issues.id))
  refine
    { good with
      filed := ?_, kept := ?_, issuedOnce := ?_, revoked := ?_, withdrawnIssued := ?_,
      ordinary := ?_ }
  · intro credential stored
    rcases (member credential).mp stored with isOld | rfl
    · rcases good.filed credential isOld with ⟨earlier, isEarlier, files⟩
      exact ⟨earlier, List.mem_append_left _ isEarlier, files⟩
    · exact ⟨issue, List.mem_append_right _ (List.mem_singleton_self _), issues⟩
  · intro other isIssue
    rcases List.mem_append.mp isIssue with isEarlier | isLast
    · rcases good.kept other isEarlier with ⟨credential, stored, files⟩
      exact ⟨credential, (member credential).mpr (Or.inl stored), files⟩
    · rw [List.mem_singleton.mp isLast]
      exact ⟨row, (member row).mpr (Or.inr rfl), issues⟩
  · intro first firstMem second secondMem same
    rcases List.mem_append.mp firstMem with firstOld | firstNew <;>
      rcases List.mem_append.mp secondMem with secondOld | secondNew
    · exact good.issuedOnce first firstOld second secondOld same
    · rw [List.mem_singleton.mp secondNew] at same
      exact absurd same (notIssued first firstOld)
    · rw [List.mem_singleton.mp firstNew] at same
      exact absurd same.symm (notIssued second secondOld)
    · rw [List.mem_singleton.mp firstNew, List.mem_singleton.mp secondNew]
  · intro credential stored
    rcases (member credential).mp stored with isOld | rfl
    · exact good.revoked credential isOld
    · refine ⟨fun _ isWithdrawn => ?_, fun _ => active⟩
      rcases good.withdrawnIssued credential.id isWithdrawn with ⟨earlier, isEarlier, same⟩
      exact notIssued earlier isEarlier (same.trans issues.id.symm)
  · intro credentialId isWithdrawn
    rcases good.withdrawnIssued credentialId isWithdrawn with ⟨earlier, isEarlier, same⟩
    exact ⟨earlier, List.mem_append_left _ isEarlier, same⟩
  · intro opening isOpening
    rcases good.ordinary opening isOpening with ⟨earlier, isEarlier, isOrdinary⟩
    exact ⟨earlier, List.mem_append_left _ isEarlier, isOrdinary⟩

/-- Withdrawing a credential keeps the record. -/
theorem AccessGood.withdrawn (good : AccessGood store) {row : MerchantApiCredential}
    (stored : row ∈ store.credentials) :
    AccessGood
      { store with
        credentials := store.credentials.set { row with revokedAt := some store.now }
        withdrawn := store.withdrawn ++ [row.id] } := by
  have member : ∀ other,
      other ∈ store.credentials.set { row with revokedAt := some store.now } ↔
        other = { row with revokedAt := some store.now } ∨
          other ∈ store.credentials ∧ other.id ≠ row.id :=
    fun other => Table.mem_set_iff stored rfl
  refine { good with filed := ?_, kept := ?_, revoked := ?_, withdrawnIssued := ?_ }
  · intro credential isStored
    rcases (member credential).mp isStored with isNew | ⟨isOld, _⟩
    · rw [isNew]
      rcases good.filed row stored with ⟨issue, isIssue, issues⟩
      exact ⟨issue, isIssue, issues.revoke _⟩
    · exact good.filed credential isOld
  · intro issue isIssue
    rcases good.kept issue isIssue with ⟨credential, isStored, issues⟩
    by_cases same : credential.id = row.id
    · obtain rfl := Table.eq_of_key_eq isStored stored same
      exact ⟨_, (member _).mpr (Or.inl rfl), issues.revoke _⟩
    · exact ⟨credential, (member _).mpr (Or.inr ⟨isStored, same⟩), issues⟩
  · intro credential isStored
    rw [List.mem_append, List.mem_singleton, not_or]
    rcases (member credential).mp isStored with isNew | ⟨isOld, isOther⟩
    · rw [isNew]
      refine ⟨fun isActive => ?_, fun notWithdrawn => absurd rfl notWithdrawn.2⟩
      cases isActive
    · rw [good.revoked credential isOld]
      exact ⟨fun notWithdrawn => ⟨notWithdrawn, isOther⟩, And.left⟩
  · intro credentialId isWithdrawn
    rcases List.mem_append.mp isWithdrawn with earlier | isLast
    · exact good.withdrawnIssued credentialId earlier
    · rcases good.filed row stored with ⟨issue, isIssue, issues⟩
      exact ⟨issue, isIssue, issues.id.trans (List.mem_singleton.mp isLast).symm⟩

/-- Opening a session with an ordinary credential keeps the record. -/
theorem AccessGood.opened (good : AccessGood store) {opening : SessionOpening}
    {row : MerchantConsoleSession} {sessions : Table MerchantConsoleSession}
    (isNew : store.sessions.insert? row = some sessions) (opens : Opens opening row)
    (active : row.revokedAt = none)
    (fresh : ∀ earlier ∈ store.opened, earlier.sessionId ≠ opening.sessionId)
    (ordinary : ∃ issue ∈ store.issued, issue.credentialId = opening.credentialId ∧
      issue.merchantId = opening.merchantId ∧ issue.benchmarkRunId = none) :
    AccessGood { store with sessions := sessions, opened := store.opened ++ [opening] } := by
  have member : ∀ other, other ∈ sessions ↔ other ∈ store.sessions ∨ other = row :=
    fun other => Table.mem_insert?_iff isNew
  refine
    { good with
      recorded := ?_, openedOnce := ?_, closedRow := ?_, closedOpened := ?_,
      purgedSettled := ?_, ordinary := ?_ }
  · intro session stored
    rcases (member session).mp stored with isOld | rfl
    · rcases good.recorded session isOld with ⟨earlier, isEarlier, files⟩
      exact ⟨earlier, List.mem_append_left _ isEarlier, files⟩
    · exact ⟨opening, List.mem_append_right _ (List.mem_singleton_self _), opens⟩
  · intro first firstMem second secondMem same
    rcases List.mem_append.mp firstMem with firstOld | firstNew <;>
      rcases List.mem_append.mp secondMem with secondOld | secondNew
    · exact good.openedOnce first firstOld second secondOld same
    · rw [List.mem_singleton.mp secondNew] at same
      exact absurd same (fresh first firstOld)
    · rw [List.mem_singleton.mp firstNew] at same
      exact absurd same.symm (fresh second secondOld)
    · rw [List.mem_singleton.mp firstNew, List.mem_singleton.mp secondNew]
  · intro session stored
    rcases (member session).mp stored with isOld | rfl
    · exact good.closedRow session isOld
    · rw [active]
      refine ⟨fun isSome => absurd isSome Bool.false_ne_true, fun isClosed => ?_⟩
      rcases good.closedOpened session.id isClosed with ⟨earlier, isEarlier, same⟩
      exact absurd (same.trans opens.id.symm) (fresh earlier isEarlier)
  · intro sessionId isClosed
    rcases good.closedOpened sessionId isClosed with ⟨earlier, isEarlier, same⟩
    exact ⟨earlier, List.mem_append_left _ isEarlier, same⟩
  · intro sessionId isPurged
    rcases good.purgedSettled sessionId isPurged with ⟨earlier, isEarlier, same, settled⟩
    exact ⟨earlier, List.mem_append_left _ isEarlier, same, settled⟩
  · intro other isOpening
    rcases List.mem_append.mp isOpening with isEarlier | isLast
    · exact good.ordinary other isEarlier
    · rw [List.mem_singleton.mp isLast]
      exact ordinary

/-- Closing sessions keeps the record. -/
theorem AccessGood.closed (good : AccessGood store) (chosen : MerchantConsoleSession → Bool) :
    AccessGood (closeSessions store chosen) := by
  have isClosed : ∀ sessionId, sessionId ∈ (closeSessions store chosen).closed ↔
      sessionId ∈ store.closed ∨
        ∃ session ∈ store.sessions, chosen session = true ∧ session.id = sessionId := by
    intro sessionId
    simp only [closeSessions, List.mem_append, List.mem_map, List.mem_filter, and_assoc,
      Table.mem_def]
  have grows : Grows store (closeSessions store chosen) := grows_of_move (.closed chosen)
  refine
    { good with
      recorded := ?_, closedRow := ?_, closedOpened := ?_, purgedSettled := ?_ }
  · intro session stored
    rcases mem_closeSessions_iff.mp stored with ⟨old, isOld, rfl⟩
    rcases good.recorded old isOld with ⟨opening, isOpening, opens⟩
    refine ⟨opening, isOpening, ?_⟩
    split
    · exact ⟨opens.id, opens.merchant, opens.credential, opens.verifier, opens.expires⟩
    · exact opens
  · intro session stored
    rcases mem_closeSessions_iff.mp stored with ⟨old, isOld, rfl⟩
    rw [isClosed]
    by_cases isChosen : chosen old = true
    · rw [if_pos isChosen]
      exact ⟨fun _ => Or.inr ⟨old, isOld, isChosen, rfl⟩, fun _ => rfl⟩
    · rw [if_neg isChosen, good.closedRow old isOld]
      refine ⟨Or.inl, fun either => either.elim id ?_⟩
      rintro ⟨other, otherMem, otherChosen, sameId⟩
      rw [Table.eq_of_key_eq otherMem isOld sameId] at otherChosen
      exact absurd otherChosen isChosen
  · intro sessionId member
    rcases (isClosed sessionId).mp member with earlier | ⟨session, stored, _, rfl⟩
    · exact good.closedOpened sessionId earlier
    · rcases good.recorded session stored with ⟨opening, isOpening, opens⟩
      exact ⟨opening, isOpening, opens.id⟩
  · intro sessionId isPurged
    rcases good.purgedSettled sessionId isPurged with ⟨opening, isOpening, same, settled⟩
    exact ⟨opening, isOpening, same, grows.settled settled⟩

/-- Deleting settled sessions keeps the record. -/
theorem AccessGood.purged (good : AccessGood store) (doomed : List Uuid)
    (settled : ∀ sessionId ∈ doomed, ∃ opening ∈ store.opened,
      opening.sessionId = sessionId ∧ opening.Settled store) :
    AccessGood (deleteSessions store doomed) := by
  refine { good with recorded := ?_, closedRow := ?_, purgedSettled := ?_ }
  · intro session stored
    exact good.recorded session (Table.mem_keep_iff.mp stored).1
  · intro session stored
    exact good.closedRow session (Table.mem_keep_iff.mp stored).1
  · intro sessionId isPurged
    simp only [deleteSessions, List.mem_append, List.mem_map, List.mem_filter,
      List.contains_iff_mem] at isPurged
    rcases isPurged with earlier | ⟨session, ⟨_, isDoomed⟩, rfl⟩
    · exact good.purgedSettled sessionId earlier
    · exact settled session.id isDoomed

/-- Every step keeps the record. -/
theorem AccessGood.move (good : AccessGood store) (moves : AccessMove store final) :
    AccessGood final := by
  cases moves with
  | stayed => exact good
  | outside event =>
      have grows : Grows store (event.act store) := grows_of_move (.outside event)
      have purged : ∀ sessionId ∈ store.purged, ∃ opening ∈ store.opened,
          opening.sessionId = sessionId ∧ opening.Settled (event.act store) := by
        intro sessionId isPurged
        rcases good.purgedSettled sessionId isPurged with ⟨opening, isOpening, same, settled⟩
        exact ⟨opening, isOpening, same, grows.settled settled⟩
      cases event <;> exact { good with purgedSettled := purged }
  | issued isNew issues active => exact good.issued isNew issues active
  | withdrawn stored => exact good.withdrawn stored
  | opened isNew opens active fresh ordinary =>
      exact good.opened isNew opens active fresh ordinary
  | closed chosen => exact good.closed chosen
  | purged doomed settled => exact good.purged doomed settled

end Moves

/-! ## What authenticates -/

section Authentication

variable {store : AccessStore}

theorem getActive_eq_some_iff {credentialId : Uuid} {credential : MerchantApiCredential} :
    getActive store credentialId = some credential ↔
      credential ∈ store.credentials ∧ credential.id = credentialId ∧
        credential.revokedAt = none := by
  simp only [getActive, Option.filter_eq_some_iff, Table.get?_eq_some_iff,
    Option.isNone_iff_eq_none, and_assoc]
  rfl

variable [Sha256] {presented : String} {principal : AuthenticatedMerchant}

/-- A token that authenticates names a credential that is not withdrawn, and has the digest of
its secret. -/
theorem issue_of_authenticateKey (good : AccessGood store)
    (authenticated : authenticateKey store presented = some principal) :
    ∃ parsed issue, parseToken presented = some parsed ∧ issue ∈ store.issued ∧
      issue.credentialId = parsed.credentialId ∧ issue.credentialId ∉ store.withdrawn ∧
        Sha256.hexdigest (secretText parsed.secret) = Sha256.hexdigest (secretText issue.secret) ∧
          principal.merchantId = issue.merchantId ∧
            principal.credentialId = issue.credentialId ∧
              principal.benchmarkCapability = issue.benchmarkRunId.map fun runId =>
                { runId := runId, merchantId := issue.merchantId } := by
  unfold authenticateKey at authenticated
  split at authenticated
  · cases authenticated
  · next parsed isParsed =>
      split at authenticated
      · cases authenticated
      · next credential isActive =>
          split at authenticated
          · next verified =>
              cases authenticated
              rcases getActive_eq_some_iff.mp isActive with ⟨stored, sameId, active⟩
              rcases good.filed credential stored with ⟨issue, isIssue, issues⟩
              rw [issues.secret, verifySecret_hashSecret, decide_eq_true_eq] at verified
              refine ⟨parsed, issue, isParsed, isIssue, issues.id.trans sameId, ?_, verified,
                issues.merchant.symm, issues.id.symm, ?_⟩
              · rw [issues.id]
                exact (good.revoked credential stored).mp active
              · rw [issues.run, issues.merchant]
                rfl
          · cases authenticated

/-- A verifier that authenticates has the digest of one of an open session, under a credential
that is not withdrawn. -/
theorem opening_of_authenticateSession (good : AccessGood store)
    (authenticated : authenticateSession store presented = some principal) :
    ∃ opening ∈ store.opened, Sha256.hexdigest presented = Sha256.hexdigest opening.verifier ∧
      opening.sessionId ∉ store.closed ∧ store.now < opening.expiresAt ∧
        opening.credentialId ∉ store.withdrawn ∧ principal.merchantId = opening.merchantId ∧
          principal.credentialId = opening.credentialId ∧
            principal.benchmarkCapability = none := by
  unfold authenticateSession openRecord at authenticated
  split at authenticated
  · cases authenticated
  · rcases Option.map_eq_some_iff.mp authenticated with ⟨record, found, rfl⟩
    have member := List.mem_of_find?_eq_some found
    have isOpen := List.find?_some found
    simp only [Bool.and_eq_true, decide_eq_true_eq, Option.isNone_iff_eq_none,
      Option.isSome_iff_exists, getActive_eq_some_iff] at isOpen
    rcases isOpen with ⟨⟨⟨sameHash, active⟩, unexpired⟩, credential, stored, sameId, unrevoked⟩
    rcases good.recorded record member with ⟨opening, isOpening, opens⟩
    refine ⟨opening, isOpening, ?_, ?_, ?_, ?_, opens.merchant.symm, opens.credential.symm, rfl⟩
    · exact hexdigest_of_hashSecret (sameHash.symm.trans opens.verifier)
    · rw [opens.id, ← good.closedRow record member, active]
      exact Bool.false_ne_true
    · rw [opens.expires]
      exact unexpired
    · rw [opens.credential, ← sameId]
      exact (good.revoked credential stored).mp unrevoked

/-- What authenticates was handed out and is not withdrawn. -/
theorem handed_of_authenticate (good : AccessGood store)
    (authenticated : authenticate store presented = some principal)
    (noCollision : NoCollision store presented)
    (noLineFeed : presented.toList.getLast? ≠ some '\n') :
    TokenOf store presented principal ∨ VerifierOf store presented principal := by
  unfold authenticate at authenticated
  split at authenticated
  · rcases opening_of_authenticateSession good authenticated with
      ⟨opening, isOpening, sameDigest, notClosed, unexpired, notWithdrawn, isPrincipal⟩
    exact Or.inr ⟨opening, isOpening, noCollision.verifiers opening isOpening sameDigest,
      notClosed, unexpired, notWithdrawn, isPrincipal⟩
  · rcases issue_of_authenticateKey good authenticated with
      ⟨parsed, issue, isParsed, isIssue, sameId, notWithdrawn, sameDigest, isPrincipal⟩
    have sameSecret := noCollision.secrets parsed isParsed issue isIssue sameDigest
    rcases formatToken_of_parseToken isParsed noLineFeed with ⟨marker, isToken⟩
    rw [← sameId, sameSecret] at isToken
    exact Or.inl ⟨issue, isIssue, notWithdrawn, ⟨marker, isToken⟩, isPrincipal⟩

/-- The token of a credential that is not withdrawn authenticates, with either marker. -/
theorem authenticate_token (good : AccessGood store) {issue : CredentialIssue}
    (isIssue : issue ∈ store.issued) (notWithdrawn : issue.credentialId ∉ store.withdrawn)
    (marker : TokenMarker) :
    authenticate store (formatToken issue.credentialId issue.secret marker) =
      some
        { merchantId := issue.merchantId
          credentialId := issue.credentialId
          benchmarkCapability := issue.benchmarkRunId.map fun runId =>
            { runId := runId, merchantId := issue.merchantId } } := by
  have isParsed := parseToken_formatToken issue.credentialId issue.secret marker
  rcases good.kept issue isIssue with ⟨credential, stored, issues⟩
  have active : credential.revokedAt = none := by
    rw [good.revoked credential stored, ← issues.id]
    exact notWithdrawn
  have isActive : getActive store issue.credentialId = some credential :=
    getActive_eq_some_iff.mpr ⟨stored, issues.id.symm, active⟩
  have verified : verifySecret (secretText issue.secret) credential.secretHash = true := by
    rw [issues.secret, verifySecret_hashSecret, decide_eq_true_eq]
  rw [authenticate, not_verifier_of_parseToken isParsed, if_neg Bool.false_ne_true]
  simp only [authenticateKey, isParsed, isActive, if_pos verified]
  rw [MerchantApiCredential.principal, issues.id, issues.merchant, issues.run]

/-- A key that may open a session is one of an ordinary credential. -/
theorem ordinary_of_requireOperatorKey (good : AccessGood store)
    (isKey : requireOperatorKey store presented = some principal) :
    ∃ issue ∈ store.issued, issue.credentialId = principal.credentialId ∧
      issue.merchantId = principal.merchantId ∧ issue.benchmarkRunId = none := by
  unfold requireOperatorKey at isKey
  split at isKey
  · cases isKey
  · rcases Option.filter_eq_some_iff.mp isKey with ⟨authenticated, isOrdinary⟩
    rcases issue_of_authenticateKey good authenticated with
      ⟨_, issue, _, isIssue, _, _, _, merchant, credential, capability⟩
    rw [capability, Option.isNone_map, Option.isNone_iff_eq_none] at isOrdinary
    exact ⟨issue, isIssue, credential.symm, merchant.symm, isOrdinary⟩

/-- Only sessions that are closed or expired are selected. -/
theorem settled_of_settledSessions (good : AccessGood store) {olderThan limit : Int}
    {doomed : List Uuid} (selected : settledSessions store olderThan limit = .ok doomed) :
    ∀ sessionId ∈ doomed, ∃ opening ∈ store.opened,
      opening.sessionId = sessionId ∧ opening.Settled store := by
  unfold settledSessions at selected
  split at selected
  · cases selected
  · next notNegative =>
      split at selected
      · cases selected
      · cases selected
        intro sessionId isDoomed
        rcases List.mem_map.mp isDoomed with ⟨session, taken, rfl⟩
        have sorted := List.mem_of_mem_take taken
        rw [List.mem_mergeSort, List.mem_filter] at sorted
        rcases sorted with ⟨stored, isSettled⟩
        rcases good.recorded session stored with ⟨opening, isOpening, opens⟩
        refine ⟨opening, isOpening, opens.id, ?_⟩
        rw [Bool.or_eq_true, decide_eq_true_eq] at isSettled
        rcases isSettled with expired | revoked
        · refine Or.inr ?_
          have lower : store.now - olderThan ≤ store.now :=
            Int.sub_le_self _ (not_lt.mp notNegative)
          rw [opens.expires]
          exact lt_of_lt_of_le expired lower
        · refine Or.inl ?_
          rw [opens.id, ← good.closedRow session stored]
          cases isRevoked : session.revokedAt with
          | none => rw [isRevoked] at revoked; cases revoked
          | some revokedAt => rfl

end Authentication

/-! ## Clients keep the record -/

section Clients

variable [Sha256] {store : AccessStore}

/-- What a client relies on before its next step. -/
def AccessStage.Relies (store : AccessStore) : AccessStage → Prop
  | opening merchant _ => ∃ issue ∈ store.issued, issue.credentialId = merchant.credentialId ∧
      issue.merchantId = merchant.merchantId ∧ issue.benchmarkRunId = none
  | deleting doomed => ∀ sessionId ∈ doomed, ∃ opening ∈ store.opened,
      opening.sessionId = sessionId ∧ opening.Settled store
  | issuing _ _ _ | issuingForBenchmark _ _ _ | reading _ | revoking _ | presentingKey _ _
  | presenting _ | closing _ | closingAll _ | selecting _ _ => True

theorem AccessStage.Relies.move {stage : AccessStage} {final : AccessStore}
    (relies : stage.Relies store) (moves : AccessMove store final) : stage.Relies final := by
  have grows := grows_of_move moves
  cases stage with
  | opening merchant verifier =>
      rcases relies with ⟨issue, isIssue, isOrdinary⟩
      exact ⟨issue, grows.issued issue isIssue, isOrdinary⟩
  | deleting doomed =>
      intro sessionId isDoomed
      rcases relies sessionId isDoomed with ⟨opening, isOpening, same, settled⟩
      exact ⟨opening, grows.opened opening isOpening, same, grows.settled settled⟩
  | _ => trivial

theorem move_of_createCredential (merchantId : Uuid) (benchmarkRunId : Option Uuid)
    (label : String) (marker : TokenMarker) (draw : AccessDraw) :
    AccessMove store
      (committedOr store (createCredential store merchantId benchmarkRunId label marker draw)) := by
  simp only [createCredential]
  split
  · exact .stayed
  · split
    · exact .stayed
    · next credentials isNew => exact .issued isNew ⟨rfl, rfl, rfl, rfl⟩ rfl

theorem move_of_issue [PrintableText] (merchantId : Uuid) (label : String) (marker : TokenMarker)
    (draw : AccessDraw) :
    AccessMove store (committedOr store (issue store merchantId label marker draw)) := by
  unfold issue
  split
  · exact .stayed
  · split
    · exact .stayed
    · exact move_of_createCredential _ _ _ _ _

theorem move_of_issueForBenchmark [PrintableText] (capability : BenchmarkRunCapability)
    (label : String) (marker : TokenMarker) (draw : AccessDraw) :
    AccessMove store (committedOr store (issueForBenchmark store capability label marker draw)) := by
  unfold issueForBenchmark
  split
  · exact .stayed
  · split
    · exact .stayed
    · split
      · exact .stayed
      · exact move_of_createCredential _ _ _ _ _

theorem move_of_revokeCredential (credentialId : Uuid) :
    AccessMove store (committedOr store (revokeCredential store credentialId)) := by
  unfold revokeCredential
  split
  · exact .stayed
  · next credential found =>
      rcases Table.get?_eq_some_iff.mp found with ⟨stored, rfl⟩
      split
      · exact .stayed
      · exact .withdrawn stored

theorem move_of_openSession {merchantId credentialId sessionId : Uuid} (verifier : String)
    (fresh : ∀ earlier ∈ store.opened, earlier.sessionId ≠ sessionId)
    (ordinary : ∃ issue ∈ store.issued, issue.credentialId = credentialId ∧
      issue.merchantId = merchantId ∧ issue.benchmarkRunId = none) :
    AccessMove store
      (committedOr store (openSession store merchantId credentialId verifier sessionId)) := by
  simp only [openSession]
  split
  · exact .stayed
  · split
    · exact .stayed
    · split
      · exact .stayed
      · next sessions isNew => exact .opened isNew ⟨rfl, rfl, rfl, rfl, rfl⟩ rfl fresh ordinary

variable [PrintableText]

/-- A step of a client does one thing to the store, or nothing. -/
theorem move_of_act (stage : AccessStage) (draw : AccessDraw) (relies : stage.Relies store) :
    AccessMove store (stage.act draw store).1 := by
  cases stage with
  | issuing merchantId label marker => exact move_of_issue merchantId label marker draw
  | issuingForBenchmark capability label marker =>
      exact move_of_issueForBenchmark capability label marker draw
  | reading credentialId =>
      simp only [AccessStage.act]
      split
      · exact .stayed
      · split <;> exact .stayed
  | revoking credentialId => exact move_of_revokeCredential credentialId
  | presentingKey presented verifier =>
      simp only [AccessStage.act]
      split <;> exact .stayed
  | opening merchant verifier =>
      simp only [AccessStage.act]
      split
      · exact .stayed
      · next isFresh =>
          refine move_of_openSession (verifierText verifier) ?_ relies
          intro earlier isEarlier same
          exact isFresh (List.any_eq_true.mpr ⟨earlier, isEarlier, decide_eq_true same⟩)
  | presenting presented =>
      simp only [AccessStage.act]
      split <;> exact .stayed
  | closing presented =>
      simp only [AccessStage.act, revokeSession]
      split
      · exact .stayed
      · exact .closed _
  | closingAll merchantId => exact .closed _
  | selecting olderThan limit =>
      simp only [AccessStage.act]
      split <;> exact .stayed
  | deleting doomed => exact .purged doomed relies

/-- A client comes to its next step with what that step relies on. -/
theorem relies_of_act (good : AccessGood store) (stage : AccessStage) (draw : AccessDraw)
    (relies : stage.Relies store) {next : AccessStage}
    (leads : (stage.act draw store).2 = some next) : next.Relies (stage.act draw store).1 := by
  cases stage with
  | issuing | issuingForBenchmark | revoking | closing | closingAll | deleting => cases leads
  | reading credentialId =>
      simp only [AccessStage.act] at leads
      split at leads
      · cases leads
      · split at leads <;> cases leads
        trivial
  | presentingKey presented verifier =>
      simp only [AccessStage.act] at leads ⊢
      split at leads
      · cases leads
      · next merchant isKey =>
          cases leads
          exact ordinary_of_requireOperatorKey good isKey
  | opening merchant verifier =>
      simp only [AccessStage.act] at leads ⊢
      split at leads
      · next repeated =>
          cases leads
          rw [if_pos repeated]
          exact relies
      · cases leads
  | presenting presented =>
      simp only [AccessStage.act] at leads
      split at leads <;> cases leads
      trivial
  | selecting olderThan limit =>
      simp only [AccessStage.act] at leads ⊢
      split at leads
      · cases leads
      · next doomed selected =>
          cases leads
          exact settled_of_settledSessions good selected

def accessDiscipline : System.Discipline AccessStore AccessStage where
  shared := AccessGood
  relies store stage := stage.Relies store
  apart _ _ := True

theorem access_keeps : System.Keeps accessSystem System.Regime.free accessDiscipline where
  symmetric := fun _ => trivial
  enterRelies call store _ := by cases call <;> trivial
  enterApart _ _ := trivial
  actShared draw stage store good relies := good.move (move_of_act stage draw relies)
  actRelies draw stage store next good relies leads := relies_of_act good stage draw relies leads
  actOthers draw stage store other _ relies otherRelies _ :=
    otherRelies.move (move_of_act stage draw relies)
  actApart _ _ _ _ _ _ _ _ _ _ _ := trivial
  outsideShared event store _ good := good.move (.outside event)
  outsideOthers event store other _ _ relies := relies.move (.outside event)

end Clients

section Histories

variable [Sha256]

/-- Nothing has been handed out yet. -/
def openingStore (now : Instant) (merchants : List Uuid) (runs : List BenchmarkRun) :
    AccessStore where
  now := now
  merchants := merchants
  runs := runs
  credentials := .empty
  sessions := .empty

/-- The store after some events. -/
def storeAfter [PrintableText] (start : AccessStore) (events : List AccessEvent) : AccessStore :=
  (run accessSystem.step (World.opening start) events).shared

theorem good_openingStore (now : Instant) (merchants : List Uuid) (runs : List BenchmarkRun) :
    AccessGood (openingStore now merchants runs) where
  filed := fun _ member => absurd member (Table.not_mem_empty _)
  kept := fun _ member => by cases member
  issuedOnce := fun _ member => by cases member
  revoked := fun _ member => absurd member (Table.not_mem_empty _)
  withdrawnIssued := fun _ member => by cases member
  recorded := fun _ member => absurd member (Table.not_mem_empty _)
  openedOnce := fun _ member => by cases member
  closedRow := fun _ member => absurd member (Table.not_mem_empty _)
  closedOpened := fun _ member => by cases member
  purgedSettled := fun _ member => by cases member
  ordinary := fun _ member => by cases member

theorem good_storeAfter [PrintableText] (now : Instant) (merchants : List Uuid)
    (runs : List BenchmarkRun) (events : List AccessEvent) :
    AccessGood (storeAfter (openingStore now merchants runs) events) := by
  have opening : System.Obeys accessDiscipline (World.opening (openingStore now merchants runs)) :=
    System.obeys_opening (good_openingStore now merchants runs)
  exact (opening.run access_keeps (System.guarded_free accessSystem _ events)).shared

/-- What holds of a store whose rows agree with the record. -/
theorem AccessGood.ends {store : AccessStore} (good : AccessGood store) : AccessEnds store := by
  constructor
  · exact fun presented principal authenticated noCollision noLineFeed =>
      handed_of_authenticate good authenticated noCollision noLineFeed
  · intro opening isOpening
    rcases good.ordinary opening isOpening with ⟨issue, isIssue, sameId, merchant, isOrdinary⟩
    refine ⟨⟨issue, isIssue, sameId⟩, ?_⟩
    intro other isOther otherId
    rw [good.issuedOnce other isOther issue isIssue (otherId.trans sameId.symm)]
    exact ⟨merchant, isOrdinary⟩
  · intro opening isOpening isPurged
    rcases good.purgedSettled opening.sessionId isPurged with ⟨other, isOther, same, settled⟩
    rw [← good.openedOnce other isOther opening isOpening same]
    exact settled

/-- Whatever the clients do, in whatever order, access ends when it is withdrawn. -/
theorem access_ends [PrintableText] (now : Instant) (merchants : List Uuid) (runs : List BenchmarkRun)
    (events : List AccessEvent) :
    AccessEnds (storeAfter (openingStore now merchants runs) events) :=
  (good_storeAfter now merchants runs events).ends

end Histories

section Sample

def sampleSecret : Hex64 where
  chars := List.replicate 64 'a'
  isHex := by decide
  length := by decide

def secretDigest : Hex64 where
  chars := "ffe054fe7ae0cb6dc65c3af9b61d5209f439851db43d0ba5997337df154668eb".toList
  isHex := by decide
  length := by decide

local instance sampleSha256 : Sha256 where
  hexdigest text :=
    if text = secretText sampleSecret then secretDigest else sampleSecret

local instance sampleText : PrintableText where
  isPrintable := Char.isAlphanum

def sampleDraw : AccessDraw where
  id := 7
  secret := sampleSecret

/-- A key is issued for a merchant. -/
def sampleStore : AccessStore :=
  storeAfter (openingStore 0 [1] [])
    [.arrive 0 (.issue 1 "laptop" .development), .act 0 sampleDraw]

def sampleKey : CredentialIssue where
  credentialId := 7
  merchantId := 1
  benchmarkRunId := none
  secret := sampleSecret
  marker := .development

/-- A key that was issued for development authenticates with the other marker too, which is
not the token that was handed out. -/
theorem marker_unread :
    authenticate sampleStore (formatToken 7 sampleSecret .live) =
        some { merchantId := 1, credentialId := 7, benchmarkCapability := none } ∧
      sampleStore.issued.map CredentialIssue.token = [formatToken 7 sampleSecret .development] ∧
      formatToken 7 sampleSecret .live ≠ formatToken 7 sampleSecret .development := by
  have good : AccessGood sampleStore := good_storeAfter 0 [1] [] _
  have isIssued : sampleStore.issued = [sampleKey] := by decide +kernel
  have member : sampleKey ∈ sampleStore.issued := by
    rw [isIssued]
    exact List.mem_singleton_self _
  have notWithdrawn : sampleKey.credentialId ∉ sampleStore.withdrawn := by decide +kernel
  refine ⟨authenticate_token good member notWithdrawn .live, ?_, ?_⟩
  · rw [isIssued]
    rfl
  · intro same
    have sameChars := congrArg String.toList same
    rw [formatToken, formatToken, String.toList_ofList, String.toList_ofList] at sameChars
    exact absurd sameChars (by decide +kernel)

end Sample

end AgentRank.Auth
