import AgentRank.Payments.Clients
import AgentRank.Payments.Observations

/-!
# One outcome for one attempt

However deliveries and everything else interleave, the first delivery that settles an
attempt is the only one.  Its event is the only settlement in the trail of the attempt, and
every later delivery that disagrees leaves one conflict there.
-/

namespace AgentRank.Payments

open Checkout Inventory Relational Store Text Transition Transaction

/-! ## What callers are told -/

/-- The database, and what the callers of the operations were told so far. -/
structure Told where
  database : Database
  answers : List (Operation × PaymentOutcome)

namespace Told

/-- Before anybody called. -/
def opening (database : Database) : Told where
  database := database
  answers := []

/-- What was told about one attempt. -/
def reports (told : Told) (attemptId : Uuid) : List (Operation × PaymentOutcome) :=
  told.answers.filter fun report => report.2.attempt.id == attemptId

/-- The reports that the attempt has just been settled. -/
def news (told : Told) (attemptId : Uuid) : List (Operation × PaymentOutcome) :=
  (told.reports attemptId).filter fun report => (report.1.report report.2).isNews

/-- The reports of definitive deliveries. -/
def verdicts (told : Told) (attemptId : Uuid) : List (Operation × PaymentOutcome) :=
  (told.reports attemptId).filter fun report => report.1.verdict.isSome

/-- The conflicts that were reported. -/
def conflicts (told : Told) (attemptId : Uuid) : List OutcomeConflict :=
  (told.reports attemptId).filterMap fun report => report.2.conflict

end Told

/-- The outcome events of one attempt. -/
def attemptTrail (database : Database) (attemptId : Uuid) : List AuditEvent :=
  (outcomeTrail database).filter fun event => event.resourceId == attemptId

variable {final : Database}

section System

variable [CaseFolding] [OperationDigest] [PrintableText]

/-- What the caller of an operation is told, when it commits and reports an outcome. -/
def answered (call : Operation × Readings) (database : Database) : Option PaymentOutcome :=
  match call.1.perform call.2 database with
  | .ok (answer, _) => answer
  | .error _ => none

def deliver (call : Operation × Readings) (told : Told) : Told where
  database := serve call told.database
  answers :=
    told.answers ++
      ((answered call told.database).map fun outcome => (call.1, outcome)).toList

variable {call : Operation × Readings} {told : Told} {attemptId : Uuid}

theorem deliver_of_error {failure : Failure}
    (refused : call.1.perform call.2 told.database = .error failure) : deliver call told = told := by
  have same : serve call told.database = told.database := settle_of_error refused
  have silent : answered call told.database = none := by simp only [answered, refused]
  simp only [deliver, same, silent, Option.map_none, Option.toList_none, List.append_nil]

theorem deliver_of_ok {answer : Option PaymentOutcome}
    (committed : call.1.perform call.2 told.database = .ok (answer, final)) :
    deliver call told =
      { database := final
        answers := told.answers ++ (answer.map fun outcome => (call.1, outcome)).toList } := by
  have settled : serve call told.database = final := settle_of_ok committed
  have spoken : answered call told.database = answer := by simp only [answered, committed]
  simp only [deliver, settled, spoken]

/-- The calls go on as if nobody was told. -/
theorem database_run_deliver (calls : List (Operation × Readings)) (told : Told) :
    (run deliver told calls).database = run serve told.database calls := by
  induction calls generalizing told with
  | nil => rfl
  | cons call rest ih => exact ih (deliver call told)

end System

variable {outcome : PaymentOutcome} {database : Database} {operation : Operation}
  {attemptId : Uuid}

/-- A report about an attempt is the last one. -/
theorem reports_append {told : Told} (isAttempt : outcome.attempt.id = attemptId) :
    Told.reports { database := database, answers := told.answers ++ [(operation, outcome)] }
      attemptId = told.reports attemptId ++ [(operation, outcome)] := by
  simp [Told.reports, isAttempt]

section Reports

variable {told : Told} {attemptId : Uuid} {database : Database} {operation : Operation}
  {outcome : PaymentOutcome}

theorem news_append (isAttempt : outcome.attempt.id = attemptId) :
    Told.news { database := database, answers := told.answers ++ [(operation, outcome)] }
      attemptId = told.news attemptId ++
        if (operation.report outcome).isNews then [(operation, outcome)] else [] := by
  rw [Told.news, reports_append isAttempt, List.filter_append, List.filter_singleton]
  cases (operation.report outcome).isNews <;> rfl

theorem verdicts_append (isAttempt : outcome.attempt.id = attemptId) :
    Told.verdicts { database := database, answers := told.answers ++ [(operation, outcome)] }
      attemptId = told.verdicts attemptId ++
        if operation.verdict.isSome then [(operation, outcome)] else [] := by
  rw [Told.verdicts, reports_append isAttempt, List.filter_append, List.filter_singleton]
  cases operation.verdict.isSome <;> rfl

theorem conflicts_append (isAttempt : outcome.attempt.id = attemptId) :
    Told.conflicts { database := database, answers := told.answers ++ [(operation, outcome)] }
      attemptId = told.conflicts attemptId ++ outcome.conflict.toList := by
  rw [Told.conflicts, reports_append isAttempt, List.filterMap_append]
  cases conflict : outcome.conflict <;> simp [Told.conflicts, conflict]

end Reports

/-- A report about another attempt does not concern this one. -/
theorem reports_append_of_ne {told : Told} (isOther : outcome.attempt.id ≠ attemptId) :
    Told.reports { database := database, answers := told.answers ++ [(operation, outcome)] }
      attemptId = told.reports attemptId := by
  simp [Told.reports, isOther]

theorem attemptTrail_congr (same : outcomeTrail final = outcomeTrail database) :
    attemptTrail final attemptId = attemptTrail database attemptId :=
  congrArg (List.filter _) same

/-- An event of the attempt joins its trail. -/
theorem attemptTrail_append {event : AuditEvent}
    (trail : outcomeTrail final = outcomeTrail database ++ [event])
    (names : event.resourceId = attemptId) :
    attemptTrail final attemptId = attemptTrail database attemptId ++ [event] := by
  simp [attemptTrail, trail, names]

/-- An event of another attempt does not. -/
theorem attemptTrail_append_of_ne {event : AuditEvent}
    (trail : outcomeTrail final = outcomeTrail database ++ [event])
    (isOther : event.resourceId ≠ attemptId) :
    attemptTrail final attemptId = attemptTrail database attemptId := by
  simp [attemptTrail, trail, isOther]

/-! ## One settlement -/

theorem not_terminal_of_isDispatched {status : PaymentAttemptStatus}
    (isDispatched : status.isDispatched = true) : status.isTerminal = false := by
  cases status with
  | inFlight | unknown => rfl
  | admitted | succeeded | failed => cases isDispatched

/-- An attempt that is not settled has no settlement and no conflict.  A settled one was
settled by the first definitive delivery, which alone was reported as news and appended
its event; what followed in its trail are the conflicts that were reported. -/
structure SettledOnce (start : Database) (attemptId : Uuid) (told : Told) : Prop where
  unsettled : (∀ attempt, told.database.attempts.get? attemptId = some attempt →
      attempt.status.isTerminal = false) →
    told.news attemptId = [] ∧ told.verdicts attemptId = [] ∧ told.conflicts attemptId = [] ∧
      attemptTrail told.database attemptId = attemptTrail start attemptId
  settled : ∀ attempt, told.database.attempts.get? attemptId = some attempt →
    attempt.status.isTerminal = true →
      ∃ operation outcome event later,
        told.news attemptId = [(operation, outcome)] ∧
        told.verdicts attemptId = (operation, outcome) :: later ∧
        outcome.attempt = attempt ∧ operation.verdict = some attempt.status ∧
        event.eventType = operation.settlementType attempt.status ∧
        attemptTrail told.database attemptId = attemptTrail start attemptId ++
          event :: (told.conflicts attemptId).map (conflictEvent attempt)

section Steps

variable {start : Database} {told next : Told} {attemptId : Uuid}

/-- What does not concern an attempt. -/
structure Aside (attemptId : Uuid) (told next : Told) : Prop where
  reports : next.reports attemptId = told.reports attemptId
  trail : attemptTrail next.database attemptId = attemptTrail told.database attemptId
  kept : ∀ attempt, told.database.attempts.get? attemptId = some attempt →
    attempt.status.isTerminal = true → next.database.attempts.get? attemptId = some attempt
  fresh : ∀ attempt, next.database.attempts.get? attemptId = some attempt →
    attempt.status.isTerminal = true → told.database.attempts.get? attemptId = some attempt

theorem SettledOnce.aside (once : SettledOnce start attemptId told)
    (aside : Aside attemptId told next) : SettledOnce start attemptId next := by
  constructor
  · intro isOpen
    simp only [Told.news, Told.verdicts, Told.conflicts, aside.reports, aside.trail]
    apply once.unsettled
    intro attempt found
    cases isTerminal : attempt.status.isTerminal with
    | false => rfl
    | true =>
        rw [isOpen attempt (aside.kept attempt found isTerminal)] at isTerminal
        cases isTerminal
  · intro attempt found isTerminal
    simp only [Told.news, Told.verdicts, Told.conflicts, aside.reports, aside.trail]
    exact once.settled attempt (aside.fresh attempt found isTerminal) isTerminal

/-- A delivery reports about its attempt. -/
theorem Delivery.attempt_id (delivery : Delivery database attemptId operation outcome final) :
    outcome.attempt.id = attemptId := by
  cases delivery with
  | idle found => exact (Table.get?_eq_some_iff.mp found).2
  | clouded _ attempt source found _ _ isRow =>
      rw [isRow]
      exact (Table.get?_eq_some_iff.mp found).2
  | disputed attempt observed status found _ _ _ isRow =>
      rw [isRow]
      exact (Table.get?_eq_some_iff.mp found).2
  | settled _ attempt row event found _ sameId _ _ isRow =>
      rw [isRow]
      exact sameId.trans (Table.get?_eq_some_iff.mp found).2

/-- A delivery about another attempt is aside. -/
theorem Delivery.aside {otherId : Uuid}
    (delivery : Delivery told.database otherId operation outcome final)
    (isOther : otherId ≠ attemptId) :
    Aside attemptId told
      { database := final, answers := told.answers ++ [(operation, outcome)] } := by
  have reportOther : outcome.attempt.id ≠ attemptId := by
    rw [delivery.attempt_id]
    exact isOther
  have elsewhere : ∀ {row : PaymentAttempt}, row.id = otherId →
      (told.database.attempts.set row).get? attemptId =
        told.database.attempts.get? attemptId := by
    intro row rowId
    have otherKey : Keyed.key row ≠ attemptId := fun sameKey => isOther (rowId.symm.trans sameKey)
    exact Table.get?_set_of_ne otherKey
  have same : final.attempts.get? attemptId = told.database.attempts.get? attemptId := by
    cases delivery with
    | idle => rfl
    | disputed => rfl
    | clouded _ attempt source found _ _ _ _ rows =>
        have rowId : (unknownRow attempt source).id = otherId :=
          (Table.get?_eq_some_iff.mp found).2
        rw [rows]
        exact elsewhere rowId
    | settled _ attempt row event found _ sameId _ _ _ _ _ rows =>
        rw [rows]
        exact elsewhere (sameId.trans (Table.get?_eq_some_iff.mp found).2)
  constructor
  · exact reports_append_of_ne reportOther
  · cases delivery with
    | idle => rfl
    | clouded _ _ _ _ _ _ _ _ _ _ trail => exact attemptTrail_congr trail
    | disputed attempt observed status found =>
        have otherEvent : attempt.id ≠ attemptId := by
          rw [show attempt.id = otherId from (Table.get?_eq_some_iff.mp found).2]
          exact isOther
        exact attemptTrail_append_of_ne (outcomeTrail_append rfl rfl) otherEvent
    | settled _ _ _ _ _ _ _ _ _ _ _ _ _ _ trail _ names =>
        exact attemptTrail_append_of_ne trail (names ▸ isOther)
  · exact fun attempt found _ => same.trans found
  · exact fun attempt found _ => same.symm.trans found

/-- A delivery about the attempt keeps it settled once, or settles it. -/
theorem SettledOnce.delivery (once : SettledOnce start attemptId told)
    (delivery : Delivery told.database attemptId operation outcome final) :
    SettledOnce start attemptId
      { database := final, answers := told.answers ++ [(operation, outcome)] } := by
  have isAttempt := delivery.attempt_id
  have stays : ∀ {attempt row : PaymentAttempt},
      told.database.attempts.get? attemptId = some attempt →
        told.database.attempts.get? attemptId = some row → attempt = row := by
    intro attempt row found foundRow
    exact Option.some.inj (found.symm.trans foundRow)
  have stored : ∀ {attempt row : PaymentAttempt},
      told.database.attempts.get? attemptId = some attempt → row.id = attempt.id →
        final.attempts = told.database.attempts.set row →
          final.attempts.get? attemptId = some row := by
    intro attempt row found sameId rows
    rcases Table.get?_eq_some_iff.mp found with ⟨member, rfl⟩
    have sameKey : Keyed.key attempt = Keyed.key row := sameId.symm
    rw [rows, sameKey]
    exact Table.get?_set_self member sameKey
  constructor
  · intro isOpen
    rw [news_append isAttempt, verdicts_append isAttempt, conflicts_append isAttempt]
    cases delivery with
    | idle found unchanged quiet agrees =>
        have undecided : operation.verdict = none := by
          cases verdict : operation.verdict with
          | none => rfl
          | some status =>
              have isTerminal := Operation.verdict_isTerminal verdict
              rw [← agrees status verdict, isOpen _ found] at isTerminal
              cases isTerminal
        simpa [quiet, undecided, Operation.report_of_unchanged unchanged] using
          once.unsettled isOpen
    | clouded _ attempt source found inFlight undecided isRow quiet rows stock trail =>
        have before := once.unsettled (by
          intro row foundRow
          rw [stays foundRow found, inFlight]
          rfl)
        have noNews : (operation.report outcome).isNews = false := by
          apply Operation.report_of_undecided undecided
          rw [isRow]
          rfl
        simpa [quiet, undecided, noNews, attemptTrail_congr trail] using before
    | disputed attempt observed status found isTerminal =>
        rw [isOpen attempt found] at isTerminal
        cases isTerminal
    | settled _ attempt row event found _ sameId _ isTerminal _ _ _ rows =>
        rw [isOpen row (stored found sameId rows)] at isTerminal
        cases isTerminal
  · intro attempt found isTerminal
    rw [news_append isAttempt, verdicts_append isAttempt, conflicts_append isAttempt]
    cases delivery with
    | idle foundRow unchanged quiet agrees =>
        rcases once.settled attempt found isTerminal with
          ⟨first, firstOutcome, event, later, news, verdicts, isFirst, verdict, isType, trail⟩
        rw [news, verdicts, Operation.report_of_unchanged unchanged, quiet, List.cons_append]
        refine ⟨first, firstOutcome, event, _, rfl, rfl, isFirst, verdict, isType, ?_⟩
        rw [Option.toList_none, List.append_nil]
        exact trail
    | clouded _ before source foundBefore _ _ _ _ rows =>
        have isRow := @stored before (unknownRow before source) foundBefore rfl rows
        rw [found, Option.some.injEq] at isRow
        rw [isRow] at isTerminal
        cases isTerminal
    | disputed before observed status foundBefore _ isVerdict _ _ unchanged conflict =>
        rw [← stays foundBefore found] at isTerminal ⊢
        rcases once.settled before foundBefore isTerminal with
          ⟨first, firstOutcome, event, later, news, verdicts, isFirst, verdict, isType, trail⟩
        have sameId : before.id = attemptId := (Table.get?_eq_some_iff.mp foundBefore).2
        rw [news, verdicts, Operation.report_of_unchanged unchanged, conflict, List.cons_append]
        refine ⟨first, firstOutcome, event, _, rfl, rfl, isFirst, verdict, isType, ?_⟩
        rw [attemptTrail_append (outcomeTrail_append rfl rfl) (by exact sameId), trail]
        simp
    | settled _ before row event foundBefore isDispatched sameId isVerdict _ isRow changed quiet
        rows stock trail isType names =>
        have isStored := stored foundBefore sameId rows
        rw [found, Option.some.injEq] at isStored
        rw [← isStored] at isRow isVerdict isType
        have wasOpen := once.unsettled (by
          intro earlier foundEarlier
          rw [stays foundEarlier foundBefore]
          exact not_terminal_of_isDispatched isDispatched)
        rcases wasOpen with ⟨news, verdicts, conflicts, earlier⟩
        have isNews := @Operation.report_of_settled operation outcome quiet changed
          (by rw [isRow]; exact isTerminal)
        rw [news, verdicts, conflicts, isNews, isVerdict, quiet]
        refine ⟨operation, outcome, event, [], rfl, rfl, isRow, isVerdict, isType, ?_⟩
        rw [attemptTrail_append trail names, earlier]
        rfl

end Steps

/-! ## What a conflict rests on -/

/-- The attempt names a hold and a quote with lines. -/
def Backs (ledger : Ledger) (attempt : PaymentAttempt) : Prop :=
  (∃ reservation ∈ ledger.reservations, reservation.id = attempt.reservationId) ∧
    ∃ checkout ∈ ledger.checkouts, checkout.id = attempt.checkoutId ∧
      checkout.merchantId = attempt.merchantId ∧ checkout.lines ≠ []

/-- Every attempt names a hold and a quote with lines. -/
def Backed (ledger : Ledger) : Prop :=
  ∀ attempt ∈ ledger.attempts, Backs ledger attempt

/-- A quote and what it became. -/
def SameOffer (before after : CheckoutSession) : Prop :=
  after.id = before.id ∧ after.merchantId = before.merchantId ∧ after.lines = before.lines

/-- A hold and what it became. -/
def SameHold (before after : InventoryReservation) : Prop :=
  after.id = before.id

variable {attempt : PaymentAttempt}

section Backed

variable {allowance : Allowance} {clock : Readings} {ledger next : Ledger}

/-- No movement loses a quote. -/
theorem Movement.keeps_checkouts (movement : Movement allowance clock ledger next)
    {checkout : CheckoutSession} (member : checkout ∈ ledger.checkouts) :
    ∃ after ∈ next.checkouts, SameOffer checkout after := by
  cases movement with
  | untouched | restocked | reserved | admitted | dispatched | clouded | failed | disputed
  | released => exact ⟨checkout, member, rfl, rfl, rfl⟩
  | quoted _ _ _ _ _ inserted =>
      exact ⟨checkout, (Table.mem_insert?_iff inserted).mpr (Or.inl member), rfl, rfl, rfl⟩
  | succeeded attempt paid _ _ _ paidAt _ _ _ _ _ named =>
      have sameKey : Keyed.key paid = Keyed.key { paid with status := .paid, paidAt := paidAt } :=
        rfl
      exact Table.exists_mem_set named sameKey ⟨rfl, rfl, rfl⟩ (fun _ => ⟨rfl, rfl, rfl⟩) member
  | withdrawn cancelled cancelledAt _ named =>
      have sameKey : Keyed.key cancelled =
          Keyed.key { cancelled with status := .cancelled, cancelledAt := cancelledAt } := rfl
      exact Table.exists_mem_set named sameKey ⟨rfl, rfl, rfl⟩ (fun _ => ⟨rfl, rfl, rfl⟩) member

/-- No movement loses a hold. -/
theorem Movement.keeps_reservations (movement : Movement allowance clock ledger next)
    {reservation : InventoryReservation} (member : reservation ∈ ledger.reservations) :
    ∃ after ∈ next.reservations, SameHold reservation after := by
  have rewritten : ∀ {old row : InventoryReservation}, old ∈ ledger.reservations →
      row.id = old.id → ∃ after ∈ ledger.reservations.set row, SameHold reservation after := by
    intro old row oldMem sameId
    have sameKey : Keyed.key old = Keyed.key row := sameId.symm
    exact Table.exists_mem_set oldMem sameKey sameId (fun _ => rfl) member
  cases movement with
  | untouched | restocked | quoted | dispatched | clouded | disputed =>
      exact ⟨reservation, member, rfl⟩
  | reserved _ _ _ _ _ _ _ _ inserted =>
      exact ⟨reservation, (Table.mem_insert?_iff inserted).mpr (Or.inl member), rfl⟩
  | admitted _ _ _ _ _ _ _ _ held => exact rewritten held rfl
  | succeeded _ _ _ _ _ _ _ _ _ _ _ _ _ held => exact rewritten held rfl
  | failed _ _ _ _ _ _ _ _ _ held => exact rewritten held rfl
  | released _ _ held => exact rewritten held rfl
  | withdrawn _ _ _ _ _ _ givesBack =>
      cases givesBack with
      | nothing => exact ⟨reservation, member, rfl⟩
      | hold _ _ held => exact rewritten held rfl

theorem Backs.movement (backs : Backs ledger attempt)
    (movement : Movement allowance clock ledger next) : Backs next attempt := by
  rcases backs with ⟨⟨reservation, held, holdId⟩, checkout, quoted, quoteId, merchant, hasLines⟩
  rcases movement.keeps_reservations held with ⟨hold, holdMem, sameHold⟩
  rcases movement.keeps_checkouts quoted with ⟨quote, quoteMem, sameId, sameMerchant, sameLines⟩
  exact ⟨⟨hold, holdMem, sameHold.trans holdId⟩, quote, quoteMem, sameId.trans quoteId,
    sameMerchant.trans merchant, sameLines ▸ hasLines⟩

theorem Backs.same {row : PaymentAttempt} (backs : Backs ledger attempt)
    (same : SamePayment row attempt) : Backs ledger row := by
  unfold Backs
  rw [same.reservationId, same.checkoutId, same.merchantId]
  exact backs

/-- Every attempt stays backed. -/
theorem Backed.movement (backed : Backed ledger) (movement : Movement allowance clock ledger next) :
    Backed next := by
  have advanced : ∀ {attempt row : PaymentAttempt}, attempt ∈ ledger.attempts →
      Advances clock.transactionTime attempt row → ∀ other ∈ ledger.attempts.set row,
        Backs ledger other := by
    intro attempt row member advances other otherMem
    rcases (Table.mem_set_iff_ne member advances.same.id.symm).mp otherMem with rfl | ⟨old, _⟩
    · exact (backed attempt member).same advances.same
    · exact backed other old
  have stands : ∀ row ∈ next.attempts, Backs ledger row := by
    cases movement with
    | untouched | restocked | quoted | reserved | withdrawn | released | disputed => exact backed
    | admitted checkout reservation key attemptId attempts quoted isOpen hasLines held _ _ _ _ _ _
        inserted =>
        intro row member
        rcases (Table.mem_insert?_iff inserted).mp member with old | rfl
        · exact backed row old
        · exact ⟨⟨reservation, held, rfl⟩, checkout, quoted, rfl, rfl, hasLines⟩
    | dispatched attempt old isAdmitted => exact advanced old (.dispatched isAdmitted)
    | clouded attempt source old inFlight => exact advanced old (.clouded source inFlight)
    | succeeded attempt _ _ reference source _ _ _ _ old isDispatched =>
        exact advanced old (.succeeded reference source isDispatched)
    | failed attempt _ failureCode reference source _ _ old isDispatched =>
        exact advanced old (.failed failureCode reference source isDispatched)
  exact fun row member => (stands row member).movement movement

end Backed

/-- An observation that contradicts a settled attempt is recorded as a conflict. -/
theorem record_of_conflict {result : ProviderResult} (source : OutcomeSource)
    (releaseReason : ReleaseReason) (transactionTime : Instant)
    (backs : Backs (ledgerOf database) attempt)
    (found : database.attempts.get? attemptId = some attempt)
    (contradicts : result.outcome = .succeeded ∧ attempt.status = .failed ∨
      result.outcome = .failed ∧ attempt.status = .succeeded) :
    record attemptId result source releaseReason transactionTime database =
      .ok
        ({ attempt := attempt
           conflict := some { authoritative := attempt.status, observed := result.outcome } },
          { database with
            auditEvents :=
              database.auditEvents ++
                [conflictEvent attempt
                  { authoritative := attempt.status, observed := result.outcome }] }) := by
  rcases backs with ⟨⟨reservation, held, holdId⟩, checkout, quoted, quoteId, merchant, hasLines⟩
  have locks : Locks database attemptId
      { attempt := attempt, checkout := checkout, reservation := reservation } :=
    { attempt := found
      checkout := findCheckout_eq_some_iff.mpr ⟨quoted, quoteId, merchant⟩
      reservation := Table.get?_eq_some_iff.mpr ⟨held, holdId⟩ }
  unfold record
  rcases contradicts with ⟨answer, status⟩ | ⟨answer, status⟩
  · rw [answer]
    refine bind_eq_ok_iff.mpr
      ⟨_, database, lockOutcome_eq_ok_iff.mpr ⟨locks, fun _ => hasLines, rfl⟩, ?_⟩
    simp only [status]
    exact recordConflict_eq_ok_iff.mpr ⟨by rw [status], by rw [status]⟩
  · rw [answer]
    refine bind_eq_ok_iff.mpr
      ⟨_, database, lockOutcome_eq_ok_iff.mpr ⟨locks, nofun, rfl⟩, ?_⟩
    simp only [status]
    exact recordConflict_eq_ok_iff.mpr ⟨by rw [status], by rw [status]⟩

/-- The guard of the merchant's world lets the caller of an observation through. -/
def Operation.Heard (database : Database) : Operation → Prop
  | applyProviderObservation attemptId _ _ capability =>
      ∃ result, requireMutationAuthority attemptId capability database = .ok (result, database)
  | _ => True

/-- What a call does to an attempt: only news moves stock, and only once per settlement; an
answer that nobody can tell moves nothing; and an answer that contradicts the attempt is
reported as one conflict, which is all that is written. -/
structure DeliversOnce (database : Database) (attemptId : Uuid) [CaseFolding]
    [OperationDigest] [PrintableText] (call : Operation × Readings) : Prop where
  stock : ∀ outcome, answered call database = some outcome → outcome.attempt.id = attemptId →
    ((call.1.report outcome).isNews = true ∧
      ∃ attempt, database.attempts.get? attemptId = some attempt ∧
        attempt.status.isOpen = true ∧
          MovesStock database (serve call database) attempt outcome.attempt.status) ∨
    ((call.1.report outcome).isNews = false ∧
      (serve call database).reservations = database.reservations ∧
        (serve call database).variants = database.variants)
  unknown : call.1.observed = some (attemptId, .unknown) →
    (serve call database).reservations = database.reservations ∧
      (serve call database).variants = database.variants
  conflict : ∀ attempt observed status, database.attempts.get? attemptId = some attempt →
    attempt.status.isTerminal = true → call.1.observed = some (attemptId, observed) →
      observed.settlement = some status → status ≠ attempt.status → call.1.Heard database →
        ∃ outcome, answered call database = some outcome ∧
          outcome.conflict = some { authoritative := attempt.status, observed := observed } ∧
          serve call database =
            { database with
              auditEvents :=
                database.auditEvents ++
                  [conflictEvent attempt
                    { authoritative := attempt.status, observed := observed }] }

section Calls

variable [CaseFolding] [OperationDigest] [PrintableText] {database final : Database}
  {attemptId : Uuid} {call : Operation × Readings} {start : Database} {told : Told}

omit [CaseFolding] [OperationDigest] [PrintableText] in
theorem Delivery.stock (delivery : Delivery database attemptId operation outcome final) :
    ((operation.report outcome).isNews = true ∧
      ∃ attempt, database.attempts.get? attemptId = some attempt ∧
        attempt.status.isOpen = true ∧
          MovesStock database final attempt outcome.attempt.status) ∨
    ((operation.report outcome).isNews = false ∧
      final.reservations = database.reservations ∧ final.variants = database.variants) := by
  cases delivery with
  | idle found unchanged => exact Or.inr ⟨Operation.report_of_unchanged unchanged, rfl, rfl⟩
  | clouded _ attempt source found inFlight undecided isRow quiet rows stock trail =>
      have noNews : (operation.report outcome).isNews = false := by
        apply Operation.report_of_undecided undecided
        rw [isRow]
        rfl
      exact Or.inr ⟨noNews, stock⟩
  | disputed _ _ _ _ _ _ _ _ unchanged =>
      exact Or.inr ⟨Operation.report_of_unchanged unchanged, rfl, rfl⟩
  | settled _ attempt row event found isDispatched _ _ isTerminal isRow changed quiet _ stock =>
      rw [← isRow] at isTerminal stock
      exact Or.inl ⟨Operation.report_of_settled quiet changed isTerminal, attempt, found,
        isOpen_of_isDispatched isDispatched, stock⟩

/-- A call that was answered committed, and delivered what it answered. -/
theorem delivery_of_answered (spoken : answered call database = some outcome) :
    Delivery database outcome.attempt.id call.1 outcome (serve call database) := by
  unfold answered at spoken
  cases performed : call.1.perform call.2 database with
  | error failure =>
      rw [performed] at spoken
      cases spoken
  | ok result =>
      rcases result with ⟨answer, final⟩
      rw [performed] at spoken
      cases about : call.1.about with
      | none =>
          rw [(Operation.perform_quiet about performed).1] at spoken
          cases spoken
      | some deliveredId =>
          rcases Operation.perform_delivery about performed with ⟨told, answerEq, delivery⟩
          cases answerEq.symm.trans spoken
          have settled : serve call database = final := settle_of_ok performed
          rw [settled, delivery.attempt_id]
          exact delivery

theorem perform_of_conflict {observed : ProviderOutcome} {status : PaymentAttemptStatus}
    (backs : Backs (ledgerOf database) attempt)
    (found : database.attempts.get? attemptId = some attempt)
    (isTerminal : attempt.status.isTerminal = true)
    (isObserved : call.1.observed = some (attemptId, observed))
    (settles : observed.settlement = some status) (contradicts : status ≠ attempt.status)
    (heard : call.1.Heard database) :
    ∃ outcome,
      outcome.conflict = some { authoritative := attempt.status, observed := observed } ∧
      call.1.perform call.2 database =
        .ok (some outcome,
          { database with
            auditEvents :=
              database.auditEvents ++
                [conflictEvent attempt
                  { authoritative := attempt.status, observed := observed }] }) := by
  have disagrees : observed = .succeeded ∧ attempt.status = .failed ∨
      observed = .failed ∧ attempt.status = .succeeded := by
    cases observed <;> cases settles <;> cases standing : attempt.status <;>
      simp_all [PaymentAttemptStatus.isTerminal]
  rcases call with ⟨operation, clock⟩
  cases operation with
  | recordExecution deliveredId result =>
      cases isObserved
      have recorded := record_of_conflict .execution .paymentDeclined clock.transactionTime backs
        found disagrees
      refine ⟨{ attempt := attempt, providerCalled := true, conflict := some ⟨_, _⟩ }, rfl,
        bind_eq_ok_iff.mpr ⟨_, _, ?_, rfl⟩⟩
      exact bind_eq_ok_iff.mpr ⟨_, _, recorded, rfl⟩
  | recordQuery deliveredId answer =>
      cases isObserved
      have recorded := record_of_conflict .reconciliation (fromQuery answer).2
        clock.transactionTime backs found disagrees
      refine ⟨{ attempt := attempt, providerCalled := true, conflict := some ⟨_, _⟩
                providerRecord := some answer.record }, rfl,
        bind_eq_ok_iff.mpr ⟨_, _, ?_, rfl⟩⟩
      exact bind_eq_ok_iff.mpr ⟨_, _, recorded, rfl⟩
  | applyProviderObservation deliveredId result source capability =>
      cases isObserved
      rcases heard with ⟨allowed, authority⟩
      have recorded := record_of_conflict source .paymentDeclined clock.transactionTime backs
        found disagrees
      refine ⟨{ attempt := attempt, providerCalled := true, conflict := some ⟨_, _⟩ }, rfl,
        bind_eq_ok_iff.mpr ⟨_, _, ?_, rfl⟩⟩
      refine bind_eq_ok_iff.mpr ⟨_, _, authority, ?_⟩
      exact bind_eq_ok_iff.mpr ⟨_, _, recorded, rfl⟩
  | abandonPaymentAttempt | outside | editCatalog | createCheckout | prepareExecution
  | releaseReservation | cancelCheckout | revokeMandate | admitPayment | beginDispatch
  | beginReconcile | appendReconciled | recordExternalDispatch => cases isObserved

theorem deliversOnce (backed : Backed (ledgerOf database)) (attemptId : Uuid)
    (call : Operation × Readings) : DeliversOnce database attemptId call where
  stock outcome spoken isAttempt := by
    have delivery := delivery_of_answered spoken
    rw [isAttempt] at delivery
    exact delivery.stock
  unknown isObserved := by
    rcases Operation.of_observed isObserved with ⟨isAbout, undecided⟩
    cases performed : call.1.perform call.2 database with
    | error failure =>
        rw [show serve call database = database from settle_of_error performed]
        exact ⟨rfl, rfl⟩
    | ok result =>
        rcases result with ⟨answer, final⟩
        rcases Operation.perform_delivery isAbout performed with ⟨outcome, _, delivery⟩
        rw [show serve call database = final from settle_of_ok performed]
        cases delivery with
        | idle | disputed => exact ⟨rfl, rfl⟩
        | clouded _ _ _ _ _ _ _ _ _ stock => exact stock
        | settled _ _ _ _ _ _ _ verdict =>
            rw [undecided] at verdict
            cases verdict
  conflict attempt observed status found isTerminal isObserved settles contradicts heard := by
    have backs := backed attempt (Table.get?_eq_some_iff.mp found).1
    rcases perform_of_conflict backs found isTerminal isObserved settles contradicts heard with
      ⟨outcome, conflict, performed⟩
    refine ⟨outcome, ?_, conflict, settle_of_ok performed⟩
    simp only [answered, performed]

/-- Whatever is called next, the attempt stays settled once. -/
theorem SettledOnce.deliver (once : SettledOnce start attemptId told)
    (call : Operation × Readings) : SettledOnce start attemptId (deliver call told) := by
  cases performed : call.1.perform call.2 told.database with
  | error failure =>
      rw [deliver_of_error performed]
      exact once
  | ok result =>
      rcases result with ⟨answer, final⟩
      rw [deliver_of_ok performed]
      have settled : serve call told.database = final := settle_of_ok performed
      cases about : call.1.about with
      | none =>
          rcases Operation.perform_quiet about performed with ⟨rfl, quiet⟩
          have movement := serve_movement (call.1.within_sparesNothing told.database)
          have step := serve_attemptStep call told.database
          rw [settled] at movement step
          apply once.aside
          constructor
          · simp [Told.reports]
          · exact attemptTrail_congr quiet
          · exact fun attempt found isTerminal => step.get?_of_terminal found isTerminal
          · intro attempt found isTerminal
            rcases Table.get?_eq_some_iff.mp found with ⟨member, sameId⟩
            have old := movement.settles_nothing quiet member isTerminal
            exact Table.get?_eq_some_iff.mpr ⟨old, sameId⟩
      | some deliveredId =>
          rcases Operation.perform_delivery about performed with ⟨outcome, rfl, delivery⟩
          by_cases isOther : deliveredId = attemptId
          · rw [isOther] at delivery
            exact once.delivery delivery
          · exact once.aside (delivery.aside isOther)

omit [CaseFolding] [OperationDigest] [PrintableText] in
theorem settledOnce_opening (empty : EmptyPaymentHistory start) (attemptId : Uuid) :
    SettledOnce start attemptId (Told.opening start) where
  unsettled _ := ⟨rfl, rfl, rfl, rfl⟩
  settled attempt found :=
    absurd (Table.get?_eq_some_iff.mp found).1 (empty.noAttempt attempt)

/-- Whatever is called in whatever order: an attempt is settled by the first definitive
delivery alone, which is reported as news once and leaves one settlement in its trail, and
the row stays as that delivery left it.  Every later delivery that contradicts it leaves one
conflict.  Stock moves with the news and never otherwise, out of the hold that was bound to
the attempt unless somebody gave that back on purpose. -/
theorem outcome_settles_once (empty : EmptyPaymentHistory start)
    (calls : List (Operation × Readings)) (attemptId : Uuid) :
    let told := run deliver (Told.opening start) calls
    SettledOnce start attemptId told ∧
    (∀ later attempt, told.database.attempts.get? attemptId = some attempt →
      attempt.status.isTerminal = true →
        (run deliver told later).database.attempts.get? attemptId = some attempt) ∧
    (∀ call, DeliversOnce told.database attemptId call) ∧
    (Guarded serve SparesBound start calls → ∀ attempt reservation,
      told.database.attempts.get? attemptId = some attempt → attempt.status.isOpen = true →
        told.database.reservations.get? attempt.reservationId = some reservation →
          reservation.status = .committed) := by
  intro told
  have databaseEq : told.database = run serve start calls :=
    database_run_deliver calls (Told.opening start)
  refine ⟨?_, ?_, ?_, ?_⟩
  · exact @run_invariant_of_step _ _ _ _ (SettledOnce start attemptId) calls
      (fun _ call once => once.deliver call) (settledOnce_opening empty attemptId)
  · intro later attempt found isTerminal
    exact @run_invariant_of_step _ _ _ _
      (fun told : Told => told.database.attempts.get? attemptId = some attempt) later
      (fun told call found =>
        (serve_attemptStep call told.database).get?_of_terminal found isTerminal) found
  · have backed : Backed (ledgerOf told.database) := by
      rw [databaseEq]
      have opens : Backed (ledgerOf start) :=
        fun attempt member => absurd member (empty.noAttempt attempt)
      exact @run_invariant_of_step _ _ _ _ (fun database => Backed (ledgerOf database)) calls
        (fun database call backed =>
          backed.movement (serve_movement (call.1.within_sparesNothing database))) opens
    exact deliversOnce backed attemptId
  · intro spares attempt reservation found isOpen held
    have inStep : InStep told.database := by
      rw [databaseEq]
      exact empty.inStep.run spares
    rcases Table.get?_eq_some_iff.mp found with ⟨member, _⟩
    rcases Table.get?_eq_some_iff.mp held with ⟨heldMem, heldId⟩
    rcases inStep.sound.named attempt member with ⟨hold, holdMem, checkout, _, stands⟩
    have same : reservation = hold :=
      Table.eq_of_key_eq heldMem holdMem (heldId.trans stands.reservationId.symm)
    rw [same, stands.hold, holdStatus_of_isOpen isOpen]

end Calls

section Sample

local instance outcomeFolding : CaseFolding := asciiFolding
local instance outcomeDigest : OperationDigest := ⟨fun _ _ => "sample"⟩
local instance outcomePrintable : PrintableText := ⟨fun _ => true⟩

def sampleAbandonment : Operation × Readings :=
  (.abandonPaymentAttempt 11 .operatorDecision none none, sampleClock)

/-- What is told when the sample payment is answered, and then abandoned. -/
def abandonedAfter (outcome : ProviderOutcome) : Told :=
  run deliver (Told.opening sampleHeldDatabase)
    (sampleCalls ++
      [(.recordExecution 11 { outcome := outcome }, sampleClock), sampleAbandonment])

/-- An abandonment fails an attempt without the event of a failed payment, and what
contradicts a success is refused without a conflict. -/
theorem abandoned_without_failure :
    ((abandonedAfter .unknown).database.attempts.get? 11).map (fun row => row.status) =
      some .failed ∧
    (attemptTrail (abandonedAfter .unknown).database 11).map AuditEvent.eventType =
      [.paymentAbandoned] ∧
    ((abandonedAfter .succeeded).database.attempts.get? 11).map (fun row => row.status) =
      some .succeeded ∧
    (attemptTrail (abandonedAfter .succeeded).database 11).map AuditEvent.eventType =
      [.paymentSucceeded] := by
  refine ⟨?_, ?_, ?_, ?_⟩ <;> decide +kernel

theorem outcome_settles_once_sample :
    ∃ operation outcome, (abandonedAfter .unknown).news 11 = [(operation, outcome)] ∧
      operation.verdict = some .failed := by
  have isFailed : ((abandonedAfter .unknown).database.attempts.get? 11).map
      (fun row => row.status) = some .failed := by
    decide +kernel
  rcases Option.map_eq_some_iff.mp isFailed with ⟨attempt, found, status⟩
  have isTerminal : attempt.status.isTerminal = true := by
    rw [status]
    rfl
  rcases (outcome_settles_once sampleHeldDatabase_empty _ 11).1.settled attempt found isTerminal with
    ⟨operation, outcome, _, _, news, _, _, verdict, _⟩
  rw [status] at verdict
  exact ⟨operation, outcome, news, verdict⟩

end Sample

end AgentRank.Payments
