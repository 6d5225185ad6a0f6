import AgentRank.Payments.Invariants
import AgentRank.Payments.Service

/-!
# No payment is executed twice

Whatever any number of clients do at once, and wherever one of them crashes, a provider
is asked to execute each attempt at most once.  The dispatch mark is claimed by one
client, and an attempt never returns to the status from which it can be claimed.  A
repeat under the same key is answered with the same attempt, and a mandate buys once.
-/

namespace AgentRank.Payments

open Checkout Inventory Relational Store Text Transition

/-- No restraint at all. -/
def sparesNothing : Allowance where
  releases _ := True
  restocks _ _ := True

/-! ## What clients rely on -/

/-- The dispatch of an attempt is marked, and the mark is never taken back. -/
def Claimed (attempts : Table PaymentAttempt) (attemptId : Uuid) : Prop :=
  ∃ row, attempts.get? attemptId = some row ∧ row.status ≠ .admitted

/-- An attempt carries the identity of a request. -/
def Identifies (attempts : Table PaymentAttempt) (request : PayRequest) (attemptId : Uuid) :
    Prop :=
  ∃ row, attempts.get? attemptId = some row ∧ row.checkoutId = request.checkoutId ∧
    row.idempotencyKey = request.idempotencyKey

section Steps

variable {transactionTime : Instant} {attempts next : Table PaymentAttempt}
  {request : PayRequest} {attemptId : Uuid}

theorem Claimed.step (claimed : Claimed attempts attemptId)
    (step : AttemptStep transactionTime attempts next) : Claimed next attemptId := by
  obtain ⟨attempt, found, notAdmitted⟩ := claimed
  obtain ⟨row, foundNext, rfl | advances⟩ := step.get?_of_some found
  · exact ⟨row, foundNext, notAdmitted⟩
  · exact ⟨row, foundNext, advances.notAdmitted⟩

theorem Identifies.step (identifies : Identifies attempts request attemptId)
    (step : AttemptStep transactionTime attempts next) :
    Identifies next request attemptId := by
  obtain ⟨attempt, found, sameCheckout, sameKey⟩ := identifies
  obtain ⟨row, foundNext, rfl | advances⟩ := step.get?_of_some found
  · exact ⟨row, foundNext, sameCheckout, sameKey⟩
  · exact ⟨row, foundNext, advances.same.checkoutId.trans sameCheckout,
      advances.same.idempotencyKey.trans sameKey⟩

/-- One identity is one attempt. -/
theorem Identifies.unique (oneIdentity : OneIdentity attempts) {other : PayRequest}
    {otherId : Uuid} (first : Identifies attempts request attemptId)
    (second : Identifies attempts other otherId)
    (sameCheckout : request.checkoutId = other.checkoutId)
    (sameKey : request.idempotencyKey = other.idempotencyKey) : attemptId = otherId := by
  obtain ⟨row, found, rowCheckout, rowKey⟩ := first
  obtain ⟨otherRow, otherFound, otherCheckout, otherKey⟩ := second
  obtain ⟨member, rowId⟩ := Table.get?_eq_some_iff.mp found
  obtain ⟨otherMem, otherRowId⟩ := Table.get?_eq_some_iff.mp otherFound
  have same : row = otherRow :=
    oneIdentity row member otherRow otherMem
      (rowCheckout.trans (sameCheckout.trans otherCheckout.symm))
      (rowKey.trans (sameKey.trans otherKey.symm))
  rw [← rowId, ← otherRowId, same]

/-- An attempt that can still be dispatched was never claimed. -/
theorem Claimed.not_admitted {row : PaymentAttempt} (claimed : Claimed attempts attemptId)
    (found : attempts.get? attemptId = some row) : row.status ≠ .admitted := by
  obtain ⟨claimedRow, claimedFound, notAdmitted⟩ := claimed
  rw [found, Option.some.injEq] at claimedFound
  rw [claimedFound]
  exact notAdmitted

end Steps

/-- The attempt a stage is about to have executed. -/
def Stage.executing : Stage → Option Uuid
  | execute _ attempt => some attempt.id
  | _ => none

/-- The request a stage serves and the attempt it will answer with. -/
def Stage.serving : Stage → Option (PayRequest × Uuid)
  | dispatch (.pay request _) attemptId => some (request, attemptId)
  | execute (.pay request _) attempt => some (request, attempt.id)
  | record (.pay request _) attemptId _ => some (request, attemptId)
  | reread request _ attemptId _ => some (request, attemptId)
  | _ => none

/-- The attempt in an answer carries the identity that was asked for. -/
def AnswerHolds (attempts : Table PaymentAttempt) (request : PayRequest)
    (result : PaymentResult) : Prop :=
  ∀ attempt, result.attempt = some attempt → Identifies attempts request attempt.id

/-- The attempts a provider was asked to execute. -/
def Shop.executed (shop : Shop) : List Uuid :=
  shop.executions.map PaymentInstruction.attemptId

/-- What holds of the shop at every moment. -/
structure ShopGood (shop : Shop) : Prop where
  oneSale : OneSale shop.database.attempts
  oneIdentity : OneIdentity shop.database.attempts
  executedOnce : shop.executed.Nodup
  executedClaimed : ∀ attemptId ∈ shop.executed, Claimed shop.database.attempts attemptId
  answered : ∀ request result, .paid request result ∈ shop.answers →
    AnswerHolds shop.database.attempts request result

/-- What a client relies on before its next stage. -/
structure StageGood (shop : Shop) (stage : Stage) : Prop where
  executing : ∀ attemptId, stage.executing = some attemptId →
    Claimed shop.database.attempts attemptId ∧ attemptId ∉ shop.executed
  serving : ∀ request attemptId, stage.serving = some (request, attemptId) →
    Identifies shop.database.attempts request attemptId

/-- No two clients are about to have one attempt executed. -/
def Stage.Apart (first second : Stage) : Prop :=
  ∀ attemptId, first.executing = some attemptId → second.executing ≠ some attemptId

/-! ## What one stage does -/

/-- What a stage does to what the others rely on. -/
structure Effect (shop : Shop) (stage : Stage) (after : Shop × Option Stage) : Prop where
  step : ∃ transactionTime,
    AttemptStep transactionTime shop.database.attempts after.1.database.attempts
  executes : after.1.executed = shop.executed ∨
    ∃ attemptId, stage.executing = some attemptId ∧
      after.1.executed = shop.executed ++ [attemptId]
  claims : ∀ next attemptId, after.2 = some next → next.executing = some attemptId →
    (∃ row, shop.database.attempts.get? attemptId = some row ∧ row.status = .admitted) ∧
      Claimed after.1.database.attempts attemptId ∧ after.1.executed = shop.executed
  serves : ∀ next request attemptId, after.2 = some next →
    next.serving = some (request, attemptId) →
      Identifies after.1.database.attempts request attemptId
  tells : after.1.answers = shop.answers ∨
    ∃ answer, after.1.answers = shop.answers ++ [answer] ∧
      ∀ request result, answer = .paid request result →
        AnswerHolds after.1.database.attempts request result ∧
          (result.attempt = none →
            findByIdentity shop.database request.checkoutId request.idempotencyKey = none)

variable {attempt : PaymentAttempt} {request : PayRequest} {purpose : Purpose} {attemptId : Uuid}

namespace Effect

variable {shop : Shop} {stage : Stage} {database : Database} {transactionTime : Instant}

/-- A call returns after a transaction. -/
theorem tell {answer : Answer}
    (step : AttemptStep transactionTime shop.database.attempts database.attempts)
    (holds : ∀ request result, answer = .paid request result →
      AnswerHolds database.attempts request result ∧
        (result.attempt = none →
          findByIdentity shop.database request.checkoutId request.idempotencyKey = none)) :
    Effect shop stage ((shop.commit database).tell answer) where
  step := ⟨transactionTime, step⟩
  executes := Or.inl rfl
  claims := by rintro _ _ ⟨⟩
  serves := by rintro _ _ _ ⟨⟩
  tells := Or.inr ⟨answer, rfl, holds⟩

/-- A call raises, and nothing happened. -/
theorem raise {failure : Failure} : Effect shop stage (shop.tell (.raised failure)) where
  step := ⟨0, AttemptStep.untouched⟩
  executes := Or.inl rfl
  claims := by rintro _ _ ⟨⟩
  serves := by rintro _ _ _ ⟨⟩
  tells := Or.inr ⟨_, rfl, by rintro _ _ ⟨⟩⟩

/-- A call is answered with an attempt of its identity. -/
theorem tellPaid {admission : PaymentAdmission}
    (step : AttemptStep transactionTime shop.database.attempts database.attempts)
    (identifies : Identifies database.attempts request attempt.id) :
    Effect shop stage
      ((shop.commit database).tell
        (.paid request { admission := admission, attempt := some attempt })) := by
  apply tell step
  rintro _ _ ⟨⟩
  constructor
  · rintro _ ⟨⟩
    exact identifies
  · rintro ⟨⟩

/-- A call goes on after a transaction that claimed nothing. -/
theorem goOn {next : Stage}
    (step : AttemptStep transactionTime shop.database.attempts database.attempts)
    (idle : next.executing = none)
    (serves : ∀ request attemptId, next.serving = some (request, attemptId) →
      Identifies database.attempts request attemptId) :
    Effect shop stage ((shop.commit database).goOn next) where
  step := ⟨transactionTime, step⟩
  executes := Or.inl rfl
  claims := by
    rintro _ attemptId ⟨⟩ executing
    rw [idle] at executing
    cases executing
  serves := by
    rintro _ request attemptId ⟨⟩ serving
    exact serves request attemptId serving
  tells := Or.inl rfl

/-- A call goes on to the provider after it claimed the attempt. -/
theorem goExecute {row : PaymentAttempt}
    (found : shop.database.attempts.get? attemptId = some row)
    (isAdmitted : row.status = .admitted)
    (serves : ∀ request admission, purpose = .pay request admission →
      Identifies shop.database.attempts request attemptId)
    (marked : database.attempts = shop.database.attempts.set (dispatchedRow row transactionTime)) :
    Effect shop stage
      ((shop.commit database).goOn
        (.execute purpose (dispatchedRow row transactionTime))) := by
  obtain ⟨member, rowId⟩ := Table.get?_eq_some_iff.mp found
  have step : AttemptStep transactionTime shop.database.attempts database.attempts := by
    rw [marked]
    exact AttemptStep.advanced row _ member (Advances.dispatched isAdmitted)
  have sameId : (dispatchedRow row transactionTime).id = attemptId := rowId
  have claimed : Claimed database.attempts attemptId := by
    refine ⟨dispatchedRow row transactionTime, ?_, nofun⟩
    rw [marked, ← rowId]
    exact Table.get?_set_self member rfl
  refine ⟨⟨transactionTime, step⟩, Or.inl rfl, ?_, ?_, Or.inl rfl⟩
  · rintro _ claimedId ⟨⟩ executing
    simp only [Stage.executing, sameId, Option.some.injEq] at executing
    subst executing
    exact ⟨⟨row, found, isAdmitted⟩, claimed, rfl⟩
  · rintro _ request servedId ⟨⟩ serving
    cases purpose with
    | resume => cases serving
    | pay payRequest admission =>
        simp only [Stage.serving, sameId, Option.some.injEq, Prod.mk.injEq] at serving
        obtain ⟨rfl, rfl⟩ := serving
        exact (serves payRequest admission rfl).step step

/-- A stage does what its transaction commits, or what it does when that raises. -/
theorem perform {α : Type} {transaction : Session α}
    {committed : α → Shop → Shop × Option Stage} {raised : Failure → Shop × Option Stage}
    (onCommit : ∀ value database, transaction shop.database = .ok (value, database) →
      Effect shop stage (committed value (shop.commit database)))
    (onRaise : ∀ failure, Effect shop stage (raised failure)) :
    Effect shop stage (shop.perform transaction committed raised) :=
  Shop.perform_induction (motive := Effect shop stage) onCommit onRaise

end Effect

/-- The attempt that an identity finds carries the identity. -/
theorem identifies_of_findByIdentity {database : Database}
    (found : findByIdentity database request.checkoutId request.idempotencyKey = some attempt) :
    Identifies database.attempts request attempt.id := by
  obtain ⟨member, sameCheckout, sameKey⟩ := findByIdentity_eq_some found
  exact ⟨attempt, Table.get?_eq_some_iff.mpr ⟨member, rfl⟩, sameCheckout, sameKey⟩

section Stages

variable [CaseFolding] [OperationDigest] {input : Input} {shop : Shop}

/-- What beginning to pay does. -/
theorem pay_effect (request : PayRequest) :
    Effect shop (.begin (.pay request)) ((Call.pay request).begin input shop) := by
  unfold Call.begin
  refine Effect.perform (fun admission database committed => ?_) fun _ => Effect.raise
  have movement : Movement sparesNothing input.clock (ledgerOf shop.database)
      (ledgerOf database) := admitPayment_movement committed
  have step := movement.attemptStep
  -- An admission answers with what the identity finds afterwards.
  have identified : ∀ attempt, admission.attempt = some attempt →
      Identifies database.attempts request attempt.id := by
    intro attempt attemptEq
    rcases admitPayment_eq_ok committed with
      ⟨_, rfl, isFound⟩ | ⟨checkout, mandate, reservation, attempts, _, _, _, checkoutEq, _, _,
        isNew, inserted, finalEq, _⟩
    · exact identifies_of_findByIdentity (isFound.symm.trans attemptEq)
    · rw [attemptEq, Option.some.injEq] at isNew
      subst isNew
      rw [finalEq]
      refine ⟨_, Table.get?_eq_some_iff.mpr
        ⟨(Table.mem_insert?_iff inserted).mpr (Or.inr rfl), rfl⟩, ?_, rfl⟩
      exact (findCheckout_eq_some_iff.mp checkoutEq).2.1
  have unanswered : admission.attempt = none →
      findByIdentity shop.database request.checkoutId request.idempotencyKey = none := by
    intro noAttempt
    rcases admitPayment_eq_ok committed with
      ⟨_, _, isFound⟩ | ⟨_, _, _, _, _, _, identityFree, _⟩
    · exact isFound.symm.trans noAttempt
    · exact identityFree
  cases attemptEq : admission.attempt with
  | none =>
      dsimp only
      apply Effect.tell step
      rintro _ _ ⟨⟩
      constructor
      · rintro _ ⟨⟩
      · exact fun _ => unanswered attemptEq
  | some attempt =>
      dsimp only
      split
      · apply Effect.goOn step rfl
        rintro _ _ ⟨⟩
        exact identified attempt attemptEq
      · exact Effect.tellPaid step (identified attempt attemptEq)

/-- What beginning to resume does. -/
theorem resume_effect (attemptId : Uuid) (capability : Option BenchmarkRunCapability) :
    Effect shop (.begin (.resume attemptId capability))
      ((Call.resume attemptId capability).begin input shop) := by
  unfold Call.begin
  refine Effect.perform (fun attempt database committed => ?_) fun _ => Effect.raise
  obtain ⟨row, found, isAdmitted, rfl, rfl⟩ := beginDispatch_eq_ok (beginResume_eq_ok committed)
  apply Effect.goExecute found isAdmitted _ rfl
  rintro _ _ ⟨⟩

/-- What beginning to reconcile does. -/
theorem reconcile_effect (attemptId : Uuid) (capability : Option BenchmarkRunCapability) :
    Effect shop (.begin (.reconcile attemptId capability))
      ((Call.reconcile attemptId capability).begin input shop) := by
  unfold Call.begin
  refine Effect.perform (fun start database committed => ?_) fun _ => Effect.raise
  simp only [beginServiceReconcile, Transaction.bind_eq_ok_iff] at committed
  obtain ⟨_, _, authority, started⟩ := committed
  obtain rfl := requireMutationAuthority_eq_ok authority
  obtain ⟨rfl, _⟩ := beginReconcile_eq_ok started
  have step : AttemptStep input.clock.transactionTime shop.database.attempts
      shop.database.attempts := AttemptStep.untouched
  cases start with
  | settled outcome =>
      apply Effect.tell step
      rintro _ _ ⟨⟩
  | ask question =>
      apply Effect.goOn step rfl
      rintro _ _ ⟨⟩

omit [CaseFolding] [OperationDigest] in
/-- A dispatch that was refused claims nothing. -/
theorem refusedDispatch_effect {stage : Stage}
    (serves : ∀ request admission, purpose = .pay request admission →
      Identifies shop.database.attempts request attemptId) (failure : Failure) :
    Effect shop stage (refusedDispatch shop purpose attemptId failure) := by
  unfold refusedDispatch
  split
  · next request admission _ _ _ _ =>
      have step : AttemptStep 0 shop.database.attempts shop.database.attempts :=
        AttemptStep.untouched
      apply Effect.goOn step rfl
      rintro _ _ ⟨⟩
      exact serves request admission rfl
  · exact Effect.raise

/-- What claiming the dispatch does. -/
theorem dispatch_effect (good : StageGood shop (.dispatch purpose attemptId)) :
    Effect shop (.dispatch purpose attemptId)
      ((Stage.dispatch purpose attemptId).act input shop) := by
  have serves : ∀ request admission, purpose = .pay request admission →
      Identifies shop.database.attempts request attemptId := by
    rintro request admission rfl
    exact good.serving request attemptId rfl
  unfold Stage.act
  refine Effect.perform (fun attempt database committed => ?_)
    (refusedDispatch_effect serves)
  obtain ⟨row, found, isAdmitted, rfl, rfl⟩ := beginDispatch_eq_ok committed
  exact Effect.goExecute found isAdmitted serves rfl

/-- What calling the provider does. -/
theorem execute_effect (good : StageGood shop (.execute purpose attempt)) :
    Effect shop (.execute purpose attempt)
      ((Stage.execute purpose attempt).act input shop) where
  step := ⟨0, AttemptStep.untouched⟩
  executes := Or.inr ⟨attempt.id, rfl, List.map_append⟩
  claims := by rintro _ _ ⟨⟩ ⟨⟩
  serves := by
    rintro _ request attemptId ⟨⟩ serving
    cases purpose with
    | resume => cases serving
    | pay payRequest admission =>
        obtain ⟨rfl, rfl⟩ := Prod.mk.inj (Option.some.inj serving)
        exact good.serving _ attempt.id rfl
  tells := Or.inl rfl

/-- What recording the answer of the provider does. -/
theorem record_effect {result : ProviderResult}
    (good : StageGood shop (.record purpose attemptId result)) :
    Effect shop (.record purpose attemptId result)
      ((Stage.record purpose attemptId result).act input shop) := by
  have serves : ∀ request admission, purpose = .pay request admission →
      Identifies shop.database.attempts request attemptId := by
    rintro request admission rfl
    exact good.serving request attemptId rfl
  unfold Stage.act
  refine Effect.perform (fun outcome database committed => ?_)
    (refusedDispatch_effect serves)
  obtain ⟨recorded, rfl, records⟩ := recordExecution_eq_ok committed
  have movement : Movement sparesNothing input.clock (ledgerOf shop.database)
      (ledgerOf database) := records.movement
  have step := movement.attemptStep
  cases purpose with
  | resume =>
      apply Effect.tell step
      rintro _ _ ⟨⟩
  | pay request admission =>
      apply Effect.tellPaid step
      have sameId : recorded.attempt.id = attemptId := records.attempt_id
      rw [sameId]
      exact (serves request admission rfl).step step

/-- What reading again does. -/
theorem reread_effect {admission : PaymentAdmission} {refusal : Failure}
    (good : StageGood shop (.reread request admission attemptId refusal)) :
    Effect shop (.reread request admission attemptId refusal)
      ((Stage.reread request admission attemptId refusal).act input shop) := by
  unfold Stage.act
  refine Effect.perform (fun attempt database committed => ?_) fun _ => Effect.raise
  obtain ⟨found, rfl⟩ := findAttempt_eq_ok_iff.mp committed
  have step : AttemptStep input.clock.transactionTime shop.database.attempts
      shop.database.attempts := AttemptStep.untouched
  split
  · apply Effect.tell step
    rintro _ _ ⟨⟩
  · apply Effect.tellPaid step
    have sameId : attempt.id = attemptId := (Table.get?_eq_some_iff.mp found).2
    rw [sameId]
    exact good.serving request attemptId rfl

/-- What recording the answer to a question does. -/
theorem recordQuery_effect {found : ProviderQueryResult} :
    Effect shop (.recordQuery attemptId found)
      ((Stage.recordQuery attemptId found).act input shop) := by
  unfold Stage.act
  refine Effect.perform (fun outcome database committed => ?_) fun _ => Effect.raise
  obtain ⟨_, _, records⟩ := recordQuery_eq_ok committed
  have movement : Movement sparesNothing input.clock (ledgerOf shop.database)
      (ledgerOf database) := records.movement
  apply Effect.goOn movement.attemptStep rfl
  rintro _ _ ⟨⟩

/-- What recording that somebody asked does. -/
theorem appendReconciled_effect {found : ProviderQueryResult} {outcome : PaymentOutcome} :
    Effect shop (.appendReconciled attemptId found outcome)
      ((Stage.appendReconciled attemptId found outcome).act input shop) := by
  unfold Stage.act
  refine Effect.perform (fun _ database committed => ?_) fun _ => Effect.raise
  obtain ⟨finalEq, _⟩ := appendReconciled_eq_ok committed
  have step : AttemptStep input.clock.transactionTime shop.database.attempts
      database.attempts := by
    rw [finalEq]
    exact AttemptStep.untouched
  apply Effect.tell step
  rintro _ _ ⟨⟩

/-- What any stage does. -/
theorem Stage.effect {stage : Stage} (good : StageGood shop stage) :
    Effect shop stage (stage.act input shop) := by
  cases stage with
  | begin call =>
      cases call with
      | pay request => exact pay_effect request
      | resume attemptId capability => exact resume_effect attemptId capability
      | reconcile attemptId capability =>
          exact @reconcile_effect _ _ input _ attemptId capability
  | dispatch => exact dispatch_effect good
  | execute => exact execute_effect good
  | record => exact record_effect good
  | reread => exact reread_effect good
  | query attemptId question =>
      have step : AttemptStep 0 shop.database.attempts shop.database.attempts :=
        AttemptStep.untouched
      apply Effect.goOn step rfl
      rintro _ _ ⟨⟩
  | recordQuery => exact recordQuery_effect
  | appendReconciled => exact appendReconciled_effect

end Stages

/-! ## The discipline of the payment service -/

/-- What clients of the payment service rely on. -/
def paymentDiscipline : System.Discipline Shop Stage where
  shared := ShopGood
  relies := StageGood
  apart := Stage.Apart

theorem AnswerHolds.step {transactionTime : Instant} {attempts next : Table PaymentAttempt}
    {result : PaymentResult} (holds : AnswerHolds attempts request result)
    (step : AttemptStep transactionTime attempts next) : AnswerHolds next request result :=
  fun attempt attemptEq => (holds attempt attemptEq).step step

section Discipline

variable {shop : Shop} {stage other : Stage} {after : Shop × Option Stage}

/-- A stage keeps what holds of the shop. -/
theorem Effect.shared (effect : Effect shop stage after) (good : ShopGood shop)
    (relies : StageGood shop stage) : ShopGood after.1 := by
  obtain ⟨transactionTime, step⟩ := effect.step
  have answered : ∀ request result, .paid request result ∈ after.1.answers →
      AnswerHolds after.1.database.attempts request result := by
    intro request result member
    rcases effect.tells with same | ⟨answer, appended, holds⟩
    · rw [same] at member
      exact (good.answered request result member).step step
    · rw [appended, List.mem_append, List.mem_singleton] at member
      rcases member with old | isAnswer
      · exact (good.answered request result old).step step
      · exact (holds request result isAnswer.symm).1
  refine ⟨step.oneSale good.oneSale, step.oneIdentity good.oneIdentity, ?_, ?_, answered⟩
  · rcases effect.executes with same | ⟨attemptId, executing, appended⟩
    · rw [same]
      exact good.executedOnce
    · rw [appended, List.nodup_append]
      refine ⟨good.executedOnce, List.nodup_singleton attemptId, ?_⟩
      rintro earlier executed _ (_ | ⟨_, ⟨⟩⟩) rfl
      exact (relies.executing earlier executing).2 executed
  · intro attemptId executed
    rcases effect.executes with same | ⟨executedId, executing, appended⟩
    · rw [same] at executed
      exact (good.executedClaimed attemptId executed).step step
    · rw [appended, List.mem_append, List.mem_singleton] at executed
      rcases executed with old | rfl
      · exact (good.executedClaimed attemptId old).step step
      · exact (relies.executing attemptId executing).1.step step

/-- A stage leaves the client with what its next stage relies on. -/
theorem Effect.relies (effect : Effect shop stage after) (good : ShopGood shop) {next : Stage}
    (goesOn : after.2 = some next) : StageGood after.1 next where
  executing := by
    intro attemptId executing
    obtain ⟨⟨row, found, isAdmitted⟩, claimed, nobody⟩ :=
      effect.claims next attemptId goesOn executing
    refine ⟨claimed, ?_⟩
    rw [nobody]
    intro executed
    exact (good.executedClaimed attemptId executed).not_admitted found isAdmitted
  serving request attemptId serving := effect.serves next request attemptId goesOn serving

/-- A stage keeps what the other clients rely on. -/
theorem Effect.others (effect : Effect shop stage after) (relies : StageGood shop other)
    (apart : stage.Apart other) : StageGood after.1 other where
  executing := by
    obtain ⟨transactionTime, step⟩ := effect.step
    intro attemptId executing
    obtain ⟨claimed, notExecuted⟩ := relies.executing attemptId executing
    refine ⟨claimed.step step, ?_⟩
    rcases effect.executes with same | ⟨executedId, isExecuting, appended⟩
    · rw [same]
      exact notExecuted
    · rw [appended, List.mem_append, List.mem_singleton]
      rintro (old | rfl)
      · exact notExecuted old
      · exact apart attemptId isExecuting executing
  serving request attemptId serving := by
    obtain ⟨transactionTime, step⟩ := effect.step
    exact (relies.serving request attemptId serving).step step

/-- A client that claimed an attempt stands apart from every other: theirs were claimed
before. -/
theorem Effect.apart (effect : Effect shop stage after) (relies : StageGood shop other)
    {next : Stage} (goesOn : after.2 = some next) : next.Apart other := by
  intro attemptId executing otherExecuting
  obtain ⟨⟨row, found, isAdmitted⟩, _⟩ := effect.claims next attemptId goesOn executing
  exact (relies.executing attemptId otherExecuting).1.not_admitted found isAdmitted

theorem Operation.within_sparesNothing (operation : Operation) (database : Database) :
    operation.Within sparesNothing database := by
  cases operation with
  | releaseReservation => exact fun _ _ => trivial
  | _ => trivial

/-- Every operation takes the attempts at most one step. -/
theorem serve_attemptStep [CaseFolding] [OperationDigest] [PrintableText]
    (call : Operation × Readings) (database : Database) :
    AttemptStep call.2.transactionTime database.attempts (serve call database).attempts :=
  (serve_movement (call.1.within_sparesNothing database)).attemptStep

/-- Whatever else the services do has no client behind it. -/
theorem serve_effect [CaseFolding] [OperationDigest] [PrintableText] (stage : Stage)
    (call : Operation × Readings) :
    Effect shop stage (shop.commit (serve call shop.database), none) where
  step := ⟨call.2.transactionTime, serve_attemptStep call shop.database⟩
  executes := Or.inl rfl
  claims := by rintro _ _ ⟨⟩
  serves := by rintro _ _ _ ⟨⟩
  tells := Or.inl rfl

end Discipline

/-- What the shop looks like later: a settled attempt stayed as it is, an identity kept
its attempt, and whoever asked under it in the meantime was answered with that attempt. -/
structure Follows (earlier later : Shop) : Prop where
  settled : ∀ attemptId attempt, earlier.database.attempts.get? attemptId = some attempt →
    attempt.status.isTerminal = true →
      later.database.attempts.get? attemptId = some attempt
  identified : ∀ request attemptId, Identifies earlier.database.attempts request attemptId →
    Identifies later.database.attempts request attemptId
  told : ∃ told, later.answers = earlier.answers ++ told ∧
    ∀ request result, .paid request result ∈ told →
      ∀ attemptId, Identifies earlier.database.attempts request attemptId →
        ∃ attempt, result.attempt = some attempt ∧ attempt.id = attemptId

theorem Follows.refl (shop : Shop) : Follows shop shop where
  settled _ _ found _ := found
  identified _ _ identifies := identifies
  told := ⟨[], (List.append_nil _).symm, by rintro _ _ ⟨⟩⟩

theorem Follows.trans {first middle last : Shop} (earlier : Follows first middle)
    (later : Follows middle last) : Follows first last where
  settled attemptId attempt found isTerminal :=
    later.settled attemptId attempt (earlier.settled attemptId attempt found isTerminal)
      isTerminal
  identified request attemptId identifies :=
    later.identified request attemptId (earlier.identified request attemptId identifies)
  told := by
    obtain ⟨toldEarlier, earlierEq, earlierHolds⟩ := earlier.told
    obtain ⟨toldLater, laterEq, laterHolds⟩ := later.told
    refine ⟨toldEarlier ++ toldLater, ?_, ?_⟩
    · rw [laterEq, earlierEq, List.append_assoc]
    · intro request result member attemptId identifies
      rcases List.mem_append.mp member with toldFirst | toldNext
      · exact earlierHolds request result toldFirst attemptId identifies
      · exact laterHolds request result toldNext attemptId
          (earlier.identified request attemptId identifies)

/-- A stage leaves what earlier ones did. -/
theorem Effect.follows {shop : Shop} {stage : Stage} {after : Shop × Option Stage}
    (effect : Effect shop stage after) (oneIdentity : OneIdentity shop.database.attempts) :
    Follows shop after.1 := by
  obtain ⟨transactionTime, step⟩ := effect.step
  refine ⟨fun _ _ found isTerminal => step.get?_of_terminal found isTerminal,
    fun _ _ identifies => identifies.step step, ?_⟩
  rcases effect.tells with same | ⟨answer, appended, holds⟩
  · exact ⟨[], same.trans (List.append_nil _).symm, by rintro _ _ ⟨⟩⟩
  · refine ⟨[answer], appended, ?_⟩
    intro request result member attemptId identifies
    obtain ⟨answerHolds, unanswered⟩ := holds request result (List.mem_singleton.mp member).symm
    cases attemptEq : result.attempt with
    | none =>
        obtain ⟨row, found, sameCheckout, sameKey⟩ := identifies
        have absent := findByIdentity_eq_none_iff.mp (unanswered attemptEq)
        exact absurd sameKey (absent row (Table.get?_eq_some_iff.mp found).1 sameCheckout)
    | some attempt =>
        refine ⟨attempt, rfl, ?_⟩
        exact Identifies.unique (step.oneIdentity oneIdentity)
          (answerHolds attempt attemptEq) (identifies.step step) rfl rfl

/-! ## Runs -/

/-- A client that has only arrived relies on nothing. -/
theorem entered_relies (call : Call) (shop : Shop) : StageGood shop (.begin call) where
  executing := by rintro _ ⟨⟩
  serving := by rintro _ _ ⟨⟩

/-- A client that has only arrived is in nobody's way. -/
theorem entered_apart (call : Call) (other : Stage) : (Stage.begin call).Apart other := by
  rintro _ ⟨⟩

/-- The shop before anybody called. -/
def Shop.opening (database : Database) : Shop where
  database := database
  executions := []
  answers := []

theorem EmptyPaymentHistory.shopGood {database : Database}
    (empty : EmptyPaymentHistory database) : ShopGood (Shop.opening database) where
  oneSale := empty.inStep.sound.oneSale
  oneIdentity := empty.inStep.oneIdentity
  executedOnce := List.nodup_nil
  executedClaimed := by rintro _ ⟨⟩
  answered := by rintro _ _ ⟨⟩

section Runs

variable [CaseFolding] [OperationDigest] [PrintableText]

/-- Every stage of every client keeps the discipline. -/
theorem paymentSystem_keeps :
    System.Keeps paymentSystem System.Regime.free paymentDiscipline where
  symmetric apart attemptId executing other := apart attemptId other executing
  enterRelies call shop _ := entered_relies call shop
  enterApart := entered_apart
  actShared _ _ _ good relies := (Stage.effect relies).shared good relies
  actRelies _ _ _ _ good relies goesOn := (Stage.effect relies).relies good goesOn
  actOthers _ _ _ _ _ relies others apart := (Stage.effect relies).others others apart
  actApart _ _ _ _ _ _ relies others _ goesOn _ := (Stage.effect relies).apart others goesOn
  outsideShared call shop _ good :=
    (serve_effect (.begin (.resume 0 none)) call).shared good (entered_relies _ shop)
  outsideOthers call _ other _ _ relies :=
    (serve_effect (.begin (.resume 0 none)) call).others relies (entered_apart _ other)

/-- The shop of one world follows the shop of another. -/
def WorldFollows (earlier later : World Shop Stage) : Prop :=
  Follows earlier.shared later.shared

/-- Whatever happens next leaves what earlier stages did. -/
theorem step_follows {world : World Shop Stage}
    (obeys : System.Obeys paymentDiscipline world)
    (event : Event Call Input (Operation × Readings)) :
    WorldFollows world (paymentSystem.step event world) := by
  have oneIdentity : OneIdentity world.shared.database.attempts := obeys.shared.oneIdentity
  cases event with
  | arrive client call =>
      cases isFree : world.clients client with
      | some stage =>
          simp only [System.step, isFree]
          exact Follows.refl world.shared
      | none =>
          simp only [System.step, isFree]
          exact Follows.refl world.shared
  | act client input =>
      cases busy : world.clients client with
      | none =>
          simp only [System.step, busy]
          exact Follows.refl world.shared
      | some stage =>
          simp only [System.step, busy]
          exact (Stage.effect (obeys.relies client stage busy)).follows oneIdentity
  | crash client => exact Follows.refl world.shared
  | outside call =>
      exact (serve_effect (.begin (.resume 0 none)) call).follows oneIdentity

end Runs

section Sample

local instance clientsFolding : CaseFolding := asciiFolding
local instance clientsDigest : OperationDigest := ⟨fun _ _ => "sample"⟩
local instance clientsPrintable : PrintableText := ⟨fun _ => true⟩

def sampleRequest (attemptId : Uuid) : PayRequest where
  checkoutId := 2
  merchantId := 0
  idempotencyKey := "order-0001"
  capability := none
  credentialId := none
  attemptId := attemptId

def sampleInput : Input where
  clock := sampleClock
  result := { outcome := .succeeded }
  found := { record := .absent, outcome := .unknown, undecided := by decide }

/-- A client pays, and crashes after the provider was called. -/
def sampleCrash : List (Event Call Input (Operation × Readings)) :=
  [.arrive 0 (.pay (sampleRequest 11)), .act 0 sampleInput, .act 0 sampleInput,
    .act 0 sampleInput, .crash 0]

/-- Another client repeats the request. -/
def sampleRepeat : List (Event Call Input (Operation × Readings)) :=
  [.arrive 1 (.pay (sampleRequest 12)), .act 1 sampleInput]

end Sample

end AgentRank.Payments
