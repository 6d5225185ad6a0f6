import AgentRank.Benchmark.Attribution
import AgentRank.Benchmark.RunClosure

/-!
# The payments of a mission that failed

This module models the end of one mission in `execute_started_suite`: how a fault is found,
`_require_payment_accounted`, and the record.

The guard looks at one payment, a success or else the latest attempt, and at the last
authorization.  It stops the run for every attempt that is not settled exactly when the
unsettled ones show in these two.
-/

namespace AgentRank.Benchmark

open Checkout Constraints Payments Relational Store Text

/-! ## The end of a mission -/

/-- What the runner may ask about how a mission's execution went. -/
structure ExecutionWitness where
  fault : Option ExecutionFault
  paymentAttempted : Bool
  evidence : CommerceEvidence

/-- What the executor left.  A halt of the capacity governance goes through the runner. -/
inductive ExecutorEnding
  | returned (report : ExecutorReport)
  | raised (exception : String)

/-- The interruption that the runner attributes. -/
def missionFault (witness : ExecutionWitness) : ExecutorEnding → Option ExecutionFault
  | .returned _ => witness.fault
  | .raised exception =>
      some
        (witness.fault.getD
          { origin := .agent
            detail := s!"the executor raised {exception}" })

def missionReport (merchantId : Uuid) : ExecutorEnding → ExecutorReport
  | .returned report => report
  | .raised _ => { merchantId := merchantId }

/-- A mission that dispatched a payment, and cannot say what became of it. -/
def paymentUnaccounted (missionKey reached : String) (fault : ExecutionFault) : Failure :=
  .conflict "payment_unaccounted"
    s!"mission {missionKey} dispatched a payment that reached {reached}, after {fault.detail}. Resolve the payment before closing this run"
    (some runResource) (some missionKey)

/-- `_require_payment_accounted`. -/
def requirePaymentAccounted (missionKey : String) (observed : ObservedResult)
    (fault : Option ExecutionFault) (witness : Option ExecutionWitness) :
    Except Failure Unit :=
  match witness, fault with
  | some witness, some fault =>
      if !witness.paymentAttempted then .ok ()
      else if observed.authorization.any fun authorization => !authorization.allowed then .ok ()
      else if observed.payment.any fun payment => payment.status.isTerminal then .ok ()
      else
        let reached := (observed.payment.map fun payment => payment.status.value).getD "none"
        .error (paymentUnaccounted missionKey reached fault)
  | _, _ => .ok ()

section Missions

variable [CaseFolding] (rows : CommerceRows) (mission : BenchmarkMissionDefinition)
  (catalog : List CatalogEntry) (since : Instant) (witness : ExecutionWitness)
  (ending : ExecutorEnding)

/-- What is observed of the mission once its executor ended. -/
def observedEnding (merchantId : Uuid) : ObservedResult :=
  observe rows (missionReport merchantId ending) merchantId mission.brief catalog
    witness.evidence (some since)

/-- From the end of the executor to the record.  What raises leaves the store as it was, with
the mission running. -/
def concludeMission (run : SuiteRun) (now : Instant) (store : RunStore) :
    Except Failure (SuiteRun × RunStore) := do
  let fault := missionFault witness ending
  let observed := observedEnding rows mission catalog since witness ending run.merchantId
  requirePaymentAccounted mission.key observed fault (some witness)
  perform
    (.record mission.key
      (evaluateMission mission observed run.merchantId
        (some (factsFor mission.brief catalog observed.selection)) fault))
    run.address (some run) now store

/-- An attempt of the merchant, created in the window, that is not settled. -/
def Unsettled (merchantId : Uuid) (attempt : PaymentAttempt) : Prop :=
  attempt ∈ rows.database.attempts ∧ InWindow rows merchantId (some since) attempt ∧
    attempt.status.isTerminal = false

/-- A failed mission is not recorded over an attempt that is not settled. -/
structure PaymentsAccounted (run : SuiteRun) (now : Instant) (store : RunStore) : Prop where
  /-- What was recorded has no such attempt. -/
  recorded : ∀ final,
    concludeMission rows mission catalog since witness ending run now store = .ok final →
      ∀ attempt, ¬Unsettled rows since run.merchantId attempt
  /-- Over such an attempt the run stops, and the mission is left as it was. -/
  stopped : ∀ attempt, Unsettled rows since run.merchantId attempt →
    ∃ reached fault,
      concludeMission rows mission catalog since witness ending run now store =
        .error (paymentUnaccounted mission.key reached fault)

omit [CaseFolding] in
/-- An attempt that is not settled shows: the payment call was noted, the last answer was no
denial, no attempt in the window succeeded, and the latest of them is not settled. -/
structure UnsettledShows (merchantId : Uuid) : Prop where
  attempted : witness.paymentAttempted = true
  allowed : ∀ authorization, witness.evidence.authorization = some authorization →
    authorization.allowed = true
  noSuccess : ∀ other ∈ rows.database.attempts, InWindow rows merchantId (some since) other →
    other.status ≠ .succeeded
  latest : ∃ last, Unsettled rows since merchantId last ∧
    ∀ other ∈ rows.database.attempts, InWindow rows merchantId (some since) other →
      other.id ≤ last.id

end Missions

section Credited

variable {rows : CommerceRows} {merchantId : Uuid} {since : Instant}

theorem latest_spec {attempts : List PaymentAttempt} {found : PaymentAttempt}
    (latestEq : latest attempts = some found) :
    found ∈ attempts ∧ ∀ other ∈ attempts, other.id ≤ found.id := by
  have folded : ∀ (rest : List PaymentAttempt) (best : PaymentAttempt),
      ∀ other ∈ best :: rest,
        other.id ≤ (rest.foldl
          (fun best attempt => if attempt.id ≤ best.id then best else attempt) best).id := by
    intro rest
    induction rest with
    | nil =>
        intro best other member
        rw [List.mem_singleton.mp member]
        exact Nat.le_refl _
    | cons next rest inductionHypothesis =>
        intro best other member
        rw [List.foldl_cons]
        rcases List.mem_cons.mp member with rfl | member
        · split
          · exact inductionHypothesis _ _ List.mem_cons_self
          · next later =>
              have first := inductionHypothesis next next List.mem_cons_self
              exact Nat.le_trans (Nat.le_of_not_le later) first
        · rcases List.mem_cons.mp member with rfl | member
          · split
            · next earlier =>
                exact Nat.le_trans earlier (inductionHypothesis best best List.mem_cons_self)
            · exact inductionHypothesis _ _ List.mem_cons_self
          · exact inductionHypothesis _ _ (List.mem_cons_of_mem _ member)
  refine ⟨mem_of_latest latestEq, ?_⟩
  cases attempts with
  | nil => cases latestEq
  | cons first rest =>
      cases latestEq
      exact folded rest first

/-- Where an attempt of the window is not settled, one is credited.  It is unsettled itself
exactly when none succeeded and the latest is unsettled. -/
theorem credited_of_unsettled {attempt : PaymentAttempt}
    (unsettled : Unsettled rows since merchantId attempt) :
    ∃ found, credited (sweep rows merchantId (some since)) = some found ∧
      (found.status.isTerminal = false ↔
        (∀ other ∈ rows.database.attempts, InWindow rows merchantId (some since) other →
            other.status ≠ .succeeded) ∧
          ∃ last, Unsettled rows since merchantId last ∧
            ∀ other ∈ rows.database.attempts, InWindow rows merchantId (some since) other →
              other.id ≤ last.id) := by
  obtain ⟨stored, inWindow, _⟩ := unsettled
  unfold credited
  cases success : (sweep rows merchantId (some since)).find? fun attempt =>
      decide (attempt.status = .succeeded) with
  | some found =>
      have succeeded : found.status = .succeeded := by simpa using List.find?_some success
      obtain ⟨foundStored, foundInWindow⟩ := mem_sweep.mp (List.mem_of_find?_eq_some success)
      refine ⟨found, rfl, iff_of_false (by simp [succeeded, PaymentAttemptStatus.isTerminal]) ?_⟩
      rintro ⟨noSuccess, _⟩
      exact noSuccess found foundStored foundInWindow succeeded
  | none =>
      have noSuccess : ∀ other ∈ rows.database.attempts,
          InWindow rows merchantId (some since) other → other.status ≠ .succeeded := by
        intro other otherStored otherInWindow
        simpa using List.find?_eq_none.mp success other
          (mem_sweep.mpr ⟨otherStored, otherInWindow⟩)
      cases latestEq : latest (sweep rows merchantId (some since)) with
      | none =>
          have swept := mem_sweep.mpr ⟨stored, inWindow⟩
          cases sweepEq : sweep rows merchantId (some since) with
          | nil =>
              rw [sweepEq] at swept
              cases swept
          | cons first rest =>
              rw [sweepEq] at latestEq
              cases latestEq
      | some found =>
          obtain ⟨member, greatest⟩ := latest_spec latestEq
          obtain ⟨foundStored, foundInWindow⟩ := mem_sweep.mp member
          refine ⟨found, rfl, fun notTerminal => ⟨noSuccess, found,
            ⟨foundStored, foundInWindow, notTerminal⟩, fun other otherStored otherInWindow =>
              greatest other (mem_sweep.mpr ⟨otherStored, otherInWindow⟩)⟩, ?_⟩
          rintro ⟨_, last, ⟨lastStored, lastInWindow, notTerminal⟩, lastGreatest⟩
          -- Both are the greatest, and an identifier is stored once.
          have sameId : found.id = last.id :=
            congrArg Uuid.mk
              (BitVec.le_antisymm (lastGreatest found foundStored foundInWindow)
                (greatest last (mem_sweep.mpr ⟨lastStored, lastInWindow⟩)))
          rw [Table.eq_of_key_eq foundStored lastStored sameId]
          exact notTerminal

end Credited

section Guard

variable [CaseFolding] {rows : CommerceRows} {mission : BenchmarkMissionDefinition}
  {catalog : List CatalogEntry} {since : Instant} {witness : ExecutionWitness}
  {ending : ExecutorEnding} {merchantId : Uuid} {fault : ExecutionFault}

omit [CaseFolding] in
/-- What is observed is the attempt that is credited, with the last answer. -/
theorem observed_of_credited {found : PaymentAttempt}
    (creditedEq : credited (sweep rows merchantId (some since)) = some found) :
    (observedEnding rows mission catalog since witness ending merchantId).payment =
        some (observedPayment found) ∧
      (observedEnding rows mission catalog since witness ending merchantId).authorization =
        witness.evidence.authorization := by
  have paid : paymentOf rows merchantId (missionReport merchantId ending) (some since) =
      some found := by
    rw [paymentOf, candidates_of_window, creditedEq]
  obtain ⟨stored, merchant, _⟩ := inWindow_of_mem_candidates (mem_of_credited paid)
  obtain ⟨checkout, checkoutEq, sameMerchant⟩ := rows.attemptQuoted found stored
  obtain ⟨quote, _, ownedEq⟩ := owned_eq_some checkoutEq (sameMerchant.trans merchant)
  simp [observedEnding, observe, paid, checkoutOf, ownedEq]

omit [CaseFolding] in
/-- Over an attempt that is not settled the guard stops the run, or it sees nothing of it. -/
theorem requirePaymentAccounted_of_unsettled {attempt : PaymentAttempt}
    (unsettled : Unsettled rows since merchantId attempt) :
    (UnsettledShows rows since witness merchantId ∧
      ∃ reached, requirePaymentAccounted mission.key
        (observedEnding rows mission catalog since witness ending merchantId) (some fault)
        (some witness) = .error (paymentUnaccounted mission.key reached fault)) ∨
    (¬UnsettledShows rows since witness merchantId ∧
      requirePaymentAccounted mission.key
        (observedEnding rows mission catalog since witness ending merchantId) (some fault)
        (some witness) = .ok ()) := by
  obtain ⟨found, creditedEq, notTerminal⟩ := credited_of_unsettled unsettled
  obtain ⟨payment, authorization⟩ :
      (observedEnding rows mission catalog since witness ending merchantId).payment = _ ∧
        (observedEnding rows mission catalog since witness ending merchantId).authorization = _ :=
    observed_of_credited creditedEq
  simp only [requirePaymentAccounted, payment, authorization]
  cases attempted : witness.paymentAttempted with
  | false =>
      right
      refine ⟨fun shows => ?_, by simp⟩
      rw [shows.attempted] at attempted
      cases attempted
  | true =>
      by_cases denied : (witness.evidence.authorization.any fun authorization =>
          !authorization.allowed) = true
      · right
        refine ⟨fun shows => ?_, by simp [denied]⟩
        obtain ⟨answer, answerEq, refused⟩ := Option.any_eq_true _ _ |>.mp denied
        rw [shows.allowed answer answerEq] at refused
        cases refused
      · cases terminal : found.status.isTerminal with
        | true =>
            right
            refine ⟨fun shows => ?_, by simp [denied, observedPayment, terminal]⟩
            rw [notTerminal.mpr ⟨shows.noSuccess, shows.latest⟩] at terminal
            cases terminal
        | false =>
            left
            obtain ⟨noSuccess, latest⟩ := notTerminal.mp terminal
            refine ⟨⟨attempted, ?_, noSuccess, latest⟩, found.status.value,
              by simp [denied, observedPayment, terminal]⟩
            intro answer answerEq
            simpa [answerEq] using denied

end Guard

/-! ## The record -/

section Record

/-- What is not about payments. -/
def Failure.aboutRun (failure : Failure) : Prop :=
  conflictReason failure ≠ some "payment_unaccounted"

variable {run stored : SuiteRun} {now : Instant} {missionKey : String} {failure : Failure}

theorem aboutRun_of_writeMission {change : BenchmarkMissionRun → BenchmarkMissionRun}
    (raised : writeMission stored missionKey change = .error failure) :
    Failure.aboutRun failure := by
  unfold writeMission at raised
  split at raised
  · cases raised
    nofun
  · split at raised
    · cases raised
      nofun
    · cases raised

theorem aboutRun_of_beginPending {mission : BenchmarkMissionRun}
    (raised : beginPending run stored now missionKey mission = .error failure) :
    Failure.aboutRun failure := by
  unfold beginPending at raised
  split at raised
  · rcases except_bind_eq_error_iff.mp raised with raised | ⟨_, _, raised⟩
    · exact aboutRun_of_writeMission raised
    · cases raised
  · cases raised

/-- Nothing that a record raises is about a payment. -/
theorem aboutRun_of_recordResult {evaluation : MissionEvaluation}
    (raised : recordResult run stored now missionKey evaluation = .error failure) :
    Failure.aboutRun failure := by
  unfold recordResult at raised
  rcases except_bind_eq_error_iff.mp raised with raised | ⟨_, _, raised⟩
  · unfold requireRunning at raised
    split at raised
    · cases raised
    · cases raised
      simp [Failure.aboutRun, conflictReason, notRunning, runConflict]
  rcases except_bind_eq_error_iff.mp raised with raised | ⟨_, _, raised⟩
  · unfold openMission at raised
    split at raised
    · cases raised
      rintro ⟨⟩
    · split at raised
      · cases raised
        simp [Failure.aboutRun, conflictReason, missionAlreadyRecorded, runConflict]
      · cases raised
  rcases except_bind_eq_error_iff.mp raised with raised | ⟨_, _, raised⟩
  · exact aboutRun_of_beginPending raised
  rcases except_bind_eq_error_iff.mp raised with raised | ⟨_, _, raised⟩
  · exact aboutRun_of_writeMission raised
  · cases raised

theorem aboutRun_of_perform {evaluation : MissionEvaluation} {address : RunAddress}
    {held : Option SuiteRun} {store : RunStore}
    (raised : perform (.record missionKey evaluation) address held now store = .error failure) :
    Failure.aboutRun failure := by
  unfold perform at raised
  split at raised
  · cases raised
    nofun
  · split at raised
    · next workEq =>
        cases raised
        exact aboutRun_of_recordResult workEq
    · cases raised

end Record

/-- A failed mission is recorded over no unsettled attempt, and stops the run over one,
exactly when every such attempt shows in the payment that is credited and in the last
answer. -/
theorem paymentsAccounted_iff [CaseFolding] (rows : CommerceRows)
    (mission : BenchmarkMissionDefinition) (catalog : List CatalogEntry) (since : Instant)
    (witness : ExecutionWitness) (ending : ExecutorEnding) (run : SuiteRun) (now : Instant)
    (store : RunStore) (fault : ExecutionFault)
    (ended : missionFault witness ending = some fault) :
    PaymentsAccounted rows mission catalog since witness ending run now store ↔
      ∀ attempt, Unsettled rows since run.merchantId attempt →
        UnsettledShows rows since witness run.merchantId := by
  have guarded := fun attempt unsettled =>
    @requirePaymentAccounted_of_unsettled rows mission catalog since witness ending
      run.merchantId fault attempt unsettled
  constructor
  · rintro ⟨_, stopped⟩ attempt unsettled
    rcases guarded attempt unsettled with ⟨shows, _⟩ | ⟨_, passed⟩
    · exact shows
    · obtain ⟨reached, other, stopEq⟩ := stopped attempt unsettled
      simp only [concludeMission, ended, passed] at stopEq
      exact absurd rfl (aboutRun_of_perform stopEq)
  · intro allShow
    have stopped : ∀ attempt, Unsettled rows since run.merchantId attempt →
        ∃ reached, concludeMission rows mission catalog since witness ending run now store =
          .error (paymentUnaccounted mission.key reached fault) := by
      intro attempt unsettled
      rcases guarded attempt unsettled with ⟨_, reached, stopEq⟩ | ⟨hidden, _⟩
      · refine ⟨reached, ?_⟩
        simp only [concludeMission, ended, stopEq]
        rfl
      · exact absurd (allShow attempt unsettled) hidden
    refine ⟨fun final recorded attempt unsettled => ?_, fun attempt unsettled => ?_⟩
    · obtain ⟨reached, stopEq⟩ := stopped attempt unsettled
      rw [stopEq] at recorded
      cases recorded
    · obtain ⟨reached, stopEq⟩ := stopped attempt unsettled
      exact ⟨reached, fault, stopEq⟩

section Sample

local instance : CaseFolding := asciiFolding

/-- Attempt 7 pays for one quote, and nobody knows what became of it.  Attempt 8 pays for
the other, and was declined. -/
def crashedRows (second : Option PaymentAttemptStatus) : CommerceRows where
  database :=
    { sampleDatabase with
      checkouts := ⟨[paidQuote, { paidQuote with id := 9 }], by decide⟩
      attempts :=
        ⟨{ pairAttempt with status := .unknown } ::
          (second.map fun status =>
            { pairAttempt with id := 8, checkoutId := 9, status := status }).toList,
          by
            cases second with
            | none => simp
            | some status =>
                have apart : (7 : Uuid) ≠ 8 := by decide
                simpa [Keyed.key, pairAttempt] using apart⟩ }
  createdAt := fun _ => 5
  stored := by
    intro checkout member
    rcases List.mem_pair.mp member with rfl | rfl <;>
      exact ⟨⟨by decide, by decide, by decide, by decide⟩, by decide, by decide⟩
  attemptQuoted := by
    intro attempt member
    rcases List.mem_cons.mp member with rfl | member
    · exact ⟨paidQuote, rfl, rfl⟩
    · obtain ⟨status, _, rfl⟩ := Option.map_eq_some_iff.mp (Option.mem_toList.mp member)
      exact ⟨{ paidQuote with id := 9 }, rfl, rfl⟩

/-- Both payment calls were answered, and both were allowed. -/
def crashedWitness : ExecutionWitness where
  fault := none
  paymentAttempted := true
  evidence := evidenceOf [chargerPaid]

/-- The run of the one mission, which was started. -/
def crashedRun : SuiteRun :=
  (createdRun ⟨1, 0⟩ ["charger"] 5).changeMission "charger" (beginMission 5)

def crashedStore : RunStore where
  runs := ⟨[crashedRun], by decide⟩

/-- The payment that nobody can account for is unsettled. -/
theorem unsettled_crashed (second : Option PaymentAttemptStatus) :
    Unsettled (crashedRows second) 0 0 { pairAttempt with status := .unknown } := by
  refine ⟨List.mem_cons_self, ⟨rfl, ?_⟩, rfl⟩
  rintro _ ⟨⟩
  show (0 : Instant) ≤ 5
  decide

/-- The mission is recorded over the unknown payment, because a later one was declined. -/
theorem recorded_over_unknown :
    (concludeMission (crashedRows (some .failed)) chargerMission [chargerEntry] 0 crashedWitness
        (.raised "RuntimeError") crashedRun 9 crashedStore).toOption.isSome = true ∧
      ¬PaymentsAccounted (crashedRows (some .failed)) chargerMission [chargerEntry] 0
        crashedWitness (.raised "RuntimeError") crashedRun 9 crashedStore := by
  have concluded : (concludeMission (crashedRows (some .failed)) chargerMission [chargerEntry] 0
      crashedWitness (.raised "RuntimeError") crashedRun 9 crashedStore).toOption.isSome =
      true := by
    decide +kernel
  refine ⟨concluded, fun accounted => ?_⟩
  obtain ⟨reached, fault, stopped⟩ := accounted.stopped _ (unsettled_crashed (some .failed))
  rw [stopped] at concluded
  cases concluded

/-- Where the unknown payment is the only one, the run stops. -/
theorem paymentsAccounted_iff_sample :
    PaymentsAccounted (crashedRows none) chargerMission [chargerEntry] 0 crashedWitness
      (.raised "RuntimeError") crashedRun 9 crashedStore := by
  refine (paymentsAccounted_iff (crashedRows none) chargerMission [chargerEntry] 0
    crashedWitness (.raised "RuntimeError") crashedRun 9 crashedStore _ rfl).mpr ?_
  intro attempt unsettled
  have only : ∀ other ∈ (crashedRows none).database.attempts,
      other = { pairAttempt with status := .unknown } :=
    fun other member => List.mem_singleton.mp member
  refine ⟨rfl, ?_, ?_, ⟨_, unsettled_crashed none, ?_⟩⟩
  · rintro _ ⟨⟩
    rfl
  · intro other member _
    rw [only other member]
    decide
  · intro other member _
    rw [only other member]
    exact Nat.le_refl _

end Sample

end AgentRank.Benchmark
