import AgentRank.Checkout.Qualifying
import AgentRank.Checkout.Quoting
import AgentRank.Transition.Run

/-!
# Accepted requests and the storage

The schemas accept requests to grant a mandate, to qualify one and to be quoted.  A server that
has performed any number of them performs one more, and it ends with its rows written, with a
refusal of the application, or with an error of the storage.
-/

namespace AgentRank.Checkout

open Constraints Mandates Relational Store Text Transition

section Requests

variable [CaseFolding]

/-- A request that its schema accepts. -/
inductive AcceptedRequest
  | mandate (request : CreateMandateRequest)
  | constraints (mandateId : Uuid) (request : CreateIntentConstraintsRequest)
  | checkout (request : CreateCheckoutRequest)

/-- What the server adds to a request: whose it is, its clocks, and the identifiers it draws. -/
structure Call where
  merchantId : Uuid
  capability : Option BenchmarkRunCapability := none
  credentialId : Option Uuid := none
  received : DateTime
  checked : Instant
  transactionTime : Instant
  rowId : Uuid
  childId : Nat → Uuid

namespace AcceptedRequest

/-- The request ends with the rows that it asks for, or with a refusal of the application. -/
def Settles (database : Database) (call : Call) : AcceptedRequest → Prop
  | mandate request =>
      (serve none
        (grant request.input call.merchantId call.capability call.credentialId call.rowId)
        database).Settles (Granted request.input call.merchantId call.rowId database)
  | constraints mandateId request =>
      (serve
        (mandateRead call.merchantId call.capability
          (findMandate database mandateId call.merchantId) database)
        (qualify request.input mandateId call.merchantId call.capability call.credentialId
          call.rowId call.childId)
        database).Settles (Qualified request.input mandateId call.merchantId call.rowId database)
  | checkout request =>
      (serve (quoteRead request.input call.received call.merchantId call.capability database)
        (quote request.input call.received call.merchantId call.capability call.credentialId
          call.checked call.transactionTime call.rowId call.childId)
        database).Settles
          (Quoted request.input call.received call.merchantId call.rowId database)

/-- The database after a request. -/
def after (database : Database) (call : Call) : AcceptedRequest → Database
  | mandate request =>
      (serve none
        (grant request.input call.merchantId call.capability call.credentialId call.rowId)
        database).after database
  | constraints mandateId request =>
      (serve
        (mandateRead call.merchantId call.capability
          (findMandate database mandateId call.merchantId) database)
        (qualify request.input mandateId call.merchantId call.capability call.credentialId
          call.rowId call.childId)
        database).after database
  | checkout request =>
      (serve (quoteRead request.input call.received call.merchantId call.capability database)
        (quote request.input call.received call.merchantId call.capability call.credentialId
          call.checked call.transactionTime call.rowId call.childId)
        database).after database

/-- The identifier that was drawn is that of no row yet. -/
def Fresh (database : Database) (call : Call) : AcceptedRequest → Prop
  | mandate _ => ∀ other ∈ database.mandates, other.id ≠ call.rowId
  | constraints _ _ => ∀ other ∈ database.constraintSets, other.id ≠ call.rowId
  | checkout _ => ∀ other ∈ database.checkouts, other.id ≠ call.rowId

/-- Where the request gets as far, what it reads can be loaded and what it writes is held. -/
def Storable (database : Database) (call : Call) : AcceptedRequest → Prop
  | mandate request =>
      Entered call.merchantId call.capability database → request.input.Storable
  | constraints mandateId request =>
      Entered call.merchantId call.capability database →
        ∀ mandate, findMandate database mandateId call.merchantId = some mandate →
          mandate.isLoaded = true ∧
            (Qualifiable request.input.constraints mandateId mandate database →
              request.input.Storable)
  | checkout request =>
      request.input.Storable call.received call.merchantId call.capability call.checked
        call.transactionTime database

/-- The database stays one whose columns hold its rows. -/
theorem isSound_after {database : Database} (sound : database.IsSound) (call : Call)
    (request : AcceptedRequest) : (request.after database call).IsSound := by
  cases request with
  | mandate request =>
      apply isSound_serve sound
      intro row final granted
      obtain ⟨command, isCommand⟩ := exists_command request call.merchantId
      rw [grant_eq isCommand] at granted
      have carried := granted_of_created isCommand granted
      obtain ⟨mandates, event, _, _, _, rfl⟩ := carried.written
      exact ⟨rfl, rfl⟩
  | constraints mandateId request =>
      apply isSound_serve sound
      intro row final qualified
      obtain ⟨command, isCommand⟩ :=
        exists_constraintsCommand request mandateId call.merchantId
      rw [qualify_eq isCommand] at qualified
      obtain ⟨_, _, _, constraintSets, _, rfl⟩ := createConstraints_eq_ok_iff.mp qualified
      exact ⟨rfl, rfl⟩
  | checkout request =>
      apply isSound_serve sound
      intro row final quoted
      obtain ⟨command, isCommand, created⟩ := enforce_bind_eq_ok_iff.mp quoted
      have carried := quoted_of_created isCommand created
      obtain ⟨checkouts, event, _, _, _, rfl⟩ := carried.written
      exact ⟨rfl, rfl⟩

/-- In a sound database, a request settles exactly if it is one that can be stored. -/
theorem settles_iff_storable {database : Database} (sound : database.IsSound) {call : Call}
    {request : AcceptedRequest} (fresh : request.Fresh database call) :
    request.Settles database call ↔ request.Storable database call := by
  cases request with
  | mandate request => exact grant_settles_iff request sound.fits fresh
  | constraints mandateId request => exact qualify_settles_iff request sound.fits fresh
  | checkout request => exact quote_settles_iff request sound fresh

end AcceptedRequest

/-- One request after another. -/
def perform (step : Call × AcceptedRequest) (database : Database) : Database :=
  step.2.after database step.1

theorem isSound_run {database : Database} (sound : database.IsSound)
    (earlier : List (Call × AcceptedRequest)) : (run perform database earlier).IsSound :=
  run_invariant_of_step earlier (fun _ step sound => step.2.isSound_after sound step.1) sound

/-- After any number of requests, a request that its schema accepts ends in its rows or in a
refusal exactly where the columns hold what it would write and the mandate that it reads can be
loaded. -/
theorem accepted_requests_settle_iff {database : Database} (sound : database.IsSound)
    (earlier : List (Call × AcceptedRequest)) (call : Call) (request : AcceptedRequest)
    (fresh : request.Fresh (run perform database earlier) call) :
    request.Settles (run perform database earlier) call ↔
      request.Storable (run perform database earlier) call :=
  AcceptedRequest.settles_iff_storable (isSound_run sound earlier) fresh

end Requests

/-! ## Requests that end in an error of the storage -/

section Sample

local instance acceptedFolding : CaseFolding := asciiFolding

/-- An instant near the epoch, stated in UTC. -/
def sampleTime (wall : Int) (early : minInstant ≤ wall) (late : wall ≤ maxInstant) : DateTime where
  wall := wall
  offset := some 0
  named := ⟨early, late⟩
  bounded := by simp [oneDay]

def sampleCall : Call where
  merchantId := 0
  received := sampleTime 0 (by decide) (by decide)
  checked := 0
  transactionTime := 0
  rowId := 20
  childId := fun index => ⟨BitVec.ofNat 128 (30 + index)⟩

/-- A mandate for an amount, without an intent. -/
def mandateInput (amountMinor : Int) : MandateInput where
  maxTotalAmountMinor := amountMinor
  currency := "INR"
  validFrom := sampleTime 0 (by decide) (by decide)
  validUntil := sampleTime 1000 (by decide) (by decide)

def smallMandate : CreateMandateRequest where
  input := mandateInput 500
  stated := by decide
  accepted := ⟨_, rfl⟩

/-- One more than the largest amount of a column. -/
def largeMandate : CreateMandateRequest where
  input := mandateInput 9223372036854775808
  stated := by decide
  accepted := ⟨_, rfl⟩

theorem isSound_sampleDatabase : sampleDatabase.IsSound := by
  constructor
  · decide +kernel
  · intro variant member
    rw [List.mem_singleton.mp member]
    exact ⟨_, rfl⟩

/-- A category with U+0000. -/
def nulConstraints : CreateIntentConstraintsRequest where
  input := { constraints := [.allowedCategory "\x00"] }
  stated := by decide
  accepted := ⟨_, rfl⟩

/-- Two million units of one variant. -/
def bulkCheckout : CreateCheckoutRequest where
  input := { mandateId := 1, items := [{ variantId := 3, quantity := 2000000 }] }
  stated := by decide
  parsed := sampleTime 0 (by decide) (by decide)
  accepted := ⟨_, rfl⟩

/-- A catalog that has them, at a price that its column holds. -/
def bulkDatabase : Database :=
  { sampleDatabase with
    variants :=
      ⟨[{ sampleVariant with
          priceAmountMinor := 9000000000000
          inventoryQuantity := 2000000 }], by decide⟩ }

/-- The last hour of the year 9999, an hour behind UTC. -/
def lastHour : DateTime where
  wall := maxInstant
  offset := some (-3600000000)
  named := ⟨by decide, le_rfl⟩
  bounded := by simp [oneDay]

def endlessMandate : CreateMandateRequest where
  input := { mandateInput 500 with validUntil := lastHour }
  stated := by decide
  accepted := ⟨_, rfl⟩

def sampleQualification : CreateIntentConstraintsRequest where
  input := { constraints := [.allowedCategory "chargers"] }
  stated := by decide
  accepted := ⟨_, rfl⟩

theorem isSound_bulkDatabase : bulkDatabase.IsSound := by
  constructor
  · decide +kernel
  · intro variant member
    rw [List.mem_singleton.mp member]
    exact ⟨_, rfl⟩

theorem not_settles {database : Database} (sound : database.IsSound) {call : Call}
    {request : AcceptedRequest} (fresh : request.Fresh database call)
    (notStorable : ¬request.Storable database call) : ¬request.Settles database call :=
  mt (AcceptedRequest.settles_iff_storable sound fresh).mp notStorable

theorem largeMandate_not_stored :
    ¬(AcceptedRequest.mandate largeMandate).Settles sampleDatabase sampleCall := by
  apply not_settles isSound_sampleDatabase
  · intro other member
    rw [List.mem_singleton.mp member]
    decide
  · intro storable
    exact absurd (storable ⟨rfl, _, rfl⟩).amount (by decide)

theorem nulConstraints_not_stored :
    ¬(AcceptedRequest.constraints 1 nulConstraints).Settles sampleDatabase sampleCall := by
  apply not_settles isSound_sampleDatabase
  · nofun
  · intro storable
    have qualifiable : Qualifiable nulConstraints.input.constraints 1 sampleMandate
        sampleDatabase := ⟨rfl, rfl, nofun, nofun⟩
    have held := (storable ⟨rfl, _, rfl⟩ sampleMandate rfl).2 qualifiable _ rfl _
      (List.mem_singleton_self _)
    exact absurd (held "\x00" (by decide)) (by decide)

theorem bulkCheckout_not_stored :
    ¬(AcceptedRequest.checkout bulkCheckout).Settles bulkDatabase sampleCall := by
  apply not_settles isSound_bulkDatabase
  · intro other member
    rw [List.mem_singleton.mp member]
    decide
  · intro storable
    have quotable := (storable _ rfl ⟨rfl, _, rfl⟩ sampleMandate rfl).2
    refine absurd (quotable ⟨rfl, ?_, "INR", ?_⟩).2 (by decide)
    · intro item member
      rw [List.mem_singleton.mp member]
      exact ⟨_, _, rfl, rfl, rfl, rfl, le_rfl⟩
    · intro item member variant found
      rw [List.mem_singleton.mp member] at found
      cases found
      rfl

/-- The database once a mandate is granted until the last hour. -/
def endlessDatabase : Database :=
  run perform sampleDatabase [(sampleCall, .mandate endlessMandate)]

theorem sampleQualification_not_stored :
    ¬(AcceptedRequest.constraints 20 sampleQualification).Settles endlessDatabase sampleCall := by
  have found : findMandate endlessDatabase 20 0 =
      some (mandateRow ⟨endlessMandate.input.fields 0, rfl⟩ 20) := by
    decide +kernel
  have entered : Entered 0 none endlessDatabase := by
    refine ⟨?_, ⟨0⟩, ?_⟩
    · decide +kernel
    · decide +kernel
  have noSet : endlessDatabase.constraintSets.rows = [] := by decide +kernel
  have sound : endlessDatabase.IsSound := isSound_run isSound_sampleDatabase _
  apply not_settles sound
  · intro other member
    rw [Table.mem_def, noSet] at member
    cases member
  · intro storable
    exact absurd (storable entered _ found).1 (by decide)

/-- An amount, a text, a sum and an instant that the schemas accept end in an error of the
storage. -/
theorem accepted_requests_not_stored :
    ¬(AcceptedRequest.mandate largeMandate).Settles sampleDatabase sampleCall ∧
      ¬(AcceptedRequest.constraints 1 nulConstraints).Settles sampleDatabase sampleCall ∧
      ¬(AcceptedRequest.checkout bulkCheckout).Settles bulkDatabase sampleCall ∧
      ¬(AcceptedRequest.constraints 20 sampleQualification).Settles endlessDatabase sampleCall :=
  ⟨largeMandate_not_stored, nulConstraints_not_stored, bulkCheckout_not_stored,
    sampleQualification_not_stored⟩

/-- A small mandate is stored, after one without an end. -/
theorem accepted_requests_settle_iff_sample :
    (AcceptedRequest.mandate smallMandate).Settles endlessDatabase
      { sampleCall with rowId := 21 } := by
  refine (accepted_requests_settle_iff isSound_sampleDatabase
    [(sampleCall, .mandate endlessMandate)] { sampleCall with rowId := 21 }
    (.mandate smallMandate) ?_).mpr ?_
  · change ∀ other ∈ endlessDatabase.mandates.rows, other.id ≠ 21
    decide +kernel
  · intro _
    exact ⟨by decide, nofun, nofun⟩

end Sample

end AgentRank.Checkout
