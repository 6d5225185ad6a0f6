import AgentRank.Store.Models
import AgentRank.Relational.Transaction

/-!
# The database and its sessions

A `Session` is one database transaction of one service call: it commits with a
result or raises, and a raise leaves the database as it was.  Every row a
service decides on is locked until commit, so a call is modelled at transaction
granularity: its reads and writes happen at one point of the run.

The module also holds the parts every service shares: the failures it raises,
the audit trail, and the guard that refuses a mutation of a merchant whose world
a benchmark run owns.
-/

namespace AgentRank.Store

open Constraints Relational Transaction

/-- What a service call raises. -/
inductive Failure
  | notFound (resource identifier : String)
  | conflict (reason detail : String) (resource identifier : Option String)
  | valueError (error : ValueError)
  | integrityError (constraint : String)
deriving DecidableEq

/-- Every table, and the audit trail in the order of its appends. -/
structure Database where
  merchants : Table Merchant
  products : Table Product
  variants : Table Variant
  mandates : Table SpendingMandate
  constraintSets : Table IntentConstraintSet
  checkouts : Table CheckoutSession
  reservations : Table InventoryReservation
  attempts : Table PaymentAttempt
  razorpayCheckouts : Table RazorpayCheckout
  benchmarkRuns : Table BenchmarkRun
  auditEvents : List AuditEvent

/-- One transaction over the database. -/
abbrev Session := Transaction Database Failure

/-- A rule of the domain that was broken, raised from inside a service. -/
def valueError (message : String) : Failure :=
  .valueError { message := message }

/-- A rule checked by a pure function, enforced inside a session. -/
def enforce {α : Type} (outcome : Except ValueError α) : Session α :=
  Transaction.lift (outcome.mapError Failure.valueError)

variable {database final : Database}

theorem enforce_eq_ok_iff {α : Type} {outcome : Except ValueError α} {result : α} :
    enforce outcome database = .ok (result, final) ↔
      outcome = .ok result ∧ final = database := by
  unfold enforce
  rw [lift_eq_ok_iff]
  cases outcome with
  | error refusal => simp [Except.mapError]
  | ok value => simp [Except.mapError]

section Enforced

variable {α β : Type} {outcome : Except ValueError α} {rest : α → Session β}

/-- A rule that holds is passed. -/
theorem enforce_ok_bind {value : α} : (enforce (.ok value) >>= rest) = rest value :=
  rfl

theorem enforce_bind_eq_ok_iff {result : β} :
    (enforce outcome >>= rest) database = .ok (result, final) ↔
      ∃ value, outcome = .ok value ∧ rest value database = .ok (result, final) := by
  cases outcome with
  | error refusal => exact iff_of_false nofun nofun
  | ok value => simp [enforce_ok_bind]

theorem enforce_bind_eq_error_iff {failure : Failure} :
    (enforce outcome >>= rest) database = .error failure ↔
      (∃ refusal, outcome = .error refusal ∧ .valueError refusal = failure) ∨
        ∃ value, outcome = .ok value ∧ rest value database = .error failure := by
  cases outcome with
  | error refusal =>
      change Except.error (Failure.valueError refusal) = .error failure ↔ _
      simp
  | ok value => simp [enforce_ok_bind]

end Enforced

/-- `AuditRepository.append`. -/
def appendAudit (event : AuditEvent) : Session PUnit :=
  modify fun database =>
    { database with auditEvents := database.auditEvents ++ [event] }

theorem appendAudit_eq_ok_iff {event : AuditEvent} {result : PUnit} :
    appendAudit event database = .ok (result, final) ↔
      final = { database with auditEvents := database.auditEvents ++ [event] } :=
  modify_eq_ok_iff

/-- The trail only grew, and only by events of the given types. -/
def Appends (types : List EventType) (database final : Database) : Prop :=
  ∃ events, (∀ event ∈ events, event.eventType ∈ types) ∧
    final.auditEvents = database.auditEvents ++ events

theorem Appends.refl (types : List EventType) (database : Database) :
    Appends types database database :=
  ⟨[], nofun, (List.append_nil _).symm⟩

variable {types : List EventType}

theorem Appends.of_eq (same : final.auditEvents = database.auditEvents) :
    Appends types database final :=
  ⟨[], nofun, same.trans (List.append_nil _).symm⟩

/-- One event of a given type was appended. -/
theorem Appends.event {event : AuditEvent} (listed : event.eventType ∈ types)
    (appended : final.auditEvents = database.auditEvents ++ [event]) :
    Appends types database final :=
  ⟨[event], List.forall_mem_singleton.mpr listed, appended⟩

theorem Appends.trans {middle : Database} (first : Appends types database middle)
    (second : Appends types middle final) :
    Appends types database final := by
  obtain ⟨earlier, earlierListed, earlierEq⟩ := first
  obtain ⟨later, laterListed, laterEq⟩ := second
  refine ⟨earlier ++ later, ?_, ?_⟩
  · intro event member
    rcases List.mem_append.mp member with isEarlier | isLater
    · exact earlierListed event isEarlier
    · exact laterListed event isLater
  · rw [laterEq, earlierEq, List.append_assoc]

theorem Appends.mono {fewer more : List EventType} (subset : fewer ⊆ more)
    (appends : Appends fewer database final) :
    Appends more database final := by
  obtain ⟨events, listed, finalEq⟩ := appends
  exact ⟨events, fun event member => subset (listed event member), finalEq⟩

/-- The identifier of the run executing against this merchant, if there is one. -/
def activeRunId (database : Database) (merchantId : Uuid) : Option Uuid :=
  (database.benchmarkRuns.rows.find? fun run =>
    run.merchantId == merchantId && run.status == .running).map BenchmarkRun.id

/-- How an absent or present identifier is printed. -/
def optionalIdentifier : Option Uuid → String
  | none => "None"
  | some id => toString id

/-- Why the guard refuses a call, when it does: an ordinary caller is allowed
when no run is active, and a capability only for exactly the active run. -/
def mutationRefusal (merchantId : Uuid) (capability : Option BenchmarkRunCapability)
    (database : Database) : Option Failure :=
  let active := activeRunId database merchantId
  let worldActive : Failure :=
    .conflict "benchmark_world_active"
      s!"benchmark run {optionalIdentifier active} owns this merchant's world until it completes or is aborted"
      (some "benchmark_environment") (some (optionalIdentifier active))
  match capability, active with
  | none, none => none
  | none, some _ => some worldActive
  | some held, none =>
      some
        (.conflict "benchmark_run_not_active"
          s!"benchmark run {held.runId} no longer owns this merchant's world"
          (some "benchmark_environment") (some (toString held.runId)))
  | some held, some run =>
      if held.merchantId = merchantId ∧ held.runId = run then none
      else some worldActive

/-- `BenchmarkMutationGuard.require_allowed`. -/
def requireAllowed (merchantId : Uuid) (capability : Option BenchmarkRunCapability) :
    Session PUnit :=
  Transaction.checking (mutationRefusal merchantId capability)

variable {capability : Option BenchmarkRunCapability}

/-- The guard writes nothing. -/
theorem requireAllowed_eq_ok_iff {merchantId : Uuid} {result : PUnit} :
    requireAllowed merchantId capability database = .ok (result, final) ↔
      mutationRefusal merchantId capability database = none ∧ final = database :=
  checking_eq_ok_iff

/-- The guard refuses with a conflict. -/
theorem mutationRefusal_ne_integrityError {merchantId : Uuid} {name : String} :
    mutationRefusal merchantId capability database ≠ some (.integrityError name) := by
  intro refused
  unfold mutationRefusal at refused
  cases capability with
  | none =>
      cases active : activeRunId database merchantId with
      | none => simp [active] at refused
      | some run => simp [active] at refused
  | some held =>
      cases active : activeRunId database merchantId with
      | none => simp [active] at refused
      | some run =>
          simp only [active] at refused
          split at refused
          · cases refused
          · cases refused

end AgentRank.Store
