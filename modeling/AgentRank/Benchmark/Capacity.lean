import AgentRank.Store.Models

/-!
# What a deployment may spend at a provider

This module models `benchmark/capacity.py`: an operator's policy for one provider, the
permits that reserve requests of a run, and the budget a run is admitted with.  The
check constraints of a permit are fields, so a permit that breaks one cannot be built.
-/

namespace AgentRank.Benchmark

open Constraints Relational Store

/-- The providers that execution governance knows. -/
inductive Provider
  | openai
  | gemini
deriving DecidableEq

inductive PermitState
  | reserved
  | reconciled
  | assumedSpent
  | released
deriving DecidableEq

def PermitState.value : PermitState → String
  | reserved => "RESERVED"
  | reconciled => "RECONCILED"
  | assumedSpent => "ASSUMED_SPENT"
  | released => "RELEASED"

/-- The requests that one mission of a run may make, and what became of them. -/
structure ProviderExecutionPermit where
  id : Uuid
  merchantId : Uuid
  launchId : Option Uuid
  runId : Uuid
  missionKey : String
  attempt : Nat
  attemptKey : String
  provider : Provider
  requestedModel : String
  policyVersion : Nat
  grantedRequests : Nat
  consumedRequests : Option Nat
  state : PermitState
  openedAt : Instant
  closedAt : Option Instant
  grantPositive : 1 ≤ grantedRequests
  consumptionShape : state = .reconciled ↔ consumedRequests.isSome
  consumptionBounded : ∀ consumed, consumedRequests = some consumed →
    consumed ≤ grantedRequests
  closedShape : state ≠ .reserved ↔ closedAt.isSome
  closeAfterOpen : ∀ closed, closedAt = some closed → openedAt ≤ closed

instance : Keyed ProviderExecutionPermit Uuid := ⟨ProviderExecutionPermit.id⟩

namespace ProviderExecutionPermit

/-- The generated column: what the state of a permit charges. -/
def chargedRequests (permit : ProviderExecutionPermit) : Nat :=
  match permit.state with
  | .reconciled => permit.consumedRequests.getD 0
  | .released => 0
  | .reserved | .assumedSpent => permit.grantedRequests

/-- No permit charges more than it grants. -/
theorem chargedRequests_le (permit : ProviderExecutionPermit) :
    permit.chargedRequests ≤ permit.grantedRequests := by
  unfold chargedRequests
  split
  · cases consumed : permit.consumedRequests with
    | none => exact Nat.zero_le _
    | some count => exact permit.consumptionBounded count consumed
  · exact Nat.zero_le _
  · exact le_rfl
  · exact le_rfl

/-- An open permit charges all it grants. -/
theorem chargedRequests_of_reserved {permit : ProviderExecutionPermit}
    (isReserved : permit.state = .reserved) :
    permit.chargedRequests = permit.grantedRequests := by
  unfold chargedRequests
  rw [isReserved]

end ProviderExecutionPermit

def defaultWindowSeconds : Nat := 86400

def defaultPolicyVersion : Nat := 1

def defaultMaxConcurrentLaunches : Nat := 1

def defaultMissionRequestMultiplier : Nat := 2

def defaultLaunchRetryAllowancePercent : Nat := 50

structure ProviderCapacityPolicy where
  provider : Provider
  version : Nat
  enabled : Bool
  maxConcurrentLaunches : Nat
  missionRequestMultiplier : Nat
  launchRetryAllowancePercent : Nat
  maxRequestsPerWindow : Option Nat
  windowSeconds : Nat
  versionPositive : 1 ≤ version
  concurrencyPositive : 1 ≤ maxConcurrentLaunches
  missionMultiplierPositive : 1 ≤ missionRequestMultiplier
  retryAllowanceBounded : launchRetryAllowancePercent ≤ 1000
  windowCapPositive : ∀ cap, maxRequestsPerWindow = some cap → 1 ≤ cap
  windowIsMeaningful : 60 ≤ windowSeconds
deriving DecidableEq

instance : Keyed ProviderCapacityPolicy Provider := ⟨ProviderCapacityPolicy.provider⟩

/-- A policy as the service reads it, written by an operator or not. -/
structure CapacityPolicy where
  provider : Provider
  version : Nat
  enabled : Bool
  maxConcurrentLaunches : Nat
  missionRequestMultiplier : Nat
  launchRetryAllowancePercent : Nat
  maxRequestsPerWindow : Option Nat
  windowSeconds : Nat
  configured : Bool
deriving DecidableEq

def CapacityPolicy.defaultFor (provider : Provider) : CapacityPolicy where
  provider := provider
  version := defaultPolicyVersion
  enabled := true
  maxConcurrentLaunches := defaultMaxConcurrentLaunches
  missionRequestMultiplier := defaultMissionRequestMultiplier
  launchRetryAllowancePercent := defaultLaunchRetryAllowancePercent
  maxRequestsPerWindow := none
  windowSeconds := defaultWindowSeconds
  configured := false

def CapacityPolicy.of (row : ProviderCapacityPolicy) : CapacityPolicy where
  provider := row.provider
  version := row.version
  enabled := row.enabled
  maxConcurrentLaunches := row.maxConcurrentLaunches
  missionRequestMultiplier := row.missionRequestMultiplier
  launchRetryAllowancePercent := row.launchRetryAllowancePercent
  maxRequestsPerWindow := row.maxRequestsPerWindow
  windowSeconds := row.windowSeconds
  configured := true

structure ExecutionBudget where
  policyVersion : Nat
  missionCount : Nat
  maxModelTurns : Nat
  maxProviderRequests : Nat
  maxRequestsPerMission : Nat
deriving DecidableEq

/-- The budget that a run is admitted with.  Percentages are rounded up. -/
def frozenBudget (policy : CapacityPolicy) (missionCount maxModelTurns : Nat) :
    Except ValueError ExecutionBudget :=
  if missionCount < 1 ∨ maxModelTurns < 1 then
    .error
      { message := "an execution budget needs at least one mission and one model turn" }
  else
    let base := missionCount * maxModelTurns
    let total := (base * (100 + policy.launchRetryAllowancePercent) + 99) / 100
    let perMission := maxModelTurns * policy.missionRequestMultiplier
    .ok
      { policyVersion := policy.version
        missionCount := missionCount
        maxModelTurns := maxModelTurns
        maxProviderRequests := max total base
        maxRequestsPerMission := min (max perMission maxModelTurns) (max total base) }

/-- A budget that was computed from some policy. -/
structure FrozenBudget extends ExecutionBudget where
  frozen : ∃ policy, frozenBudget policy missionCount maxModelTurns = .ok toExecutionBudget

/-- A mission of a run may take at least one request for each of its turns. -/
theorem FrozenBudget.turns_le (budget : FrozenBudget) :
    budget.maxModelTurns ≤ budget.maxRequestsPerMission := by
  obtain ⟨policy, frozen⟩ := budget.frozen
  unfold frozenBudget at frozen
  split at frozen
  · cases frozen
  · next enough =>
      rw [not_or, Nat.not_lt, Nat.not_lt] at enough
      have perMission := congrArg ExecutionBudget.maxRequestsPerMission (Except.ok.inj frozen)
      rw [← perMission]
      apply le_min (le_max_right _ _)
      apply le_trans _ (le_max_right _ _)
      exact Nat.le_mul_of_pos_left _ enough.1

end AgentRank.Benchmark
