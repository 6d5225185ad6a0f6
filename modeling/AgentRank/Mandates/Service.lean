import AgentRank.Constraints.Request

/-!
# Withdrawing a mandate

This module models `MandateService.revoke_mandate` of `mandates/service.py`.
Revoking is idempotent: only the call that changes the mandate appends an event.
-/

namespace AgentRank.Mandates

open Constraints Relational Store Transaction

/-- `MandateRepository.revoke`. -/
def revoke (mandate : SpendingMandate) (transactionTime : Instant) : Session Bool :=
  match mandate.status with
  | .revoked => pure false
  | .active => do
      modify fun database =>
        { database with
          mandates :=
            database.mandates.set
              { mandate with status := .revoked, revokedAt := some transactionTime } }
      pure true

/-- `MandateService.revoke_mandate`. -/
def revokeMandate (mandateId merchantId : Uuid)
    (capability : Option BenchmarkRunCapability) (credentialId : Option Uuid)
    (transactionTime : Instant) : Session PUnit := do
  requireAllowed merchantId capability
  let mandate ←
    Transaction.require (findMandate (← get) mandateId merchantId)
      (.notFound "mandate" (toString mandateId))
  if ← revoke mandate transactionTime then
    appendAudit
      { merchantId := mandate.merchantId
        actorType := .buyer
        credentialId := credentialId
        eventType := .mandateRevoked
        resourceType := "spending_mandate"
        resourceId := mandate.id
        payload := [("status", Payload.text MandateStatus.revoked.value)] }

/-- A committed revocation rewrote mandates only, and appended at most its own
event. -/
theorem revokeMandate_eq_ok {mandateId merchantId : Uuid}
    {capability : Option BenchmarkRunCapability} {credentialId : Option Uuid}
    {transactionTime : Instant} {database final : Database} {result : PUnit}
    (committed : revokeMandate mandateId merchantId capability credentialId transactionTime
      database = .ok (result, final)) :
    final =
        { database with mandates := final.mandates, auditEvents := final.auditEvents } ∧
      Appends [.mandateRevoked] database final := by
  simp only [revokeMandate, bind_eq_ok_iff, requireAllowed_eq_ok_iff,
    get_eq_ok_iff, require_eq_ok_iff] at committed
  obtain ⟨_, _, ⟨_, rfl⟩, _, _, ⟨rfl, rfl⟩, mandate, _, ⟨_, rfl⟩, changed, _, revoked,
    committed⟩ := committed
  unfold revoke at revoked
  cases status : mandate.status with
  | revoked =>
      simp only [status, pure_eq_ok_iff] at revoked
      obtain ⟨rfl, rfl⟩ := revoked
      simp only [Bool.false_eq_true, if_false, pure_eq_ok_iff] at committed
      obtain ⟨_, rfl⟩ := committed
      exact ⟨rfl, Appends.refl _ _⟩
  | active =>
      simp only [status, bind_eq_ok_iff, modify_eq_ok_iff,
        pure_eq_ok_iff] at revoked
      obtain ⟨_, _, rfl, rfl, rfl⟩ := revoked
      simp only [if_true, appendAudit_eq_ok_iff] at committed
      subst committed
      exact ⟨rfl, Appends.event (List.mem_singleton_self _) rfl⟩

end AgentRank.Mandates
