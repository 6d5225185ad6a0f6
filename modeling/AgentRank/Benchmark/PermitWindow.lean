import AgentRank.Benchmark.PermitBounds

/-!
# The rolling window of a provider

A reservation is stamped with the clock of its transaction, which is read before the lock
is had, so permits need not be stamped in the order in which they are granted.  The window
that a reservation reads has no end.  It counts what was granted before under a later
stamp as well, and the permit that was granted last bounds every window it is in.
-/

namespace AgentRank.Benchmark

open Relational Store Transition

/-- The requests that a provider is charged within the window that ends at an instant. -/
def PermitLedger.chargeWithin (ledger : PermitLedger) (provider : Provider)
    (windowSeconds : Nat) (instant : Instant) : Nat :=
  chargeSum ledger.permits fun permit =>
    permit.provider = provider ∧ instant - windowSeconds * 1000000 ≤ permit.openedAt ∧
      permit.openedAt ≤ instant

/-- What counts more permits sums to more. -/
theorem chargeSum_mono {permits : Table ProviderExecutionPermit}
    {fewer more : ProviderExecutionPermit → Bool}
    (counted : ∀ permit, fewer permit = true → more permit = true) :
    chargeSum permits fewer ≤ chargeSum permits more := by
  apply Table.total_le_total
  intro permit _
  by_cases isCounted : fewer permit = true
  · rw [if_pos isCounted, if_pos (counted permit isCounted)]
  · rw [if_neg isCounted]
    exact Nat.zero_le _

section Window

variable (brokers : Uuid → RunPermitBroker) (policy : CapacityPolicy) (cap : Nat)

/-- No window of the provider is charged more than its cap. -/
structure WindowGood (ledger : PermitLedger) : Prop where
  fixed : ledger.policy policy.provider = policy
  within : ∀ instant, ledger.chargeWithin policy.provider policy.windowSeconds instant ≤ cap

/-- What a reservation at the provider relies on between its statements. -/
def WindowRelies (ledger : PermitLedger) : PermitStage → Prop
  | .readRun request _ read | .readWindow request _ read _ =>
      (brokers request.runId).provider = policy.provider → read = policy
  | .insert request transactionTime granted =>
      (brokers request.runId).provider = policy.provider →
        granted + ledger.windowCharge policy.provider policy.windowSeconds transactionTime ≤ cap
  | _ => True

def windowDiscipline : System.Discipline PermitLedger PermitStage where
  shared := WindowGood policy cap
  relies := WindowRelies brokers policy cap
  apart := PermitStage.Apart brokers

variable {brokers policy cap} {stage other : PermitStage} {ledger after : PermitLedger}

theorem counts_since (provider : Provider) (since : Instant) :
    CountsReservations fun permit => permit.provider = provider ∧ since ≤ permit.openedAt := by
  intro row permit same
  simp only [same.provider, same.openedAt]

theorem counts_within (provider : Provider) (since instant : Instant) :
    CountsReservations fun permit =>
      permit.provider = provider ∧ since ≤ permit.openedAt ∧ permit.openedAt ≤ instant := by
  intro row permit same
  simp only [same.provider, same.openedAt]

/-- Beside a client at the lock of a provider, what the provider is charged never rises. -/
theorem windowCharge_le_of_apart
    (step : PermitStep brokers stage ledger.permits after.permits) {provider : Provider}
    {windowSeconds : Nat} {transactionTime : Instant}
    (holds : other.holds brokers = some provider) (apart : stage.Apart brokers other) :
    after.windowCharge provider windowSeconds transactionTime ≤
      ledger.windowCharge provider windowSeconds transactionTime := by
  apply step.chargeSum_le (counts_since provider _)
  rintro request stamped granted permit rfl isNew
  obtain ⟨_, _, sameProvider, _⟩ := newPermit?_eq_some isNew
  rw [decide_eq_false_iff_not, sameProvider]
  rintro ⟨isProvider, _⟩
  exact apart _ (congrArg some isProvider) holds

/-- A step keeps every window within the cap. -/
theorem WindowGood.step (good : WindowGood policy cap ledger)
    (step : PermitStep brokers stage ledger.permits after.permits)
    (samePolicy : after.policy policy.provider = ledger.policy policy.provider)
    (relies : WindowRelies brokers policy cap ledger stage) : WindowGood policy cap after where
  fixed := samePolicy.trans good.fixed
  within := by
    intro instant
    by_cases isInside : ∃ request transactionTime granted,
        stage = .insert request transactionTime granted ∧
          (brokers request.runId).provider = policy.provider ∧ transactionTime ≤ instant
    · obtain ⟨request, transactionTime, granted, rfl, isProvider, inside⟩ := isInside
      have fits := relies isProvider
      have rises :
          (after.chargeWithin policy.provider policy.windowSeconds instant : Int) ≤
            ledger.chargeWithin policy.provider policy.windowSeconds instant + max 0 granted :=
        step.chargeSum_le_add (counts_within policy.provider _ instant)
      -- The window of this reservation starts no later, and has no end.
      have counted : ledger.chargeWithin policy.provider policy.windowSeconds instant ≤
          ledger.windowCharge policy.provider policy.windowSeconds transactionTime := by
        apply chargeSum_mono
        intro permit isCounted
        obtain ⟨atProvider, starts, _⟩ := of_decide_eq_true isCounted
        apply decide_eq_true
        exact ⟨atProvider, le_trans (Int.sub_le_sub_right inside _) starts⟩
      have before := good.within instant
      omega
    · apply le_trans _ (good.within instant)
      apply step.chargeSum_le (counts_within policy.provider _ instant)
      rintro request transactionTime granted permit rfl isNew
      obtain ⟨_, _, sameProvider, sameTime, _⟩ := newPermit?_eq_some isNew
      rw [decide_eq_false_iff_not, sameProvider, sameTime]
      rintro ⟨isProvider, _, inside⟩
      exact isInside ⟨request, transactionTime, granted, rfl, isProvider, inside⟩

/-- A stage leaves what the next one relies on. -/
theorem WindowRelies.next {now : Instant} {next : PermitStage}
    (relies : WindowRelies brokers policy cap ledger stage)
    (good : WindowGood policy cap ledger) (capped : policy.maxRequestsPerWindow = some cap)
    (goesOn : (stage.act brokers now ledger).2 = some next) :
    WindowRelies brokers policy cap (stage.act brokers now ledger).1 next := by
  cases stage with
  | begin call =>
      cases call with
      | reserve request =>
          cases goesOn
          trivial
      | settle permitId settlement => cases goesOn
  | lock request transactionTime =>
      cases goesOn
      trivial
  | readAttempt request transactionTime =>
      obtain ⟨rfl, _⟩ := readAttempt_next goesOn
      trivial
  | readPolicy request transactionTime =>
      obtain ⟨rfl, _⟩ := readPolicy_next goesOn
      intro isProvider
      rw [isProvider]
      exact good.fixed
  | readRun request transactionTime read =>
      obtain ⟨launchRemaining, rfl, _⟩ := readRun_next goesOn
      exact relies
  | readWindow request transactionTime read launchRemaining =>
      obtain ⟨granted, rfl, same, _, _, _, fits⟩ := readWindow_next goesOn
      intro isProvider
      obtain rfl := relies isProvider
      change granted +
        ((readWindow brokers ledger request transactionTime read launchRemaining).1.windowCharge
          _ _ _ : Int) ≤ cap
      rw [same, ← isProvider]
      exact fits cap capped
  | insert request transactionTime granted =>
      obtain rfl := insertPermit_next goesOn
      trivial
  | reread request => exact absurd goesOn reread_over

/-- What other clients do keeps what a reservation relies on. -/
theorem WindowRelies.others (relies : WindowRelies brokers policy cap ledger other)
    (step : PermitStep brokers stage ledger.permits after.permits)
    (apart : stage.Apart brokers other) : WindowRelies brokers policy cap after other := by
  cases other with
  | begin | lock | readAttempt | readPolicy | reread => trivial
  | readRun | readWindow => exact relies
  | insert request transactionTime granted =>
      intro isProvider
      have fits := relies isProvider
      have holds :
          (PermitStage.insert request transactionTime granted).holds brokers =
            some policy.provider :=
        congrArg some isProvider
      have less : after.windowCharge policy.provider policy.windowSeconds transactionTime ≤
          ledger.windowCharge policy.provider policy.windowSeconds transactionTime :=
        windowCharge_le_of_apart step holds apart
      omega

/-- Writing the policy of another provider keeps this one. -/
theorem writePolicy_policy {row : ProviderCapacityPolicy} {provider : Provider}
    (isOther : row.provider ≠ provider) :
    (writePolicy row ledger).policy provider = ledger.policy provider := by
  have found : (writePolicy row ledger).policies.get? provider =
      ledger.policies.get? provider := by
    unfold writePolicy
    split
    · next policies inserted =>
        exact Table.get?_insert?_of_ne inserted isOther
    · exact Table.get?_set_of_ne isOther
  unfold PermitLedger.policy
  rw [found]

/-- A policy that was written is the one of its provider. -/
theorem writePolicy_policy_self (row : ProviderCapacityPolicy) (ledger : PermitLedger) :
    (writePolicy row ledger).policy row.provider = .of row := by
  have found : (writePolicy row ledger).policies.get? row.provider = some row := by
    unfold writePolicy
    split
    · next policies inserted =>
        exact Table.get?_key ((Table.mem_insert?_iff inserted).mpr (Or.inr rfl))
    · next taken =>
        rcases Table.insert?_eq_none_iff.mp taken with ⟨old, oldMem, oldKey⟩
        exact Table.get?_set_self oldMem oldKey
  unfold PermitLedger.policy
  rw [found]

/-- No stage of a client writes a policy. -/
theorem PermitStage.act_policy {now : Instant} {provider : Provider} :
    (stage.act brokers now ledger).1.policy provider = ledger.policy provider := by
  have samePolicies : (stage.act brokers now ledger).1.policies = ledger.policies :=
    PermitStage.act_moves.2
  unfold PermitLedger.policy
  rw [samePolicies]

/-- Every stage keeps what the window rests on, while the policy of the provider is not
rewritten. -/
theorem permitSystem_keeps_window (capped : policy.maxRequestsPerWindow = some cap) :
    System.Keeps (permitSystem brokers)
      (permitLocks brokers fun row => row.provider ≠ policy.provider)
      (windowDiscipline brokers policy cap) where
  symmetric apart provider secondHolds firstHolds := apart provider firstHolds secondHolds
  enterRelies _ _ _ := trivial
  enterApart := begin_apart
  actShared _ _ _ good relies := good.step PermitStage.act_step PermitStage.act_policy relies
  actRelies _ _ _ _ good relies goesOn := relies.next good capped goesOn
  actOthers _ _ _ _ _ _ others apart := others.others PermitStage.act_step apart
  actApart _ _ _ _ _ _ _ _ _ _ beside := beside
  outsideShared row ledger isOther good := by
    have moved : PermitStep brokers (.begin (.settle 0 .release)) ledger.permits
        (writePolicy row ledger).permits :=
      writePolicy_step row ledger
    exact good.step moved (writePolicy_policy isOther) trivial
  outsideOthers row ledger other _ _ relies :=
    relies.others (writePolicy_step row ledger) (begin_apart _ other)

/-- Under a fixed policy, no window is charged more than the cap, whenever it ends and in
whatever order the lock is had. -/
theorem window_charged_within_cap {policies : Table ProviderCapacityPolicy}
    {policy : CapacityPolicy} {cap : Nat}
    (fixed : (PermitLedger.opening policies).policy policy.provider = policy)
    (capped : policy.maxRequestsPerWindow = some cap)
    {events : List (Event PermitCall Instant ProviderCapacityPolicy)}
    (locked : Guarded (permitSystem brokers).step
      ((permitSystem brokers).Allowed
        (permitLocks brokers fun row => row.provider ≠ policy.provider))
      (World.opening (PermitLedger.opening policies)) events) (instant : Instant) :
    (run (permitSystem brokers).step (World.opening (PermitLedger.opening policies))
      events).shared.chargeWithin policy.provider policy.windowSeconds instant ≤ cap := by
  have begins : WindowGood policy cap (PermitLedger.opening policies) :=
    ⟨fixed, fun _ => Nat.zero_le _⟩
  have opening : System.Obeys (windowDiscipline brokers policy cap)
      (World.opening (PermitLedger.opening policies)) :=
    System.obeys_opening begins
  exact (opening.run (permitSystem_keeps_window capped) locked).shared.within instant

end Window

/-- The sample reservation, within the window that ends right after it. -/
theorem window_charged_within_cap_sample :
    (run (permitSystem fun _ => sampleBroker).step
      (World.opening (PermitLedger.opening samplePolicies))
      (sampleReserve "first" 6 ++ sampleSettle)).shared.chargeWithin .openai 60 30 ≤ 8 := by
  have fixed : (PermitLedger.opening samplePolicies).policy .openai = .of samplePolicyRow :=
    rfl
  have capped : (CapacityPolicy.of samplePolicyRow).maxRequestsPerWindow = some 8 := rfl
  exact window_charged_within_cap fixed capped (sampleReserve_locked _) 30

end AgentRank.Benchmark
