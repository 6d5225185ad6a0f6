import AgentRank.Benchmark.LaunchAdmission
import AgentRank.Benchmark.LaunchRecords
import AgentRank.Benchmark.PermitWindow

/-!
# The launches that execute at a provider

A launch becomes executing in the transaction that has counted the others, and nobody else
makes one executing at the same provider while that transaction holds the lock.  Everything
else that is written between the count and the commit makes the count smaller.
-/

namespace AgentRank.Benchmark

open Relational Store Transition

/-- Every row that is counted in one table is counted in another. -/
theorem length_filter_le_of_mem {table final : Table EvaluationLaunch}
    {counts before : EvaluationLaunch → Bool}
    (counted : ∀ launch ∈ final, counts launch = true → launch ∈ table ∧ before launch = true) :
    (final.rows.filter counts).length ≤ (table.rows.filter before).length := by
  have distinct : (final.rows.filter counts).Nodup :=
    (List.Nodup.of_map _ final.keysNodup).filter _
  apply (distinct.subperm _).length_le
  intro launch member
  rcases List.mem_filter.mp member with ⟨finalMem, isCounted⟩
  exact List.mem_filter.mpr (counted launch finalMem isCounted)

/-- A row that is counted in one table is one row, or is counted in another. -/
theorem length_filter_le_succ_of_mem {table final : Table EvaluationLaunch}
    {counts before : EvaluationLaunch → Bool} (new : EvaluationLaunch)
    (counted : ∀ launch ∈ final, counts launch = true →
      launch = new ∨ launch ∈ table ∧ before launch = true) :
    (final.rows.filter counts).length ≤ (table.rows.filter before).length + 1 := by
  have distinct : (final.rows.filter counts).Nodup :=
    (List.Nodup.of_map _ final.keysNodup).filter _
  have within : final.rows.filter counts ⊆ new :: table.rows.filter before := by
    intro launch member
    rcases List.mem_filter.mp member with ⟨finalMem, isCounted⟩
    rcases counted launch finalMem isCounted with rfl | old
    · exact List.mem_cons_self
    · exact List.mem_cons_of_mem _ (List.mem_filter.mpr old)
  exact (distinct.subperm within).length_le

variable {provider : Provider} {launch : EvaluationLaunch}

namespace CapacityStore

/-- The executing launches that the policy of a provider allows. -/
def limit (store : CapacityStore) (provider : Provider) : Nat :=
  (store.ledger.policy provider).maxConcurrentLaunches

theorem isExecutingAt_iff :
    isExecutingAt provider launch = true ↔
      launch.status = .executing ∧ launch.executorKind = planKind (some provider) := by
  simp [isExecutingAt, planKind]

end CapacityStore

/-! ## What a write does to the executing launches -/

/-- What a transaction does to the launches: every launch keeps its kind, the checks of the
table hold on, and at most one launch becomes executing. -/
structure LaunchChange (bound : Option Uuid) (store final : LaunchStore) : Prop where
  kinds : ∀ launch ∈ store.launches, ∃ next ∈ final.launches, next.id = launch.id ∧
    next.executorKind = launch.executorKind
  checked : ∀ launch ∈ final.launches, launch.violated = none
  eases : ∀ launch ∈ final.launches, launch.status = .executing →
    launch ∈ store.launches ∨ some launch.id = bound

/-- The rows of a store pass the checks of the table. -/
def Checked (store : LaunchStore) : Prop :=
  ∀ launch ∈ store.launches, launch.violated = none

theorem LaunchChange.of_same {bound : Option Uuid} {store final : LaunchStore}
    (checked : Checked store) (same : final.launches = store.launches) :
    LaunchChange bound store final where
  kinds _ member := ⟨_, same ▸ member, rfl, rfl⟩
  checked launch member := checked launch (same ▸ member)
  eases _ member _ := Or.inl (same ▸ member)

/-- An executing launch names a run, and a queued one does not. -/
theorem runId_of_checked (checked : launch.violated = none) :
    (launch.status = .executing → launch.runId.isSome = true) ∧
      (launch.status = .queued → launch.runId = none) := by
  have holds : ∀ check ∈ launchChecks, check.holds launch = true := by
    simpa [EvaluationLaunch.violated] using checked
  simp only [launchChecks, List.forall_mem_cons] at holds
  constructor
  · intro executing
    have shape := holds.2.2.2.2.2.1
    simp [executing] at shape
    exact shape.1.1
  · intro queued
    have shape := holds.2.2.2.2.1
    simp [queued] at shape
    exact shape.1.1.1

variable {launchId : Uuid}

/-- Only a write that binds a run makes a launch executing. -/
theorem LaunchWrite.change {binds : Option Uuid} {store final : LaunchStore}
    (checked : Checked store) (written : LaunchWrite launchId binds store final) :
    LaunchChange (binds.map fun _ => launchId) store final := by
  cases written with
  | kept => exact .of_same checked rfl
  | @wrote new launches isAt unbroken settled rows origin =>
      have newChecked := (brokenConstraint_eq_none_iff.mp unbroken).1
      constructor
      · intro launch member
        by_cases sameId : launch.id = new.id
        · refine ⟨new, (rows new).mpr (Or.inl rfl), sameId.symm, ?_⟩
          rcases origin with ⟨_, _, _, fresh⟩ | ⟨old, oldMem, frozen, _⟩
          · exact absurd sameId (fresh launch member)
          · have sameRow : launch = old := by
              apply Table.eq_of_key_eq member oldMem
              exact sameId.trans (by rw [frozen]; rfl)
            rw [sameRow, frozen]
        · exact ⟨launch, (rows launch).mpr (Or.inr ⟨member, sameId⟩), rfl, rfl⟩
      · intro launch member
        rcases (rows launch).mp member with rfl | ⟨old, _⟩
        · exact newChecked
        · exact checked launch old
      · intro launch member executing
        rcases (rows launch).mp member with rfl | ⟨old, _⟩
        · rcases origin with ⟨queued, _⟩ | ⟨old, oldMem, _, _, moved, named⟩
          · rw [queued] at executing
            cases executing
          · have wasQueued : old.status = .queued := by
              rw [executing] at moved
              cases status : old.status <;> simp [launchMoves, status] at moved ⊢
            have unbound := (runId_of_checked (checked old oldMem)).2 wasQueued
            have bound := (runId_of_checked newChecked).1 executing
            rcases named with same | isBound
            · rw [same, unbound] at bound
              cases bound
            · rw [isBound] at bound
              rcases Option.isSome_iff_exists.mp bound with ⟨runId, rfl⟩
              exact Or.inr (congrArg some isAt)
        · exact Or.inl old

/-- No decision on a locked row makes a launch executing. -/
theorem CapacityCall.decide_change {call : CapacityCall} {store final : LaunchStore}
    (checked : Checked store) (decided : call.decide store = .ok final) :
    LaunchChange none store final := by
  cases call with
  | dispatch launchId runId =>
      cases decided
      exact .of_same checked rfl
  | completed launchId held => exact (settleCompleted_write decided).change checked
  | failed launchId held failureCode => exact (settleFailed_write decided).change checked
  | terminal runId held =>
      rcases settleForTerminalRun_write decided with rfl | ⟨launch, _, _, written⟩
      · exact .of_same checked rfl
      · exact written.change checked
  | cancel launchId => exact (cancelQueued_write decided).change checked
  | withdraw merchantId launchId => exact (withdrawLaunch_write decided).change checked
  | request launchId asked facts =>
      cases requested : requestLaunch launchId asked facts store with
      | error failure => simp [CapacityCall.decide, requested, Except.map] at decided
      | ok result =>
          simp only [CapacityCall.decide, requested, Except.map, Except.ok.injEq] at decided
          rw [← decided]
          exact (requestLaunch_write requested).change checked

theorem writeBinding_change {store : LaunchStore} {runId : Uuid} {now : Instant}
    {final : LaunchStore} (checked : Checked store) (stored : launch ∈ store.launches)
    (written : writeLaunch launch (launch.bind runId now) store = .ok final) :
    LaunchChange (some launch.id) store final := by
  by_cases queued : launch.status = .queued
  · have isWrite : LaunchWrite launch.id (some runId) store final :=
      writeLaunch_write stored (frozen_bind _ _ _) nofun (fun _ => queued) (Or.inr rfl) written
    exact isWrite.change checked
  · -- The launch was executing: it is written over, and no other launch is.
    unfold writeLaunch at written
    split at written
    · cases written
    · split at written
      · cases written
      · next unbroken =>
          cases written
          have sameId : launch.id = (launch.bind runId now).id := rfl
          have newChecked := (brokenConstraint_eq_none_iff.mp unbroken).1
          have rows := fun other => @Table.mem_set_iff _ _ _ _ _ launch _ other stored sameId
          constructor
          · intro other member
            by_cases isLaunch : other.id = launch.id
            · have sameRow : other = launch := Table.eq_of_key_eq member stored isLaunch
              exact ⟨_, (rows _).mpr (Or.inl rfl), isLaunch.symm, by rw [sameRow]; rfl⟩
            · exact ⟨other, (rows other).mpr (Or.inr ⟨member, isLaunch⟩), rfl, rfl⟩
          · intro other member
            rcases (rows other).mp member with rfl | ⟨old, _⟩
            · exact newChecked
            · exact checked other old
          · intro other member _
            rcases (rows other).mp member with rfl | ⟨old, _⟩
            · exact Or.inr rfl
            · exact Or.inl old

section Counts

variable {bound : Option Uuid} {store final : CapacityStore}

/-- The launch that becomes executing, if any, is not one of the provider. -/
def SparesProvider (provider : Provider) (bound : Option Uuid) (store : CapacityStore) : Prop :=
  ∀ launch ∈ store.launches.launches, some launch.id = bound →
    launch.executorKind ≠ planKind (some provider)

theorem sparesProvider_none (provider : Provider) : SparesProvider provider none store :=
  fun _ _ isBound => nomatch isBound

theorem nothingBound (launchId : Uuid) (isBound : none = some launchId) :
    ∃ launch ∈ store.launches.launches, launch.id = launchId :=
  nomatch isBound

/-- A launch that executes at a spared provider executed there before. -/
theorem LaunchChange.executed (changed : LaunchChange bound store.launches final.launches)
    (spares : SparesProvider provider bound store)
    (known : ∀ launchId, bound = some launchId →
      ∃ launch ∈ store.launches.launches, launch.id = launchId)
    (member : launch ∈ final.launches.launches)
    (executes : CapacityStore.isExecutingAt provider launch = true) :
    launch ∈ store.launches.launches := by
  rcases CapacityStore.isExecutingAt_iff.mp executes with ⟨executing, kind⟩
  rcases changed.eases launch member executing with old | isBound
  · exact old
  · obtain ⟨old, oldMem, oldId⟩ := known launch.id isBound.symm
    obtain ⟨next, nextMem, nextId, sameKind⟩ := changed.kinds old oldMem
    have sameRow : next = launch := Table.eq_of_key_eq nextMem member (nextId.trans oldId)
    have oldKind : old.executorKind = planKind (some provider) := by
      rw [← sameKind, sameRow, kind]
    exact absurd oldKind (spares old oldMem (by rw [oldId, isBound]))

theorem LaunchChange.executing_le (changed : LaunchChange bound store.launches final.launches)
    (spares : SparesProvider provider bound store)
    (known : ∀ launchId, bound = some launchId →
      ∃ launch ∈ store.launches.launches, launch.id = launchId) :
    final.executing provider ≤ store.executing provider :=
  length_filter_le_of_mem fun _ member executes =>
    ⟨changed.executed spares known member executes, executes⟩

theorem LaunchChange.executingBut_le (changed : LaunchChange bound store.launches final.launches)
    (spares : SparesProvider provider bound store)
    (known : ∀ launchId, bound = some launchId →
      ∃ launch ∈ store.launches.launches, launch.id = launchId) (excluding : Uuid) :
    final.executingBut provider excluding ≤ store.executingBut provider excluding := by
  apply length_filter_le_of_mem
  intro launch member counted
  have executes := (Bool.and_eq_true_iff.mp counted).1
  exact ⟨changed.executed spares known member executes, counted⟩

/-- Binding a launch adds at most that launch to the others. -/
theorem LaunchChange.executing_le_succ
    (changed : LaunchChange (some launchId) store.launches final.launches)
    (known : ∃ launch ∈ store.launches.launches, launch.id = launchId) (provider : Provider) :
    final.executing provider ≤ store.executingBut provider launchId + 1 := by
  obtain ⟨old, oldMem, rfl⟩ := known
  obtain ⟨new, newMem, newId, _⟩ := changed.kinds old oldMem
  apply length_filter_le_succ_of_mem new
  intro launch member executes
  by_cases isNew : launch.id = old.id
  · exact Or.inl (Table.eq_of_key_eq member newMem (isNew.trans newId.symm))
  · have executing := (CapacityStore.isExecutingAt_iff.mp executes).1
    rcases changed.eases launch member executing with stored | isBound
    · exact Or.inr ⟨stored, by simp [executes, isNew]⟩
    · exact absurd (Option.some.inj isBound) isNew

end Counts

/-- Every provider executes what its policy allows. -/
structure CapacityGood (store : CapacityStore) : Prop where
  checked : Checked store.launches
  within : ∀ provider, store.executing provider ≤ store.limit provider

/-- A dispatcher found its launch to be of the provider it asks, and what it read of the
policy is not more than what the policy allows. -/
structure Planned (store : CapacityStore) (binding : LaunchBinding) : Prop where
  kind : ∃ launch ∈ store.launches.launches, launch.id = binding.launchId ∧
    launch.executorKind = planKind binding.provider
  read : ∀ provider, binding.provider = some provider → ∀ policy, binding.read = some policy →
    policy.maxConcurrentLaunches ≤ store.limit provider

/-- There is room for one more launch beside the others of the provider. -/
def Room (store : CapacityStore) (binding : LaunchBinding) (provider : Provider) : Prop :=
  store.executingBut provider binding.launchId < store.limit provider

/-- What a stage relies on. -/
def CapacityStage.Relies (store : CapacityStore) : CapacityStage → Prop
  | look binding | start binding | lockRow binding _ => Planned store binding
  | lockProvider binding provider _ | readPolicy binding provider _ =>
      Planned store binding ∧ binding.provider = some provider
  | countLaunches binding provider _ policy =>
      Planned store binding ∧ binding.provider = some provider ∧
        policy.maxConcurrentLaunches ≤ store.limit provider
  | countOperators binding provider _ policy launches =>
      Planned store binding ∧ binding.provider = some provider ∧
        policy.maxConcurrentLaunches ≤ store.limit provider ∧
        store.executingBut provider binding.launchId ≤ launches
  | readWindow binding provider _ _ =>
      Planned store binding ∧ binding.provider = some provider ∧ Room store binding provider
  | write binding _ =>
      Planned store binding ∧
        ∀ provider, binding.provider = some provider → Room store binding provider
  | _ => True

/-- The discipline of the dispatchers: two of them never hold the lock of one provider. -/
def capacityDiscipline : System.Discipline CapacityStore CapacityStage where
  shared := CapacityGood
  relies := CapacityStage.Relies
  apart first second := ∀ provider, first.holdsProvider = some provider →
    second.holdsProvider ≠ some provider

/-- What a dispatcher grants the others: nobody allows less, launches keep their kinds, and
where it holds the lock of a provider nobody begins to execute there. -/
structure Beside (stage : CapacityStage) (store final : CapacityStore) : Prop where
  kinds : ∀ launch ∈ store.launches.launches, ∃ next ∈ final.launches.launches,
    next.id = launch.id ∧ next.executorKind = launch.executorKind
  limits : ∀ provider, store.limit provider ≤ final.limit provider
  others : ∀ provider, stage.holdsProvider = some provider → ∀ excluding,
    final.executingBut provider excluding ≤ store.executingBut provider excluding

variable {binding : LaunchBinding} {store final : CapacityStore} {stage : CapacityStage}

theorem Planned.beside (planned : Planned store binding) (beside : Beside stage store final) :
    Planned final binding where
  kind := by
    obtain ⟨launch, member, isAt, kind⟩ := planned.kind
    obtain ⟨next, nextMem, nextId, sameKind⟩ := beside.kinds launch member
    exact ⟨next, nextMem, nextId.trans isAt, sameKind.trans kind⟩
  read provider isProvider policy read :=
    (planned.read provider isProvider policy read).trans (beside.limits provider)

theorem Room.beside (room : Room store binding provider) (beside : Beside stage store final)
    (holds : stage.holdsProvider = some provider) :
    Room final binding provider := by
  have others := beside.others provider holds binding.launchId
  have limits := beside.limits provider
  unfold Room at room ⊢
  omega

theorem CapacityStage.Relies.beside (relies : stage.Relies store)
    (beside : Beside stage store final) :
    stage.Relies final := by
  cases stage with
  | begin | settle => trivial
  | look | start | lockRow => exact Planned.beside relies beside
  | lockProvider | readPolicy => exact ⟨relies.1.beside beside, relies.2⟩
  | countLaunches binding provider =>
      obtain ⟨planned, isProvider, allowed⟩ := relies
      exact ⟨planned.beside beside, isProvider, allowed.trans (beside.limits provider)⟩
  | countOperators binding provider =>
      obtain ⟨planned, isProvider, allowed, counted⟩ := relies
      exact ⟨planned.beside beside, isProvider, allowed.trans (beside.limits provider),
        (beside.others provider rfl binding.launchId).trans counted⟩
  | readWindow binding provider =>
      obtain ⟨planned, isProvider, room⟩ := relies
      exact ⟨planned.beside beside, isProvider, room.beside beside rfl⟩
  | write binding =>
      obtain ⟨planned, room⟩ := relies
      exact ⟨planned.beside beside, fun provider isProvider =>
        (room provider isProvider).beside beside isProvider⟩

/-! ## One step -/

/-- What one step writes: nothing but the launches, and it binds a launch only when it is
the last one of an admission. -/
inductive CapacityMove (stage : CapacityStage) (store final : CapacityStore) : Prop
  | settles (ledger : final.ledger = store.ledger)
      (changed : LaunchChange none store.launches final.launches)
  | binds (binding : LaunchBinding) (transactionTime : Instant)
      (isWrite : stage = .write binding transactionTime) (ledger : final.ledger = store.ledger)
      (changed : LaunchChange (some binding.launchId) store.launches final.launches)

section Step

variable {stage : CapacityStage} {input : CapacityInput} {store final : CapacityStore}

theorem CapacityMove.kept (checked : Checked store.launches) : CapacityMove stage store store :=
  .settles rfl (.of_same checked rfl)

variable {transactionTime : Instant}

theorem writeBinding_move (checked : Checked store.launches) :
    CapacityMove (.write binding transactionTime) store
      (writeBinding store binding transactionTime).1 := by
  unfold writeBinding
  split
  · exact .kept checked
  · next launch found =>
      rcases Table.get?_eq_some_iff.mp found with ⟨stored, isAt⟩
      unfold CapacityStore.lastly
      split
      · exact .kept checked
      · next written =>
          refine .binds binding transactionTime rfl rfl ?_
          exact isAt ▸ writeBinding_change checked stored written

/-- The stages whose statements only read. -/
def CapacityStage.Reads : CapacityStage → Prop
  | write _ _ | settle _ => False
  | _ => True

theorem planDispatch_store {runId : Uuid} {configured : Provider} :
    (planDispatch store launchId runId configured).1 = store := by
  unfold planDispatch
  split
  · rfl
  · dsimp only
    split <;> rfl

theorem lookAhead_store : (lookAhead store binding).1 = store := by
  unfold lookAhead
  split
  · rfl
  · split <;> rfl

theorem lockRow_store :
    (Benchmark.lockRow store binding transactionTime).1 = store := by
  unfold Benchmark.lockRow
  split
  · rfl
  · split
    · rfl
    · split <;> rfl

theorem readLaunchPolicy_store :
    (readLaunchPolicy store input binding provider transactionTime).1 = store := by
  unfold readLaunchPolicy
  lift_lets
  intro stored policy
  split <;> rfl

theorem countOperators_store {policy : CapacityPolicy} {launches : Nat} :
    (Benchmark.countOperators store binding provider transactionTime policy launches).1 =
      store := by
  unfold Benchmark.countOperators
  split
  · rfl
  · split <;> rfl

theorem readLaunchWindow_store {policy : CapacityPolicy} :
    (readLaunchWindow store binding provider transactionTime policy).1 = store := by
  unfold readLaunchWindow
  dsimp only
  split <;> rfl

theorem CapacityStage.act_store (reads : stage.Reads) : (stage.act input store).1 = store := by
  cases stage with
  | begin call =>
      cases call with
      | dispatch => exact planDispatch_store
      | completed | failed | terminal | cancel | withdraw | request => rfl
  | look => exact lookAhead_store
  | start | lockProvider | countLaunches => rfl
  | lockRow => exact lockRow_store
  | readPolicy => exact readLaunchPolicy_store
  | countOperators => exact countOperators_store
  | readWindow => exact readLaunchWindow_store
  | write | settle => exact reads.elim

theorem CapacityStage.act_move (checked : Checked store.launches) :
    CapacityMove stage store (stage.act input store).1 := by
  by_cases reads : stage.Reads
  · rw [CapacityStage.act_store reads]
    exact .kept checked
  · cases stage with
    | write binding transactionTime => exact writeBinding_move checked
    | settle call =>
        change CapacityMove _ store (store.lastly (call.decide store.launches)).1
        unfold CapacityStore.lastly
        split
        · exact .kept checked
        · next decided => exact .settles rfl (CapacityCall.decide_change checked decided)
    | _ => exact absurd trivial reads

/-- The launch of a planned binding is none of another provider. -/
theorem Planned.spares (planned : Planned store binding)
    (isOther : binding.provider ≠ some provider) :
    SparesProvider provider (some binding.launchId) store := by
  intro launch member isBound kind
  obtain ⟨frozen, frozenMem, frozenId, frozenKind⟩ := planned.kind
  have sameRow : launch = frozen :=
    Table.eq_of_key_eq member frozenMem ((Option.some.inj isBound).trans frozenId.symm)
  apply isOther
  apply planKind_injective
  rw [← frozenKind, ← sameRow, kind]

theorem Planned.known (planned : Planned store binding) (launchId : Uuid)
    (isBound : some binding.launchId = some launchId) :
    ∃ launch ∈ store.launches.launches, launch.id = launchId := by
  obtain ⟨launch, member, isAt, _⟩ := planned.kind
  exact ⟨launch, member, isAt.trans (Option.some.inj isBound)⟩

theorem CapacityStore.limit_of_ledger (same : final.ledger = store.ledger) (provider : Provider) :
    final.limit provider = store.limit provider := by
  unfold CapacityStore.limit
  rw [same]

/-- No step makes a provider execute more than its policy allows. -/
theorem CapacityGood.move (good : CapacityGood store) (relies : stage.Relies store)
    (move : CapacityMove stage store final) : CapacityGood final := by
  cases move with
  | settles ledger changed =>
      refine ⟨changed.checked, fun provider => ?_⟩
      rw [CapacityStore.limit_of_ledger ledger]
      exact (changed.executing_le (sparesProvider_none provider) nothingBound).trans (good.within provider)
  | binds binding transactionTime isWrite ledger changed =>
      subst isWrite
      obtain ⟨planned, room⟩ := relies
      refine ⟨changed.checked, fun provider => ?_⟩
      rw [CapacityStore.limit_of_ledger ledger]
      by_cases isProvider : binding.provider = some provider
      · -- The count of the admission still holds, so there is room for this one launch.
        have counted : final.executing provider ≤
            store.executingBut provider binding.launchId + 1 :=
          changed.executing_le_succ (planned.known _ rfl) provider
        have free : store.executingBut provider binding.launchId < store.limit provider :=
          room provider isProvider
        omega
      · exact (changed.executing_le (planned.spares isProvider) planned.known).trans
          (good.within provider)

/-- A step is what a dispatcher grants another one, whose provider is not its own. -/
theorem CapacityMove.beside {other : CapacityStage} (move : CapacityMove stage store final)
    (relies : stage.Relies store)
    (apart : capacityDiscipline.apart stage other) : Beside other store final := by
  cases move with
  | settles ledger changed =>
      refine ⟨changed.kinds, fun provider => ?_, fun provider _ excluding => ?_⟩
      · exact (CapacityStore.limit_of_ledger ledger provider).ge
      · exact changed.executingBut_le (sparesProvider_none provider) nothingBound excluding
  | binds binding transactionTime isWrite ledger changed =>
      subst isWrite
      obtain ⟨planned, _⟩ := relies
      refine ⟨changed.kinds, fun provider => ?_, fun provider holds excluding => ?_⟩
      · exact (CapacityStore.limit_of_ledger ledger provider).ge
      · have isOther : binding.provider ≠ some provider :=
          fun isProvider => apart provider isProvider holds
        exact changed.executingBut_le (planned.spares isOther) planned.known excluding

end Step

/-! ## Where a step leads -/

section Next

variable {store : CapacityStore} {input : CapacityInput} {binding : LaunchBinding}
  {provider : Provider} {transactionTime : Instant} {policy : CapacityPolicy} {launches : Nat}
  {next : CapacityStage}

theorem lastly_over {outcome : Except Failure LaunchStore}
    (goesOn : (store.lastly outcome).2 = some next) : False := by
  unfold CapacityStore.lastly at goesOn
  split at goesOn <;> cases goesOn

theorem planDispatch_next {runId : Uuid} {configured : Provider}
    (goesOn : (planDispatch store launchId runId configured).2 = some next) :
    next.Relies store := by
  unfold planDispatch at goesOn
  split at goesOn
  · cases goesOn
  · next launch found =>
      rcases Table.get?_eq_some_iff.mp found with ⟨member, isAt⟩
      dsimp only at goesOn
      split at goesOn
      · cases goesOn
        trivial
      · next isKind =>
          cases goesOn
          exact ⟨⟨launch, member, isAt, (not_not.mp isKind).symm⟩, nofun⟩

theorem lookAhead_next (planned : Planned store binding)
    (goesOn : (lookAhead store binding).2 = some next) : next.Relies store := by
  unfold lookAhead at goesOn
  split at goesOn
  · cases goesOn
    exact planned
  · next provider isProvider =>
      split at goesOn
      · cases goesOn
      · cases goesOn
        refine ⟨planned.kind, ?_⟩
        rintro other isOther _ ⟨⟩
        rw [Option.some.inj (isProvider.symm.trans isOther)]
        exact le_rfl

theorem lockRow_next (planned : Planned store binding)
    (goesOn : (Benchmark.lockRow store binding transactionTime).2 = some next) :
    next.Relies store := by
  unfold Benchmark.lockRow at goesOn
  split at goesOn
  · cases goesOn
  · split at goesOn
    · cases goesOn
    · split at goesOn
      · next isReference =>
          cases goesOn
          refine ⟨planned, fun provider isProvider => ?_⟩
          rw [isReference] at isProvider
          cases isProvider
      · next provider isProvider =>
          cases goesOn
          exact ⟨planned, isProvider⟩

theorem readLaunchPolicy_next (planned : Planned store binding)
    (isProvider : binding.provider = some provider)
    (goesOn : (readLaunchPolicy store input binding provider transactionTime).2 = some next) :
    next.Relies store := by
  have allowed : (if input.remembers = true then
      binding.read.getD (store.ledger.policy provider)
      else store.ledger.policy provider).maxConcurrentLaunches ≤ store.limit provider := by
    -- What the session remembers was not more than what the policy allows.
    split
    · cases read : binding.read with
      | none => exact le_rfl
      | some remembered => exact planned.read provider isProvider remembered read
    · exact le_rfl
  unfold readLaunchPolicy at goesOn
  lift_lets at goesOn
  extract_lets stored policy at goesOn
  split at goesOn
  · cases goesOn
  · cases goesOn
    exact ⟨planned, isProvider, allowed⟩

theorem countOperators_next (planned : Planned store binding)
    (isProvider : binding.provider = some provider)
    (allowed : policy.maxConcurrentLaunches ≤ store.limit provider)
    (counted : store.executingBut provider binding.launchId ≤ launches)
    (goesOn : (Benchmark.countOperators store binding provider transactionTime policy
      launches).2 = some next) : next.Relies store := by
  unfold Benchmark.countOperators at goesOn
  split at goesOn
  · cases goesOn
  · next free =>
      have room : Room store binding provider := by
        unfold Room
        omega
      split at goesOn
      · cases goesOn
        exact ⟨planned, isProvider, room⟩
      · cases goesOn
        refine ⟨planned, fun other isOther => ?_⟩
        rw [← Option.some.inj (isProvider.symm.trans isOther)]
        exact room

theorem readLaunchWindow_next (planned : Planned store binding)
    (isProvider : binding.provider = some provider) (room : Room store binding provider)
    (goesOn : (readLaunchWindow store binding provider transactionTime policy).2 = some next) :
    next.Relies store := by
  unfold readLaunchWindow at goesOn
  dsimp only at goesOn
  split at goesOn
  · cases goesOn
  · cases goesOn
    refine ⟨planned, fun other isOther => ?_⟩
    rw [← Option.some.inj (isProvider.symm.trans isOther)]
    exact room

theorem writeBinding_over
    (goesOn : (writeBinding store binding transactionTime).2 = some next) : False := by
  unfold writeBinding at goesOn
  split at goesOn
  · cases goesOn
  · exact lastly_over goesOn

end Next

/-- A stage that goes on has only read, and what it found is what the next one relies on. -/
theorem CapacityStage.act_next {next : CapacityStage} {input : CapacityInput}
    (relies : stage.Relies store) (goesOn : (stage.act input store).2 = some next) :
    stage.Reads ∧ next.Relies store := by
  cases stage with
  | begin call =>
      refine ⟨trivial, ?_⟩
      cases call with
      | dispatch launchId runId => exact planDispatch_next goesOn
      | completed | failed | terminal | cancel | withdraw | request =>
          cases goesOn
          trivial
  | look binding => exact ⟨trivial, lookAhead_next relies goesOn⟩
  | start binding =>
      cases goesOn
      exact ⟨trivial, relies⟩
  | lockRow binding transactionTime => exact ⟨trivial, lockRow_next relies goesOn⟩
  | lockProvider binding provider transactionTime =>
      cases goesOn
      exact ⟨trivial, relies⟩
  | readPolicy binding provider transactionTime =>
      exact ⟨trivial, readLaunchPolicy_next relies.1 relies.2 goesOn⟩
  | countLaunches binding provider transactionTime policy =>
      cases goesOn
      exact ⟨trivial, relies.1, relies.2.1, relies.2.2, le_rfl⟩
  | countOperators binding provider transactionTime policy launches =>
      obtain ⟨planned, isProvider, allowed, counted⟩ := relies
      exact ⟨trivial, countOperators_next planned isProvider allowed counted goesOn⟩
  | readWindow binding provider transactionTime policy =>
      obtain ⟨planned, isProvider, room⟩ := relies
      exact ⟨trivial, readLaunchWindow_next planned isProvider room goesOn⟩
  | write binding transactionTime => exact (writeBinding_over goesOn).elim
  | settle call => exact (lastly_over goesOn).elim

/-- The policy of a provider is not lowered. -/
def NotLowered (store : CapacityStore) (event : CapacityEvent) : Prop :=
  ∀ row, event = .writePolicy row → store.limit row.provider ≤ row.maxConcurrentLaunches

theorem CapacityEvent.apply_launches (event : CapacityEvent) (store : CapacityStore) :
    (event.apply store).launches.launches = store.launches.launches := by
  cases event <;> rfl

theorem CapacityEvent.limit_le {event : CapacityEvent} (notLowered : NotLowered store event)
    (provider : Provider) :
    store.limit provider ≤ (event.apply store).limit provider := by
  cases event with
  | tick | permits | runs => exact le_rfl
  | writePolicy row =>
      by_cases isOther : row.provider = provider
      · have written : (apply store (writePolicy row)).limit row.provider =
            row.maxConcurrentLaunches :=
          congrArg CapacityPolicy.maxConcurrentLaunches
            (writePolicy_policy_self row store.ledger)
        rw [← isOther, written]
        exact notLowered row rfl
      · have kept : (Benchmark.writePolicy row store.ledger).policy provider =
            store.ledger.policy provider :=
          writePolicy_policy isOther
        exact (congrArg CapacityPolicy.maxConcurrentLaunches kept).ge

theorem CapacityEvent.beside {event : CapacityEvent} (notLowered : NotLowered store event)
    (stage : CapacityStage) :
    Beside stage store (event.apply store) where
  kinds launch member := ⟨launch, (event.apply_launches store).symm ▸ member, rfl, rfl⟩
  limits := CapacityEvent.limit_le notLowered
  others provider _ excluding := by
    unfold CapacityStore.executingBut
    rw [event.apply_launches store]

theorem CapacityGood.event {event : CapacityEvent} (good : CapacityGood store)
    (notLowered : NotLowered store event) :
    CapacityGood (event.apply store) where
  checked launch member := good.checked launch ((event.apply_launches store) ▸ member)
  within provider := by
    have sameCount : (event.apply store).executing provider = store.executing provider := by
      unfold CapacityStore.executing
      rw [event.apply_launches store]
    rw [sameCount]
    exact (good.within provider).trans (CapacityEvent.limit_le notLowered provider)

/-- The locks, while nobody writes a policy. -/
def steadyLocks : System.Regime CapacityStage CapacityEvent where
  beside := capacityLocks.beside
  occurs event := ∀ row, event ≠ .writePolicy row

theorem capacitySystem_keeps : System.Keeps capacitySystem steadyLocks capacityDiscipline where
  symmetric apart provider secondHolds firstHolds := apart provider firstHolds secondHolds
  enterRelies _ _ _ := trivial
  enterApart _ _ _ holds := nomatch holds
  actShared _ _ _ good relies := good.move relies (CapacityStage.act_move good.checked)
  actRelies input stage store next _ relies goesOn := by
    obtain ⟨reads, nextRelies⟩ := CapacityStage.act_next relies goesOn
    change next.Relies (stage.act input store).1
    rw [CapacityStage.act_store reads]
    exact nextRelies
  actOthers _ _ _ _ good relies others apart :=
    others.beside ((CapacityStage.act_move good.checked).beside relies apart)
  actApart _ _ _ _ _ _ _ _ _ _ beside := beside.2
  outsideShared event _ occurs good :=
    good.event fun row isWrite => absurd isWrite (occurs row)
  outsideOthers event _ other occurs _ others :=
    others.beside (CapacityEvent.beside (fun row isWrite => absurd isWrite (occurs row)) other)

/-- The locks are granted, and no policy is lowered. -/
def RunsWithin (world : CapacityWorld) (event : Event CapacityCall CapacityInput CapacityEvent) :
    Prop :=
  capacitySystem.Allowed capacityLocks world event ∧
    ∀ outside, event = .outside outside → NotLowered world.shared outside

theorem obeys_step {world : CapacityWorld}
    {event : Event CapacityCall CapacityInput CapacityEvent}
    (obeys : System.Obeys capacityDiscipline world) (within : RunsWithin world event) :
    System.Obeys capacityDiscipline (capacitySystem.step event world) := by
  cases event with
  | arrive | crash => exact obeys.step capacitySystem_keeps trivial
  | act client input => exact obeys.step capacitySystem_keeps within.1
  | outside event =>
      have notLowered := within.2 event rfl
      refine ⟨obeys.shared.event notLowered, ?_, obeys.apart⟩
      intro client stage busy
      exact (obeys.relies client stage busy).beside (CapacityEvent.beside notLowered stage)

/-- However dispatchers, settlements, merchants and operators interleave: while no policy is
lowered, a provider never executes more launches than its policy allows. -/
theorem executing_le_limit (runs : RunStore) (clock : Instant)
    (policies : Table ProviderCapacityPolicy) (permits : Table ProviderExecutionPermit)
    {events : List (Event CapacityCall CapacityInput CapacityEvent)}
    (within : Guarded capacitySystem.step RunsWithin
      (World.opening (CapacityStore.opening runs clock policies permits)) events)
    (provider : Provider) :
    let store := (run capacitySystem.step
      (World.opening (CapacityStore.opening runs clock policies permits)) events).shared
    store.executing provider ≤ (store.ledger.policy provider).maxConcurrentLaunches := by
  intro store
  have opens : System.Obeys capacityDiscipline
      (World.opening (CapacityStore.opening runs clock policies permits)) :=
    System.obeys_opening
      { checked := fun _ member => nomatch member
        within := fun _ => Nat.zero_le _ }
  have obeys : System.Obeys capacityDiscipline (run capacitySystem.step
      (World.opening (CapacityStore.opening runs clock policies permits)) events) :=
    run_invariant (fun _ _ obeys within => obeys_step obeys within) opens within
  exact obeys.shared.within provider

section Sample

def sampleCapacityFacts : PlanFacts where
  representationId := none
  compilerRunId := none
  sourceSnapshotId := some 20
  environmentId := 21
  buyerProfile := .aiBuyer
  executorKind := "llm-openai"
  maxProviderRequests := some 9
  baselineRunId := none
  digest := "digest"

def sampleCapacityRequest (merchantId : Uuid) : LaunchRequest where
  merchantId := merchantId
  purpose := .initial
  representationId := none
  requestKey := "first-evaluation"
  planDigest := "digest"

def sampleCapacityInput : CapacityInput where
  configured := .openai
  remembers := true

/-- One client makes a call, and takes some of its steps. -/
def capacityCall (call : CapacityCall) (steps : Nat) :
    List (Event CapacityCall CapacityInput CapacityEvent) :=
  .arrive 0 call :: List.replicate steps (.act 0 sampleCapacityInput)

/-- The runs that two dispatchers have started. -/
def sampleStartedRuns : RunStore where
  runs := ⟨[createdRun ⟨5, 1⟩ ["first"] 5, createdRun ⟨6, 4⟩ ["first"] 5], by decide⟩

/-- Two merchants have their launches dispatched to a provider that allows one of them. -/
def occupiedEvents : List (Event CapacityCall CapacityInput CapacityEvent) :=
  capacityCall (.request 2 (sampleCapacityRequest 1) sampleCapacityFacts) 2 ++
    capacityCall (.request 3 (sampleCapacityRequest 4) sampleCapacityFacts) 2 ++
    [.outside (.runs sampleStartedRuns)] ++
    capacityCall (.dispatch 2 5) 10 ++ capacityCall (.dispatch 3 6) 10

def sampleCapacityOpening : CapacityStore :=
  CapacityStore.opening { runs := Table.empty } 5 samplePolicies Table.empty

/-- Only the first client acts, and beside it runs begin. -/
def actsFirst : Event CapacityCall CapacityInput CapacityEvent → Bool
  | .outside (.runs _) => true
  | event => event.Of 0

theorem occupiedEvents_within :
    Guarded capacitySystem.step RunsWithin (World.opening sampleCapacityOpening)
      occupiedEvents := by
  have first : ∀ event ∈ occupiedEvents, actsFirst event = true := by decide +kernel
  have alone : System.Alone 0 (World.opening sampleCapacityOpening : CapacityWorld) :=
    fun _ _ => rfl
  have locked : Guarded capacitySystem.step (capacitySystem.Allowed capacityLocks)
      (World.opening sampleCapacityOpening) occupiedEvents := by
    apply System.guarded_of_alone_beside alone
    intro event member
    cases event with
    | outside event => exact Or.inr ⟨event, rfl, trivial⟩
    | arrive | act | crash => exact Or.inl (of_decide_eq_true (first _ member))
  refine (locked.and (guarded_of_forall first)).mono ?_
  rintro world event ⟨allowed, isFirst⟩
  refine ⟨allowed, ?_⟩
  rintro outside rfl row rfl
  exact Bool.noConfusion isFirst

theorem executing_le_limit_occupied :
    (run capacitySystem.step (World.opening sampleCapacityOpening)
      occupiedEvents).shared.launches.launches.rows.map
        (fun launch => (launch.id, launch.status, launch.runId)) =
      [(2, .executing, some 5), (3, .queued, none)] ∧
    (run capacitySystem.step (World.opening sampleCapacityOpening)
      occupiedEvents).shared.executing .openai ≤ 1 := by
  refine ⟨by decide +kernel, ?_⟩
  have bounded := executing_le_limit { runs := Table.empty } 5 samplePolicies Table.empty
    occupiedEvents_within .openai
  exact bounded.trans_eq (by decide +kernel)

end Sample

end AgentRank.Benchmark
