import AgentRank.Auth.Services
import AgentRank.Transition.Run

/-!
# Revocations of one credential at the same time

This module models `MerchantCredentialService.revoke` and `MerchantCredentialRepository.revoke`
statement by statement: a call reads the row without a lock, updates it under the trigger of the
table, and commits the row with its event.  The update waits for the lock of the row and sees what
was committed before it.
-/

namespace AgentRank.Auth

open Store Transition

/-- One event of the trail. -/
structure CredentialEvent where
  eventType : String
  merchantId : Uuid
  credentialId : Uuid
  label : String
deriving DecidableEq

def credentialRevoked : String := "credential.revoked"

/-- `_append` of `revoke`. -/
def MerchantApiCredential.revocationEvent (credential : MerchantApiCredential) :
    CredentialEvent where
  eventType := credentialRevoked
  merchantId := credential.merchantId
  credentialId := credential.id
  label := credential.label

/-- The row with a time of revocation. -/
def MerchantApiCredential.revoking (credential : MerchantApiCredential) (startedAt : Instant) :
    MerchantApiCredential :=
  { credential with revokedAt := some startedAt }

/-- `merchant_api_credential_guard`: what the trigger refuses of an update. -/
def credentialGuard (old new : MerchantApiCredential) : Option String :=
  if new.id ≠ old.id ∨ new.merchantId ≠ old.merchantId ∨
      new.benchmarkRunId ≠ old.benchmarkRunId ∨ new.secretHash ≠ old.secretHash ∨
      new.label ≠ old.label then
    some "merchant api credential fields are immutable"
  else if old.revokedAt.isSome ∧ new.revokedAt ≠ old.revokedAt then
    some "a revoked merchant api credential cannot be changed"
  else none

/-- How far a call has come.  A call that has read the row, and one that has written it, carries the
time of its transaction. -/
inductive CallPhase
  | idle
  | read (startedAt : Instant)
  | written
  | reported (changed : Bool)
  | failed (refusal : String)
deriving DecidableEq

/-- What the transaction that holds the lock of the row has written. -/
structure OpenWrite where
  call : Nat
  row : MerchantApiCredential
  event : CredentialEvent
deriving DecidableEq

/-- The row and the trail as they are committed, the transaction that holds the lock of the row,
and every call. -/
structure RevocationState where
  credential : MerchantApiCredential
  trail : List CredentialEvent
  openWrite : Option OpenWrite
  phase : Nat → CallPhase

inductive RevocationLabel
  | read (call : Nat) (startedAt : Instant)
  | write (call : Nat)
  | commit (call : Nat)

def RevocationState.enter (state : RevocationState) (call : Nat) (phase : CallPhase) :
    RevocationState :=
  { state with phase := Function.update state.phase call phase }

/-- A call reads the row as it is committed, and reports at once where it is revoked. -/
def RevocationState.read (state : RevocationState) (call : Nat) (startedAt : Instant) :
    RevocationState :=
  match state.phase call with
  | .idle =>
      match state.credential.revokedAt with
      | some _ => state.enter call (.reported false)
      | none => state.enter call (.read startedAt)
  | _ => state

/-- The row of a call is written, and its lock is held until the call commits. -/
def RevocationState.hold (state : RevocationState) (call : Nat) (row : MerchantApiCredential) :
    RevocationState :=
  { state.enter call .written with
    openWrite := some { call := call, row := row, event := row.revocationEvent } }

/-- A call updates the row.  While another transaction holds the lock it waits. -/
def RevocationState.write (state : RevocationState) (call : Nat) : RevocationState :=
  match state.openWrite, state.phase call with
  | none, .read startedAt =>
      let row := state.credential.revoking startedAt
      match credentialGuard state.credential row with
      | some refusal => state.enter call (.failed refusal)
      | none => state.hold call row
  | _, _ => state

/-- A call commits what it has written, and reports that it changed the row. -/
def RevocationState.commit (state : RevocationState) (call : Nat) : RevocationState :=
  match state.openWrite with
  | some written =>
      if written.call = call then
        { state.enter call (.reported true) with
          credential := written.row
          trail := state.trail ++ [written.event]
          openWrite := none }
      else state
  | none => state

def revocationStep : RevocationLabel → RevocationState → RevocationState
  | .read call startedAt, state => state.read call startedAt
  | .write call, state => state.write call
  | .commit call, state => state.commit call

/-- A credential that has not been revoked. -/
structure ActiveCredential where
  credential : MerchantApiCredential
  active : credential.revokedAt = none

/-- Before any revocation. -/
def ActiveCredential.start (active : ActiveCredential) : RevocationState where
  credential := active.credential
  trail := []
  openWrite := none
  phase _ := .idle

/-- The events of the trail, with the one that an open transaction has added. -/
def RevocationState.recorded (state : RevocationState) : List CredentialEvent :=
  state.trail ++ (state.openWrite.map OpenWrite.event).toList

/-- Revocations have had one effect, and each was answered. -/
structure RevokedOnce (active : ActiveCredential) (state : RevocationState) : Prop where
  noneFailed : ∀ call refusal, state.phase call ≠ .failed refusal
  atMostOne : state.recorded.length ≤ 1
  oneReport : ∀ call other, state.phase call = .reported true →
    state.phase other = .reported true → call = other
  answered : ∀ call changed, state.phase call = .reported changed →
    ∃ changer, state.phase changer = .reported true ∧
      state.trail = [active.credential.revocationEvent] ∧ state.credential.revokedAt.isSome

/-- A call is about to write a row that was revoked since it read it. -/
def IsStale (state : RevocationState) : RevocationLabel → Prop
  | .write call =>
      state.openWrite = none ∧ (∃ startedAt, state.phase call = .read startedAt) ∧
        state.credential.revokedAt.isSome
  | _ => False

section Steps

variable {state : RevocationState} {call : Nat}

/-- A revocation is refused where the row is revoked at another time. -/
theorem credentialGuard_revoking (old : MerchantApiCredential) (startedAt : Instant) :
    credentialGuard old (old.revoking startedAt) =
      if old.revokedAt.isSome ∧ some startedAt ≠ old.revokedAt then
        some "a revoked merchant api credential cannot be changed"
      else none := by
  rw [credentialGuard, if_neg (by simp [MerchantApiCredential.revoking])]
  rfl

theorem read_cases (startedAt : Instant) :
    state.read call startedAt = state ∨
      (state.credential.revokedAt.isSome ∧ state.phase call = .idle ∧
        state.read call startedAt = state.enter call (.reported false)) ∨
      (state.credential.revokedAt = none ∧ state.phase call = .idle ∧
        state.read call startedAt = state.enter call (.read startedAt)) := by
  rw [RevocationState.read]
  split
  · rename_i isIdle
    split
    · rename_i revoked
      exact Or.inr (Or.inl ⟨by rw [revoked]; rfl, isIdle, rfl⟩)
    · rename_i active
      exact Or.inr (Or.inr ⟨active, isIdle, rfl⟩)
  · exact Or.inl rfl

/-- A write waits, or it fails, or it takes the lock.  It fails only where it is stale. -/
theorem write_cases :
    (state.write call = state ∧
      ∀ startedAt, state.openWrite = none → state.phase call ≠ .read startedAt) ∨
      (IsStale state (.write call) ∧ ∃ refusal, state.write call =
        state.enter call (.failed refusal)) ∨
      (∃ startedAt, state.openWrite = none ∧ state.phase call = .read startedAt ∧
        (state.credential.revokedAt.isSome → some startedAt = state.credential.revokedAt) ∧
        state.write call = state.hold call (state.credential.revoking startedAt)) := by
  rw [RevocationState.write]
  split
  · rename_i startedAt isFree hasRead
    dsimp only
    rw [credentialGuard_revoking]
    by_cases refused : state.credential.revokedAt.isSome ∧
        some startedAt ≠ state.credential.revokedAt
    · rw [if_pos refused]
      exact Or.inr (Or.inl ⟨⟨isFree, ⟨startedAt, hasRead⟩, refused.1⟩, _, rfl⟩)
    · rw [if_neg refused]
      refine Or.inr (Or.inr ⟨startedAt, isFree, hasRead, fun revoked => ?_, rfl⟩)
      by_contra differs
      exact refused ⟨revoked, differs⟩
  · rename_i waits
    exact Or.inl ⟨rfl, fun startedAt isFree hasRead => waits startedAt isFree hasRead⟩

theorem commit_cases :
    state.commit call = state ∨
      ∃ written, state.openWrite = some written ∧ written.call = call ∧
        state.commit call =
          { state.enter call (.reported true) with
            credential := written.row
            trail := state.trail ++ [written.event]
            openWrite := none } := by
  rw [RevocationState.commit]
  split
  · rename_i written isOpen
    split
    · rename_i isHolder
      exact Or.inr ⟨written, isOpen, isHolder, rfl⟩
    · exact Or.inl rfl
  · exact Or.inl rfl

end Steps

/-! ## The row and the trail -/

/-- What holds in every run: the holder of the lock is a call that writes an event of this
credential, and the row is revoked exactly where the trail has an event. -/
structure Sound (active : ActiveCredential) (state : RevocationState) : Prop where
  held : ∀ written, state.openWrite = some written →
    state.phase written.call = .written ∧ written.row.revokedAt.isSome ∧
      (state.credential.revokedAt.isSome → written.row.revokedAt = state.credential.revokedAt) ∧
      written.row.revocationEvent = active.credential.revocationEvent ∧
      written.event = active.credential.revocationEvent
  event : state.credential.revocationEvent = active.credential.revocationEvent
  revoked : state.credential.revokedAt.isSome ↔ state.trail ≠ []

section Runs

variable {active : ActiveCredential} {state : RevocationState}

theorem sound_start : Sound active active.start where
  held := nofun
  event := rfl
  revoked := by
    change active.credential.revokedAt.isSome ↔ ([] : List CredentialEvent) ≠ []
    rw [active.active]
    simp

/-- A call that holds no lock and enters another phase leaves the row and the trail as they are. -/
theorem Sound.enter (sound : Sound active state) {call : Nat} {phase : CallPhase}
    (notHolder : ∀ written, state.openWrite = some written → written.call ≠ call) :
    Sound active (state.enter call phase) where
  held := by
    intro written isOpen
    obtain ⟨isWritten, rest⟩ := sound.held written isOpen
    refine ⟨?_, rest⟩
    change Function.update state.phase call phase written.call = .written
    rw [Function.update_of_ne (notHolder written isOpen)]
    exact isWritten
  event := sound.event
  revoked := sound.revoked

theorem Sound.notHolder (sound : Sound active state) {call : Nat}
    (notWritten : state.phase call ≠ .written) :
    ∀ written, state.openWrite = some written → written.call ≠ call := by
  rintro written isOpen rfl
  exact notWritten (sound.held written isOpen).1

theorem Sound.hold (sound : Sound active state) {call : Nat} {startedAt : Instant}
    (sameTime : state.credential.revokedAt.isSome →
      some startedAt = state.credential.revokedAt) :
    Sound active (state.hold call (state.credential.revoking startedAt)) where
  held := by
    intro written isOpen
    obtain rfl := Option.some.inj isOpen
    exact ⟨Function.update_self .., rfl, sameTime, sound.event, sound.event⟩
  event := sound.event
  revoked := sound.revoked

theorem Sound.step (sound : Sound active state) (label : RevocationLabel) :
    Sound active (revocationStep label state) := by
  cases label with
  | read call startedAt =>
      change Sound active (state.read call startedAt)
      rcases read_cases startedAt with same | ⟨_, isIdle, entered⟩ | ⟨_, isIdle, entered⟩
      · rw [same]
        exact sound
      · rw [entered]
        apply sound.enter
        apply sound.notHolder
        rw [isIdle]
        nofun
      · rw [entered]
        apply sound.enter
        apply sound.notHolder
        rw [isIdle]
        nofun
  | write call =>
      change Sound active (state.write call)
      rcases write_cases with ⟨same, _⟩ | ⟨stale, refusal, failed⟩ | ⟨_, _, _, sameTime, held⟩
      · rw [same]
        exact sound
      · rw [failed]
        apply sound.enter
        rw [stale.1]
        nofun
      · rw [held]
        exact sound.hold sameTime
  | commit call =>
      change Sound active (state.commit call)
      rcases commit_cases with same | ⟨written, isOpen, _, committed⟩
      · rw [same]
        exact sound
      · rw [committed]
        obtain ⟨_, revoked, _, event, _⟩ := sound.held written isOpen
        exact ⟨nofun, event, iff_of_true revoked (by simp)⟩

theorem sound_run (labels : List RevocationLabel) :
    Sound active (run revocationStep active.start labels) :=
  run_invariant_of_step labels (fun _ label sound => sound.step label) sound_start

/-- The time of a revocation does not move. -/
theorem Sound.revokedAt_step (sound : Sound active state) {time : Instant}
    (revoked : state.credential.revokedAt = some time) (label : RevocationLabel) :
    (revocationStep label state).credential.revokedAt = some time := by
  cases label with
  | read call startedAt =>
      change (state.read call startedAt).credential.revokedAt = some time
      rcases read_cases startedAt with same | ⟨_, _, entered⟩ | ⟨_, _, entered⟩
      · rw [same, revoked]
      · rw [entered]
        exact revoked
      · rw [entered]
        exact revoked
  | write call =>
      change (state.write call).credential.revokedAt = some time
      rcases write_cases with ⟨same, _⟩ | ⟨_, _, failed⟩ | ⟨_, _, _, _, held⟩
      · rw [same, revoked]
      · rw [failed]
        exact revoked
      · rw [held]
        exact revoked
  | commit call =>
      change (state.commit call).credential.revokedAt = some time
      rcases commit_cases with same | ⟨written, isOpen, _, committed⟩
      · rw [same, revoked]
      · obtain ⟨_, _, sameTime, _⟩ := sound.held written isOpen
        rw [committed, ← revoked]
        exact sameTime (by rw [revoked]; rfl)

theorem Sound.revokedAt_run (sound : Sound active state) {time : Instant}
    (revoked : state.credential.revokedAt = some time) (labels : List RevocationLabel) :
    (run revocationStep state labels).credential.revokedAt = some time := by
  induction labels generalizing state with
  | nil => exact revoked
  | cons label rest ih => exact ih (sound.step label) (sound.revokedAt_step revoked label)

/-! ## Without a stale write -/

/-- No call has failed, and where the row is revoked one call has done it. -/
structure Clean (active : ActiveCredential) (state : RevocationState) : Prop where
  noneFailed : ∀ call refusal, state.phase call ≠ .failed refusal
  untouched : state.credential.revokedAt = none →
    ∀ call changed, state.phase call ≠ .reported changed
  settled : state.credential.revokedAt.isSome →
    state.openWrite = none ∧ state.trail = [active.credential.revocationEvent] ∧
      ∃ changer, ∀ call, state.phase call = .reported true ↔ call = changer

theorem clean_start : Clean active active.start where
  noneFailed := nofun
  untouched := nofun
  settled := by
    change active.credential.revokedAt.isSome → _
    rw [active.active]
    nofun

/-- A phase that no call is in, and that none enters. -/
theorem phase_enter_ne {call : Nat} {phase avoided : CallPhase}
    (avoids : ∀ other, state.phase other ≠ avoided) (other : Nat) (differs : phase ≠ avoided) :
    Function.update state.phase call phase other ≠ avoided := by
  by_cases same : other = call
  · rw [same, Function.update_self]
    exact differs
  · rw [Function.update_of_ne same]
    exact avoids other

theorem Clean.read (clean : Clean active state) (call : Nat) (startedAt : Instant) :
    Clean active (state.read call startedAt) := by
  rcases read_cases startedAt with same | ⟨revoked, isIdle, entered⟩ | ⟨isActive, _, entered⟩
  · rw [same]
    exact clean
  · rw [entered]
    constructor
    · intro other refusal
      apply phase_enter_ne (fun other => clean.noneFailed other refusal)
      nofun
    · intro isActive
      change state.credential.revokedAt = none at isActive
      rw [isActive] at revoked
      cases revoked
    · intro _
      obtain ⟨isFree, trail, changer, changed⟩ := clean.settled revoked
      refine ⟨isFree, trail, changer, fun other => ?_⟩
      change Function.update state.phase call _ other = _ ↔ _
      by_cases same : other = call
      · rw [same, Function.update_self, ← changed, isIdle]
        exact iff_of_false nofun nofun
      · rw [Function.update_of_ne same]
        exact changed other
  · rw [entered]
    constructor
    · intro other refusal
      apply phase_enter_ne (fun other => clean.noneFailed other refusal)
      nofun
    · intro _ other changed
      apply phase_enter_ne (fun other => clean.untouched isActive other changed)
      nofun
    · intro revoked
      change state.credential.revokedAt.isSome at revoked
      rw [isActive] at revoked
      cases revoked

/-- A write that is not stale takes the lock of an active row. -/
theorem Clean.write (clean : Clean active state) {call : Nat}
    (fresh : ¬IsStale state (.write call)) : Clean active (state.write call) := by
  rcases write_cases with ⟨same, _⟩ | ⟨stale, _⟩ | ⟨startedAt, isFree, hasRead, _, held⟩
  · rw [same]
    exact clean
  · exact absurd stale fresh
  · have isActive : state.credential.revokedAt = none := by
      by_contra revoked
      exact fresh ⟨isFree, ⟨startedAt, hasRead⟩, Option.isSome_iff_ne_none.mpr revoked⟩
    rw [held]
    constructor
    · intro other refusal
      apply phase_enter_ne (fun other => clean.noneFailed other refusal)
      nofun
    · intro _ other changed
      apply phase_enter_ne (fun other => clean.untouched isActive other changed)
      nofun
    · intro revoked
      change state.credential.revokedAt.isSome at revoked
      rw [isActive] at revoked
      cases revoked

theorem Clean.commit (clean : Clean active state) (sound : Sound active state) (call : Nat) :
    Clean active (state.commit call) := by
  rcases commit_cases with same | ⟨written, isOpen, _, committed⟩
  · rw [same]
    exact clean
  · have isActive : state.credential.revokedAt = none := by
      by_contra revoked
      have isFree := (clean.settled (Option.isSome_iff_ne_none.mpr revoked)).1
      rw [isOpen] at isFree
      cases isFree
    have noEvent : state.trail = [] := by
      by_contra someEvent
      have revoked := sound.revoked.mpr someEvent
      rw [isActive] at revoked
      cases revoked
    obtain ⟨_, revoked, _, _, event⟩ := sound.held written isOpen
    rw [committed]
    constructor
    · intro other refusal
      apply phase_enter_ne (fun other => clean.noneFailed other refusal)
      nofun
    · intro stillActive
      change written.row.revokedAt = none at stillActive
      rw [stillActive] at revoked
      cases revoked
    · intro _
      refine ⟨rfl, ?_, call, fun other => ?_⟩
      · rw [noEvent, event]
        rfl
      · change Function.update state.phase call _ other = _ ↔ _
        by_cases same : other = call
        · rw [same, Function.update_self]
          exact iff_of_true rfl rfl
        · rw [Function.update_of_ne same]
          exact iff_of_false (clean.untouched isActive other true) same

theorem Clean.step (clean : Clean active state) (sound : Sound active state)
    {label : RevocationLabel} (fresh : ¬IsStale state label) :
    Clean active (revocationStep label state) := by
  cases label with
  | read call startedAt => exact clean.read call startedAt
  | write call => exact clean.write fresh
  | commit call => exact clean.commit sound call

theorem Clean.revokedOnce (clean : Clean active state) (sound : Sound active state) :
    RevokedOnce active state := by
  constructor
  · exact clean.noneFailed
  · rw [RevocationState.recorded, List.length_append]
    by_cases revoked : state.credential.revokedAt.isSome
    · obtain ⟨isFree, trail, _⟩ := clean.settled revoked
      rw [isFree, trail]
      exact Nat.le_refl 1
    · have noEvent : state.trail = [] := by
        by_contra someEvent
        exact revoked (sound.revoked.mpr someEvent)
      rw [noEvent]
      cases state.openWrite <;> simp
  · intro call other changed otherChanged
    by_cases revoked : state.credential.revokedAt.isSome
    · obtain ⟨_, _, changer, isChanger⟩ := clean.settled revoked
      rw [(isChanger call).mp changed, (isChanger other).mp otherChanged]
    · exact absurd changed (clean.untouched (Option.not_isSome_iff_eq_none.mp revoked) call true)
  · intro call changed reported
    by_cases revoked : state.credential.revokedAt.isSome
    · obtain ⟨_, trail, changer, isChanger⟩ := clean.settled revoked
      exact ⟨changer, (isChanger changer).mpr rfl, trail, revoked⟩
    · exact absurd reported
        (clean.untouched (Option.not_isSome_iff_eq_none.mp revoked) call changed)

/-! ## After a stale write -/

/-- A call has failed, or a second event is recorded. -/
def Broken (state : RevocationState) : Prop :=
  (∃ call refusal, state.phase call = .failed refusal) ∨ 2 ≤ state.recorded.length

theorem Broken.not_revokedOnce (broken : Broken state) : ¬RevokedOnce active state := by
  intro once
  rcases broken with ⟨call, refusal, failed⟩ | twoEvents
  · exact once.noneFailed call refusal failed
  · exact absurd once.atMostOne (by omega)

/-- A phase that a call other than the entering one is in. -/
theorem phase_enter_of_ne {call other : Nat} {phase : CallPhase} (differs : other ≠ call) :
    (state.enter call phase).phase other = state.phase other :=
  Function.update_of_ne differs _ _

theorem ne_of_phase_ne {call other : Nat} (differs : state.phase other ≠ state.phase call) :
    other ≠ call := by
  rintro rfl
  exact differs rfl

theorem recorded_hold (isFree : state.openWrite = none) (call : Nat)
    (row : MerchantApiCredential) :
    (state.hold call row).recorded.length = state.recorded.length + 1 := by
  rw [RevocationState.recorded, RevocationState.recorded, isFree]
  simp [RevocationState.hold, RevocationState.enter]

theorem Broken.step (broken : Broken state) (sound : Sound active state)
    (label : RevocationLabel) : Broken (revocationStep label state) := by
  cases label with
  | read call startedAt =>
      change Broken (state.read call startedAt)
      have stays : ∀ phase, state.phase call = .idle → Broken (state.enter call phase) := by
        intro phase isIdle
        rcases broken with ⟨other, refusal, failed⟩ | twoEvents
        · refine Or.inl ⟨other, refusal, ?_⟩
          rw [phase_enter_of_ne (ne_of_phase_ne (by rw [failed, isIdle]; nofun)), failed]
        · exact Or.inr twoEvents
      rcases read_cases startedAt with same | ⟨_, isIdle, entered⟩ | ⟨_, isIdle, entered⟩
      · rw [same]
        exact broken
      · rw [entered]
        exact stays _ isIdle
      · rw [entered]
        exact stays _ isIdle
  | write call =>
      change Broken (state.write call)
      rcases write_cases with ⟨same, _⟩ | ⟨_, refusal, failed⟩ | ⟨_, isFree, hasRead, _, held⟩
      · rw [same]
        exact broken
      · rw [failed]
        exact Or.inl ⟨call, refusal, Function.update_self ..⟩
      · rw [held]
        rcases broken with ⟨other, refusal, failed⟩ | twoEvents
        · refine Or.inl ⟨other, refusal, ?_⟩
          change (state.enter call .written).phase other = _
          rw [phase_enter_of_ne (ne_of_phase_ne (by rw [failed, hasRead]; nofun)), failed]
        · refine Or.inr ?_
          rw [recorded_hold isFree]
          omega
  | commit call =>
      change Broken (state.commit call)
      rcases @commit_cases state call with same | ⟨written, isOpen, rfl, committed⟩
      · rw [same]
        exact broken
      · have isWritten := (sound.held written isOpen).1
        rw [committed]
        rcases broken with ⟨other, refusal, failed⟩ | twoEvents
        · refine Or.inl ⟨other, refusal, ?_⟩
          change (state.enter written.call _).phase other = _
          rw [phase_enter_of_ne (ne_of_phase_ne (by rw [failed, isWritten]; nofun)), failed]
        · refine Or.inr ?_
          rw [RevocationState.recorded, isOpen] at twoEvents
          simpa [RevocationState.recorded] using twoEvents

/-- A stale write fails, or records a second event. -/
theorem broken_of_stale (sound : Sound active state) {label : RevocationLabel}
    (stale : IsStale state label) : Broken (revocationStep label state) := by
  cases label with
  | read | commit => cases stale
  | write call =>
      obtain ⟨isFree, ⟨startedAt, hasRead⟩, revoked⟩ := stale
      change Broken (state.write call)
      rcases write_cases with ⟨_, waits⟩ | ⟨_, refusal, failed⟩ | ⟨_, _, _, _, held⟩
      · exact absurd hasRead (waits startedAt isFree)
      · rw [failed]
        exact Or.inl ⟨call, refusal, Function.update_self ..⟩
      · have someEvent := List.length_pos_iff.mpr (sound.revoked.mp revoked)
        rw [held]
        refine Or.inr ?_
        rw [recorded_hold isFree, RevocationState.recorded, List.length_append]
        omega

theorem Broken.run (broken : Broken state) (sound : Sound active state)
    (labels : List RevocationLabel) : Broken (run revocationStep state labels) := by
  induction labels generalizing state with
  | nil => exact broken
  | cons label rest ih => exact ih (broken.step sound label) (sound.step label)

/-- A run is broken exactly where some write of it is stale. -/
theorem revokedOnce_run_iff (sound : Sound active state) (clean : Clean active state)
    (labels : List RevocationLabel) :
    RevokedOnce active (Transition.run revocationStep state labels) ↔
      Guarded revocationStep (fun state label => ¬IsStale state label) state labels := by
  induction labels generalizing state with
  | nil => exact iff_of_true (clean.revokedOnce sound) trivial
  | cons label rest ih =>
      by_cases stale : IsStale state label
      · have broken := (broken_of_stale sound stale).run (sound.step label) rest
        exact iff_of_false broken.not_revokedOnce fun guarded => guarded.1 stale
      · have later := ih (sound.step label) (clean.step sound stale)
        exact later.trans ⟨fun guarded => ⟨stale, guarded⟩, And.right⟩

end Runs

/-- In every run the time of the revocation stays as it was first written.  Every call is answered,
one event is recorded and one call reports a change exactly in the runs in which no call writes a
row that was revoked since it read it. -/
theorem concurrent_revocation (active : ActiveCredential) :
    (∀ earlier later time,
      (run revocationStep active.start earlier).credential.revokedAt = some time →
        (run revocationStep active.start (earlier ++ later)).credential.revokedAt = some time) ∧
      ∀ labels, RevokedOnce active (run revocationStep active.start labels) ↔
        Guarded revocationStep (fun state label => ¬IsStale state label) active.start labels := by
  constructor
  · intro earlier later time revoked
    rw [run_append]
    exact (sound_run earlier).revokedAt_run revoked later
  · intro labels
    exact revokedOnce_run_iff sound_start clean_start labels

def sampleCredential : ActiveCredential where
  credential :=
    { id := 1, merchantId := 2, benchmarkRunId := none, secretHash := "sha256:", label := "key"
      revokedAt := none }
  active := rfl

/-- Two calls read the active row, and the one that writes second fails. -/
theorem second_revocation_fails :
    ¬RevokedOnce sampleCredential (run revocationStep sampleCredential.start
      [.read 0 10, .read 1 11, .write 0, .commit 0, .write 1]) := by
  intro once
  exact once.noneFailed 1 "a revoked merchant api credential cannot be changed" rfl

end AgentRank.Auth
