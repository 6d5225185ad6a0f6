import AgentRank.Transition.Run

/-!
# Clients of a shared state

Any number of clients work on one shared state.  A client begins a call, takes the steps
of the call one at a time, and is gone when the call returns or when the client crashes
between two steps.  Between any two steps of one client, the others and the outside may
take theirs.

The rule for such a system asks three things of every step of a client: that it keeps
the invariant of the shared state, that it keeps what the other clients rely on, and
that it leaves the client with what its next step relies on.  Clients that must never
stand together are kept apart by a relation between their steps.

A regime says what the surroundings grant.  A lock is a regime under which no client
comes to a step that holds the lock while another stands at one; the client waits, which
is to say that no such step is in the run.
-/

namespace AgentRank.Transition

universe u v w x y

/-- What the clients of a system do: how a call begins, what each of its steps does to
the shared state and where it leads, and what happens outside of the clients. -/
structure System (σ : Type u) (κ : Type v) (π : Type w) (ι : Type x) (ε : Type y) where
  enter : κ → π
  act : ι → π → σ → σ × Option π
  outside : ε → σ → σ

/-- The shared state, and the step that each client takes next. -/
structure World (σ : Type u) (π : Type w) where
  shared : σ
  clients : Nat → Option π

/-- What can happen next. -/
inductive Event (κ : Type v) (ι : Type x) (ε : Type y)
  | arrive (client : Nat) (call : κ)
  | act (client : Nat) (input : ι)
  | crash (client : Nat)
  | outside (event : ε)

variable {σ : Type u} {κ : Type v} {π : Type w} {ι : Type x} {ε : Type y}

/-- The event is one of a single client. -/
def Event.Of (client : Nat) : Event κ ι ε → Prop
  | .arrive actor _ | .act actor _ | .crash actor => actor = client
  | .outside _ => False

instance (client : Nat) (event : Event κ ι ε) : Decidable (event.Of client) :=
  match event with
  | .arrive actor _ | .act actor _ | .crash actor => inferInstanceAs (Decidable (actor = client))
  | .outside _ => inferInstanceAs (Decidable False)

namespace World

/-- One client takes a place, or leaves it. -/
def place (world : World σ π) (client : Nat) (next : Option π) : Nat → Option π :=
  fun other => if other = client then next else world.clients other

/-- The world in which nobody has called yet. -/
def opening (shared : σ) : World σ π where
  shared := shared
  clients _ := none

/-- A place is the one that was just taken, or another client's. -/
theorem of_place {world : World σ π} {client other : Nat} {next : Option π} {stage : π}
    (busy : world.place client next other = some stage) :
    other = client ∧ next = some stage ∨
      other ≠ client ∧ world.clients other = some stage := by
  by_cases same : other = client
  · rw [place, if_pos same] at busy
    exact Or.inl ⟨same, busy⟩
  · rw [place, if_neg same] at busy
    exact Or.inr ⟨same, busy⟩

end World

namespace System

/-- One step of the world.  A client that is busy begins no second call, and a client
that is gone takes no step. -/
def step (system : System σ κ π ι ε) (event : Event κ ι ε) (world : World σ π) :
    World σ π :=
  match event with
  | .arrive client call =>
      match world.clients client with
      | none => { world with clients := world.place client (some (system.enter call)) }
      | some _ => world
  | .act client input =>
      match world.clients client with
      | none => world
      | some stage =>
          { shared := (system.act input stage world.shared).1
            clients := world.place client (system.act input stage world.shared).2 }
  | .crash client => { world with clients := world.place client none }
  | .outside event => { world with shared := system.outside event world.shared }

/-- Which steps may be reached beside which others, and which outside events happen. -/
structure Regime (π : Type w) (ε : Type y) where
  beside : π → π → Prop
  occurs : ε → Prop

/-- The surroundings forbid nothing. -/
def Regime.free : Regime π ε where
  beside _ _ := True
  occurs _ := True

/-- An event that the surroundings allow. -/
def Allowed (system : System σ κ π ι ε) (regime : Regime π ε) (world : World σ π) :
    Event κ ι ε → Prop
  | .arrive _ _ | .crash _ => True
  | .act client input =>
      ∀ stage next, world.clients client = some stage →
        (system.act input stage world.shared).2 = some next →
          ∀ other otherStage, other ≠ client → world.clients other = some otherStage →
            regime.beside next otherStage
  | .outside event => regime.occurs event

/-- An invariant of the shared state, what a client relies on before a step, and which
steps never stand together. -/
structure Discipline (σ : Type u) (π : Type w) where
  shared : σ → Prop
  relies : σ → π → Prop
  apart : π → π → Prop

/-- A world that obeys a discipline. -/
structure Obeys (discipline : Discipline σ π) (world : World σ π) : Prop where
  shared : discipline.shared world.shared
  relies : ∀ client stage, world.clients client = some stage →
    discipline.relies world.shared stage
  apart : ∀ first second firstStage secondStage, first ≠ second →
    world.clients first = some firstStage → world.clients second = some secondStage →
      discipline.apart firstStage secondStage

/-- A system whose every allowed step keeps a discipline. -/
structure Keeps (system : System σ κ π ι ε) (regime : Regime π ε)
    (discipline : Discipline σ π) : Prop where
  symmetric : ∀ {first second}, discipline.apart first second → discipline.apart second first
  enterRelies : ∀ call state, discipline.shared state →
    discipline.relies state (system.enter call)
  enterApart : ∀ call other, discipline.apart (system.enter call) other
  actShared : ∀ input stage state, discipline.shared state → discipline.relies state stage →
    discipline.shared (system.act input stage state).1
  actRelies : ∀ input stage state next, discipline.shared state →
    discipline.relies state stage → (system.act input stage state).2 = some next →
      discipline.relies (system.act input stage state).1 next
  actOthers : ∀ input stage state other, discipline.shared state →
    discipline.relies state stage → discipline.relies state other →
      discipline.apart stage other → discipline.relies (system.act input stage state).1 other
  actApart : ∀ input stage state next other, discipline.shared state →
    discipline.relies state stage → discipline.relies state other →
      discipline.apart stage other → (system.act input stage state).2 = some next →
        regime.beside next other → discipline.apart next other
  outsideShared : ∀ event state, regime.occurs event → discipline.shared state →
    discipline.shared (system.outside event state)
  outsideOthers : ∀ event state other, regime.occurs event → discipline.shared state →
    discipline.relies state other → discipline.relies (system.outside event state) other

theorem obeys_opening {discipline : Discipline σ π} {shared : σ}
    (good : discipline.shared shared) : Obeys discipline (World.opening shared) where
  shared := good
  relies _ _ busy := by cases busy
  apart _ _ _ _ _ busy _ := by cases busy

namespace Obeys

variable {system : System σ κ π ι ε} {regime : Regime π ε} {discipline : Discipline σ π}
  {world : World σ π}

/-- Rewriting the place of one client keeps the discipline when the shared state, the
client and the others agree with it. -/
theorem replace (obeys : Obeys discipline world)
    (symmetric : ∀ {first second}, discipline.apart first second →
      discipline.apart second first)
    {state : σ} {client : Nat} {next : Option π} (shared : discipline.shared state)
    (nextRelies : ∀ stage, next = some stage → discipline.relies state stage)
    (othersRely : ∀ other stage, other ≠ client → world.clients other = some stage →
      discipline.relies state stage)
    (nextApart : ∀ stage other otherStage, next = some stage → other ≠ client →
      world.clients other = some otherStage → discipline.apart stage otherStage) :
    Obeys discipline { shared := state, clients := world.place client next } := by
  refine ⟨shared, ?_, ?_⟩
  · intro other stage busy
    rcases World.of_place busy with ⟨_, isNext⟩ | ⟨isOther, wasBusy⟩
    · exact nextRelies stage isNext
    · exact othersRely other stage isOther wasBusy
  · intro first second firstStage secondStage different firstBusy secondBusy
    rcases World.of_place firstBusy with ⟨rfl, firstNext⟩ | ⟨firstOther, firstWas⟩ <;>
      rcases World.of_place secondBusy with ⟨rfl, secondNext⟩ | ⟨secondOther, secondWas⟩
    · exact absurd rfl different
    · exact nextApart firstStage second secondStage firstNext secondOther secondWas
    · exact symmetric (nextApart secondStage first firstStage secondNext firstOther firstWas)
    · exact obeys.apart first second firstStage secondStage different firstWas secondWas

/-- Every allowed step keeps the discipline. -/
theorem step (obeys : Obeys discipline world) (keeps : Keeps system regime discipline)
    {event : Event κ ι ε} (allowed : system.Allowed regime world event) :
    Obeys discipline (system.step event world) := by
  cases event with
  | arrive client call =>
      cases isFree : world.clients client with
      | some stage => simpa only [System.step, isFree] using obeys
      | none =>
          simp only [System.step, isFree]
          apply obeys.replace keeps.symmetric obeys.shared
          · rintro _ ⟨⟩
            exact keeps.enterRelies call world.shared obeys.shared
          · exact fun other stage _ busy => obeys.relies other stage busy
          · rintro _ _ otherStage ⟨⟩ _ _
            exact keeps.enterApart call otherStage
  | act client input =>
      cases busy : world.clients client with
      | none => simpa only [System.step, busy] using obeys
      | some stage =>
          have relies := obeys.relies client stage busy
          simp only [System.step, busy]
          apply obeys.replace keeps.symmetric
          · exact keeps.actShared input stage world.shared obeys.shared relies
          · intro next nextEq
            exact keeps.actRelies input stage world.shared next obeys.shared relies nextEq
          · intro other otherStage isOther otherBusy
            exact keeps.actOthers input stage world.shared otherStage obeys.shared relies
              (obeys.relies other otherStage otherBusy)
              (obeys.apart client other stage otherStage isOther.symm busy otherBusy)
          · intro next other otherStage nextEq isOther otherBusy
            exact keeps.actApart input stage world.shared next otherStage obeys.shared relies
              (obeys.relies other otherStage otherBusy)
              (obeys.apart client other stage otherStage isOther.symm busy otherBusy) nextEq
              (allowed stage next busy nextEq other otherStage isOther otherBusy)
  | crash client =>
      apply obeys.replace keeps.symmetric obeys.shared
      · nofun
      · exact fun other stage _ busy => obeys.relies other stage busy
      · nofun
  | outside event =>
      refine ⟨keeps.outsideShared event world.shared allowed obeys.shared, ?_, obeys.apart⟩
      intro client stage busy
      exact keeps.outsideOthers event world.shared stage allowed obeys.shared
        (obeys.relies client stage busy)

/-- Every run within the regime keeps the discipline. -/
theorem run (obeys : Obeys discipline world) (keeps : Keeps system regime discipline)
    {events : List (Event κ ι ε)}
    (within : Guarded system.step (system.Allowed regime) world events) :
    Obeys discipline (run system.step world events) :=
  run_invariant (fun _ _ obeys allowed => obeys.step keeps allowed) obeys within

end Obeys

/-- Where nothing is forbidden, every run is allowed. -/
theorem guarded_free (system : System σ κ π ι ε) (world : World σ π)
    (events : List (Event κ ι ε)) :
    Guarded system.step (system.Allowed Regime.free) world events := by
  have allowed : ∀ world (event : Event κ ι ε), system.Allowed Regime.free world event := by
    intro world event
    cases event with
    | arrive | crash | outside => trivial
    | act client input => exact fun _ _ _ _ _ _ _ _ => trivial
  exact Guarded.mono (fun world event _ => allowed world event)
    (guarded_of_forall fun _ _ => trivial)

/-- Nobody but one client is busy. -/
def Alone (client : Nat) (world : World σ π) : Prop :=
  ∀ other, other ≠ client → world.clients other = none

theorem Alone.place {client : Nat} {world : World σ π} (alone : Alone client world)
    (shared : σ) (next : Option π) :
    Alone client { shared := shared, clients := world.place client next } := by
  intro other isOther
  exact (if_neg isOther).trans (alone other isOther)

/-- What one client does leaves it alone. -/
theorem Alone.step {system : System σ κ π ι ε} {client : Nat} {world : World σ π}
    (alone : Alone client world) {event : Event κ ι ε} (single : event.Of client) :
    Alone client (system.step event world) := by
  cases event with
  | arrive actor call =>
      obtain rfl : actor = client := single
      cases isFree : world.clients actor with
      | none =>
          simp only [System.step, isFree]
          exact alone.place world.shared _
      | some stage =>
          simp only [System.step, isFree]
          exact alone
  | act actor input =>
      obtain rfl : actor = client := single
      cases busy : world.clients actor with
      | none =>
          simp only [System.step, busy]
          exact alone
      | some stage =>
          simp only [System.step, busy]
          exact alone.place _ _
  | crash actor =>
      obtain rfl : actor = client := single
      exact alone.place world.shared none
  | outside event => exact absurd single id

/-- One client alone waits for nobody, whatever happens outside. -/
theorem guarded_of_alone_beside {system : System σ κ π ι ε} {regime : Regime π ε} {client : Nat}
    {events : List (Event κ ι ε)} {world : World σ π} (alone : Alone client world)
    (single : ∀ event ∈ events,
      event.Of client ∨ ∃ outside, event = .outside outside ∧ regime.occurs outside) :
    Guarded system.step (system.Allowed regime) world events := by
  induction events generalizing world with
  | nil => trivial
  | cons event rest ih =>
      rw [List.forall_mem_cons] at single
      rcases single with ⟨isOf | ⟨outside, rfl, occurs⟩, later⟩
      · refine ⟨?_, ih (alone.step isOf) later⟩
        cases event with
        | arrive | crash => trivial
        | act actor input =>
            obtain rfl : actor = client := isOf
            intro stage next busy nextEq other otherStage isOther otherBusy
            rw [alone other isOther] at otherBusy
            cases otherBusy
        | outside event => exact absurd isOf id
      · exact ⟨occurs, ih (fun other isOther => alone other isOther) later⟩

/-- One client alone waits for nobody. -/
theorem guarded_of_alone {system : System σ κ π ι ε} {regime : Regime π ε} {client : Nat}
    {events : List (Event κ ι ε)} {world : World σ π} (alone : Alone client world)
    (single : ∀ event ∈ events, event.Of client) :
    Guarded system.step (system.Allowed regime) world events :=
  guarded_of_alone_beside alone fun event member => Or.inl (single event member)

end System

end AgentRank.Transition
