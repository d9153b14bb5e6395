import Daq.Data

namespace Daq

/-! What a host is for: it goes through its stages once, and through the tests
it starts with one after the other.  The source has no such machine; its hosts
are shown to follow it. -/

/-- The stages that may follow a stage. -/
def HostState.leadsTo : HostState → HostState → Bool
  | .term, _ => false
  | .ready, .init | .init, .waiting | .waiting, .base | .base, .monitor | .monitor, .next => true
  | .next, .testing | .testing, .next | .next, .done | .next, .hold => true
  | _, .error | _, .term => true
  | _, _ => false

/-- A stage that only a host with its base tests behind it is at. -/
def HostState.PastBase (state : HostState) : Prop :=
  state = .monitor ∨ state = .next ∨ state = .testing ∨ state = .done ∨ state = .hold

instance (state : HostState) : Decidable state.PastBase := inferInstanceAs (Decidable (_ ∨ _))

/-- A stage at which a host has not taken any test yet. -/
def HostState.Early (state : HostState) : Prop :=
  state = .ready ∨ state = .init ∨ state = .waiting ∨ state = .base ∨ state = .monitor

instance (state : HostState) : Decidable state.Early := inferInstanceAs (Decidable (_ ∨ _))

/-- There is no way back to an early stage. -/
theorem HostState.early_of_leadsTo {state target : HostState}
    (leads : state.leadsTo target = true) (early : target.Early) : state.Early := by
  revert leads early
  cases state <;> cases target <;> decide

/-- A stage past the base tests follows another one, or is the first of them. -/
theorem HostState.pastBase_of_leadsTo {state target : HostState}
    (leads : state.leadsTo target = true) (past : target.PastBase) (later : target ≠ .monitor) :
    state.PastBase := by
  revert leads past later
  cases state <;> cases target <;> decide

/-- The machine: a stage, the test that was taken and has not ended, and the
tests before and after it. -/
structure Life where
  state : HostState
  current : Option String
  remaining : List String
  ended : List String
deriving DecidableEq

namespace Life

def start (tests : List String) : Life where
  state := .ready
  current := none
  remaining := tests
  ended := []

/-- A test only runs once it was taken, and a host is only done with no test
left. -/
def Admits (life : Life) (target : HostState) : Prop :=
  life.state.leadsTo target = true ∧ (target = .testing → life.current ≠ none) ∧
    (target = .done ∨ target = .hold → life.current = none ∧ life.remaining = [])

instance (life : Life) (target : HostState) : Decidable (life.Admits target) :=
  inferInstanceAs (Decidable (_ ∧ _))

def step (life : Life) : LifeEvent → Option Life
  | .moved target => if life.Admits target then some { life with state := target } else none
  | .taken test =>
      if life.state = .next ∧ life.current = none ∧ life.remaining.head? = some test then
        some { life with current := some test, remaining := life.remaining.tail }
      else none
  | .ended test =>
      if life.state = .next ∧ life.current = some test then
        some { life with current := none, ended := life.ended ++ [test] }
      else none

def follow (life : Life) (events : List LifeEvent) : Option Life :=
  events.foldlM step life

variable {life reached : Life} {events : List LifeEvent} {event : LifeEvent}

theorem follow_snoc : life.follow (events ++ [event]) = (life.follow events).bind (·.step event) := by
  unfold follow
  rw [List.foldlM_append]
  cases events.foldlM step life with
  | none => rfl
  | some reached =>
      cases stepped : reached.step event with
      | none => simp [stepped]
      | some next => simp [stepped]

/-- Every event of a life that ends somewhere was taken in a state that is
reached by the events before it. -/
theorem follow_inversion (followed : life.follow (events ++ [event]) = some reached) :
    ∃ before, life.follow events = some before ∧ before.step event = some reached := by
  rw [follow_snoc] at followed
  exact Option.bind_eq_some_iff.mp followed

end Life

/-- The stages a host was at, in order. -/
def stagesOf (events : List LifeEvent) : List HostState :=
  .ready :: events.filterMap fun | .moved target => some target | _ => none

def takenOf (events : List LifeEvent) : List String :=
  events.filterMap fun | .taken test => some test | _ => none

def endedOf (events : List LifeEvent) : List String :=
  events.filterMap fun | .ended test => some test | _ => none

/-- What is known of a life that the machine follows. -/
structure Life.Told (tests : List String) (events : List LifeEvent) (life : Life) : Prop where
  stages : (stagesOf events).IsChain fun stage target => stage.leadsTo target = true
  last : (stagesOf events).getLast? = some life.state
  taken : takenOf events = life.ended ++ life.current.toList
  ended : endedOf events = life.ended
  tests : tests = life.ended ++ life.current.toList ++ life.remaining
  early : life.state.Early → life.ended = [] ∧ life.current = none
  done : life.state = .done ∨ life.state = .hold → life.current = none ∧ life.remaining = []
  /-- No test was taken before the ones taken earlier had ended. -/
  ordered : ∀ before test after, events = before ++ .taken test :: after →
    takenOf before = endedOf before

namespace Life.Told

variable {tests : List String} {events : List LifeEvent} {life : Life}

theorem start : Told tests [] (Life.start tests) where
  stages := .singleton _
  last := rfl
  taken := rfl
  ended := rfl
  tests := rfl
  early := fun _ => ⟨rfl, rfl⟩
  done := nofun
  ordered := by
    intro before test after split
    cases before <;> cases split

/-- An event that is no taken test leaves the order of the taken tests alone. -/
theorem ordered_snoc (told : Told tests events life) {event : LifeEvent}
    (last : ∀ test, event = .taken test → takenOf events = endedOf events) :
    ∀ before test after, events ++ [event] = before ++ .taken test :: after →
      takenOf before = endedOf before := by
  intro before test after split
  rcases List.eq_nil_or_concat after with rfl | ⟨rest, final, rfl⟩
  · obtain ⟨rfl, same⟩ := List.append_inj' split rfl
    exact last test (List.cons.inj same).1
  · have parts : events = before ++ .taken test :: rest := by
      rw [List.concat_eq_append, ← List.cons_append, ← List.append_assoc] at split
      exact (List.append_inj' split rfl).1
    exact told.ordered before test rest parts

theorem moved (told : Told tests events life) {target : HostState} (admits : life.Admits target) :
    Told tests (events ++ [.moved target]) { life with state := target } where
  stages := by
    have stages : stagesOf (events ++ [.moved target]) = stagesOf events ++ [target] := by
      simp [stagesOf]
    rw [stages, List.isChain_append]
    refine ⟨told.stages, .singleton _, ?_⟩
    intro stage final following first
    rw [told.last] at final
    cases final
    cases first
    exact admits.1
  last := by simp [stagesOf, List.getLast?_cons]
  taken := by simpa [takenOf] using told.taken
  ended := by simpa [endedOf] using told.ended
  tests := told.tests
  early := by
    exact fun early => told.early (HostState.early_of_leadsTo admits.1 early)
  done := fun final => admits.2.2 final
  ordered := told.ordered_snoc nofun

theorem took (told : Told tests events life) {test : String} (stage : life.state = .next)
    (free : life.current = none) (first : life.remaining.head? = some test) :
    Told tests (events ++ [.taken test])
      { life with current := some test, remaining := life.remaining.tail } where
  stages := by simpa [stagesOf] using told.stages
  last := by simpa [stagesOf] using told.last
  taken := by
    have taken := told.taken
    rw [free] at taken
    simpa [takenOf] using taken
  ended := by simpa [endedOf] using told.ended
  tests := by
    have tests := told.tests
    obtain ⟨rest, remaining⟩ := List.head?_eq_some_iff.mp first
    rw [free, remaining] at tests
    simpa [remaining] using tests
  early := by
    intro early
    rw [stage] at early
    exact absurd early (by decide)
  done := by
    intro final
    rw [stage] at final
    exact absurd final (by decide)
  ordered := by
    refine told.ordered_snoc fun other _ => ?_
    rw [told.taken, told.ended, free]
    exact List.append_nil _

theorem closed (told : Told tests events life) {test : String} (stage : life.state = .next)
    (current : life.current = some test) :
    Told tests (events ++ [.ended test])
      { life with current := none, ended := life.ended ++ [test] } where
  stages := by simpa [stagesOf] using told.stages
  last := by simpa [stagesOf] using told.last
  taken := by
    have taken := told.taken
    rw [current] at taken
    simpa [takenOf] using taken
  ended := by simpa [endedOf] using told.ended
  tests := by
    have tests := told.tests
    rw [current] at tests
    simpa using tests
  early := by
    intro early
    rw [stage] at early
    exact absurd early (by decide)
  done := by
    intro final
    rw [stage] at final
    exact absurd final (by decide)
  ordered := told.ordered_snoc nofun

theorem step (told : Told tests events life) {event : LifeEvent} {reached : Life}
    (stepped : life.step event = some reached) : Told tests (events ++ [event]) reached := by
  unfold Life.step at stepped
  cases event with
  | moved target =>
      obtain ⟨admits, same⟩ := Option.ite_none_right_eq_some.mp stepped
      cases same
      exact told.moved admits
  | taken test =>
      obtain ⟨⟨stage, free, first⟩, same⟩ := Option.ite_none_right_eq_some.mp stepped
      cases same
      exact told.took stage free first
  | ended test =>
      obtain ⟨⟨stage, current⟩, same⟩ := Option.ite_none_right_eq_some.mp stepped
      cases same
      exact told.closed stage current

theorem of_follow : ∀ {events : List LifeEvent} {life : Life},
    (Life.start tests).follow events = some life → Told tests events life := by
  intro events
  induction events using List.reverseRecOn with
  | nil =>
      intro life followed
      cases followed
      exact start
  | append_singleton events event inductive_hypothesis =>
      intro life followed
      obtain ⟨before, reached, stepped⟩ := Life.follow_inversion followed
      exact (inductive_hypothesis reached).step stepped

end Life.Told

/-- Where the machine is when it has followed the host. -/
def Host.At (entry : Host) (current : Option String) : Prop :=
  (Life.start entry.enabledTests).follow entry.life = some
    { state := entry.state
      current := current
      remaining := entry.remainingTests
      ended := entry.endedTests.map Prod.fst }

namespace Host.At

variable {entry : Host} {current : Option String}

theorem told (follows : entry.At current) : Life.Told entry.enabledTests entry.life
    { state := entry.state
      current := current
      remaining := entry.remainingTests
      ended := entry.endedTests.map Prod.fst } :=
  .of_follow follows

/-- A host at an early stage has all its tests before it. -/
theorem early (follows : entry.At current) (early : entry.state.Early) :
    current = none ∧ entry.remainingTests = entry.enabledTests := by
  obtain ⟨ended, free⟩ := follows.told.early early
  have tests := follows.told.tests
  simp only at ended free tests
  rw [ended, free] at tests
  exact ⟨free, tests.symm⟩

theorem unique {other : Option String} (follows : entry.At current) (second : entry.At other) :
    current = other :=
  congrArg Life.current (Option.some.inj (follows.symm.trans second))

theorem event (follows : entry.At current) {event : LifeEvent} {reached : Life}
    (stepped : Life.step
      { state := entry.state
        current := current
        remaining := entry.remainingTests
        ended := entry.endedTests.map Prod.fst } event = some reached) :
    (Life.start entry.enabledTests).follow (entry.life ++ [event]) = some reached := by
  rw [Life.follow_snoc, follows]
  exact stepped

theorem moved (follows : entry.At current) {target : HostState}
    (leads : entry.state.leadsTo target = true) (testing : target = .testing → current ≠ none)
    (final : target = .done ∨ target = .hold → current = none ∧ entry.remainingTests = []) :
    ({ entry with state := target, life := entry.life ++ [.moved target] } : Host).At current :=
  follows.event (if_pos ⟨leads, testing, final⟩)

theorem took (follows : entry.At none) (stage : entry.state = .next) {test : String}
    {rest : List String} (remaining : entry.remainingTests = test :: rest) :
    ({ entry with remainingTests := rest, life := entry.life ++ [.taken test] } : Host).At
      (some test) := by
  refine follows.event ?_
  simp [Life.step, stage, remaining]

theorem closed {test : String} (follows : entry.At (some test)) (stage : entry.state = .next)
    (code : Option Int) :
    ({ entry with
        endedTests := entry.endedTests ++ [(test, code)]
        life := entry.life ++ [.ended test] } : Host).At none := by
  refine follows.event ?_
  simp [Life.step, stage]

end Host.At

end Daq
