import Daq.Lib.Exec

namespace Daq.Exec

variable {σ ε α β : Type}

/-! Changes of the state that a computation does not notice. -/

/-- From a changed state a computation comes to the same, and leaves what it
would have left with the change made to it. -/
def Ignores (change : σ → σ) (program : Exec σ ε α) : Prop :=
  ∀ state, program.run (change state) = ((program.run state).1, change (program.run state).2)

variable {change : σ → σ}

theorem ignores_pure (value : α) : Ignores change (pure value : Exec σ ε α) := fun _ => rfl

theorem ignores_read {view : σ → α} (same : ∀ state, view (change state) = view state) :
    Ignores change (read view : Exec σ ε α) := by
  intro state
  exact congrArg (fun seen => (Except.ok seen, change state)) (same state)

theorem ignores_modify {update : σ → σ}
    (same : ∀ state, update (change state) = change (update state)) :
    Ignores change (modify update : Exec σ ε Unit) := by
  intro state
  exact congrArg (Prod.mk (Except.ok ())) (same state)

theorem ignores_bind {first : Exec σ ε α} {next : α → Exec σ ε β} (head : Ignores change first)
    (tail : ∀ value, Ignores change (next value)) : Ignores change (first >>= next) := by
  intro state
  have start := head state
  cases outcome : first.run state with
  | mk ended reached =>
      rw [outcome] at start
      cases ended with
      | error raised =>
          rw [bind_run_error start, bind_run_error outcome]
      | ok value =>
          rw [bind_run_ok start, bind_run_ok outcome]
          exact tail value reached

theorem ignores_ofExcept_bind {outcome : Except ε α} {next : α → Exec σ ε β}
    (tail : ∀ value, outcome = .ok value → Ignores change (next value)) :
    Ignores change (ofExcept outcome >>= next) := by
  cases outcome with
  | error raised => exact fun _ => rfl
  | ok value => exact tail value rfl

/-- A part of the state is read that the change leaves alone, as far as what
comes next is concerned. -/
theorem ignores_get_bind {next : σ → Exec σ ε β}
    (same : ∀ state, next (change state) = next state)
    (tail : ∀ state, Ignores change (next state)) : Ignores change (get >>= next) := by
  intro state
  rw [get_bind_run, get_bind_run, same]
  exact tail state state

theorem ignores_ite {condition : Prop} [Decidable condition] {first second : Exec σ ε α}
    (positive : Ignores change first) (negative : Ignores change second) :
    Ignores change (if condition then first else second) := by
  split
  · exact positive
  · exact negative

theorem ignores_whenSome {body : α → Exec σ ε Unit} (value : Option α)
    (each : ∀ present, Ignores change (body present)) : Ignores change (whenSome value body) := by
  cases value with
  | none => exact ignores_pure ()
  | some present => exact each present

end Daq.Exec
