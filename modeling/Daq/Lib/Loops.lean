import Daq.Lib.Exec
import Mathlib.Data.List.Induction

namespace Daq.Exec

variable {σ ε α : Type}

/-! How far a loop gets, and where it stops. -/

def Returns (program : Exec σ ε Unit) (state : σ) : Prop :=
  ∃ reached, program.run state = (.ok (), reached)

theorem returns_or_raises (program : Exec σ ε Unit) (state : σ) :
    program.Returns state ∨ ∃ raised failed, program.run state = (.error raised, failed) := by
  cases outcome : program.run state with
  | mk ended reached =>
      cases ended with
      | ok _ => exact .inl ⟨reached, outcome⟩
      | error raised => exact .inr ⟨raised, reached, rfl⟩

/-- What comes out of a handler was raised there. -/
theorem raises_of_attempt {body : Exec σ ε Unit} {handler : ε → Exec σ ε Unit} {state failed : σ}
    {raised : ε} (raises : (attempt body handler).run state = (.error raised, failed)) :
    ∃ first between, body.run state = (.error first, between) ∧
      (handler first).run between = (.error raised, failed) := by
  cases outcome : body.run state with
  | mk ended between =>
      cases ended with
      | ok _ =>
          simp only [attempt, outcome] at raises
          cases raises
      | error first => exact ⟨first, between, rfl, attempt_run_error outcome ▸ raises⟩

/-- The element of a loop that raises. -/
structure Stop (body : α → Exec σ ε Unit) (items : List α) (state : σ) where
  before : List α
  item : α
  after : List α
  reached : σ
  raised : ε
  failed : σ
  split : items = before ++ item :: after
  arrives : (forEach before body).run state = (.ok (), reached)
  raises : (body item).run reached = (.error raised, failed)

/-- A loop gets to each of its elements. -/
def Completes (body : α → Exec σ ε Unit) (items : List α) (state : σ) : Prop :=
  ∀ before item after, items = before ++ item :: after → (forEach before body).Returns state

section Loop

variable {body : α → Exec σ ε Unit} {items before rest : List α} {state reached : σ}

theorem forEach_append_run (arrives : (forEach before body).run state = (.ok (), reached)) :
    (forEach (before ++ rest) body).run state = (forEach rest body).run reached := by
  induction before generalizing state with
  | nil =>
      cases arrives
      rfl
  | cons head tail later =>
      cases first : (body head).run state with
      | mk outcome next =>
          cases outcome with
          | error raised =>
              rw [forEach, bind_run_error first] at arrives
              cases arrives
          | ok _ =>
              rw [forEach, bind_run_ok first] at arrives
              rw [List.cons_append, forEach, bind_run_ok first]
              exact later arrives

theorem forEach_append_run_error {raised : ε}
    (raises : (forEach before body).run state = (.error raised, reached)) :
    (forEach (before ++ rest) body).run state = (.error raised, reached) := by
  induction before generalizing state with
  | nil => cases raises
  | cons head tail later =>
      cases first : (body head).run state with
      | mk outcome next =>
          cases outcome with
          | error early =>
              rw [forEach, bind_run_error first] at raises
              cases raises
              exact bind_run_error first
          | ok _ =>
              rw [forEach, bind_run_ok first] at raises
              rw [List.cons_append, forEach, bind_run_ok first]
              exact later raises

theorem forEach_concat_run {item : α}
    (arrives : (forEach before body).run state = (.ok (), reached)) :
    (forEach (before ++ [item]) body).run state = (body item).run reached := by
  rw [forEach_append_run arrives, forEach]
  cases last : (body item).run reached with
  | mk outcome next =>
      cases outcome with
      | error raised => exact bind_run_error last
      | ok _ => exact bind_run_ok last

/-- A loop that stops raises what the element does. -/
theorem Stop.run (stop : Stop body items state) :
    (forEach items body).run state = (.error stop.raised, stop.failed) := by
  obtain ⟨before, item, after, reached, raised, failed, rfl, arrives, raises⟩ := stop
  rw [forEach_append_run arrives, forEach, bind_run_error raises]

theorem forEach_returns_iff : (forEach items body).Returns state ↔ IsEmpty (Stop body items state) := by
  constructor
  · rintro ⟨final, returns⟩
    refine ⟨fun stop => ?_⟩
    cases returns.symm.trans stop.run
  · intro free
    suffices all : ∀ before rest, items = before ++ rest → (forEach before body).Returns state from
      all items [] (List.append_nil items).symm
    intro before
    induction before using List.reverseRecOn with
    | nil => exact fun _ _ => ⟨state, rfl⟩
    | append_singleton before item earlier =>
        intro rest split
        have split : items = before ++ item :: rest := by rw [split, List.append_assoc]; rfl
        obtain ⟨reached, arrives⟩ := earlier _ split
        cases last : (body item).run reached with
        | mk outcome next =>
            cases outcome with
            | error raised =>
                exact free.elim ⟨before, item, rest, reached, raised, next, split, arrives, last⟩
            | ok _ => exact ⟨next, (forEach_concat_run arrives).trans last⟩

/-- A loop gets to each of its elements exactly if none but the last one
stops it. -/
theorem completes_iff :
    Completes body items state ↔ ∀ stop : Stop body items state, stop.after = [] := by
  constructor
  · rintro completes ⟨before, item, after, reached, raised, failed, split, arrives, raises⟩
    cases after with
    | nil => rfl
    | cons next rest =>
        have beyond : items = (before ++ [item]) ++ next :: rest := by
          rw [split, List.append_assoc]
          rfl
        obtain ⟨_, returns⟩ := completes _ next rest beyond
        cases ((forEach_concat_run arrives).trans raises).symm.trans returns
  · intro last before item after split
    refine forEach_returns_iff.mpr ⟨?_⟩
    rintro ⟨first, stopper, between, reached, raised, failed, rfl, arrives, raises⟩
    have inside : items = first ++ stopper :: (between ++ item :: after) := by
      rw [split, List.append_assoc]
      rfl
    have ended := last ⟨first, stopper, _, reached, raised, failed, inside, arrives, raises⟩
    cases List.append_eq_nil_iff.mp ended |>.2

end Loop

end Daq.Exec
