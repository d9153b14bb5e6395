import Mathlib.Data.List.Induction

namespace Daq

/-- The states a system reaches by commands that each meet a condition in the
state they are issued in. -/
inductive Reaches {σ κ : Type} (step : κ → σ → σ) (allowed : σ → κ → Prop)
    (start : σ) : σ → Prop
  | start : Reaches step allowed start start
  | step {state : σ} (command : κ) :
      Reaches step allowed start state → allowed state command →
      Reaches step allowed start (step command state)

namespace Reaches

variable {σ κ : Type} {step : κ → σ → σ} {allowed : σ → κ → Prop} {start state : σ}

theorem invariant (property : σ → Prop) (initial : property start)
    (preserved : ∀ state command, property state → allowed state command →
      property (step command state))
    (reached : Reaches step allowed start state) : property state := by
  induction reached with
  | start => exact initial
  | step command _ permitted inductive_hypothesis =>
      exact preserved _ command inductive_hypothesis permitted

/-- Any list of commands leads to a state that is reached, when all commands are
allowed. -/
theorem foldl (free : ∀ state command, allowed state command) (commands : List κ) :
    Reaches step allowed start (commands.foldl (fun state command => step command state) start) := by
  induction commands using List.reverseRecOn with
  | nil => exact .start
  | append_singleton commands command before =>
      rw [List.foldl_append]
      exact .step command before (free _ command)

/-- Each of a list of commands is allowed where it is issued. -/
def Permitted (step : κ → σ → σ) (allowed : σ → κ → Prop) : σ → List κ → Prop
  | _, [] => True
  | state, command :: rest => allowed state command ∧ Permitted step allowed (step command state) rest

instance Permitted.decidable [∀ state command, Decidable (allowed state command)] :
    (state : σ) → (commands : List κ) → Decidable (Permitted step allowed state commands)
  | _, [] => .isTrue trivial
  | state, command :: rest =>
      match decidable (step command state) rest with
      | .isTrue later =>
          if first : allowed state command then .isTrue ⟨first, later⟩
          else .isFalse fun both => first both.1
      | .isFalse not => .isFalse fun both => not both.2

theorem run (reached : Reaches step allowed start state) {commands : List κ}
    (permitted : Permitted step allowed state commands) :
    Reaches step allowed start (commands.foldl (fun state command => step command state) state) := by
  induction commands generalizing state with
  | nil => exact reached
  | cons command rest later =>
      rw [List.foldl_cons]
      exact later (.step command reached permitted.1) permitted.2

end Reaches

end Daq
