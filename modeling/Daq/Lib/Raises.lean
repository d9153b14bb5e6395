import Daq.Lib.Exec
import Daq.Lib.Fallible

namespace Daq

/-! Which exceptions a computation can raise. -/

variable {σ ε α β : Type} {allowed : ε → Prop}

/-- Every exception that is raised is an allowed one. -/
def Fallible.RaisesOnly (allowed : ε → Prop) (call : Except ε α) : Prop :=
  ∀ raised, call = .error raised → allowed raised

namespace Fallible

theorem raisesOnly_ok (value : α) : RaisesOnly allowed (.ok value) := by
  intro raised failed
  cases failed

theorem raisesOnly_pure (value : α) : RaisesOnly allowed (pure value) := raisesOnly_ok value

theorem raisesOnly_error {raised : ε} (permitted : allowed raised) :
    RaisesOnly allowed (.error raised : Except ε α) := by
  intro other failed
  cases failed
  exact permitted

theorem raisesOnly_bind {first : Except ε α} {next : α → Except ε β}
    (head : RaisesOnly allowed first) (tail : ∀ value, RaisesOnly allowed (next value)) :
    RaisesOnly allowed (first >>= next) := by
  intro raised failed
  rcases bind_eq_error_iff.mp failed with early | ⟨value, _, late⟩
  · exact head raised early
  · exact tail value raised late

end Fallible

/-- Whatever state it starts in, the program raises allowed exceptions only. -/
def Exec.RaisesOnly (allowed : ε → Prop) (program : Exec σ ε α) : Prop :=
  ∀ state, Fallible.RaisesOnly allowed (program.run state).1

namespace Exec

theorem raisesOnly_pure (value : α) : (pure value : Exec σ ε α).RaisesOnly allowed :=
  fun _ => Fallible.raisesOnly_ok value

theorem raisesOnly_raise {raised : ε} (permitted : allowed raised) :
    (raise raised : Exec σ ε α).RaisesOnly allowed :=
  fun _ => Fallible.raisesOnly_error permitted

theorem raisesOnly_ofExcept {outcome : Except ε α}
    (inner : Fallible.RaisesOnly allowed outcome) :
    (ofExcept outcome : Exec σ ε α).RaisesOnly allowed :=
  fun _ => inner

theorem raisesOnly_read (view : σ → α) : (read view : Exec σ ε α).RaisesOnly allowed :=
  fun _ => Fallible.raisesOnly_ok _

theorem raisesOnly_modify (update : σ → σ) :
    (modify update : Exec σ ε Unit).RaisesOnly allowed :=
  fun _ => Fallible.raisesOnly_ok ()

theorem raisesOnly_bind {first : Exec σ ε α} {next : α → Exec σ ε β}
    (head : first.RaisesOnly allowed) (tail : ∀ value, (next value).RaisesOnly allowed) :
    (first >>= next).RaisesOnly allowed := by
  intro state
  cases ran : first.run state with
  | mk outcome reached =>
      cases outcome with
      | ok value =>
          rw [bind_run_ok ran]
          exact tail value reached
      | error raised =>
          rw [bind_run_error ran]
          apply Fallible.raisesOnly_error
          exact head state raised (by rw [ran])

theorem raisesOnly_require {condition : Prop} [Decidable condition] {raised : ε}
    (permitted : allowed raised) :
    (require condition raised : Exec σ ε Unit).RaisesOnly allowed := by
  unfold require
  split
  · exact raisesOnly_pure ()
  · exact raisesOnly_raise permitted

theorem raisesOnly_when {condition : Prop} [Decidable condition] {body : Exec σ ε Unit}
    (inner : body.RaisesOnly allowed) : (when condition body).RaisesOnly allowed := by
  unfold when
  split
  · exact inner
  · exact raisesOnly_pure ()

theorem raisesOnly_whenSome {value : Option α} {body : α → Exec σ ε Unit}
    (inner : ∀ present, (body present).RaisesOnly allowed) :
    (whenSome value body).RaisesOnly allowed := by
  cases value with
  | none => exact raisesOnly_pure ()
  | some present => exact inner present

end Exec

end Daq
