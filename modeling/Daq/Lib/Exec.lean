import Mathlib.Data.List.Basic
import Mathlib.Logic.Function.Basic

namespace Daq

/-- A computation over a mutable state.  Raising keeps every write made so
far, so a handler starts from the state the exception left behind. -/
structure Exec (σ ε α : Type) where
  run : σ → Except ε α × σ

namespace Exec

variable {σ τ ε α β : Type}

instance : Monad (Exec σ ε) where
  pure value := ⟨fun state => (.ok value, state)⟩
  bind first next := ⟨fun state =>
    match first.run state with
    | (.ok value, reached) => (next value).run reached
    | (.error raised, reached) => (.error raised, reached)⟩

def raise (raised : ε) : Exec σ ε α := ⟨fun state => (.error raised, state)⟩

def get : Exec σ ε σ := ⟨fun state => (.ok state, state)⟩

def read (view : σ → α) : Exec σ ε α := ⟨fun state => (.ok (view state), state)⟩

def modify (update : σ → σ) : Exec σ ε Unit := ⟨fun state => (.ok (), update state)⟩

/-- A call that reads no state. -/
def ofExcept (outcome : Except ε α) : Exec σ ε α := ⟨fun state => (outcome, state)⟩

/-- An `assert` statement. -/
def require (condition : Prop) [Decidable condition] (raised : ε) : Exec σ ε Unit :=
  if condition then pure () else raise raised

/-- An `if` statement without `else`. -/
def when (condition : Prop) [Decidable condition] (body : Exec σ ε Unit) : Exec σ ε Unit :=
  if condition then body else pure ()

/-- An `if` statement that tests for `None`. -/
def whenSome (value : Option α) (body : α → Exec σ ε Unit) : Exec σ ε Unit :=
  match value with
  | none => pure ()
  | some present => body present

/-- A `try`/`except` block. -/
def attempt (body : Exec σ ε α) (handler : ε → Exec σ ε α) : Exec σ ε α :=
  ⟨fun state =>
    match body.run state with
    | (.ok value, reached) => (.ok value, reached)
    | (.error raised, reached) => (handler raised).run reached⟩

/-- A `for` loop over a list that was computed before its first iteration. -/
def forEach : List α → (α → Exec σ ε Unit) → Exec σ ε Unit
  | [], _ => pure ()
  | head :: tail, body => do
      body head
      forEach tail body

/-- Run a computation on one component of a larger state. -/
def zoom (view : σ → τ) (put : τ → σ → σ) (inner : Exec τ ε α) : Exec σ ε α :=
  ⟨fun state =>
    ((inner.run (view state)).1, put (inner.run (view state)).2 state)⟩

/-! Running a straight-line program step by step. -/

@[simp] theorem pure_run (value : α) (state : σ) :
    (pure value : Exec σ ε α).run state = (.ok value, state) := rfl

@[simp] theorem raise_run (raised : ε) (state : σ) :
    (raise raised : Exec σ ε α).run state = (.error raised, state) := rfl

@[simp] theorem ofExcept_run (outcome : Except ε α) (state : σ) :
    (ofExcept outcome : Exec σ ε α).run state = (outcome, state) := rfl

@[simp] theorem get_bind_run (next : σ → Exec σ ε β) (state : σ) :
    (get >>= next).run state = (next state).run state := rfl

@[simp] theorem read_bind_run (view : σ → α) (next : α → Exec σ ε β) (state : σ) :
    (read view >>= next).run state = (next (view state)).run state := rfl

@[simp] theorem modify_run (update : σ → σ) (state : σ) :
    (modify update : Exec σ ε Unit).run state = (.ok (), update state) := rfl

@[simp] theorem modify_bind_run (update : σ → σ) (next : Unit → Exec σ ε β)
    (state : σ) :
    (modify update >>= next).run state = (next ()).run (update state) := rfl

theorem require_bind_run {condition : Prop} [Decidable condition] (raised : ε)
    (next : Unit → Exec σ ε β) {state : σ} (met : condition) :
    (require condition raised >>= next).run state = (next ()).run state := by
  simp [require, met, Bind.bind]

theorem require_bind_run_not {condition : Prop} [Decidable condition] (raised : ε)
    (next : Unit → Exec σ ε β) {state : σ} (unmet : ¬ condition) :
    (require condition raised >>= next).run state = (.error raised, state) := by
  simp [require, unmet, Bind.bind]

theorem bind_run_ok {first : Exec σ ε α} {next : α → Exec σ ε β} {state reached : σ}
    {value : α} (returned : first.run state = (.ok value, reached)) :
    (first >>= next).run state = (next value).run reached := by
  simp [Bind.bind, returned]

theorem bind_run_error {first : Exec σ ε α} {next : α → Exec σ ε β} {state reached : σ}
    {raised : ε} (failed : first.run state = (.error raised, reached)) :
    (first >>= next).run state = (.error raised, reached) := by
  simp [Bind.bind, failed]

theorem attempt_run_error {body : Exec σ ε α} {handler : ε → Exec σ ε α} {state reached : σ}
    {raised : ε} (failed : body.run state = (.error raised, reached)) :
    (attempt body handler).run state = (handler raised).run reached := by
  simp [attempt, failed]

theorem bind_assoc {γ : Type} (first : Exec σ ε α) (second : α → Exec σ ε β)
    (third : β → Exec σ ε γ) :
    (first >>= second) >>= third = first >>= fun value => second value >>= third := by
  have runs : ∀ state, ((first >>= second) >>= third).run state =
      (first >>= fun value => second value >>= third).run state := by
    intro state
    simp only [Bind.bind]
    cases first.run state with
    | mk outcome reached => cases outcome <;> rfl
  cases left : (first >>= second) >>= third
  cases right : first >>= fun value => second value >>= third
  simp only [left, right] at runs
  exact congrArg Exec.mk (funext runs)

/-- The postcondition is told how the computation ended, and the state it
ended in. -/
def Holds (program : Exec σ ε α) (state : σ)
    (post : Except ε α → σ → Prop) : Prop :=
  post (program.run state).1 (program.run state).2

theorem holds_congr {program other : Exec σ ε α} {state start : σ}
    {post : Except ε α → σ → Prop} (same : program.run state = other.run start) :
    program.Holds state post ↔ other.Holds start post := by
  unfold Holds
  rw [same]

theorem holds_of_run {program : Exec σ ε α} {state reached : σ} {outcome : Except ε α}
    {post : Except ε α → σ → Prop} (ran : program.run state = (outcome, reached)) :
    program.Holds state post ↔ post outcome reached := by
  unfold Holds
  rw [ran]

theorem Holds.mono {program : Exec σ ε α} {state : σ}
    {post weaker : Except ε α → σ → Prop}
    (holds : program.Holds state post)
    (weaken : ∀ outcome reached, post outcome reached → weaker outcome reached) :
    program.Holds state weaker :=
  weaken _ _ holds

theorem Holds.and {program : Exec σ ε α} {state : σ}
    {post other : Except ε α → σ → Prop}
    (holds : program.Holds state post) (also : program.Holds state other) :
    program.Holds state (fun outcome reached => post outcome reached ∧ other outcome reached) :=
  ⟨holds, also⟩

@[simp] theorem holds_pure {value : α} {state : σ}
    {post : Except ε α → σ → Prop} :
    (pure value : Exec σ ε α).Holds state post ↔ post (.ok value) state :=
  Iff.rfl

@[simp] theorem holds_raise {raised : ε} {state : σ}
    {post : Except ε α → σ → Prop} :
    (raise raised : Exec σ ε α).Holds state post ↔ post (.error raised) state :=
  Iff.rfl

@[simp] theorem holds_ofExcept {outcome : Except ε α} {state : σ}
    {post : Except ε α → σ → Prop} :
    (ofExcept outcome : Exec σ ε α).Holds state post ↔ post outcome state :=
  Iff.rfl

@[simp] theorem holds_get {state : σ} {post : Except ε σ → σ → Prop} :
    (get : Exec σ ε σ).Holds state post ↔ post (.ok state) state :=
  Iff.rfl

@[simp] theorem holds_read {view : σ → α} {state : σ}
    {post : Except ε α → σ → Prop} :
    (read view : Exec σ ε α).Holds state post ↔ post (.ok (view state)) state :=
  Iff.rfl

@[simp] theorem holds_modify {update : σ → σ} {state : σ}
    {post : Except ε Unit → σ → Prop} :
    (modify update : Exec σ ε Unit).Holds state post ↔
      post (.ok ()) (update state) :=
  Iff.rfl

/-- What has to hold before the rest of a program for a postcondition to hold
after it; an exception skips the rest. -/
def Then (next : α → Exec σ ε β) (post : Except ε β → σ → Prop) : Except ε α → σ → Prop
  | .ok value, reached => (next value).Holds reached post
  | .error raised, reached => post (.error raised) reached

@[simp] theorem then_ok {next : α → Exec σ ε β} {post : Except ε β → σ → Prop}
    {value : α} {reached : σ} :
    Then next post (.ok value) reached ↔ (next value).Holds reached post :=
  Iff.rfl

@[simp] theorem then_error {next : α → Exec σ ε β} {post : Except ε β → σ → Prop}
    {raised : ε} {reached : σ} :
    Then next post (.error raised) reached ↔ post (.error raised) reached :=
  Iff.rfl

theorem holds_bind {first : Exec σ ε α} {next : α → Exec σ ε β} {state : σ}
    {post : Except ε β → σ → Prop} :
    (first >>= next).Holds state post ↔ first.Holds state (Then next post) := by
  unfold Holds
  cases outcome : first.run state with
  | mk ended reached =>
      cases ended <;> simp [Bind.bind, outcome, Then, Holds]

theorem Holds.bind {first : Exec σ ε α} {next : α → Exec σ ε β} {state : σ}
    {middle : Except ε α → σ → Prop} {post : Except ε β → σ → Prop}
    (head : first.Holds state middle)
    (skip : ∀ raised reached, middle (.error raised) reached → post (.error raised) reached)
    (tail : ∀ value reached, middle (.ok value) reached → (next value).Holds reached post) :
    (first >>= next).Holds state post := by
  rw [holds_bind]
  refine head.mono ?_
  intro outcome reached before
  cases outcome with
  | ok value => exact tail value reached before
  | error raised => exact skip raised reached before

@[simp] theorem holds_require {condition : Prop} [Decidable condition]
    {raised : ε} {state : σ} {post : Except ε Unit → σ → Prop} :
    (require condition raised : Exec σ ε Unit).Holds state post ↔
      (condition → post (.ok ()) state) ∧
        (¬ condition → post (.error raised) state) := by
  unfold require
  split <;> simp [*]

/-- What has to hold after a guarded body for a postcondition to hold after the
whole block. -/
def Rescued (handler : ε → Exec σ ε α) (post : Except ε α → σ → Prop) :
    Except ε α → σ → Prop
  | .ok value, reached => post (.ok value) reached
  | .error raised, reached => (handler raised).Holds reached post

@[simp] theorem rescued_ok {handler : ε → Exec σ ε α} {post : Except ε α → σ → Prop}
    {value : α} {reached : σ} :
    Rescued handler post (.ok value) reached ↔ post (.ok value) reached :=
  Iff.rfl

@[simp] theorem rescued_error {handler : ε → Exec σ ε α} {post : Except ε α → σ → Prop}
    {raised : ε} {reached : σ} :
    Rescued handler post (.error raised) reached ↔ (handler raised).Holds reached post :=
  Iff.rfl

theorem holds_attempt {body : Exec σ ε α} {handler : ε → Exec σ ε α}
    {state : σ} {post : Except ε α → σ → Prop} :
    (attempt body handler).Holds state post ↔ body.Holds state (Rescued handler post) := by
  unfold Holds attempt
  cases outcome : body.run state with
  | mk ended reached => cases ended <;> simp [outcome, Rescued, Holds]

theorem Holds.attempt {body : Exec σ ε α} {handler : ε → Exec σ ε α} {state : σ}
    {middle post : Except ε α → σ → Prop} (inner : body.Holds state middle)
    (returned : ∀ value reached, middle (.ok value) reached → post (.ok value) reached)
    (rescued : ∀ raised reached, middle (.error raised) reached →
      (handler raised).Holds reached post) :
    (attempt body handler).Holds state post := by
  rw [holds_attempt]
  refine inner.mono ?_
  intro outcome reached after
  cases outcome with
  | ok value => exact returned value reached after
  | error raised => exact rescued raised reached after

theorem holds_ite {condition : Prop} [Decidable condition]
    {positive negative : Exec σ ε α} {state : σ}
    {post : Except ε α → σ → Prop} :
    (if condition then positive else negative).Holds state post ↔
      (condition → positive.Holds state post) ∧
        (¬ condition → negative.Holds state post) := by
  split <;> simp [*]

theorem holds_when {condition : Prop} [Decidable condition]
    {body : Exec σ ε Unit} {state : σ} {post : Except ε Unit → σ → Prop} :
    (when condition body).Holds state post ↔
      (condition → body.Holds state post) ∧ (¬ condition → post (.ok ()) state) := by
  unfold when
  rw [holds_ite, holds_pure]

theorem holds_whenSome {value : Option α} {body : α → Exec σ ε Unit} {state : σ}
    {post : Except ε Unit → σ → Prop} :
    (whenSome value body).Holds state post ↔
      (value = none → post (.ok ()) state) ∧
        ∀ present, value = some present → (body present).Holds state post := by
  cases value with
  | none => simp [whenSome]
  | some present => simp [whenSome]

@[simp] theorem holds_zoom {view : σ → τ} {put : τ → σ → σ}
    {inner : Exec τ ε α} {state : σ} {post : Except ε α → σ → Prop} :
    (zoom view put inner).Holds state post ↔
      inner.Holds (view state) (fun outcome reached =>
        post outcome (put reached state)) :=
  Iff.rfl

/-- Loop rule: what holds of the state before an iteration and of the
elements still to come holds again after it; a raising iteration ends the
loop. -/
theorem holds_forEach {body : α → Exec σ ε Unit}
    (Before : List α → σ → Prop) {post : Except ε Unit → σ → Prop}
    (finish : ∀ state, Before [] state → post (.ok ()) state)
    (iteration : ∀ head tail state, Before (head :: tail) state →
      (body head).Holds state (fun outcome reached =>
        (outcome = .ok () → Before tail reached) ∧
          ∀ raised, outcome = .error raised → post (.error raised) reached)) :
    ∀ (elements : List α) {state : σ}, Before elements state →
      (forEach elements body).Holds state post
  | [], _, before => finish _ before
  | head :: tail, _, before => by
      unfold forEach
      refine (iteration head tail _ before).bind ?_ ?_
      · intro raised reached after
        exact after.2 raised rfl
      · intro value reached after
        exact holds_forEach Before finish iteration tail (after.1 rfl)

end Exec

/-- A reflexive and transitive relation between the states before and after
a computation.  An invariant is one, and so is "these components are
unchanged". -/
structure Frame (σ : Type) where
  rel : σ → σ → Prop
  refl : ∀ state, rel state state
  trans : ∀ {first second third}, rel first second → rel second third →
    rel first third

namespace Frame

def invariant {σ : Type} (property : σ → Prop) : Frame σ where
  rel before after := property before → property after
  refl _ := id
  trans first second := second ∘ first

/-- The given view of the state is unchanged. -/
def unchanged {σ τ : Type} (view : σ → τ) : Frame σ where
  rel before after := view after = view before
  refl _ := rfl
  trans first second := second.trans first

/-- A view of a family's members is unchanged when a member is replaced by one
that looks the same. -/
theorem view_update {ι α β : Type} [DecidableEq ι] (view : α → β) {family : ι → α}
    {index : ι} {value : α} (same : view value = view (family index)) :
    (fun member => view (Function.update family index value member)) =
      fun member => view (family member) := by
  funext member
  by_cases equality : member = index
  · subst equality
    rw [Function.update_self, same]
  · rw [Function.update_of_ne equality]

end Frame

namespace Exec

variable {σ τ ε α β : Type} {frame : Frame σ}

/-- Every run of the program, returning or raising, stays inside the frame. -/
def Within (frame : Frame σ) (program : Exec σ ε α) : Prop :=
  ∀ state, frame.rel state (program.run state).2

theorem Within.holds {program : Exec σ ε α} (within : program.Within frame)
    (state : σ) : program.Holds state (fun _ reached => frame.rel state reached) :=
  within state

theorem within_of_holds {program : Exec σ ε α}
    (holds : ∀ state, program.Holds state (fun _ reached => frame.rel state reached)) :
    program.Within frame :=
  holds

theorem Within.mono {wider : Frame σ} {program : Exec σ ε α}
    (within : program.Within frame)
    (weaken : ∀ before after, frame.rel before after → wider.rel before after) :
    program.Within wider :=
  fun state => weaken _ _ (within state)

theorem within_pure (value : α) : (pure value : Exec σ ε α).Within frame :=
  fun state => frame.refl state

theorem within_raise (raised : ε) : (raise raised : Exec σ ε α).Within frame :=
  fun state => frame.refl state

theorem within_ofExcept (outcome : Except ε α) :
    (ofExcept outcome : Exec σ ε α).Within frame :=
  fun state => frame.refl state

theorem within_ofExcept_bind {outcome : Except ε α} {next : α → Exec σ ε β}
    (tail : ∀ value, outcome = .ok value → (next value).Within frame) :
    (ofExcept outcome >>= next).Within frame := by
  cases outcome with
  | error raised => exact fun _ => frame.refl _
  | ok value => exact tail value rfl

theorem within_get : (get : Exec σ ε σ).Within frame :=
  fun state => frame.refl state

theorem within_read (view : σ → α) : (read view : Exec σ ε α).Within frame :=
  fun state => frame.refl state

theorem within_modify {update : σ → σ}
    (step : ∀ state, frame.rel state (update state)) :
    (modify update : Exec σ ε Unit).Within frame :=
  step

theorem within_bind {first : Exec σ ε α} {next : α → Exec σ ε β}
    (head : first.Within frame) (tail : ∀ value, (next value).Within frame) :
    (first >>= next).Within frame := by
  intro state
  have composed : (first >>= next).Holds state (fun _ reached => frame.rel state reached) := by
    refine (head.holds state).bind (fun _ _ related => related) ?_
    intro value reached related
    exact frame.trans related (tail value reached)
  exact composed

/-- A frame is kept by a first part that always keeps it and a rest that keeps
it from the states the first part leads to. -/
theorem Within.then_holds {first : Exec σ ε α} {next : α → Exec σ ε β} {state : σ}
    (head : first.Within frame)
    (tail : ∀ value reached, frame.rel state reached →
      (next value).Holds reached (fun _ after => frame.rel reached after)) :
    (first >>= next).Holds state (fun _ after => frame.rel state after) := by
  refine (head.holds state).bind (fun _ _ kept => kept) fun value reached kept => ?_
  exact (tail value reached kept).mono fun _ _ later => frame.trans kept later

theorem within_require {condition : Prop} [Decidable condition] (raised : ε) :
    (require condition raised : Exec σ ε Unit).Within frame := by
  unfold require
  split
  · exact within_pure ()
  · exact within_raise raised

theorem within_attempt {body : Exec σ ε α} {handler : ε → Exec σ ε α}
    (inner : body.Within frame) (outer : ∀ raised, (handler raised).Within frame) :
    (attempt body handler).Within frame := by
  intro state
  have composed : (attempt body handler).Holds state
      (fun _ reached => frame.rel state reached) := by
    refine (inner.holds state).attempt (fun _ _ related => related) ?_
    intro raised reached related
    exact frame.trans related (outer raised reached)
  exact composed

theorem within_ite {condition : Prop} [Decidable condition]
    {positive negative : Exec σ ε α} (yes : positive.Within frame)
    (no : negative.Within frame) :
    (if condition then positive else negative).Within frame := by
  split
  · exact yes
  · exact no

theorem within_when {condition : Prop} [Decidable condition] {body : Exec σ ε Unit}
    (yes : body.Within frame) : (when condition body).Within frame :=
  within_ite yes (within_pure ())

theorem within_whenSome {body : α → Exec σ ε Unit} (value : Option α)
    (yes : ∀ present, (body present).Within frame) :
    (whenSome value body).Within frame := by
  cases value with
  | none => exact within_pure ()
  | some present => exact yes present

theorem within_whenSome_of {value : Option α} {body : α → Exec σ ε Unit}
    (yes : ∀ present, value = some present → (body present).Within frame) :
    (whenSome value body).Within frame := by
  cases value with
  | none => exact within_pure ()
  | some present => exact yes present rfl

theorem within_forEach {body : α → Exec σ ε Unit}
    (each : ∀ element, (body element).Within frame) :
    ∀ elements, (forEach elements body).Within frame
  | [] => within_pure ()
  | head :: tail => within_bind (each head) fun _ => within_forEach each tail

theorem within_forEach_of {body : α → Exec σ ε Unit} {elements : List α}
    (each : ∀ element ∈ elements, (body element).Within frame) :
    (forEach elements body).Within frame := by
  induction elements with
  | nil => exact within_pure ()
  | cons head tail later =>
      refine within_bind (each head List.mem_cons_self) fun _ => later ?_
      exact fun element inside => each element (List.mem_cons_of_mem _ inside)

end Exec

end Daq
