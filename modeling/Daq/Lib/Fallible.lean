import Mathlib.Data.List.Basic

namespace Daq.Fallible

/-! Taking apart what a sequence of calls that may raise has returned. -/

variable {ε α β : Type}

theorem bind_eq_ok_iff {first : Except ε α} {next : α → Except ε β} {value : β} :
    (first >>= next) = .ok value ↔ ∃ middle, first = .ok middle ∧ next middle = .ok value := by
  cases first with
  | ok middle => simp [bind, Except.bind]
  | error raised => simp [bind, Except.bind]

theorem bind_eq_error_iff {first : Except ε α} {next : α → Except ε β} {raised : ε} :
    (first >>= next) = .error raised ↔
      first = .error raised ∨ ∃ middle, first = .ok middle ∧ next middle = .error raised := by
  cases first with
  | ok middle => simp [bind, Except.bind]
  | error raised => simp [bind, Except.bind]

@[simp] theorem ok_bind (middle : α) (next : α → Except ε β) :
    ((.ok middle : Except ε α) >>= next) = next middle := rfl

@[simp] theorem error_bind (raised : ε) (next : α → Except ε β) :
    ((.error raised : Except ε α) >>= next) = .error raised := rfl

@[simp] theorem pure_eq_ok_iff {value other : α} :
    (pure value : Except ε α) = .ok other ↔ value = other := by
  simp [pure, Except.pure]

theorem ite_error_eq_ok_iff {refused : Prop} [Decidable refused] {raised : ε} {next : Except ε α}
    {value : α} :
    (if refused then .error raised else next) = .ok value ↔ ¬ refused ∧ next = .ok value := by
  by_cases here : refused <;> simp [here]

/-- A loop whose rounds each add to a list that the state has. -/
theorem foldlM_appends {σ : Type} (view : σ → List β) (part : α → List β)
    {step : σ → α → Except ε σ}
    (each : ∀ state element after, step state element = .ok after →
      view after = view state ++ part element)
    {elements : List α} {state after : σ} (ran : elements.foldlM step state = .ok after) :
    view after = view state ++ elements.flatMap part := by
  induction elements generalizing state with
  | nil =>
      cases ran
      exact (List.append_nil _).symm
  | cons element rest later =>
      rw [List.foldlM_cons] at ran
      obtain ⟨middle, first, ran⟩ := bind_eq_ok_iff.mp ran
      rw [later ran, each state element middle first, List.flatMap_cons, List.append_assoc]

/-- The same for a list that the state may lack. -/
theorem foldlM_extends {σ : Type} (view : σ → Option (List β)) (part : α → List β)
    {step : σ → α → Except ε σ}
    (each : ∀ state element after items, step state element = .ok after →
      view state = some items → view after = some (items ++ part element))
    {elements : List α} {state after : σ} {items : List β}
    (ran : elements.foldlM step state = .ok after) (listed : view state = some items) :
    view after = some (items ++ elements.flatMap part) := by
  induction elements generalizing state items with
  | nil =>
      cases ran
      rw [List.flatMap_nil, List.append_nil]
      exact listed
  | cons element rest later =>
      rw [List.foldlM_cons] at ran
      obtain ⟨middle, first, ran⟩ := bind_eq_ok_iff.mp ran
      rw [later ran (each state element middle items first listed), List.flatMap_cons,
        List.append_assoc]

/-- What every round of a loop keeps. -/
theorem foldlM_keeps {σ : Type} {invariant : σ → Prop} {step : σ → α → Except ε σ}
    (each : ∀ state element after, invariant state → step state element = .ok after →
      invariant after)
    {elements : List α} {state after : σ} (ran : elements.foldlM step state = .ok after)
    (holds : invariant state) : invariant after := by
  induction elements generalizing state with
  | nil =>
      cases ran
      exact holds
  | cons element rest later =>
      rw [List.foldlM_cons] at ran
      obtain ⟨middle, first, ran⟩ := bind_eq_ok_iff.mp ran
      exact later ran (each state element middle holds first)

/-- Every round of a loop that ends has been gone through. -/
theorem foldlM_each {σ : Type} {step : σ → α → Except ε σ} {elements : List α} {state after : σ}
    (ran : elements.foldlM step state = .ok after) :
    ∀ element ∈ elements, ∃ before next, step before element = .ok next := by
  induction elements generalizing state with
  | nil => exact List.forall_mem_nil _
  | cons element rest later =>
      rw [List.foldlM_cons] at ran
      obtain ⟨middle, first, ran⟩ := bind_eq_ok_iff.mp ran
      exact List.forall_mem_cons.mpr ⟨⟨state, middle, first⟩, later ran⟩

theorem forM_eq_ok_iff {check : α → Except ε Unit} {elements : List α} :
    elements.forM check = .ok () ↔ ∀ element ∈ elements, check element = .ok () := by
  induction elements with
  | nil => exact ⟨fun _ => List.forall_mem_nil _, fun _ => rfl⟩
  | cons element rest later =>
      have first : (element :: rest).forM check = (check element >>= fun _ => rest.forM check) := rfl
      rw [first, bind_eq_ok_iff, List.forall_mem_cons, ← later]
      exact ⟨fun ⟨_, here, behind⟩ => ⟨here, behind⟩, fun ⟨here, behind⟩ => ⟨(), here, behind⟩⟩

theorem mem_of_mapM {change : α → Except ε β} {elements : List α} {results : List β}
    (ran : elements.mapM change = .ok results) {result : β} :
    result ∈ results ↔ ∃ element ∈ elements, change element = .ok result := by
  induction elements generalizing results with
  | nil =>
      cases ran
      simp
  | cons element rest later =>
      rw [List.mapM_cons] at ran
      obtain ⟨first, here, ran⟩ := bind_eq_ok_iff.mp ran
      obtain ⟨others, there, ran⟩ := bind_eq_ok_iff.mp ran
      cases ran
      rw [List.mem_cons, later there]
      constructor
      · rintro (rfl | ⟨other, member, comes⟩)
        · exact ⟨element, List.mem_cons_self, here⟩
        · exact ⟨other, List.mem_cons_of_mem _ member, comes⟩
      · rintro ⟨other, member, comes⟩
        rcases List.mem_cons.mp member with rfl | member
        · exact .inl (Except.ok.inj (comes.symm.trans here))
        · exact .inr ⟨other, member, comes⟩

theorem mapM_eq_ok {change : α → Except ε β} {result : α → β} {elements : List α}
    (each : ∀ element ∈ elements, change element = .ok (result element)) :
    elements.mapM change = .ok (elements.map result) := by
  induction elements with
  | nil => rfl
  | cons element rest later =>
      obtain ⟨here, behind⟩ := List.forall_mem_cons.mp each
      rw [List.mapM_cons, here, ok_bind, later behind]
      rfl

theorem exists_mapM_iff {change : α → Except ε β} {elements : List α} :
    (∃ results, elements.mapM change = .ok results) ↔
      ∀ element ∈ elements, ∃ result, change element = .ok result := by
  induction elements with
  | nil => exact ⟨fun _ => List.forall_mem_nil _, fun _ => ⟨[], rfl⟩⟩
  | cons element rest later =>
      rw [List.forall_mem_cons, ← later]
      constructor
      · rintro ⟨results, ran⟩
        rw [List.mapM_cons] at ran
        obtain ⟨first, here, ran⟩ := bind_eq_ok_iff.mp ran
        obtain ⟨others, there, _⟩ := bind_eq_ok_iff.mp ran
        exact ⟨⟨first, here⟩, others, there⟩
      · rintro ⟨⟨first, here⟩, others, there⟩
        exact ⟨first :: others, by rw [List.mapM_cons, here, there]; rfl⟩

end Daq.Fallible
