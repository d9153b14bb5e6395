import Mathlib.Data.List.Basic
import Mathlib.Data.List.Forall2

namespace Daq.FirstMatch

/-! Lists that are searched for the first element of a kind. -/

variable {α β : Type} {wanted : β → Bool}

theorem find?_append_right {before after : List β} (none : ∀ element ∈ before, wanted element = false) :
    (before ++ after).find? wanted = after.find? wanted := by
  rw [List.find?_append, List.find?_eq_none.mpr fun element inside => by
    rw [none element inside]
    exact Bool.false_ne_true, Option.none_or]

/-- One element of a list decides what is found among what the elements stand
for. -/
theorem find?_flatMap_of_unique {parts : α → List β}
    {elements : List α} {element : α} (member : element ∈ elements)
    (others : ∀ other ∈ elements, other ≠ element → (parts other).find? wanted = none) :
    (elements.flatMap parts).find? wanted = (parts element).find? wanted := by
  induction elements with
  | nil => exact absurd member List.not_mem_nil
  | cons first rest shorter =>
      rw [List.flatMap_cons, List.find?_append]
      by_cases here : first = element
      · subst here
        cases found : (parts first).find? wanted with
        | some rule => rfl
        | none =>
            rw [Option.none_or, List.find?_flatMap, List.findSome?_eq_none_iff]
            intro other inside
            by_cases same : other = first
            · exact same ▸ found
            · exact others other (List.mem_cons_of_mem _ inside) same
      · have later : element ∈ rest := (List.mem_cons.mp member).resolve_left (Ne.symm here)
        rw [others first List.mem_cons_self here, Option.none_or]
        exact shorter later fun other inside => others other (List.mem_cons_of_mem _ inside)

/-- Two lists of elements that have the same to say. -/
theorem findSome?_of_forall₂ {γ : Type} {first : α → Option γ} {second : β → Option γ}
    {elements : List α} {others : List β}
    (all : List.Forall₂ (fun element other => second other = first element) elements others) :
    others.findSome? second = elements.findSome? first := by
  induction all with
  | nil => rfl
  | cons here _ later => rw [List.findSome?_cons, List.findSome?_cons, here, later]

/-- A list whose elements say one thing or nothing. -/
theorem findSome?_any {γ : Type} {said : α → Option γ} {picks : α → Bool} {result : γ}
    {elements : List α}
    (each : ∀ element ∈ elements, said element = if picks element then some result else none) :
    elements.findSome? said = if elements.any picks then some result else none := by
  induction elements with
  | nil => rfl
  | cons element rest later =>
      obtain ⟨here, behind⟩ := List.forall_mem_cons.mp each
      rw [List.findSome?_cons, here, List.any_cons]
      cases picks element with
      | true => rfl
      | false => exact later behind

end Daq.FirstMatch
