import Daq.Lib.Dict
import Mathlib.Data.List.Induction

namespace Daq.Dict

/-! Dictionaries that a loop fills: what is under a key afterwards. -/

variable {κ ν α : Type} [DecidableEq κ]

theorem mem_keys_insert_iff {dict : Dict κ ν} {key other : κ} {value : ν} :
    other ∈ (dict.insert key value).keys ↔ other = key ∨ other ∈ dict.keys := by
  rw [mem_keys_iff, mem_keys_iff, get?_insert]
  by_cases same : other = key
  · simp [same]
  · simp [same]

theorem mem_keys_foldl_insert_iff (keyOf : α → κ) {valueOf : α → ν} {elements : List α}
    {dict : Dict κ ν} {key : κ} :
    key ∈ (elements.foldl (fun dict element =>
        dict.insert (keyOf element) (valueOf element)) dict).keys ↔
      key ∈ dict.keys ∨ ∃ element ∈ elements, key = keyOf element := by
  induction elements generalizing dict with
  | nil => simp
  | cons element rest later =>
      rw [List.foldl_cons, later, mem_keys_insert_iff, List.exists_mem_cons_iff]
      tauto

/-- Elements with different keys do not overwrite each other. -/
theorem get?_foldl_insert (keyOf : α → κ) (valueOf : α → ν)
    (distinct : Function.Injective keyOf) (elements : List α) (dict : Dict κ ν)
    {element : α} (member : element ∈ elements) :
    (elements.foldl (fun dict element => dict.insert (keyOf element) (valueOf element)) dict).get?
      (keyOf element) = some (valueOf element) := by
  induction elements using List.reverseRecOn with
  | nil => exact absurd member List.not_mem_nil
  | append_singleton elements last before =>
      rw [List.foldl_append, List.foldl_cons, List.foldl_nil, get?_insert]
      by_cases same : element = last
      · rw [if_pos (congrArg keyOf same), same]
      · rw [if_neg fun keys => same (distinct keys)]
        refine before ?_
        simpa [same] using member

theorem get?_foldl_insert_of_ne (keyOf : α → κ) (valueOf : α → ν) {elements : List α}
    (dict : Dict κ ν) {key : κ} (other : ∀ element ∈ elements, key ≠ keyOf element) :
    (elements.foldl (fun dict element => dict.insert (keyOf element) (valueOf element)) dict).get?
      key = dict.get? key := by
  induction elements generalizing dict with
  | nil => rfl
  | cons element rest later =>
      rw [List.foldl_cons, later _ fun element inside => other element (List.mem_cons_of_mem _ inside),
        get?_insert_of_ne _ _ (other element List.mem_cons_self)]

/-- What holds of what was there and of all that the loop enters. -/
theorem forall_get?_foldl_insert (keyOf : α → κ) {valueOf : α → ν} {elements : List α}
    {dict : Dict κ ν} {property : κ → ν → Prop}
    (old : ∀ key stored, dict.get? key = some stored → property key stored)
    (new : ∀ element ∈ elements, property (keyOf element) (valueOf element)) :
    ∀ key stored,
      (elements.foldl (fun dict element => dict.insert (keyOf element) (valueOf element)) dict).get?
        key = some stored → property key stored := by
  induction elements generalizing dict with
  | nil => exact old
  | cons element rest later =>
      rw [List.foldl_cons]
      refine later (forall_get?_insert old (new element List.mem_cons_self)) ?_
      exact fun element inside => new element (List.mem_cons_of_mem _ inside)

end Daq.Dict
