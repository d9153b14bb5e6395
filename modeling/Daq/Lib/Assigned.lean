import Daq.Lib.Dict
import Mathlib.Algebra.BigOperators.Group.List.Basic

namespace Daq.Dict

/-! A dictionary that is filled by assignments: which of them last, and which
are lost to a later one. -/

variable {κ ν : Type} [DecidableEq κ]

def assign (dict : Dict κ ν) (pairs : List (κ × ν)) : Dict κ ν :=
  pairs.foldl (fun dict pair => dict.insert pair.1 pair.2) dict

/-- The assignments whose key is not assigned to again. -/
def lasting : List (κ × ν) → List (κ × ν)
  | [] => []
  | pair :: later =>
      if pair.1 ∈ later.map Prod.fst then lasting later else pair :: lasting later

/-- The assignments whose key is assigned to again. -/
def overwritten : List (κ × ν) → List (κ × ν)
  | [] => []
  | pair :: later =>
      if pair.1 ∈ later.map Prod.fst then pair :: overwritten later else overwritten later

theorem perm_lasting_overwritten (pairs : List (κ × ν)) :
    (lasting pairs ++ overwritten pairs).Perm pairs := by
  induction pairs with
  | nil => exact .refl _
  | cons pair later induction =>
      rw [lasting, overwritten]
      split
      · exact List.perm_middle.trans (induction.cons pair)
      · exact induction.cons pair

section Filled

variable {α : Type} {keyOf : α → κ} {valueOf : α → ν} {elements : List α} {dict : Dict κ ν}

theorem get?_foldl_insert_of_not_mem {key : κ} (absent : key ∉ elements.map keyOf) :
    (elements.foldl (fun dict element => dict.insert (keyOf element) (valueOf element)) dict).get?
      key = dict.get? key := by
  induction elements generalizing dict with
  | nil => rfl
  | cons element rest later =>
      rw [List.map_cons, List.mem_cons, not_or] at absent
      rw [List.foldl_cons, later absent.2, get?_insert_of_ne _ _ absent.1]

/-- Where the value depends on the key alone, it does not matter which of several
elements comes last. -/
theorem get?_foldl_insert_of_mem {element : α} (member : element ∈ elements)
    (determined : ∀ other ∈ elements, keyOf other = keyOf element →
      valueOf other = valueOf element) :
    (elements.foldl (fun dict element => dict.insert (keyOf element) (valueOf element)) dict).get?
      (keyOf element) = some (valueOf element) := by
  induction elements generalizing dict element with
  | nil => cases member
  | cons first rest later =>
      rw [List.foldl_cons]
      by_cases again : ∃ other ∈ rest, keyOf other = keyOf element
      · obtain ⟨other, inside, same⟩ := again
        have value := determined other (List.mem_cons_of_mem _ inside) same
        rw [← same, ← value]
        apply later inside
        intro another within_rest equal
        rw [value]
        exact determined another (List.mem_cons_of_mem _ within_rest) (equal.trans same)
      · have last : keyOf element ∉ rest.map keyOf := by
          intro present
          obtain ⟨other, inside, same⟩ := List.mem_map.mp present
          exact again ⟨other, inside, same⟩
        have here : element = first := (List.mem_cons.mp member).resolve_right fun inside =>
          again ⟨element, inside, rfl⟩
        rw [get?_foldl_insert_of_not_mem last, here, get?_insert_self]

end Filled

omit [DecidableEq κ] in
theorem nodup_entries (dict : Dict κ ν) : dict.entries.Nodup := dict.nodup.of_map

theorem entries_insert_perm (dict : Dict κ ν) (key : κ) (value : ν) :
    (dict.insert key value).entries.Perm ((key, value) :: (dict.erase key).entries) := by
  have absent : (key, value) ∉ (dict.erase key).entries := by
    rw [mem_erase_entries]
    exact fun member => member.1 rfl
  apply (List.perm_ext_iff_of_nodup (nodup_entries _)
    (List.nodup_cons.mpr ⟨absent, nodup_entries _⟩)).mpr
  intro entry
  rw [mem_insert_entries, List.mem_cons, mem_erase_entries, Prod.ext_iff]

/-- What was there before stays where its key is not assigned to. -/
theorem entries_assign_perm (dict : Dict κ ν) (pairs : List (κ × ν)) :
    (dict.assign pairs).entries.Perm
      ((dict.entries.filter fun entry => decide (entry.1 ∉ pairs.map Prod.fst)) ++
        lasting pairs) := by
  induction pairs generalizing dict with
  | nil =>
      rw [lasting, List.append_nil, List.filter_eq_self.mpr fun entry _ => by simp]
      exact .refl _
  | cons pair later induction =>
      have others : ((dict.erase pair.1).entries.filter fun entry =>
          decide (entry.1 ∉ later.map Prod.fst)) =
          dict.entries.filter fun entry => decide (entry.1 ∉ (pair :: later).map Prod.fst) := by
        rw [erase, List.filter_filter]
        apply List.filter_congr
        intro entry _
        rw [← Bool.decide_and, decide_eq_decide, List.map_cons, List.mem_cons, not_or, and_comm]
      have inserted := (entries_insert_perm dict pair.1 pair.2).filter fun entry =>
        decide (entry.1 ∉ later.map Prod.fst)
      apply (induction (dict.insert pair.1 pair.2)).trans
      apply (inserted.append_right _).trans
      rw [List.filter_cons, others, lasting]
      by_cases again : pair.1 ∈ later.map Prod.fst
      · rw [if_neg (by simpa using again), if_pos again]
      · rw [if_pos (by simpa using again), if_neg again]
        exact List.perm_middle.symm

theorem entries_assign_empty_perm (pairs : List (κ × ν)) :
    ((empty : Dict κ ν).assign pairs).entries.Perm (lasting pairs) :=
  entries_assign_perm empty pairs

theorem values_assign_empty_perm (pairs : List (κ × ν)) :
    ((empty : Dict κ ν).assign pairs).values.Perm ((lasting pairs).map Prod.snd) :=
  (entries_assign_empty_perm pairs).map Prod.snd

/-- What the values come to falls short of what was assigned by what was lost. -/
theorem sum_values_assign [AddCommMonoid ν] (pairs : List (κ × ν)) :
    ((empty : Dict κ ν).assign pairs).values.sum + ((overwritten pairs).map Prod.snd).sum =
      (pairs.map Prod.snd).sum := by
  rw [(values_assign_empty_perm pairs).sum_eq, ← List.sum_append, ← List.map_append]
  exact ((perm_lasting_overwritten pairs).map Prod.snd).sum_eq

/-- Of assignments to one key only the last one lasts. -/
theorem overwritten_of_one_key {key : κ} {pairs : List (κ × ν)}
    (one : ∀ pair ∈ pairs, pair.1 = key) : overwritten pairs = pairs.dropLast := by
  induction pairs with
  | nil => rfl
  | cons pair later induction =>
      have behind := induction fun other inside => one other (List.mem_cons_of_mem _ inside)
      rw [overwritten]
      cases later with
      | nil => rfl
      | cons next rest =>
          have again : pair.1 ∈ (next :: rest).map Prod.fst := by
            rw [one pair List.mem_cons_self, ← one next (List.mem_cons_of_mem _ List.mem_cons_self)]
            exact List.mem_cons_self
          rw [if_pos again, behind]
          rfl

end Daq.Dict
