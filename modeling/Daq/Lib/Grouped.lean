import Mathlib.Data.List.Perm.Basic

namespace Daq

/-! Lists of groups: the groups in any order, and what is in each group in any order. -/

variable {α β : Type}

def Arranges (groups : List (List α)) (order : List α) : Prop :=
  ∃ chosen shuffled, chosen.Perm groups ∧ List.Forall₂ List.Perm chosen shuffled ∧
    order = shuffled.flatten

theorem forall₂_perm_refl (groups : List (List α)) : List.Forall₂ List.Perm groups groups := by
  apply List.forall₂_same.mpr
  intro group _
  exact .refl group

theorem flatten_perm {chosen shuffled : List (List α)}
    (perms : List.Forall₂ List.Perm chosen shuffled) : shuffled.flatten.Perm chosen.flatten := by
  induction perms with
  | nil => exact .refl _
  | cons head _ later => exact head.symm.append later

namespace Arranges

variable {groups : List (List α)} {order : List α}

theorem perm (arranges : Arranges groups order) : order.Perm groups.flatten := by
  obtain ⟨chosen, shuffled, groupPerm, perms, rfl⟩ := arranges
  exact (flatten_perm perms).trans groupPerm.flatten

theorem exists_cons {element : α} (member : element ∈ groups.flatten) :
    ∃ rest, Arranges groups (element :: rest) := by
  obtain ⟨group, inside, here⟩ := List.mem_flatten.mp member
  obtain ⟨before, behind, rfl⟩ := List.append_of_mem inside
  obtain ⟨early, late, rfl⟩ := List.append_of_mem here
  refine ⟨(early ++ late) ++ (before ++ behind).flatten,
    (early ++ element :: late) :: (before ++ behind),
    (element :: (early ++ late)) :: (before ++ behind), ?_, ?_, rfl⟩
  · exact List.perm_middle.symm
  · exact .cons List.perm_middle (forall₂_perm_refl _)

end Arranges

/-- An order of what a function finds in a list comes from an order of the list. -/
theorem exists_perm_filterMap {find : α → Option β} {list : List α} {order : List β}
    (perm : order.Perm (list.filterMap find)) :
    ∃ lifted : List α, lifted.Perm list ∧ lifted.filterMap find = order := by
  induction order generalizing list with
  | nil => exact ⟨list, .refl _, perm.nil_eq.symm⟩
  | cons first rest later =>
      obtain ⟨element, member, found⟩ :=
        List.mem_filterMap.mp (perm.subset List.mem_cons_self)
      obtain ⟨before, behind, rfl⟩ := List.append_of_mem member
      rw [List.filterMap_append, List.filterMap_cons_some found] at perm
      have others : rest.Perm ((before ++ behind).filterMap find) := by
        rw [List.filterMap_append]
        exact (perm.trans List.perm_middle).cons_inv
      obtain ⟨lifted, same, finds⟩ := later others
      refine ⟨element :: lifted, (same.cons element).trans List.perm_middle.symm, ?_⟩
      rw [List.filterMap_cons_some found, finds]

end Daq
