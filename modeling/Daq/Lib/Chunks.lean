import Mathlib.Data.List.Basic

namespace Daq.Chunks

/-! Cutting a list into pieces of a given width, the last of which may be shorter. -/

variable {α : Type}

/-- The given number of pieces from the front of a list. -/
def pieces (width : Nat) : Nat → List α → List (List α)
  | 0, _ => []
  | count + 1, list => list.take width :: pieces width count (list.drop width)

/-- How many pieces a list is cut into. -/
def count (width length : Nat) : Nat := (length + (width - 1)) / width

def cut (width : Nat) (list : List α) : List (List α) :=
  pieces width (count width list.length) list

/-- All pieces but the last have the full width, and the last is not empty. -/
def IsCut (width : Nat) : List (List α) → Prop
  | [] => True
  | [piece] => piece ≠ [] ∧ piece.length ≤ width
  | piece :: next :: rest => piece.length = width ∧ IsCut width (next :: rest)

variable {width : Nat}

theorem count_add (positive : 0 < width) (length : Nat) :
    count width (width + length) = count width length + 1 := by
  have shift : width + length + (width - 1) = length + (width - 1) + width := by omega
  rw [count, count, shift, Nat.add_div_right _ positive]

theorem count_of_le {length : Nat} (some : 0 < length) (short : length ≤ width) :
    count width length = 1 := by
  apply Nat.div_eq_of_lt_le
  · omega
  · omega

theorem cut_nil (positive : 0 < width) : cut width ([] : List α) = [] := by
  have none : count width 0 = 0 := Nat.div_eq_of_lt (by omega)
  rw [cut, List.length_nil, none, pieces]

theorem cut_of_le {list : List α} (some : list ≠ []) (short : list.length ≤ width) :
    cut width list = [list] := by
  have one := count_of_le (List.length_pos_iff.mpr some) short
  rw [cut, one, pieces, pieces, List.take_of_length_le short]

theorem cut_append (positive : 0 < width) {piece rest : List α} (full : piece.length = width) :
    cut width (piece ++ rest) = piece :: cut width rest := by
  rw [cut, List.length_append, full, count_add positive, pieces, List.take_left' full,
    List.drop_left' full, cut]

theorem cut_flatten (positive : 0 < width) {parts : List (List α)} (isCut : IsCut width parts) :
    cut width parts.flatten = parts := by
  induction parts with
  | nil => exact cut_nil positive
  | cons piece rest shorter =>
      cases rest with
      | nil =>
          rw [List.flatten_cons, List.flatten_nil, List.append_nil]
          exact cut_of_le isCut.1 isCut.2
      | cons next rest =>
          rw [List.flatten_cons, cut_append positive isCut.1, shorter isCut.2]

theorem IsCut.cons {piece : List α} {rest : List (List α)} (full : piece.length = width)
    (positive : 0 < width) (isCut : IsCut width rest) : IsCut width (piece :: rest) := by
  cases rest with
  | nil =>
      constructor
      · intro empty
        rw [empty, List.length_nil] at full
        omega
      · omega
  | cons next rest => exact ⟨full, isCut⟩

theorem isCut_cut (positive : 0 < width) (list : List α) :
    IsCut width (cut width list) ∧ (cut width list).flatten = list := by
  induction size : list.length using Nat.strongRecOn generalizing list with
  | ind length shorter =>
      by_cases short : list.length ≤ width
      · cases list with
        | nil =>
            rw [cut_nil positive]
            exact ⟨trivial, rfl⟩
        | cons first rest =>
            rw [cut_of_le (by simp) short]
            exact ⟨⟨by simp, short⟩, by simp⟩
      · have full : (list.take width).length = width := by
          rw [List.length_take]
          omega
        have behind := shorter (list.drop width).length (by rw [List.length_drop]; omega)
          (list.drop width) rfl
        have first : cut width (list.take width ++ list.drop width) =
            list.take width :: cut width (list.drop width) := cut_append positive full
        rw [List.take_append_drop] at first
        rw [first]
        refine ⟨behind.1.cons full positive, ?_⟩
        rw [List.flatten_cons, behind.2, List.take_append_drop]

theorem length_pieces (width count : Nat) (list : List α) :
    (pieces width count list).length = count := by
  induction count generalizing list with
  | zero => rfl
  | succ count shorter => rw [pieces, List.length_cons, shorter]

theorem flatten_cut (positive : 0 < width) (list : List α) : (cut width list).flatten = list :=
  (isCut_cut positive list).2

theorem IsCut.length_le {parts : List (List α)} (isCut : IsCut width parts) {piece : List α}
    (member : piece ∈ parts) : piece.length ≤ width := by
  induction parts with
  | nil => cases member
  | cons first rest later =>
      cases rest with
      | nil =>
          cases List.mem_singleton.mp member
          exact isCut.2
      | cons next rest =>
          rcases List.mem_cons.mp member with rfl | behind
          · exact Nat.le_of_eq isCut.1
          · exact later isCut.2 behind

/-- Whether a list is cut into its parts depends on their lengths alone. -/
theorem IsCut.of_lengths {parts others : List (List α)} (isCut : IsCut width parts)
    (same : others.map List.length = parts.map List.length) : IsCut width others := by
  induction parts generalizing others with
  | nil =>
      rw [List.map_nil, List.map_eq_nil_iff] at same
      rw [same]
      trivial
  | cons piece rest later =>
      obtain ⟨other, behind, rfl, size, sizes⟩ := List.map_eq_cons_iff.mp same
      cases rest with
      | nil =>
          rw [List.map_nil, List.map_eq_nil_iff] at sizes
          rw [sizes]
          constructor
          · rw [← List.length_pos_iff, size, List.length_pos_iff]
            exact isCut.1
          · rw [size]
            exact isCut.2
      | cons next rest =>
          have cut := later isCut.2 sizes
          obtain ⟨following, behind, rfl, _, _⟩ := List.map_eq_cons_iff.mp sizes
          exact ⟨size.trans isCut.1, cut⟩

end Daq.Chunks
