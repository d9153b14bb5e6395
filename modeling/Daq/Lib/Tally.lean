import Daq.Lib.Dict
import Mathlib.Algebra.BigOperators.Group.List.Basic
import Mathlib.Algebra.GroupWithZero.Nat
import Mathlib.Data.List.Count

namespace Daq

/-! Counting elements in dictionaries, and the sums of the counts. -/

namespace Dict

section Default

variable {κ ν : Type} [DecidableEq κ]

/-- `setdefault`: a value for a key that has none. -/
def setDefault (dict : Dict κ ν) (key : κ) (value : ν) : Dict κ ν :=
  if (dict.get? key).isSome then dict else dict.insert key value

theorem get?_setDefault_self (dict : Dict κ ν) (key : κ) (value : ν) :
    (dict.setDefault key value).get? key = some ((dict.get? key).getD value) := by
  unfold setDefault
  cases found : dict.get? key with
  | none => rw [if_neg (by simp), get?_insert_self, Option.getD_none]
  | some stored => rw [Option.isSome_some, if_pos rfl, found, Option.getD_some]

@[simp] theorem insert_setDefault (dict : Dict κ ν) (key : κ) (earlier value : ν) :
    (dict.setDefault key earlier).insert key value = dict.insert key value := by
  unfold setDefault
  split
  · rfl
  · rw [insert_insert]

end Default

section Tally

variable {κ μ : Type} [DecidableEq κ] [DecidableEq μ]

def tally (dict : Dict κ Nat) (key : κ) : Dict κ Nat :=
  dict.insert key ((dict.get? key).getD 0 + 1)

/-- One more in a cell of a table. -/
def tallyAt (table : Dict κ (Dict μ Nat)) (cell : κ × μ) : Dict κ (Dict μ Nat) :=
  table.insert cell.1 (((table.get? cell.1).getD .empty).tally cell.2)

/-- The count in a cell, where a missing one counts nothing. -/
def count (table : Dict κ (Dict μ Nat)) (cell : κ × μ) : Nat :=
  (((table.get? cell.1).getD .empty).get? cell.2).getD 0

/-- All counts that are there count something. -/
structure Counts (table : Dict κ (Dict μ Nat)) : Prop where
  filled : ∀ outer row, table.get? outer = some row → row.keys ≠ []
  positive : ∀ outer row inner number, table.get? outer = some row →
    row.get? inner = some number → 0 < number

theorem get?_tally (dict : Dict κ Nat) (key other : κ) :
    (dict.tally key).get? other =
      if key = other then some ((dict.get? other).getD 0 + 1) else dict.get? other := by
  rw [tally, get?_insert]
  by_cases same : key = other
  · rw [if_pos same.symm, if_pos same, same]
  · rw [if_neg (Ne.symm same), if_neg same]

theorem get?_foldl_insert_const {ν : Type} (keys : List κ) (value : ν) (dict : Dict κ ν) (key : κ) :
    (keys.foldl (fun dict key => dict.insert key value) dict).get? key =
      if key ∈ keys then some value else dict.get? key := by
  induction keys generalizing dict with
  | nil => rfl
  | cons first rest later =>
      rw [List.foldl_cons, later, get?_insert]
      by_cases behind : key ∈ rest
      · rw [if_pos behind, if_pos (List.mem_cons_of_mem _ behind)]
      · simp [behind]

theorem countP_entries {ν : Type} (dict : Dict κ ν) (key : κ) (test : ν → Bool) :
    (dict.entries.countP fun entry => (entry.1 = key) && test entry.2) =
      if (dict.get? key).any test then 1 else 0 := by
  have once : (dict.entries.countP fun entry => (entry.1 = key) && test entry.2) ≤ 1 := by
    refine Nat.le_trans ?_ (List.nodup_iff_count.mp dict.nodup key)
    rw [List.count, List.countP_map]
    apply List.countP_mono_left
    intro entry _ counted
    exact beq_iff_eq.mpr (of_decide_eq_true (Bool.and_eq_true_iff.mp counted).1)
  have present : 0 < (dict.entries.countP fun entry => (entry.1 = key) && test entry.2) ↔
      (dict.get? key).any test = true := by
    rw [List.countP_pos_iff, Option.any_eq_true]
    constructor
    · rintro ⟨⟨other, value⟩, member, counted⟩
      obtain ⟨same, passes⟩ := Bool.and_eq_true_iff.mp counted
      obtain rfl : other = key := of_decide_eq_true same
      exact ⟨value, get?_eq_some_iff.mpr member, passes⟩
    · rintro ⟨value, found, counted⟩
      exact ⟨(key, value), get?_eq_some_iff.mp found, by simp [counted]⟩
  split
  · rename_i counted
    have positive := present.mpr counted
    omega
  · rename_i counted
    have none := mt present.mp counted
    omega

theorem get?_foldl_tally (elements : List κ) (key : κ) :
    (elements.foldl tally .empty).get? key =
      if elements.count key = 0 then none else some (elements.count key) := by
  have counted : ∀ dict : Dict κ Nat,
      ((elements.foldl tally dict).get? key) =
        if elements.count key = 0 then dict.get? key
        else some ((dict.get? key).getD 0 + elements.count key) := by
    induction elements with
    | nil => exact fun _ => rfl
    | cons first rest later =>
        intro dict
        rw [List.foldl_cons, later, get?_tally]
        by_cases same : first = key
        · subst same
          rw [if_pos rfl, List.count_cons_self, Option.getD_some, if_neg (Nat.succ_ne_zero _)]
          split
          · rename_i none
            rw [none]
          · rw [Nat.add_right_comm, Nat.add_assoc]
        · rw [if_neg same, List.count_cons_of_ne same]
  rw [counted, get?_empty, Option.getD_none, Nat.zero_add]

theorem get?_tallyAt (table : Dict κ (Dict μ Nat)) (cell : κ × μ) (outer : κ) :
    (table.tallyAt cell).get? outer =
      if cell.1 = outer then some (((table.get? outer).getD .empty).tally cell.2)
      else table.get? outer := by
  rw [tallyAt, get?_insert]
  by_cases same : cell.1 = outer
  · rw [if_pos same.symm, if_pos same, same]
  · rw [if_neg (Ne.symm same), if_neg same]

theorem count_tallyAt (table : Dict κ (Dict μ Nat)) (cell other : κ × μ) :
    (table.tallyAt cell).count other = table.count other + if cell = other then 1 else 0 := by
  obtain ⟨outer, inner⟩ := cell
  obtain ⟨first, second⟩ := other
  rw [count, count, get?_tallyAt]
  by_cases sameOuter : outer = first
  · rw [if_pos sameOuter, Option.getD_some, get?_tally]
    by_cases sameInner : inner = second
    · simp [sameOuter, sameInner]
    · simp [sameInner]
  · simp [sameOuter]

@[simp] theorem count_empty (cell : κ × μ) : (empty : Dict κ (Dict μ Nat)).count cell = 0 := rfl

theorem count_foldl_tallyAt (cells : List (κ × μ)) (table : Dict κ (Dict μ Nat)) (cell : κ × μ) :
    (cells.foldl tallyAt table).count cell =
      table.count cell + cells.countP fun other => other = cell := by
  induction cells generalizing table with
  | nil => rfl
  | cons first rest later =>
      rw [List.foldl_cons, later, count_tallyAt, List.countP_cons, Nat.add_assoc]
      simp only [decide_eq_true_eq]
      rw [Nat.add_comm (List.countP _ _)]

theorem counts_empty : Counts (empty : Dict κ (Dict μ Nat)) where
  filled _ _ found := nomatch found
  positive _ _ _ _ found := nomatch found

theorem Counts.tallyAt {table : Dict κ (Dict μ Nat)} (counts : table.Counts) (cell : κ × μ) :
    (table.tallyAt cell).Counts where
  filled outer row found := by
    rw [get?_tallyAt] at found
    split at found
    · cases found
      intro empty
      have member : cell.2 ∈ (((table.get? outer).getD .empty).tally cell.2).keys := by
        rw [mem_keys_iff, get?_tally, if_pos rfl]
        exact ⟨_, rfl⟩
      rw [empty] at member
      cases member
    · exact counts.filled outer row found
  positive outer row inner number found stored := by
    rw [get?_tallyAt] at found
    split at found
    · cases found
      rw [get?_tally] at stored
      split at stored
      · cases stored
        omega
      · cases before : table.get? outer with
        | none => simp [before] at stored
        | some row =>
            rw [before, Option.getD_some] at stored
            exact counts.positive outer row inner number before stored
    · exact counts.positive outer row inner number found stored

theorem counts_foldl_tallyAt {table : Dict κ (Dict μ Nat)} (counts : table.Counts)
    (cells : List (κ × μ)) : (cells.foldl Dict.tallyAt table).Counts := by
  induction cells generalizing table with
  | nil => exact counts
  | cons first rest later => exact later (counts.tallyAt first)

theorem Counts.get? {table : Dict κ (Dict μ Nat)} (counts : table.Counts) (cell : κ × μ) :
    (table.get? cell.1).bind (fun row => row.get? cell.2) =
      if table.count cell = 0 then none else some (table.count cell) := by
  rw [count]
  cases found : table.get? cell.1 with
  | none => simp
  | some row =>
      rw [Option.bind_some, Option.getD_some]
      cases stored : row.get? cell.2 with
      | none => simp
      | some number =>
          have positive := counts.positive cell.1 row cell.2 number found stored
          rw [Option.getD_some, if_neg (by omega)]

/-- Tables with the same counts. -/
structure SameTable (first second : Dict κ (Dict μ Nat)) : Prop where
  rows : ∀ outer, (second.get? outer).isSome = (first.get? outer).isSome
  cells : ∀ outer inner, (second.get? outer).bind (fun row => row.get? inner) =
    (first.get? outer).bind fun row => row.get? inner

theorem Counts.get?_isSome_iff {table : Dict κ (Dict μ Nat)} (counts : table.Counts) (outer : κ) :
    (table.get? outer).isSome ↔ ∃ inner, table.count (outer, inner) ≠ 0 := by
  constructor
  · intro present
    obtain ⟨row, found⟩ := Option.isSome_iff_exists.mp present
    obtain ⟨inner, member⟩ := List.exists_mem_of_ne_nil _ (counts.filled outer row found)
    obtain ⟨number, stored⟩ := mem_keys_iff.mp member
    have positive := counts.positive outer row inner number found stored
    refine ⟨inner, ?_⟩
    rw [count, found, Option.getD_some, stored, Option.getD_some]
    omega
  · rintro ⟨inner, counted⟩
    cases found : table.get? outer with
    | none => simp [count, found] at counted
    | some row => rfl

theorem mem_keys_foldl_tallyAt {cells : List (κ × μ)} {cell : κ × μ} (member : cell ∈ cells) :
    cell.1 ∈ (cells.foldl tallyAt .empty).keys := by
  have counted : (cells.foldl tallyAt .empty).count cell ≠ 0 := by
    rw [count_foldl_tallyAt, count_empty, Nat.zero_add]
    exact Nat.ne_of_gt (List.countP_pos_iff.mpr ⟨cell, member, decide_eq_true rfl⟩)
  have present := ((counts_foldl_tallyAt counts_empty cells).get?_isSome_iff cell.1).mpr
    ⟨cell.2, counted⟩
  exact mem_keys_iff.mpr (Option.isSome_iff_exists.mp present)

theorem Counts.sameTable {first second : Dict κ (Dict μ Nat)} (counts : first.Counts)
    (others : second.Counts) (same : ∀ cell, second.count cell = first.count cell) :
    SameTable first second where
  rows outer := by
    rw [Bool.eq_iff_iff, counts.get?_isSome_iff, others.get?_isSome_iff]
    simp only [same]
  cells outer inner := by
    rw [others.get? (outer, inner), counts.get? (outer, inner), same]

end Tally

end Dict

section Sums

variable {α κ : Type} [DecidableEq κ]

theorem sum_map_ite_eq_count (keys : List κ) (key : κ) :
    (keys.map fun other => if key = other then 1 else 0).sum = keys.count key := by
  induction keys with
  | nil => rfl
  | cons first rest later =>
      rw [List.map_cons, List.sum_cons, later, List.count_cons, Nat.add_comm]
      congr 1
      exact if_congr (eq_comm.trans beq_iff_eq.symm) rfl rfl

/-- The counts by key add up to the count of all elements. -/
theorem sum_countP_eq {keys : List κ} (distinct : keys.Nodup) (keyOf : α → κ) (test : α → Bool)
    (elements : List α) (covered : ∀ element ∈ elements, test element = true → keyOf element ∈ keys) :
    (keys.map fun key => elements.countP fun element => test element && (keyOf element = key)).sum =
      elements.countP test := by
  induction elements with
  | nil => simp
  | cons first rest later =>
      obtain ⟨here, covered⟩ := List.forall_mem_cons.mp covered
      simp only [List.countP_cons]
      rw [List.sum_map_add, later covered]
      by_cases counted : test first = true
      · simp only [counted, Bool.true_and, decide_eq_true_eq, if_true]
        rw [sum_map_ite_eq_count, List.count_eq_one_of_mem distinct (here counted)]
      · simp [counted]

/-- The counts of a column add up to the number of its elements. -/
theorem sum_count_column {μ : Type} [DecidableEq μ] {rows : List κ} (distinct : rows.Nodup)
    {cells : List (κ × μ)} {column : μ}
    (covered : ∀ cell ∈ cells, cell.2 = column → cell.1 ∈ rows) :
    (rows.map fun row => cells.countP fun cell => cell = (row, column)).sum =
      cells.countP fun cell => cell.2 = column := by
  rw [← sum_countP_eq distinct Prod.fst _ _ fun cell member same =>
    covered cell member (of_decide_eq_true same)]
  congr 1
  apply List.map_congr_left
  intro row _
  apply List.countP_congr
  intro cell _
  rw [Bool.and_eq_true, decide_eq_true_iff, decide_eq_true_iff, decide_eq_true_iff, Prod.ext_iff]
  exact and_comm

/-- The counts of all cells of a table add up to the number of elements. -/
theorem sum_sum_count {μ : Type} [DecidableEq μ] {rows : List κ} {columns : List μ}
    (distinctRows : rows.Nodup) (distinctColumns : columns.Nodup) (cells : List (κ × μ))
    (covered : ∀ cell ∈ cells, cell.1 ∈ rows ∧ cell.2 ∈ columns) :
    (rows.map fun row =>
      (columns.map fun column => cells.countP fun cell => cell = (row, column)).sum).sum =
      cells.length := by
  have columnSums : ∀ row,
      (columns.map fun column => cells.countP fun cell => cell = (row, column)).sum =
        cells.countP fun cell => true && (cell.1 = row) := by
    intro row
    rw [← sum_countP_eq distinctColumns Prod.snd _ _ fun cell member _ => (covered cell member).2]
    congr 1
    apply List.map_congr_left
    intro column _
    apply List.countP_congr
    intro cell _
    simp [Prod.ext_iff]
  simp only [columnSums]
  rw [sum_countP_eq distinctRows Prod.fst _ _ fun cell member _ => (covered cell member).1]
  exact List.countP_eq_length.mpr fun _ _ => rfl

/-- An element that grows by one lets the sum grow by one. -/
theorem sum_map_modify {measure : α → Nat} {change : α → α} {elements : List α} {index : Nat}
    (inside : index < elements.length)
    (grows : ∀ element ∈ elements, measure (change element) = measure element + 1) :
    ((elements.modify index change).map measure).sum = (elements.map measure).sum + 1 := by
  induction elements generalizing index with
  | nil => cases inside
  | cons first rest later =>
      obtain ⟨here, others⟩ := List.forall_mem_cons.mp grows
      cases index with
      | zero =>
          rw [List.modify_zero_cons, List.map_cons, List.sum_cons, here, List.map_cons,
            List.sum_cons]
          omega
      | succ index =>
          rw [List.modify_succ_cons, List.map_cons, List.sum_cons,
            later (Nat.lt_of_succ_lt_succ inside) others, List.map_cons, List.sum_cons]
          omega

/-- A column of a table that counts from nothing adds up to the number of its elements. -/
theorem sum_column_foldl_tallyAt {μ : Type} [DecidableEq μ] (cells : List (κ × μ)) (column : μ) :
    ((cells.foldl Dict.tallyAt .empty).keys.map fun row =>
      (cells.foldl Dict.tallyAt .empty).count (row, column)).sum =
      cells.countP fun cell => cell.2 = column := by
  have counts : ∀ cell, (cells.foldl Dict.tallyAt .empty).count cell =
      cells.countP fun other => other = cell := by
    intro cell
    rw [Dict.count_foldl_tallyAt, Dict.count_empty, Nat.zero_add]
  simp only [counts]
  exact sum_count_column (Dict.nodup _) fun cell member _ => Dict.mem_keys_foldl_tallyAt member

end Sums

end Daq
