import Mathlib.Data.List.Basic

namespace Daq.Pattern

/-! Matching with backtracking.  A repetition is given what has to match behind it, as a
function of what the repetition took and the text that is left. -/

variable {α β : Type}

/-- `(x*?)`: take as little as what follows allows. -/
def lazily (test : α → Bool) (next : List α → List α → Option β) : List α → Option β
  | [] => next [] []
  | first :: rest =>
      match next [] (first :: rest) with
      | some result => some result
      | none => if test first then lazily test (fun taken => next (first :: taken)) rest else none

/-- `(x*)`: take as much as what follows allows. -/
def greedily (test : α → Bool) (next : List α → List α → Option β) : List α → Option β
  | [] => next [] []
  | first :: rest =>
      if test first then
        match greedily test (fun taken => next (first :: taken)) rest with
        | some result => some result
        | none => next [] (first :: rest)
      else next [] (first :: rest)

/-- `x+`: take as much as what follows allows, and not nothing. -/
def several (test : α → Bool) (next : List α → Option β) : List α → Option β :=
  greedily test fun taken text => if taken = [] then none else next text

/-- `(...)?`: try it with, then without. -/
def optionally (attempt next : List α → Option β) (text : List α) : Option β :=
  match attempt text with
  | some result => some result
  | none => next text

/-- The pieces that a repetition can split a text into. -/
structure Splits (test : α → Bool) (text taken rest : List α) : Prop where
  parts : text = taken ++ rest
  tested : ∀ element ∈ taken, test element = true

theorem splits_nil (test : α → Bool) (text : List α) : Splits test text [] text :=
  ⟨rfl, List.forall_mem_nil _⟩

theorem splits_cons {test : α → Bool} {first : α} {text taken rest : List α}
    (passes : test first = true) (splits : Splits test text taken rest) :
    Splits test (first :: text) (first :: taken) rest :=
  ⟨congrArg (first :: ·) splits.parts, List.forall_mem_cons.mpr ⟨passes, splits.tested⟩⟩

theorem Splits.cases {test : α → Bool} {first : α} {text taken rest : List α}
    (splits : Splits test (first :: text) taken rest) :
    taken = [] ∧ rest = first :: text ∨
      ∃ behind, taken = first :: behind ∧ test first = true ∧ Splits test text behind rest := by
  cases taken with
  | nil => exact .inl ⟨rfl, splits.parts.symm⟩
  | cons other behind =>
      have parts := splits.parts
      rw [List.cons_append, List.cons.injEq] at parts
      obtain ⟨rfl, parts⟩ := parts
      have tested := List.forall_mem_cons.mp splits.tested
      exact .inr ⟨behind, rfl, tested.1, parts, tested.2⟩

theorem lazily_eq_some {test : α → Bool} {next : List α → List α → Option β} {text : List α}
    {result : β} (found : lazily test next text = some result) :
    ∃ taken rest, Splits test text taken rest ∧ next taken rest = some result := by
  induction text generalizing next with
  | nil => exact ⟨[], [], splits_nil _ _, found⟩
  | cons first text later =>
      rw [lazily] at found
      split at found
      · rename_i early
        cases found
        exact ⟨[], first :: text, splits_nil _ _, early⟩
      · split at found
        · rename_i passes
          obtain ⟨taken, rest, splits, behind⟩ := later found
          exact ⟨first :: taken, rest, splits_cons passes splits, behind⟩
        · cases found

theorem greedily_eq_some {test : α → Bool} {next : List α → List α → Option β} {text : List α}
    {result : β} (found : greedily test next text = some result) :
    ∃ taken rest, Splits test text taken rest ∧ next taken rest = some result := by
  induction text generalizing next with
  | nil => exact ⟨[], [], splits_nil _ _, found⟩
  | cons first text later =>
      rw [greedily] at found
      split at found
      · rename_i passes
        split at found
        · rename_i early
          cases found
          obtain ⟨taken, rest, splits, behind⟩ := later early
          exact ⟨first :: taken, rest, splits_cons passes splits, behind⟩
        · exact ⟨[], first :: text, splits_nil _ _, found⟩
      · exact ⟨[], first :: text, splits_nil _ _, found⟩

theorem greedily_isSome {test : α → Bool} {next : List α → List α → Option β}
    {text taken rest : List α} (splits : Splits test text taken rest)
    (possible : (next taken rest).isSome) : (greedily test next text).isSome := by
  induction text generalizing next taken with
  | nil =>
      have parts := splits.parts
      rw [List.nil_eq, List.append_eq_nil_iff] at parts
      rw [parts.1, parts.2] at possible
      exact possible
  | cons first text later =>
      rw [greedily]
      rcases splits.cases with ⟨rfl, rfl⟩ | ⟨behind, rfl, passes, splits⟩
      · split
        · split
          · rfl
          · exact possible
        · exact possible
      · rw [if_pos passes]
        split
        · rfl
        · rename_i stuck
          have found : (greedily test (fun taken => next (first :: taken)) text).isSome :=
            later splits possible
          rw [stuck] at found
          cases found

theorem several_eq_some {test : α → Bool} {next : List α → Option β} {text : List α} {result : β}
    (found : several test next text = some result) :
    ∃ taken rest, Splits test text taken rest ∧ taken ≠ [] ∧ next rest = some result := by
  obtain ⟨taken, rest, splits, behind⟩ := greedily_eq_some found
  split at behind
  · cases behind
  · rename_i filled
    exact ⟨taken, rest, splits, filled, behind⟩

theorem optionally_isSome_iff {attempt next : List α → Option β} {text : List α} :
    (optionally attempt next text).isSome ↔ (attempt text).isSome ∨ (next text).isSome := by
  unfold optionally
  split
  · rename_i found
    simp [found]
  · rename_i stuck
    simp [stuck]

/-- A lazy repetition goes on for as long as nothing matches behind it. -/
theorem lazily_append {test : α → Bool} {next : List α → List α → Option β} {taken rest : List α}
    {result : β} (tested : ∀ element ∈ taken, test element = true)
    (stuck : ∀ before element behind, taken = before ++ element :: behind →
      next before (element :: behind ++ rest) = none)
    (found : next taken rest = some result) : lazily test next (taken ++ rest) = some result := by
  induction taken generalizing next with
  | nil =>
      cases rest with
      | nil => exact found
      | cons first rest =>
          rw [List.nil_append, lazily, found]
  | cons first taken later =>
      obtain ⟨passes, tested⟩ := List.forall_mem_cons.mp tested
      rw [List.cons_append, lazily, ← List.cons_append, stuck [] first taken rfl, if_pos passes]
      apply later tested _ found
      intro before element behind parts
      exact stuck (first :: before) element behind (congrArg (first :: ·) parts)

/-- A greedy repetition takes all that it can, if what follows allows that. -/
theorem greedily_append {test : α → Bool} {next : List α → List α → Option β}
    {taken rest : List α} {result : β} (tested : ∀ element ∈ taken, test element = true)
    (stops : ∀ element ∈ rest.head?, test element = false)
    (found : next taken rest = some result) : greedily test next (taken ++ rest) = some result := by
  induction taken generalizing next with
  | nil =>
      cases rest with
      | nil => exact found
      | cons first rest =>
          have fails : test first = false := stops first rfl
          rw [List.nil_append, greedily, fails]
          exact found
  | cons first taken later =>
      obtain ⟨passes, tested⟩ := List.forall_mem_cons.mp tested
      have behind : greedily test (fun taken => next (first :: taken)) (taken ++ rest) =
          some result := later tested found
      rw [List.cons_append, greedily, if_pos passes, behind]

theorem several_append {test : α → Bool} {next : List α → Option β} {taken rest : List α}
    {result : β} (tested : ∀ element ∈ taken, test element = true) (filled : taken ≠ [])
    (stops : ∀ element ∈ rest.head?, test element = false) (found : next rest = some result) :
    several test next (taken ++ rest) = some result := by
  apply greedily_append tested stops
  rw [if_neg filled]
  exact found

theorem several_eq_none {test : α → Bool} {next : List α → Option β} {first : α} {rest : List α}
    (fails : test first = false) : several test next (first :: rest) = none := by
  rw [several, greedily, fails]
  rfl

end Daq.Pattern
