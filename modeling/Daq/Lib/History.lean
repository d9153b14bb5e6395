import Mathlib.Data.List.Basic
import Mathlib.Data.List.Induction

namespace Daq

/-! Properties of a history that grows at its end: what holds whenever
something happens, and what has happened since. -/

namespace History

variable {α : Type} {history items : List α} {item : α}

/-- The property holds of everything that happened and what came before it. -/
def Always (property : List α → α → Prop) (history : List α) : Prop :=
  ∀ before item after, history = before ++ item :: after → property before item

/-- Something marks a start, and nothing has put a stop to it since. -/
def Since (starts stops : α → Prop) (history : List α) : Prop :=
  ∃ before mark after, history = before ++ mark :: after ∧ starts mark ∧
    ∀ event ∈ after, ¬ stops event

/-- An occurrence in a history with one more item is the new item, or one of
the history. -/
theorem split_concat {before after : List α} {found : α}
    (split : history ++ [item] = before ++ found :: after) :
    (before = history ∧ found = item ∧ after = []) ∨
      ∃ rest, after = rest ++ [item] ∧ history = before ++ found :: rest := by
  rcases List.eq_nil_or_concat' after with rfl | ⟨rest, last, rfl⟩
  · obtain ⟨same, equal⟩ := List.append_inj' split rfl
    cases equal
    exact .inl ⟨same.symm, rfl, rfl⟩
  · rw [← List.cons_append, ← List.append_assoc] at split
    obtain ⟨same, equal⟩ := List.append_inj' split rfl
    cases equal
    exact .inr ⟨rest, rfl, same⟩

section Always

variable {property weaker : List α → α → Prop}

theorem always_nil : Always property [] := by
  intro before item after split
  cases before <;> cases split

theorem always_cons : Always property (item :: items) ↔
    property [] item ∧ Always (fun before => property (item :: before)) items := by
  constructor
  · intro always
    refine ⟨always [] item items rfl, fun before found after split => ?_⟩
    exact always (item :: before) found after (by rw [split]; rfl)
  · rintro ⟨first, later⟩ before found after split
    cases before with
    | nil =>
        cases split
        exact first
    | cons head before =>
        obtain ⟨same, rest⟩ := List.cons.inj split
        subst same
        exact later before found after rest

theorem always_append : Always property (history ++ items) ↔
    Always property history ∧ Always (fun before => property (history ++ before)) items := by
  induction history generalizing property with
  | nil => simp only [List.nil_append, always_nil, true_and]
  | cons head history ih => simp only [List.cons_append, always_cons, ih, and_assoc]

theorem always_concat :
    Always property (history ++ [item]) ↔ Always property history ∧ property history item := by
  simp only [always_append, always_cons, always_nil, List.append_nil, and_true]

theorem Always.mono (always : Always property history)
    (weaken : ∀ before item, property before item → weaker before item) :
    Always weaker history :=
  fun before item after split => weaken before item (always before item after split)

end Always

section Since

variable {starts stops : α → Prop}

theorem not_since_nil : ¬ Since starts stops ([] : List α) := by
  rintro ⟨before, mark, after, split, _⟩
  cases before <;> cases split

theorem since_concat : Since starts stops (history ++ [item]) ↔
    starts item ∨ (Since starts stops history ∧ ¬ stops item) := by
  constructor
  · rintro ⟨before, mark, after, split, started, clear⟩
    rcases split_concat split with ⟨_, rfl, _⟩ | ⟨rest, rfl, same⟩
    · exact .inl started
    · refine .inr ⟨⟨before, mark, rest, same, started, fun event member => ?_⟩, ?_⟩
      · exact clear event (List.mem_append_left _ member)
      · exact clear item (List.mem_append_right _ (List.mem_singleton_self item))
  · rintro (started | ⟨⟨before, mark, after, split, started, clear⟩, quiet⟩)
    · exact ⟨history, item, [], rfl, started, fun _ => nofun⟩
    · refine ⟨before, mark, after ++ [item], by rw [split, List.append_assoc]; rfl, started, ?_⟩
      intro event member
      rcases List.mem_append.mp member with old | new
      · exact clear event old
      · cases List.mem_singleton.mp new
        exact quiet

theorem Since.append (since : Since starts stops history)
    (quiet : ∀ event ∈ items, ¬ stops event) : Since starts stops (history ++ items) := by
  obtain ⟨before, mark, after, split, started, clear⟩ := since
  refine ⟨before, mark, after ++ items, by rw [split, List.append_assoc]; rfl, started, ?_⟩
  intro event member
  exact (List.mem_append.mp member).elim (clear event) (quiet event)

end Since

section Grouped

variable {κ : Type} {key : α → Option κ} {group : κ}

/-- An item with a key is the first one with it, or comes right after one with
it. -/
def Follows (key : α → Option κ) (before : List α) (item : α) : Prop :=
  ∀ group, key item = some group →
    (∀ earlier ∈ before, key earlier ≠ some group) ∨ before.getLast?.bind key = some group

/-- Everything between two items with one key has that key. -/
theorem Always.between {before middle after : List α} {first last : α}
    (always : Always (Follows key) (before ++ first :: (middle ++ last :: after)))
    (starts : key first = some group) (ends : key last = some group) :
    ∀ item ∈ middle, key item = some group := by
  induction middle using List.reverseRecOn generalizing last after with
  | nil => exact fun _ none => absurd none List.not_mem_nil
  | append_singleton middle final shorter =>
      have regrouped : before ++ first :: ((middle ++ [final]) ++ last :: after) =
          before ++ first :: (middle ++ final :: (last :: after)) := by
        rw [List.append_assoc]
        rfl
      have same : key final = some group := by
        rcases always (before ++ first :: (middle ++ [final])) last after
          (by simp only [List.append_assoc, List.cons_append]) group ends with fresh | follows
        · exact absurd starts
            (fresh first (List.mem_append_right before List.mem_cons_self))
        · rwa [← List.cons_append, ← List.append_assoc, List.getLast?_concat] at follows
      intro item member
      rcases List.mem_append.mp member with inner | final
      · exact shorter (regrouped ▸ always) same item inner
      · cases List.mem_singleton.mp final
        exact same

end Grouped

end History

end Daq
