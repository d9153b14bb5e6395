import Mathlib.Data.List.TakeWhile

namespace Daq.Fields

/-! The fields of a line: the pieces between separators that are not empty. -/

variable {α : Type} [DecidableEq α]

def fields (separator : α) (line : List α) : List (List α) :=
  (line.splitOn separator).filter fun field => !field.isEmpty

/-- A field stands in the line between the gaps around it. -/
structure Leads (separator : α) (line first tail : List α) : Prop where
  parts : ∃ gap, line = gap ++ first ++ tail ∧ ∀ item ∈ gap, item = separator
  filled : first ≠ []
  unbroken : separator ∉ first
  bounded : tail = [] ∨ ∃ later, tail = separator :: later

variable {separator : α} {line first tail : List α} {rest : List (List α)}

@[simp] theorem fields_nil : fields separator ([] : List α) = [] := rfl

@[simp] theorem fields_gap (line : List α) :
    fields separator (separator :: line) = fields separator line := by
  have split := List.splitOn_append_cons_self_of_not_mem (List.not_mem_nil (a := separator)) line
  rw [List.nil_append] at split
  rw [fields, split]
  rfl

theorem fields_word (filled : first ≠ []) (unbroken : separator ∉ first) :
    fields separator first = [first] := by
  have here : (!first.isEmpty) = true := by
    rw [Bool.not_eq_true', List.isEmpty_eq_false_iff]
    exact filled
  rw [fields, List.splitOn_eq_singleton unbroken, List.filter_cons, if_pos here,
    List.filter_nil]

theorem fields_word_gap (filled : first ≠ []) (unbroken : separator ∉ first) (later : List α) :
    fields separator (first ++ separator :: later) = first :: fields separator later := by
  have here : (!first.isEmpty) = true := by
    rw [Bool.not_eq_true', List.isEmpty_eq_false_iff]
    exact filled
  rw [fields, List.splitOn_append_cons_self_of_not_mem unbroken, List.filter_cons, if_pos here,
    fields]

theorem Leads.fields (leads : Leads separator line first tail) :
    fields separator line = first :: fields separator tail := by
  obtain ⟨⟨gap, rfl, separators⟩, filled, unbroken, bounded⟩ := leads
  induction gap with
  | nil =>
      rw [List.nil_append]
      rcases bounded with rfl | ⟨later, rfl⟩
      · rw [List.append_nil, fields_word filled unbroken, fields_nil]
      · rw [fields_word_gap filled unbroken, fields_gap]
  | cons item gap shorter =>
      obtain rfl := separators item List.mem_cons_self
      rw [List.cons_append, List.cons_append, fields_gap]
      exact shorter fun other member => separators other (List.mem_cons_of_mem _ member)

variable (separator) in
/-- A line without a field is a gap. -/
theorem leads_or_gap (line : List α) :
    (∀ item ∈ line, item = separator) ∨ ∃ first tail, Leads separator line first tail := by
  induction line with
  | nil => exact .inl (List.forall_mem_nil _)
  | cons item line shorter =>
      by_cases same : item = separator
      · subst same
        rcases shorter with gap | ⟨first, tail, ⟨gap, rfl, separators⟩, filled, unbroken, bounded⟩
        · exact .inl (List.forall_mem_cons.mpr ⟨rfl, gap⟩)
        · exact .inr ⟨first, tail, ⟨item :: gap, rfl, List.forall_mem_cons.mpr ⟨rfl, separators⟩⟩,
            filled, unbroken, bounded⟩
      · refine .inr ⟨item :: line.takeWhile (· ≠ separator), line.dropWhile (· ≠ separator),
          ⟨[], ?_, List.forall_mem_nil _⟩, List.cons_ne_nil _ _, ?_, ?_⟩
        · rw [List.nil_append, List.cons_append, List.takeWhile_append_dropWhile]
        · intro broken
          rcases List.mem_cons.mp broken with rfl | later
          · exact same rfl
          · have kept := List.mem_takeWhile_imp later
            rw [decide_eq_true_eq] at kept
            exact kept rfl
        · cases behind : line.dropWhile (· ≠ separator) with
          | nil => exact .inl rfl
          | cons stop later =>
              have stops := List.head?_dropWhile_not (· ≠ separator) line
              rw [behind, List.head?_cons] at stops
              have stopped : stop = separator := by simpa using stops
              exact .inr ⟨later, by rw [stopped]⟩

theorem fields_of_gap (gap : ∀ item ∈ line, item = separator) : fields separator line = [] := by
  induction line with
  | nil => rfl
  | cons item line shorter =>
      obtain rfl := gap item List.mem_cons_self
      rw [fields_gap]
      exact shorter fun other member => gap other (List.mem_cons_of_mem _ member)

/-- The first field and the fields behind it. -/
theorem fields_eq_cons_iff :
    fields separator line = first :: rest ↔
      ∃ tail, Leads separator line first tail ∧ fields separator tail = rest := by
  constructor
  · intro found
    rcases leads_or_gap separator line with gap | ⟨word, tail, leads⟩
    · rw [fields_of_gap gap] at found
      cases found
    · rw [leads.fields, List.cons.injEq] at found
      obtain ⟨rfl, behind⟩ := found
      exact ⟨tail, leads, behind⟩
  · rintro ⟨tail, leads, rfl⟩
    exact leads.fields

/-- The first two fields. -/
theorem fields_two_iff {second : List α} :
    (∃ rest, fields separator line = first :: second :: rest) ↔
      ∃ tail behind, Leads separator line first tail ∧ Leads separator tail second behind := by
  constructor
  · rintro ⟨rest, found⟩
    obtain ⟨tail, leads, later⟩ := fields_eq_cons_iff.mp found
    obtain ⟨behind, follows, -⟩ := fields_eq_cons_iff.mp later
    exact ⟨tail, behind, leads, follows⟩
  · rintro ⟨tail, behind, leads, follows⟩
    exact ⟨_, fields_eq_cons_iff.mpr ⟨tail, leads, follows.fields⟩⟩

end Daq.Fields
