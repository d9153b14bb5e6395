import Mathlib.Data.List.Basic

namespace Daq.Window

/-! A window of a sorted list, and what a limit before or after it leaves. -/

variable {α : Type} {R : α → α → Prop} {elements : List α}

/-- A test that no element passes after one that fails it. -/
def Falling (R : α → α → Prop) (test : α → Bool) : Prop :=
  ∀ first second, R first second → test second = true → test first = true

theorem filter_append_filter {test : α → Bool} (sorted : elements.Pairwise R)
    (falling : Falling R test) :
    elements.filter test ++ elements.filter (fun element => !test element) = elements := by
  induction sorted with
  | nil => rfl
  | @cons head tail before _ later =>
      cases passed : test head with
      | true =>
          rw [List.filter_cons_of_pos passed, List.filter_cons_of_neg (by simp [passed]),
            List.cons_append, later]
      | false =>
          have none : tail.filter test = [] := by
            rw [List.filter_eq_nil_iff]
            intro element member passes
            rw [falling _ _ (before element member) passes] at passed
            cases passed
          rw [none, List.nil_append] at later
          rw [List.filter_cons_of_neg (by simp [passed]), none, List.nil_append,
            List.filter_cons_of_pos (by simp [passed]), later]

/-- A limit before the test also counts what is in front of the elements that pass. -/
theorem filter_take {test : α → Bool} {front inside behind : List α}
    (frontFails : ∀ element ∈ front, test element = false)
    (insidePasses : ∀ element ∈ inside, test element = true)
    (behindFails : ∀ element ∈ behind, test element = false) (limit : Nat) :
    ((front ++ (inside ++ behind)).take limit).filter test =
      inside.take (limit - front.length) := by
  have nothing : ∀ {part : List α} (_ : ∀ element ∈ part, test element = false) (count : Nat),
      (part.take count).filter test = [] := by
    intro part fails count
    rw [List.filter_eq_nil_iff]
    intro element member
    simp [fails element (List.mem_of_mem_take member)]
  rw [List.take_append, List.filter_append, nothing frontFails, List.nil_append,
    List.take_append, List.filter_append, nothing behindFails, List.append_nil,
    List.filter_eq_self]
  intro element member
  exact insidePasses element (List.mem_of_mem_take member)

theorem take_append_eq_take_iff {front behind : List α} {limit : Nat} :
    (front ++ behind).take limit = front.take limit ↔ behind = [] ∨ limit ≤ front.length := by
  rw [List.take_append, List.append_right_eq_self, List.take_eq_nil_iff, Nat.sub_eq_zero_iff_le,
    or_comm]

section Windows

/- `low` is passed by the front of the list, and `high` by its end. -/
variable {low lower high : α → Bool} {limit : Nat}

theorem countP_low {front inside behind : List α}
    (sorted : (front ++ (inside ++ behind)).Pairwise R) (lowFalling : Falling R low)
    (insidePasses : ∀ element ∈ inside, low element = true)
    (behindFails : ∀ element ∈ behind, low element = false) (filled : inside ≠ []) :
    (front ++ (inside ++ behind)).countP low = front.length + inside.length := by
  obtain ⟨last, member⟩ := List.exists_mem_of_ne_nil _ filled
  have before := (List.pairwise_append.mp sorted).2.2
  have frontPasses : front.countP low = front.length := by
    rw [List.countP_eq_length]
    intro element above
    exact lowFalling _ _ (before element above last (List.mem_append_left _ member))
      (insidePasses last member)
  have behindNone : behind.countP low = 0 := by
    rw [List.countP_eq_zero]
    intro element below
    simp [behindFails element below]
  rw [List.countP_append, List.countP_append, frontPasses, behindNone,
    List.countP_eq_length.mpr insidePasses, Nat.add_zero]

theorem exists_parts (sorted : elements.Pairwise R) (lowFalling : Falling R low)
    (highRising : Falling R fun element => !high element) :
    ∃ front inside behind, front ++ (inside ++ behind) = elements ∧
      (∀ element ∈ front, high element = false) ∧
      (∀ element ∈ inside, low element = true ∧ high element = true) ∧
      ∀ element ∈ behind, low element = false ∧ high element = true := by
  have apart := filter_append_filter sorted highRising
  simp only [Bool.not_not] at apart
  have above := filter_append_filter (sorted.filter high) lowFalling
  refine ⟨_, _, _, (congrArg (_ ++ ·) above).trans apart, ?front, ?inside, ?behind⟩
  case front =>
    intro element member
    simpa using (List.mem_filter.mp member).2
  case inside =>
    intro element member
    have passes := List.mem_filter.mp member
    exact ⟨passes.2, (List.mem_filter.mp passes.1).2⟩
  case behind =>
    intro element member
    have fails := List.mem_filter.mp member
    exact ⟨by simpa using fails.2, (List.mem_filter.mp fails.1).2⟩

/-- The window and the limit can be swapped if nothing is in front of the window, if nothing is
inside, or if both together are within the limit. -/
theorem filter_take_eq_take_filter_iff (sorted : elements.Pairwise R) (lowFalling : Falling R low)
    (highRising : Falling R fun element => !high element) (positive : 0 < limit) :
    (elements.take limit).filter (fun element => low element && high element) =
        (elements.filter fun element => low element && high element).take limit ↔
      (∀ element ∈ elements, high element = true) ∨
        (∀ element ∈ elements, (low element && high element) = false) ∨
        elements.countP low ≤ limit := by
  obtain ⟨front, inside, behind, rfl, above, within, below⟩ :=
    exists_parts sorted lowFalling highRising
  have frontFails : ∀ element ∈ front, (low element && high element) = false := by
    intro element member
    rw [above element member, Bool.and_false]
  have insidePasses : ∀ element ∈ inside, (low element && high element) = true := by
    intro element member
    rw [(within element member).1, (within element member).2, Bool.and_self]
  have behindFails : ∀ element ∈ behind, (low element && high element) = false := by
    intro element member
    rw [(below element member).1, Bool.false_and]
  have window := filter_take frontFails insidePasses behindFails
    (front ++ (inside ++ behind)).length
  rw [List.take_length, List.take_of_length_le (by simp)] at window
  rw [filter_take frontFails insidePasses behindFails, window, List.take_eq_take_iff]
  by_cases filled : inside = []
  · subst filled
    refine iff_of_true (by simp) (.inr (.inl ?_))
    intro element member
    rcases List.mem_append.mp member with member | member
    · exact frontFails element member
    · exact behindFails element member
  · have length := List.length_pos_iff.mpr filled
    have some : ¬ ∀ element ∈ front ++ (inside ++ behind),
        (low element && high element) = false := by
      obtain ⟨element, member⟩ := List.exists_mem_of_ne_nil _ filled
      intro outside
      have fails := outside element
        (List.mem_append_right _ (List.mem_append_left _ member))
      rw [insidePasses element member] at fails
      cases fails
    have empty : (∀ element ∈ front ++ (inside ++ behind), high element = true) ↔
        front.length = 0 := by
      rw [List.length_eq_zero_iff]
      constructor
      · intro passes
        rw [List.eq_nil_iff_forall_not_mem]
        intro element member
        have fails := above element member
        rw [passes element (List.mem_append_left _ member)] at fails
        cases fails
      · rintro rfl element member
        rw [List.nil_append] at member
        rcases List.mem_append.mp member with member | member
        · exact (within element member).2
        · exact (below element member).2
    rw [countP_low sorted lowFalling (fun element member => (within element member).1)
        (fun element member => (below element member).1) filled,
      empty, iff_false_intro some, false_or]
    omega

/-- A lower bound that lets more pass only matters where the limit is not reached. -/
theorem take_filter_eq_take_filter_iff (high : α → Bool) (limit : Nat)
    (sorted : elements.Pairwise R) (lowFalling : Falling R low)
    (weaker : ∀ element, low element = true → lower element = true) :
    (elements.filter fun element => lower element && high element).take limit =
        (elements.filter fun element => low element && high element).take limit ↔
      (∀ element ∈ elements, (lower element && high element) = true → low element = true) ∨
        limit ≤ elements.countP fun element => low element && high element := by
  have apart := filter_append_filter
    (sorted.filter fun element => lower element && high element) lowFalling
  have inside : (elements.filter fun element => lower element && high element).filter low =
      elements.filter fun element => low element && high element := by
    rw [List.filter_filter]
    apply List.filter_congr
    intro element _
    cases passes : low element with
    | false => simp
    | true => simp [weaker element passes]
  rw [inside] at apart
  rw [← apart, take_append_eq_take_iff, List.countP_eq_length_filter, List.filter_eq_nil_iff]
  simp only [List.mem_filter]
  simp

end Windows

end Daq.Window
