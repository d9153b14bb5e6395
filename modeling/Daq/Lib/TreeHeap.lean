import Daq.Lib.Tree
import Mathlib.Data.Set.Lattice
import Mathlib.Order.CompletePartialOrder

namespace Daq.TreeHeap

/-! Nested dictionaries that are objects: each has an address, and holds the addresses of those
that it contains. -/

variable {κ α : Type}

/-- A value in a dictionary. -/
inductive Cell (α : Type) where
  | leaf (value : α)
  | dict (address : Nat)

/-- The addresses from `next` on are free. -/
structure Heap (κ α : Type) where
  node : Nat → List (κ × Cell α)
  next : Nat

namespace Heap

def write (heap : Heap κ α) (address : Nat) (entries : List (κ × Cell α)) : Heap κ α :=
  { heap with node := fun other => if other = address then entries else heap.node other }

/-- A new dictionary, at the first free address. -/
def alloc (heap : Heap κ α) (entries : List (κ × Cell α)) : Heap κ α where
  node other := if other = heap.next then entries else heap.node other
  next := heap.next + 1

@[simp] theorem node_write_self (heap : Heap κ α) (address : Nat) (entries : List (κ × Cell α)) :
    (heap.write address entries).node address = entries := if_pos rfl

theorem node_write_of_ne (heap : Heap κ α) {address other : Nat} (entries : List (κ × Cell α))
    (different : other ≠ address) : (heap.write address entries).node other = heap.node other :=
  if_neg different

@[simp] theorem node_alloc_self (heap : Heap κ α) (entries : List (κ × Cell α)) :
    (heap.alloc entries).node heap.next = entries := if_pos rfl

end Heap

/-- All that there was is unchanged. -/
structure Extends (before after : Heap κ α) : Prop where
  next_le : before.next ≤ after.next
  node : ∀ address < before.next, after.node address = before.node address

theorem Extends.refl (heap : Heap κ α) : Extends heap heap := ⟨le_refl _, fun _ _ => rfl⟩

theorem Extends.trans {first second third : Heap κ α} (earlier : Extends first second)
    (later : Extends second third) : Extends first third := by
  refine ⟨earlier.next_le.trans later.next_le, fun address old => ?_⟩
  rw [later.node address (old.trans_le earlier.next_le), earlier.node address old]

theorem extends_alloc (heap : Heap κ α) (entries : List (κ × Cell α)) :
    Extends heap (heap.alloc entries) :=
  ⟨Nat.le_succ _, fun _ old => if_neg (Nat.ne_of_lt old)⟩

mutual

/-- A value stands for a tree whose dictionaries are distinct objects, at the addresses of a
region. -/
def Holds (heap : Heap κ α) : Tree κ α → Cell α → Set Nat → Prop
  | .leaf value, cell, region => cell = .leaf value ∧ region = ∅
  | .dict entries, cell, region =>
      ∃ address inner, cell = .dict address ∧ region = insert address inner ∧
        address < heap.next ∧ address ∉ inner ∧
          HoldsEntries heap entries (heap.node address) inner

def HoldsEntries (heap : Heap κ α) : List (κ × Tree κ α) → List (κ × Cell α) → Set Nat → Prop
  | [], cells, region => cells = [] ∧ region = ∅
  | (key, tree) :: entries, cells, region =>
      ∃ cell rest here behind, cells = (key, cell) :: rest ∧ region = here ∪ behind ∧
        Disjoint here behind ∧ Holds heap tree cell here ∧ HoldsEntries heap entries rest behind

end

section Holds

variable {heap after : Heap κ α} {tree other : Tree κ α} {entries : List (κ × Tree κ α)}
variable {cell : Cell α} {cells : List (κ × Cell α)} {region again : Set Nat}

/-- What is shown of all trees together with what is shown of the entries of dictionaries. -/
theorem holds_rule {shown : Tree κ α → Cell α → Set Nat → Prop}
    {shownEntries : List (κ × Tree κ α) → List (κ × Cell α) → Set Nat → Prop}
    (leaf : ∀ value, shown (.leaf value) (.leaf value) ∅)
    (dict : ∀ entries address inner, address < heap.next → address ∉ inner →
      HoldsEntries heap entries (heap.node address) inner →
      shownEntries entries (heap.node address) inner →
      shown (.dict entries) (.dict address) (insert address inner))
    (nil : shownEntries [] [] ∅)
    (cons : ∀ key tree cell entries cells here behind, Disjoint here behind →
      Holds heap tree cell here → HoldsEntries heap entries cells behind → shown tree cell here →
      shownEntries entries cells behind →
      shownEntries ((key, tree) :: entries) ((key, cell) :: cells) (here ∪ behind)) :
    (∀ tree cell region, Holds heap tree cell region → shown tree cell region) ∧
      ∀ entries cells region, HoldsEntries heap entries cells region →
        shownEntries entries cells region := by
  have inside : ∀ entries : List (κ × Tree κ α),
      (∀ entry ∈ entries, ∀ cell region, Holds heap entry.2 cell region →
        shown entry.2 cell region) →
      ∀ cells region, HoldsEntries heap entries cells region →
        shownEntries entries cells region := by
    intro entries each
    induction entries with
    | nil =>
        rintro cells region ⟨rfl, rfl⟩
        exact nil
    | cons entry entries later =>
        obtain ⟨headEach, restEach⟩ := List.forall_mem_cons.mp each
        rintro cells region ⟨cell, rest, here, behind, rfl, rfl, apart, first, others⟩
        exact cons _ _ _ _ _ _ _ apart first others (headEach _ _ first)
          (later restEach _ _ others)
  have all : ∀ tree cell region, Holds heap tree cell region → shown tree cell region := by
    intro tree
    induction tree using Tree.induct with
    | leaf value =>
        rintro cell region ⟨rfl, rfl⟩
        exact leaf value
    | dict entries each =>
        rintro cell region ⟨address, inner, rfl, rfl, old, fresh, held⟩
        exact dict _ _ _ old fresh held (inside entries each _ _ held)
  exact ⟨all, fun entries => inside entries fun entry _ => all entry.2⟩

theorem lt_next (heap : Heap κ α) :
    (∀ tree cell region, Holds heap tree cell region → ∀ address ∈ region, address < heap.next) ∧
      ∀ entries cells region, HoldsEntries heap entries cells region →
        ∀ address ∈ region, address < heap.next := by
  apply holds_rule
  · exact fun _ _ member => absurd member (Set.notMem_empty _)
  · rintro entries address inner old _ _ later other (rfl | member)
    · exact old
    · exact later other member
  · exact fun _ member => absurd member (Set.notMem_empty _)
  · rintro key tree cell entries cells here behind _ _ _ first later address (member | member)
    · exact first address member
    · exact later address member

theorem Holds.lt_next (held : Holds heap tree cell region) :
    ∀ address ∈ region, address < heap.next :=
  (TreeHeap.lt_next heap).1 _ _ _ held

theorem HoldsEntries.lt_next (held : HoldsEntries heap entries cells region) :
    ∀ address ∈ region, address < heap.next :=
  (TreeHeap.lt_next heap).2 _ _ _ held

theorem Holds.address (held : Holds heap (.dict entries) cell region) :
    ∃ address, cell = .dict address := by
  obtain ⟨address, _, same, _⟩ := held
  exact ⟨address, same⟩

/-- Only the region matters. -/
theorem frame (next_le : heap.next ≤ after.next) :
    (∀ tree cell region, Holds heap tree cell region →
        (∀ address ∈ region, after.node address = heap.node address) →
        Holds after tree cell region) ∧
      ∀ entries cells region, HoldsEntries heap entries cells region →
        (∀ address ∈ region, after.node address = heap.node address) →
        HoldsEntries after entries cells region := by
  apply holds_rule
  · exact fun _ _ => ⟨rfl, rfl⟩
  · intro entries address inner old fresh _ later same
    refine ⟨address, inner, rfl, rfl, old.trans_le next_le, fresh, ?_⟩
    rw [same address (Set.mem_insert _ _)]
    exact later fun other member => same other (Set.mem_insert_of_mem _ member)
  · exact fun _ => ⟨rfl, rfl⟩
  · intro key tree cell entries cells here behind apart _ _ first later same
    exact ⟨cell, cells, here, behind, rfl, rfl, apart,
      first fun address member => same address (.inl member),
      later fun address member => same address (.inr member)⟩

theorem Holds.frame (held : Holds heap tree cell region) (next_le : heap.next ≤ after.next)
    (same : ∀ address ∈ region, after.node address = heap.node address) :
    Holds after tree cell region :=
  (TreeHeap.frame next_le).1 _ _ _ held same

theorem HoldsEntries.frame (held : HoldsEntries heap entries cells region)
    (next_le : heap.next ≤ after.next)
    (same : ∀ address ∈ region, after.node address = heap.node address) :
    HoldsEntries after entries cells region :=
  (TreeHeap.frame next_le).2 _ _ _ held same

theorem Holds.extend (held : Holds heap tree cell region) (extended : Extends heap after) :
    Holds after tree cell region :=
  held.frame extended.next_le fun address member => extended.node address (held.lt_next address member)

/-- A value stands for one tree, in one region. -/
theorem unique (heap : Heap κ α) :
    (∀ tree cell region, Holds heap tree cell region → ∀ other again, Holds heap other cell again →
        other = tree ∧ again = region) ∧
      ∀ entries cells region, HoldsEntries heap entries cells region → ∀ others again,
        HoldsEntries heap others cells again → others = entries ∧ again = region := by
  apply holds_rule
  · intro value other again held
    cases other with
    | leaf stored =>
        obtain ⟨same, rfl⟩ := held
        cases same
        exact ⟨rfl, rfl⟩
    | dict entries =>
        obtain ⟨_, _, same, _⟩ := held
        cases same
  · intro entries address inner _ _ _ later other again held
    cases other with
    | leaf stored =>
        obtain ⟨same, _⟩ := held
        cases same
    | dict others =>
        obtain ⟨_, _, same, rfl, _, _, held⟩ := held
        cases same
        obtain ⟨rfl, rfl⟩ := later _ _ held
        exact ⟨rfl, rfl⟩
  · intro others again held
    cases others with
    | nil => exact ⟨rfl, held.2⟩
    | cons entry others =>
        obtain ⟨_, _, _, _, same, _⟩ := held
        cases same
  · intro key tree cell entries cells here behind _ _ _ first later others again held
    cases others with
    | nil =>
        obtain ⟨same, _⟩ := held
        cases same
    | cons entry others =>
        obtain ⟨_, _, _, _, same, rfl, _, here, behind⟩ := held
        cases same
        obtain ⟨rfl, rfl⟩ := first _ _ here
        obtain ⟨rfl, rfl⟩ := later _ _ behind
        exact ⟨rfl, rfl⟩

theorem Holds.unique (held : Holds heap tree cell region) (heldAgain : Holds heap other cell again) :
    other = tree ∧ again = region :=
  (TreeHeap.unique heap).1 _ _ _ held _ _ heldAgain

end Holds

/-! A slot of a dictionary. -/

section Slots

variable [DecidableEq κ] {heap : Heap κ α} {entries : List (κ × Tree κ α)}
variable {cells : List (κ × Cell α)} {region : Set Nat}

/-- What a dictionary has for a key, if it has anything. -/
def HoldsSlot (heap : Heap κ α) : Option (Tree κ α) → Option (Cell α) → Set Nat → Prop
  | none, cell, region => cell = none ∧ region = ∅
  | some tree, cell, region => ∃ stored, cell = some stored ∧ Holds heap tree stored region

/-- What a dictionary has for a key is apart from the rest, which stays as it is when something
else is stored for the key. -/
theorem HoldsEntries.slot (held : HoldsEntries heap entries cells region) (key : κ) :
    ∃ here others, region = here ∪ others ∧ Disjoint here others ∧
      HoldsSlot heap (Assoc.get? entries key) (Assoc.get? cells key) here ∧
      ∀ (after : Heap κ α) (tree : Tree κ α) (cell : Cell α) (changed : Set Nat),
        heap.next ≤ after.next → (∀ address ∈ others, after.node address = heap.node address) →
        Holds after tree cell changed → Disjoint changed others →
        HoldsEntries after (Assoc.set entries key tree) (Assoc.set cells key cell)
          (changed ∪ others) := by
  induction entries generalizing cells region with
  | nil =>
      obtain ⟨rfl, rfl⟩ := held
      refine ⟨∅, ∅, (Set.union_empty _).symm, Set.disjoint_empty _, ⟨rfl, rfl⟩, ?_⟩
      intro after tree cell changed _ _ holds apart
      exact ⟨cell, [], changed, ∅, rfl, rfl, apart, holds, rfl, rfl⟩
  | cons entry entries later =>
      obtain ⟨first, old⟩ := entry
      obtain ⟨cell, rest, here, behind, rfl, rfl, apart, holds, held⟩ := held
      by_cases same : first = key
      · subst same
        refine ⟨here, behind, rfl, apart, ?_, ?_⟩
        · rw [Assoc.get?, Assoc.get?, if_pos rfl, if_pos rfl]
          exact ⟨cell, rfl, holds⟩
        · intro after tree stored changed next_le unchanged holds apart
          rw [Assoc.set, Assoc.set, if_pos rfl, if_pos rfl]
          exact ⟨stored, rest, changed, behind, rfl, rfl, apart, holds,
            held.frame next_le unchanged⟩
      · obtain ⟨inside, others, rfl, apartRest, slot, change⟩ := later held
        rw [Assoc.get?, Assoc.get?, if_neg same, if_neg same]
        rw [Set.disjoint_union_right] at apart
        refine ⟨inside, here ∪ others, Set.union_left_comm _ _ _, ?_, slot, ?_⟩
        · rw [Set.disjoint_union_right]
          exact ⟨apart.1.symm, apartRest⟩
        · intro after tree stored changed next_le unchanged holdsAfter apartAfter
          rw [Set.disjoint_union_right] at apartAfter
          rw [Assoc.set, Assoc.set, if_neg same, if_neg same]
          refine ⟨cell, _, here, changed ∪ others, rfl, Set.union_left_comm _ _ _, ?_,
            holds.frame next_le fun address member => unchanged address (.inl member),
            change after tree stored changed next_le
              (fun address member => unchanged address (.inr member)) holdsAfter apartAfter.2⟩
          rw [Set.disjoint_union_right]
          exact ⟨apartAfter.1.symm, apart.2⟩

end Slots

/-! Copies. -/

/-- Copies of the entries of a dictionary, made one after another. -/
def copyEntries (copy : Cell α → Heap κ α → Option (Cell α × Heap κ α)) :
    List (κ × Cell α) → Heap κ α → Option (List (κ × Cell α) × Heap κ α)
  | [], heap => some ([], heap)
  | (key, cell) :: cells, heap => do
      let (copied, heap) ← copy cell heap
      let (rest, heap) ← copyEntries copy cells heap
      return ((key, copied) :: rest, heap)

/-- `copy.deepcopy`, down to a depth. -/
def deepCopy : Nat → Cell α → Heap κ α → Option (Cell α × Heap κ α)
  | _, .leaf value, heap => some (.leaf value, heap)
  | 0, .dict _, _ => none
  | depth + 1, .dict address, heap => do
      let (cells, heap) ← copyEntries (deepCopy depth) (heap.node address) heap
      return (.dict heap.next, heap.alloc cells)

/-- More depth changes no copy that is made. -/
theorem copyEntries_mono {copy deeper : Cell α → Heap κ α → Option (Cell α × Heap κ α)}
    (more : ∀ cell heap made, copy cell heap = some made → deeper cell heap = some made)
    {cells : List (κ × Cell α)} {heap : Heap κ α} {made : List (κ × Cell α) × Heap κ α}
    (ran : copyEntries copy cells heap = some made) : copyEntries deeper cells heap = some made := by
  induction cells generalizing heap made with
  | nil => exact ran
  | cons entry cells later =>
      obtain ⟨key, cell⟩ := entry
      obtain ⟨copied, first, ran⟩ := Option.bind_eq_some_iff.mp ran
      obtain ⟨rest, behind, ran⟩ := Option.bind_eq_some_iff.mp ran
      rw [copyEntries, more _ _ _ first]
      dsimp only [Option.bind_eq_bind, Option.bind_some]
      rw [later behind]
      exact ran

theorem deepCopy_succ {depth : Nat} {cell : Cell α} {heap : Heap κ α} {made : Cell α × Heap κ α}
    (ran : deepCopy depth cell heap = some made) : deepCopy (depth + 1) cell heap = some made := by
  induction depth generalizing cell heap made with
  | zero =>
      cases cell with
      | leaf value => exact ran
      | dict address => cases ran
  | succ depth later =>
      cases cell with
      | leaf value => exact ran
      | dict address =>
          obtain ⟨copied, copies, ran⟩ := Option.bind_eq_some_iff.mp ran
          rw [deepCopy, copyEntries_mono (fun _ _ _ => later) copies]
          exact ran

theorem copies (heap : Heap κ α) :
    (∀ tree cell region, Holds heap tree cell region →
        ∀ (now : Heap κ α) (depth : Nat), Extends heap now → tree.depth ≤ depth →
          ∃ copied after fresh, deepCopy depth cell now = some (copied, after) ∧
            Extends now after ∧ Holds after tree copied fresh ∧ ∀ address ∈ fresh, now.next ≤ address) ∧
      ∀ entries cells region, HoldsEntries heap entries cells region →
        ∀ (now : Heap κ α) (depth : Nat), Extends heap now → Tree.depthEntries entries ≤ depth →
          ∃ copied after fresh, copyEntries (deepCopy depth) cells now = some (copied, after) ∧
            Extends now after ∧ HoldsEntries after entries copied fresh ∧
              ∀ address ∈ fresh, now.next ≤ address := by
  apply holds_rule
  · intro value now depth _ _
    exact ⟨.leaf value, now, ∅, by cases depth <;> rfl, .refl now, ⟨rfl, rfl⟩,
      fun _ member => absurd member (Set.notMem_empty _)⟩
  · intro entries address inner old _ _ later now depth extended deep
    cases depth with
    | zero => cases deep
    | succ depth =>
        obtain ⟨copied, after, fresh, copies, extendedAfter, held, new⟩ :=
          later now depth extended (Nat.le_of_succ_le_succ deep)
        refine ⟨.dict after.next, after.alloc copied, insert after.next fresh, ?_,
          extendedAfter.trans (extends_alloc after copied), ?_, ?_⟩
        · rw [deepCopy, extended.node address old, copies]
          rfl
        · refine ⟨after.next, fresh, rfl, rfl, Nat.lt_succ_self _, ?_, ?_⟩
          · exact fun member => absurd (held.lt_next _ member) (Nat.lt_irrefl _)
          · rw [Heap.node_alloc_self]
            exact held.frame (Nat.le_succ _) fun other member =>
              (extends_alloc after copied).node other (held.lt_next other member)
        · rintro other (rfl | member)
          · exact extendedAfter.next_le
          · exact new other member
  · intro now depth _ _
    exact ⟨[], now, ∅, rfl, .refl now, ⟨rfl, rfl⟩, fun _ member => absurd member (Set.notMem_empty _)⟩
  · intro key tree cell entries cells here behind _ _ _ first later now depth extended deep
    obtain ⟨deepFirst, deepRest⟩ := Nat.max_le.mp deep
    obtain ⟨copied, middle, fresh, copies, extendedMiddle, held, new⟩ :=
      first now depth extended deepFirst
    obtain ⟨rest, after, freshRest, copiesRest, extendedAfter, heldRest, newRest⟩ :=
      later middle depth (extended.trans extendedMiddle) deepRest
    refine ⟨(key, copied) :: rest, after, fresh ∪ freshRest, ?_,
      extendedMiddle.trans extendedAfter, ?_, ?_⟩
    · rw [copyEntries, copies]
      dsimp only [Option.bind_eq_bind, Option.bind_some]
      rw [copiesRest]
      rfl
    · refine ⟨copied, rest, fresh, freshRest, rfl, rfl, ?_, held.extend extendedAfter, heldRest⟩
      rw [Set.disjoint_left]
      intro address member memberRest
      exact absurd (newRest address memberRest) (Nat.not_le.mpr (held.lt_next address member))
    · rintro address (member | member)
      · exact new address member
      · exact extendedMiddle.next_le.trans (newRest address member)

theorem Holds.deepCopy {heap : Heap κ α} {tree : Tree κ α} {cell : Cell α} {region : Set Nat}
    (held : Holds heap tree cell region) {depth : Nat} (deep : tree.depth ≤ depth) :
    ∃ copied after fresh, TreeHeap.deepCopy depth cell heap = some (copied, after) ∧
      Extends heap after ∧ Holds after tree copied fresh ∧
        ∀ address ∈ fresh, heap.next ≤ address :=
  (copies heap).1 _ _ _ held heap depth (.refl heap) deep

end Daq.TreeHeap
