import Daq.Lib.TreeHeap

namespace Daq.Configurator

open TreeHeap

/-! `_deep_merge_dict`, which changes the dictionary `base` in place. -/

section Code

variable {κ α : Type} [DecidableEq κ]

/-- One round of the loop, with what is done for two dictionaries and for a copy. -/
def mergeItem (merge : Nat → Nat → Heap κ α → Option (Heap κ α))
    (copy : Cell α → Heap κ α → Option (Cell α × Heap κ α)) (base : Nat) (heap : Heap κ α)
    (item : κ × Cell α) : Option (Heap κ α) :=
  match item.2, Assoc.get? (heap.node base) item.1 with
  | .dict adding, some (.dict inner) => merge inner adding heap
  | value, _ => do
      let (copied, heap) ← copy value heap
      return heap.write base (Assoc.set (heap.node base) item.1 copied)

/-- `_deep_merge_dict`, down to a depth. -/
def deepMergeDict : Nat → Nat → Nat → Heap κ α → Option (Heap κ α)
  | 0, _, _, _ => none
  | depth + 1, base, adding, heap =>
      (heap.node adding).foldlM (mergeItem (deepMergeDict depth) (deepCopy depth) base) heap

end Code

/-! What becomes of the dictionaries. -/

variable {κ α : Type} [DecidableEq κ]

/-- Only the dictionaries of a region are changed, and new ones are made; what has become of the
region has grown by new ones only. -/
structure Changes (before after : Heap κ α) (region grown : Set Nat) : Prop where
  next_le : before.next ≤ after.next
  node : ∀ address < before.next, address ∉ region → after.node address = before.node address
  grown : ∀ address ∈ grown, address ∈ region ∨ before.next ≤ address

/-- What one round does to the dictionary. -/
def Merged (heap : Heap κ α) (base : Nat) (region : Set Nat) (result : List (κ × Tree κ α))
    (ran : Option (Heap κ α)) : Prop :=
  ∃ after grown, ran = some after ∧ Holds after (.dict result) (.dict base) grown ∧
    Changes heap after region grown

section Regions

variable {κ α : Type} {heap : Heap κ α} {region : Set Nat}

theorem Changes.refl (heap : Heap κ α) (region : Set Nat) : Changes heap heap region region :=
  ⟨le_refl _, fun _ _ _ => rfl, fun _ member => .inl member⟩

theorem Changes.trans {first second third : Heap κ α} {region grown last : Set Nat}
    (earlier : Changes first second region grown) (later : Changes second third grown last) :
    Changes first third region last := by
  refine ⟨earlier.next_le.trans later.next_le, ?_, ?_⟩
  · intro address old outside
    have stays : address ∉ grown := by
      intro member
      rcases earlier.grown address member with inside | new
      · exact outside inside
      · exact absurd old (Nat.not_lt.mpr new)
    rw [later.node address (old.trans_le earlier.next_le) stays, earlier.node address old outside]
  · intro address member
    rcases later.grown address member with inside | new
    · exact earlier.grown address inside
    · exact .inr (earlier.next_le.trans new)

/-- A dictionary apart from the region is as before. -/
theorem Changes.frame {after : Heap κ α} {grown other : Set Nat} {tree : Tree κ α} {cell : Cell α}
    (changes : Changes heap after region grown) (held : Holds heap tree cell other)
    (apart : Disjoint region other) : Holds after tree cell other :=
  held.frame changes.next_le fun address member =>
    changes.node address (held.lt_next address member)
      (Set.disjoint_right.mp apart member)

theorem Changes.frameEntries {after : Heap κ α} {grown other : Set Nat}
    {items : List (κ × Tree κ α)} {cells : List (κ × Cell α)}
    (changes : Changes heap after region grown) (held : HoldsEntries heap items cells other)
    (apart : Disjoint region other) : HoldsEntries after items cells other :=
  held.frame changes.next_le fun address member =>
    changes.node address (held.lt_next address member)
      (Set.disjoint_right.mp apart member)

theorem Changes.apart {after : Heap κ α} {grown other : Set Nat}
    (changes : Changes heap after region grown) (old : ∀ address ∈ other, address < heap.next)
    (apart : Disjoint region other) : Disjoint grown other := by
  rw [Set.disjoint_left]
  intro address member memberOther
  rcases changes.grown address member with inside | new
  · exact Set.disjoint_left.mp apart inside memberOther
  · exact absurd (old address memberOther) (Nat.not_lt.mpr new)

end Regions

section Rounds

variable {heap : Heap κ α} {base : Nat} {entries : List (κ × Tree κ α)} {region : Set Nat}

/-- A value is copied into the dictionary. -/
theorem copyItem_merged (held : Holds heap (.dict entries) (.dict base) region) (key : κ)
    {value : Tree κ α} {cell : Cell α} {other : Set Nat} (heldValue : Holds heap value cell other)
    {depth : Nat} (deep : value.depth ≤ depth) :
    Merged heap base region (Assoc.set entries key value) (do
      let (copied, heap) ← deepCopy depth cell heap
      return heap.write base (Assoc.set (heap.node base) key copied)) := by
  obtain ⟨_, inner, same, rfl, old, fresh, heldEntries⟩ := held
  cases same
  obtain ⟨here, others, rfl, apart, _, change⟩ := heldEntries.slot key
  obtain ⟨copied, after, new, copies, extended, heldCopy, newer⟩ := heldValue.deepCopy deep
  have othersOld : ∀ address ∈ others, address < heap.next := fun address member =>
    heldEntries.lt_next address (.inr member)
  have written : ∀ stored address, address ≠ base →
      (after.write base stored).node address = after.node address :=
    fun stored _ => Heap.node_write_of_ne after stored
  refine ⟨after.write base (Assoc.set (after.node base) key copied), insert base (new ∪ others),
    ?ran, ⟨base, new ∪ others, rfl, rfl, ?old, ?fresh, ?held⟩, ⟨extended.next_le, ?node, ?grown⟩⟩
  case ran =>
    rw [copies]
    rfl
  case old => exact old.trans_le extended.next_le
  case fresh =>
    rintro (member | member)
    · exact absurd old (Nat.not_lt.mpr (newer base member))
    · exact fresh (.inr member)
  case held =>
    rw [Heap.node_write_self, extended.node base old]
    apply change
    · exact extended.next_le
    · intro address member
      rw [written _ address (fun same => fresh (same ▸ .inr member)),
        extended.node address (othersOld address member)]
    · refine heldCopy.frame (le_refl _) fun address member => written _ address ?_
      rintro rfl
      exact absurd old (Nat.not_lt.mpr (newer address member))
    · rw [Set.disjoint_left]
      intro address member memberOther
      exact absurd (othersOld address memberOther) (Nat.not_lt.mpr (newer address member))
  case node =>
    intro address oldAddress outside
    rw [written _ address (fun same => outside (.inl same)), extended.node address oldAddress]
  case grown =>
    rintro address (rfl | member | member)
    · exact .inl (.inl rfl)
    · exact .inr (newer address member)
    · exact .inl (.inr (.inr member))

theorem innerItem_merged (held : Holds heap (.dict entries) (.dict base) region) {key : κ}
    {inner result : List (κ × Tree κ α)} (present : Assoc.get? entries key = some (.dict inner))
    {merge : Nat → Option (Heap κ α)}
    (merged : ∀ target within, within ⊆ region → Holds heap (.dict inner) (.dict target) within →
      Merged heap target within result (merge target)) :
    ∃ target, Assoc.get? (heap.node base) key = some (.dict target) ∧
      Merged heap base region (Assoc.set entries key (.dict result)) (merge target) := by
  obtain ⟨_, inside, same, rfl, old, fresh, heldEntries⟩ := held
  cases same
  obtain ⟨here, others, rfl, apart, slot, change⟩ := heldEntries.slot key
  rw [present] at slot
  obtain ⟨cell, stored, heldInner⟩ := slot
  obtain ⟨target, rfl⟩ := heldInner.address
  have within : here ⊆ insert base (here ∪ others) := fun address member => .inr (.inl member)
  obtain ⟨after, grown, ran, heldAfter, changes⟩ := merged target here within heldInner
  have othersOld : ∀ address ∈ others, address < heap.next := fun address member =>
    heldEntries.lt_next address (.inr member)
  have baseOutside : base ∉ here := fun member => fresh (.inl member)
  refine ⟨target, stored, after, insert base (grown ∪ others), ran,
    ⟨base, grown ∪ others, rfl, rfl, old.trans_le changes.next_le, ?fresh, ?held⟩,
    ⟨changes.next_le, ?node, ?grown⟩⟩
  case fresh =>
    rintro (member | member)
    · rcases changes.grown base member with inside | new
      · exact baseOutside inside
      · exact absurd old (Nat.not_lt.mpr new)
    · exact fresh (.inr member)
  case held =>
    have entriesAfter := change after (.dict result) (.dict target) grown changes.next_le
      (fun address member => changes.node address (othersOld address member)
        (Set.disjoint_right.mp apart member)) heldAfter (changes.apart othersOld apart)
    rw [Assoc.set_get? stored] at entriesAfter
    rw [changes.node base old baseOutside]
    exact entriesAfter
  case node =>
    intro address oldAddress outside
    exact changes.node address oldAddress fun member => outside (within member)
  case grown =>
    rintro address (rfl | member | member)
    · exact .inl (.inl rfl)
    · exact (changes.grown address member).imp_left fun inside => within inside
    · exact .inl (.inr (.inr member))

/-- Where the tree has no dictionary there is none in the heap. -/
theorem cell_ne_dict (held : Holds heap (.dict entries) (.dict base) region) {key : κ}
    (plain : ∀ inner, Assoc.get? entries key ≠ some (.dict inner)) (target : Nat) :
    Assoc.get? (heap.node base) key ≠ some (.dict target) := by
  obtain ⟨_, inside, same, rfl, _, _, heldEntries⟩ := held
  cases same
  obtain ⟨here, _, _, _, slot, _⟩ := heldEntries.slot key
  intro stored
  rw [stored] at slot
  cases present : Assoc.get? entries key with
  | none =>
      rw [present] at slot
      cases slot.1
  | some tree =>
      rw [present] at slot
      obtain ⟨_, same, heldTree⟩ := slot
      cases same
      cases tree with
      | leaf value => cases heldTree.1
      | dict inner => exact plain inner present

theorem mergeItem_copies {merge : Nat → Nat → Heap κ α → Option (Heap κ α)}
    {copy : Cell α → Heap κ α → Option (Cell α × Heap κ α)} {key : κ}
    (plain : ∀ target, Assoc.get? (heap.node base) key ≠ some (.dict target)) (cell : Cell α) :
    mergeItem merge copy base heap (key, cell) = (do
      let (copied, heap) ← copy cell heap
      return heap.write base (Assoc.set (heap.node base) key copied)) := by
  cases cell with
  | leaf value => rfl
  | dict address =>
      rw [mergeItem]
      split
      · exact absurd ‹_› (plain _)
      · rfl

theorem mergeItem_merged (held : Holds heap (.dict entries) (.dict base) region) (key : κ)
    {value : Tree κ α} {cell : Cell α} {other : Set Nat} (heldValue : Holds heap value cell other)
    {depth : Nat} (deep : value.depth ≤ depth)
    (inner : ∀ adding address stored target within, value = .dict adding → cell = .dict address →
      within ⊆ region → Holds heap (.dict stored) (.dict target) within →
      Merged heap target within (Tree.mergeEntries adding stored)
        (deepMergeDict depth target address heap)) :
    Merged heap base region (Assoc.set entries key (value.mergeOnto (Assoc.get? entries key)))
      (mergeItem (deepMergeDict depth) (deepCopy depth) base heap (key, cell)) := by
  have copied := copyItem_merged held key heldValue deep
  cases value with
  | leaf value =>
      obtain ⟨rfl, _⟩ := heldValue
      exact copied
  | dict adding =>
      obtain ⟨address, rfl⟩ := heldValue.address
      cases present : Assoc.get? entries key with
      | none =>
          rw [mergeItem_copies (cell_ne_dict held (by simp [present]))]
          exact copied
      | some tree =>
          cases tree with
          | leaf old =>
              rw [mergeItem_copies (cell_ne_dict held (by simp [present]))]
              exact copied
          | dict stored =>
              obtain ⟨target, found, merged⟩ := innerItem_merged held present
                fun target within inside heldInner =>
                  inner adding address stored target within rfl rfl inside heldInner
              rw [mergeItem, found]
              exact merged

theorem foldlM_mergeItem_merged {items : List (κ × Tree κ α)} {cells : List (κ × Cell α)}
    {other : Set Nat} {depth : Nat}
    (inner : ∀ item ∈ items, ∀ heap : Heap κ α, ∀ adding address stored target within otherWithin,
      item.2 = .dict adding → Holds heap item.2 (.dict address) otherWithin →
      Holds heap (.dict stored) (.dict target) within → Disjoint within otherWithin →
      Merged heap target within (Tree.mergeEntries adding stored)
        (deepMergeDict depth target address heap))
    (deep : Tree.depthEntries items ≤ depth)
    (held : Holds heap (.dict entries) (.dict base) region)
    (heldItems : HoldsEntries heap items cells other) (apart : Disjoint region other) :
    Merged heap base region (Tree.mergeEntries items entries)
      (cells.foldlM (mergeItem (deepMergeDict depth) (deepCopy depth) base) heap) := by
  induction items generalizing heap entries region cells other with
  | nil =>
      obtain ⟨rfl, _⟩ := heldItems
      exact ⟨heap, region, rfl, held, .refl heap region⟩
  | cons item items later =>
      obtain ⟨key, value⟩ := item
      obtain ⟨innerHere, innerBehind⟩ := List.forall_mem_cons.mp inner
      obtain ⟨deepHere, deepBehind⟩ := Nat.max_le.mp deep
      obtain ⟨cell, rest, here, behind, rfl, rfl, separate, heldValue, heldRest⟩ := heldItems
      obtain ⟨apartHere, apartBehind⟩ := Set.disjoint_union_right.mp apart
      obtain ⟨middle, grown, ran, heldMiddle, changes⟩ := mergeItem_merged held key heldValue deepHere
        fun adding address stored target within same sameCell inside heldInner =>
          innerHere heap adding address stored target within here same (sameCell ▸ heldValue)
            heldInner (apartHere.mono_left inside)
      obtain ⟨after, last, ranRest, heldAfter, changesRest⟩ := later innerBehind deepBehind heldMiddle
        (changes.frameEntries heldRest apartBehind) (changes.apart heldRest.lt_next apartBehind)
      refine ⟨after, last, ?_, heldAfter, changes.trans changesRest⟩
      rw [List.foldlM_cons, ran]
      exact ranRest

end Rounds

/-- `_deep_merge_dict` merges the trees, in new dictionaries and those of the base. -/
theorem deepMergeDict_merged {adding : Tree κ α} :
    ∀ (heap : Heap κ α) (entries added : List (κ × Tree κ α)) (base address : Nat)
      (region other : Set Nat) (depth : Nat), adding = .dict added → adding.depth ≤ depth →
      Holds heap (.dict entries) (.dict base) region → Holds heap adding (.dict address) other →
      Disjoint region other →
      Merged heap base region (Tree.mergeEntries added entries)
        (deepMergeDict depth base address heap) := by
  induction adding using Tree.induct with
  | leaf value =>
      intro _ _ _ _ _ _ _ _ same
      cases same
  | dict added each =>
      intro heap entries again base address region other depth same deep held heldAdding apart
      cases same
      cases depth with
      | zero => cases deep
      | succ depth =>
          obtain ⟨_, inside, same, rfl, _, _, heldItems⟩ := heldAdding
          cases same
          rw [deepMergeDict]
          refine foldlM_mergeItem_merged ?_ (Nat.le_of_succ_le_succ deep) held heldItems
            (apart.mono_right fun _ member => .inr member)
          intro item member heap adding address stored target within other same heldItem heldInner
            separate
          have shallow := (Tree.depth_le_depthEntries member).trans (Nat.le_of_succ_le_succ deep)
          exact each item member heap stored adding target address within other depth same shallow
            heldInner heldItem separate

/-! More depth changes no merge that ends. -/

section Depth

variable {heap after : Heap κ α} {base adding depth : Nat}

theorem mergeItem_mono {merge deeper : Nat → Nat → Heap κ α → Option (Heap κ α)}
    {copy copyDeeper : Cell α → Heap κ α → Option (Cell α × Heap κ α)}
    (moreMerge : ∀ inner adding heap after, merge inner adding heap = some after →
      deeper inner adding heap = some after)
    (moreCopy : ∀ cell heap made, copy cell heap = some made → copyDeeper cell heap = some made)
    {item : κ × Cell α} (ran : mergeItem merge copy base heap item = some after) :
    mergeItem deeper copyDeeper base heap item = some after := by
  unfold mergeItem at ran ⊢
  split at ran
  · exact moreMerge _ _ _ _ ran
  · obtain ⟨made, copied, ran⟩ := Option.bind_eq_some_iff.mp ran
    rw [moreCopy _ _ _ copied]
    exact ran

theorem foldlM_mono {σ β : Type} {step deeper : σ → β → Option σ}
    (more : ∀ state element next, step state element = some next → deeper state element = some next)
    {elements : List β} {state last : σ} (ran : elements.foldlM step state = some last) :
    elements.foldlM deeper state = some last := by
  induction elements generalizing state with
  | nil => exact ran
  | cons element rest later =>
      obtain ⟨next, first, ran⟩ := Option.bind_eq_some_iff.mp ran
      rw [List.foldlM_cons, more _ _ _ first]
      exact later ran

theorem deepMergeDict_succ (ran : deepMergeDict depth base adding heap = some after) :
    deepMergeDict (depth + 1) base adding heap = some after := by
  induction depth generalizing base adding heap after with
  | zero => cases ran
  | succ depth later =>
      exact foldlM_mono (fun _ _ _ => mergeItem_mono (fun _ _ _ _ => later) fun _ _ _ => deepCopy_succ)
        ran

/-- What a merge does, with enough depth. -/
def MergesTo (heap : Heap κ α) (base adding : Nat) (after : Heap κ α) : Prop :=
  ∃ enough, ∀ depth, enough ≤ depth → deepMergeDict depth base adding heap = some after

theorem MergesTo.of_some (ran : deepMergeDict depth base adding heap = some after) :
    MergesTo heap base adding after := by
  refine ⟨depth, fun more deep => ?_⟩
  induction deep with
  | refl => exact ran
  | step _ later => exact deepMergeDict_succ later

end Depth

/-! Later merges. -/

/-- Two dictionaries that have no dictionary in common. -/
def Separate (heap : Heap κ α) (base adding : Nat) : Prop :=
  ∃ entries added region other, Holds heap (.dict entries) (.dict base) region ∧
    Holds heap (.dict added) (.dict adding) other ∧ Disjoint region other

/-- What happens later: new dictionaries are made, and dictionaries are merged into the base. -/
inductive Later (base : Nat) : Heap κ α → Heap κ α → Prop
  | refl (heap : Heap κ α) : Later base heap heap
  | make {heap middle after : Heap κ α} (made : Extends heap middle)
      (rest : Later base middle after) : Later base heap after
  | merge {heap middle after : Heap κ α} {adding : Nat} (separate : Separate heap base adding)
      (merged : MergesTo heap base adding middle)
      (rest : Later base middle after) : Later base heap after

section Merges

variable {heap : Heap κ α} {base adding : Nat} {entries added : List (κ × Tree κ α)}
variable {region other : Set Nat}

theorem exists_mergesTo (held : Holds heap (.dict entries) (.dict base) region)
    (heldAdding : Holds heap (.dict added) (.dict adding) other) (apart : Disjoint region other) :
    ∃ after grown, MergesTo heap base adding after ∧
      Holds after (.dict (Tree.mergeEntries added entries)) (.dict base) grown ∧
        Changes heap after region grown := by
  obtain ⟨after, grown, ran, heldAfter, changes⟩ := deepMergeDict_merged heap entries added base
    adding region other _ rfl (le_refl _) held heldAdding apart
  exact ⟨after, grown, .of_some ran, heldAfter, changes⟩

theorem MergesTo.unique {after again : Heap κ α} (merged : MergesTo heap base adding after)
    (mergedAgain : MergesTo heap base adding again) : after = again := by
  obtain ⟨enough, ran⟩ := merged
  obtain ⟨enoughAgain, ranAgain⟩ := mergedAgain
  have first := ran (max enough enoughAgain) (Nat.le_max_left _ _)
  exact Option.some.inj (first.symm.trans (ranAgain _ (Nat.le_max_right _ _)))

/-- Whatever is merged into the base later, a dictionary apart from it stays what it is. -/
theorem Later.frame {after : Heap κ α} (later : Later base heap after)
    (held : Holds heap (.dict entries) (.dict base) region)
    (heldAdding : Holds heap (.dict added) (.dict adding) other) (apart : Disjoint region other) :
    Holds after (.dict added) (.dict adding) other := by
  induction later generalizing entries region with
  | refl heap => exact heldAdding
  | make made _ rest =>
      exact rest (held.extend made) (heldAdding.extend made) apart
  | merge separate merged _ rest =>
      obtain ⟨_, _, _, _, heldBase, heldOther, separate⟩ := separate
      obtain ⟨middle, grown, mergedMiddle, heldMiddle, changes⟩ :=
        exists_mergesTo heldBase heldOther separate
      obtain ⟨_, rfl⟩ := heldBase.unique held
      obtain rfl := merged.unique mergedMiddle
      exact rest heldMiddle (changes.frame heldAdding apart)
        (changes.apart heldAdding.lt_next apart)

end Merges

end Daq.Configurator
