import Daq.Lib.Tree
import Mathlib.Data.List.Nodup

namespace Daq

namespace Tree

/-! Nested dictionaries that are built leaf by leaf. -/

variable {κ α : Type}

/-- A dictionary for each key of a path, down to a value. -/
def branch : List κ → α → Tree κ α
  | [], value => .leaf value
  | key :: path, value => .dict [(key, branch path value)]

theorem branch_wellFormed (path : List κ) (value : α) : (branch path value).WellFormed := by
  induction path with
  | nil => exact .leaf value
  | cons key path later =>
      exact .dict (List.nodup_singleton key) (List.forall_mem_singleton.mpr later)

variable [DecidableEq κ]

/-- Equality of dictionaries, for which the order of the keys does not count. -/
inductive Equal : Tree κ α → Tree κ α → Prop
  | leaf (value : α) : Equal (.leaf value) (.leaf value)
  | dict {first second : List (κ × Tree κ α)}
      (keys : ∀ key, key ∈ Assoc.keys first ↔ key ∈ Assoc.keys second)
      (inner : ∀ key one other, Assoc.get? first key = some one →
        Assoc.get? second key = some other → Equal one other) :
      Equal (.dict first) (.dict second)

/-- A tree has exactly the leaves that are listed, and no dictionaries but those above them. -/
structure Built (leaves : List (List κ × α)) (tree : Tree κ α) : Prop where
  leaf : ∀ path value, tree.look path = some (.leaf value) ↔ (path, value) ∈ leaves
  dict : ∀ path, (∃ entries, tree.look path = some (.dict entries)) ↔
    path = [] ∨ ∃ key below value, (path ++ key :: below, value) ∈ leaves

theorem equal_of_look {first second : Tree κ α}
    (leaf : ∀ path value, first.look path = some (.leaf value) ↔
      second.look path = some (.leaf value))
    (dict : ∀ path, (∃ entries, first.look path = some (.dict entries)) ↔
      ∃ entries, second.look path = some (.dict entries)) : Equal first second := by
  induction first using Tree.induct generalizing second with
  | leaf value =>
      have same := (leaf [] value).mp (look_nil _)
      rw [look_nil, Option.some.injEq] at same
      exact same ▸ .leaf value
  | dict first each =>
      obtain ⟨second, same⟩ := (dict []).mp ⟨first, look_nil _⟩
      rw [look_nil, Option.some.injEq] at same
      subst same
      have there : ∀ (entries : List (κ × Tree κ α)) key, key ∈ Assoc.keys entries ↔
          (∃ value, (Tree.dict entries).look [key] = some (.leaf value)) ∨
            ∃ inner, (Tree.dict entries).look [key] = some (.dict inner) := by
        intro entries key
        rw [← not_iff_not, ← Assoc.get?_eq_none_iff]
        cases present : Assoc.get? entries key with
        | none => simp [present]
        | some tree => cases tree <;> simp [present]
      refine .dict (fun key => ?_) fun key one other present presentOther => ?_
      · rw [there, there, dict]
        simp only [leaf]
      · refine each (key, one) (Assoc.mem_of_get? present) (fun path value => ?_) fun path => ?_
        · have here := leaf (key :: path) value
          rw [look_dict, look_dict, present, presentOther] at here
          exact here
        · have here := dict (key :: path)
          rw [look_dict, look_dict, present, presentOther] at here
          exact here

theorem Built.equal {leaves : List (List κ × α)} {first second : Tree κ α}
    (built : Built leaves first) (again : Built leaves second) : Equal first second :=
  equal_of_look (fun path value => (built.leaf path value).trans (again.leaf path value).symm)
    fun path => (built.dict path).trans (again.dict path).symm

omit [DecidableEq κ] in
theorem mem_leaves_congr {leaves others : List (List κ × α)}
    (same : ∀ leaf, leaf ∈ leaves ↔ leaf ∈ others) (path : List κ) :
    (∃ key below value, (path ++ key :: below, value) ∈ leaves) ↔
      ∃ key below value, (path ++ key :: below, value) ∈ others := by
  simp only [same]

theorem Built.congr {leaves others : List (List κ × α)} {tree : Tree κ α}
    (built : Built leaves tree) (same : ∀ leaf, leaf ∈ leaves ↔ leaf ∈ others) :
    Built others tree where
  leaf path value := (built.leaf path value).trans (same _)
  dict path := (built.dict path).trans (or_congr_right (mem_leaves_congr same path))

theorem look_branch_append (above below : List κ) (value : α) :
    (branch (above ++ below) value).look above = some (branch below value) := by
  induction above with
  | nil => exact look_nil _
  | cons key above later =>
      rw [List.cons_append, branch, look_dict, Assoc.get?, if_pos rfl]
      exact later

/-- A branch has nothing elsewhere. -/
theorem not_touches_branch {path other : List κ} {value : α} (above : ¬ other <+: path)
    (below : ¬ path <+: other) : ¬ (branch path value).Touches other := by
  have found : ∀ place tree, (branch path value).look place = some tree →
      place <+: path := by
    intro place tree there
    clear above below
    induction path generalizing place with
    | nil =>
        cases place with
        | nil => exact List.nil_prefix
        | cons key place => cases there
    | cons key path later =>
        cases place with
        | nil => exact List.nil_prefix
        | cons first place =>
            rw [branch, look_dict, Assoc.get?] at there
            split at there
            · rename_i same
              exact same ▸ (List.prefix_cons_inj key).mpr (later place there)
            · cases there
  rintro (defined | ⟨place, inside, old, there⟩)
  · obtain ⟨tree, there⟩ := Option.isSome_iff_exists.mp defined
    exact above (found other tree there)
  · obtain ⟨rest, rfl⟩ := found place _ there
    rw [look_branch_append] at there
    cases rest with
    | nil => exact below (by rw [List.append_nil]; exact inside)
    | cons key rest => cases there

/-- A tree after a branch has been merged into it. -/
theorem look_mergeOnto_branch (tree : Tree κ α) (path other : List κ) (value : α) :
    ((branch path value).mergeOnto (some tree)).look other =
      if other <+: path then
        some ((branch (path.drop other.length) value).mergeOnto (tree.look other))
      else if path <+: other then none
      else tree.look other := by
  have wellFormed := branch_wellFormed path value
  split_ifs with above below
  · obtain ⟨rest, rfl⟩ := above
    rw [look_mergeOnto wellFormed _ (look_branch_append other rest value), List.drop_left]
    rfl
  · -- the value is above
    have leaf : ((branch path value).mergeOnto (some tree)).look path = some (.leaf value) := by
      have here := look_branch_append path [] value
      rw [List.append_nil] at here
      rw [look_mergeOnto wellFormed _ here]
      rfl
    cases there : ((branch path value).mergeOnto (some tree)).look other with
    | none => rfl
    | some found =>
        exact absurd (look_of_leaf_above below leaf there ▸ List.prefix_refl _) above
  · exact look_mergeOnto_of_not_touches wellFormed _ (not_touches_branch above below)

/-- A value comes in at a path that no other leaf is on. -/
theorem Built.branch {leaves : List (List κ × α)} {tree : Tree κ α} (built : Built leaves tree)
    {path : List κ} {value : α} (inside : path ≠ [])
    (apart : ∀ leaf ∈ leaves, leaf.1 <+: path ∨ path <+: leaf.1 → leaf = (path, value)) :
    Built ((path, value) :: leaves) ((Tree.branch path value).mergeOnto (some tree)) := by
  have longer : ∀ (above : List κ) key below, above ++ key :: below ≠ above := by
    intro above key below same
    simpa using congrArg List.length same
  have onPath : ∀ {other : List κ} {old : α}, (other, old) ∈ (path, value) :: leaves →
      other <+: path ∨ path <+: other → (other, old) = (path, value) := by
    intro other old member related
    rcases List.mem_cons.mp member with same | member
    · exact same
    · exact apart _ member related
  constructor
  case leaf =>
    intro other old
    rw [look_mergeOnto_branch]
    split_ifs with above below
    · obtain ⟨rest, rfl⟩ := above
      rw [List.drop_left]
      cases rest with
      | nil =>
          rw [List.append_nil] at apart onPath ⊢
          constructor
          · rintro same
            cases same
            exact List.mem_cons_self
          · intro member
            cases onPath member (.inl (List.prefix_refl _))
            rfl
      | cons key rest =>
          obtain ⟨entries, merged⟩ := mergeOnto_dict [(key, Tree.branch rest value)] (tree.look other)
          rw [Tree.branch, merged]
          constructor
          · intro same
            cases same
          · intro member
            have same := congrArg Prod.fst (onPath member (.inl ⟨_, rfl⟩))
            exact absurd same.symm (longer _ _ _)
    · constructor
      · intro same
        cases same
      · intro member
        cases onPath member (.inr below)
        exact absurd (List.prefix_refl _) above
    · rw [built.leaf, List.mem_cons]
      refine ⟨.inr, fun member => member.resolve_left ?_⟩
      intro same
      cases same
      exact above (List.prefix_refl _)
  case dict =>
    intro other
    rw [look_mergeOnto_branch]
    split_ifs with above below
    · obtain ⟨rest, rfl⟩ := above
      rw [List.drop_left]
      cases rest with
      | nil =>
          rw [List.append_nil] at inside onPath ⊢
          constructor
          · rintro ⟨entries, same⟩
            cases same
          · rintro (same | ⟨key, below, old, member⟩)
            · exact absurd same inside
            · have same := congrArg Prod.fst (onPath member (.inr ⟨_, rfl⟩))
              exact absurd same (longer _ _ _)
      | cons key rest =>
          obtain ⟨entries, merged⟩ := mergeOnto_dict [(key, Tree.branch rest value)] (tree.look other)
          rw [Tree.branch, merged]
          exact ⟨fun _ => .inr ⟨key, rest, value, List.mem_cons_self⟩, fun _ => ⟨entries, rfl⟩⟩
    · constructor
      · rintro ⟨entries, same⟩
        cases same
      · rintro (rfl | ⟨key, rest, old, member⟩)
        · exact absurd List.nil_prefix above
        · have same := congrArg Prod.fst
            (onPath member (.inr (below.trans (List.prefix_append _ _))))
          exact absurd ⟨_, same⟩ above
    · rw [built.dict]
      refine or_congr_right ⟨?_, ?_⟩
      · rintro ⟨key, rest, old, member⟩
        exact ⟨key, rest, old, List.mem_cons_of_mem _ member⟩
      · rintro ⟨key, rest, old, member⟩
        rcases List.mem_cons.mp member with same | member
        · exact absurd ⟨_, congrArg Prod.fst same⟩ above
        · exact ⟨key, rest, old, member⟩

theorem eq_of_look_leaf {tree : Tree κ α} {one other : List κ × α}
    (leaf : tree.look one.1 = some (.leaf one.2)) (leafOther : tree.look other.1 = some (.leaf other.2))
    (related : one.1 <+: other.1 ∨ other.1 <+: one.1) : one = other := by
  have same : one.1 = other.1 := by
    rcases related with inside | inside
    · exact (look_of_leaf_above inside leaf leafOther).symm
    · exact look_of_leaf_above inside leafOther leaf
  rw [same, leafOther, Option.some.injEq, Tree.leaf.injEq] at leaf
  exact Prod.ext same leaf.symm

theorem built_nil : Built ([] : List (List κ × α)) (.dict []) where
  leaf path value := by cases path <;> simp [Assoc.get?]
  dict path := by cases path <;> simp [Assoc.get?]

/-- No dictionary inside the tree is empty. -/
inductive Full : Tree κ α → Prop
  | leaf (value : α) : Full (.leaf value)
  | dict {entries : List (κ × Tree κ α)} (nonempty : entries ≠ [])
      (inner : ∀ entry ∈ entries, Full entry.2) : Full (.dict entries)

theorem Full.exists_leaf {tree : Tree κ α} (full : tree.Full) :
    ∃ path value, tree.look path = some (.leaf value) := by
  induction full with
  | leaf value => exact ⟨[], value, look_nil _⟩
  | @dict entries nonempty _ each =>
      obtain ⟨entry, rest, rfl⟩ := List.exists_cons_of_ne_nil nonempty
      obtain ⟨path, value, leaf⟩ := each entry List.mem_cons_self
      refine ⟨entry.1 :: path, value, ?_⟩
      rw [look_dict, Assoc.get?, if_pos rfl]
      exact leaf

theorem Full.look {tree found : Tree κ α} (full : tree.Full) {path : List κ}
    (there : tree.look path = some found) : found.Full := by
  induction path generalizing tree with
  | nil =>
      rw [look_nil, Option.some.injEq] at there
      exact there ▸ full
  | cons key path later =>
      cases full with
      | leaf value => cases there
      | dict _ inner =>
          obtain ⟨tree, present, there⟩ := Option.bind_eq_some_iff.mp there
          exact later (inner _ (Assoc.mem_of_get? present)) there

theorem built_of_full {entries : List (κ × Tree κ α)} (full : ∀ entry ∈ entries, entry.2.Full)
    {leaves : List (List κ × α)}
    (listed : ∀ path value, (path, value) ∈ leaves ↔
      (Tree.dict entries).look path = some (.leaf value)) : Built leaves (.dict entries) where
  leaf path value := (listed path value).symm
  dict path := by
    constructor
    · rintro ⟨inner, there⟩
      cases path with
      | nil => exact .inl rfl
      | cons key path =>
          obtain ⟨tree, present, below⟩ := Option.bind_eq_some_iff.mp there
          have fullInner := (full _ (Assoc.mem_of_get? present)).look below
          obtain ⟨rest, value, leaf⟩ := fullInner.exists_leaf
          cases rest with
          | nil => cases leaf
          | cons next rest =>
              refine .inr ⟨next, rest, value, (listed _ _).mpr ?_⟩
              rw [look_append, there, Option.bind_some, leaf]
    · rintro (rfl | ⟨key, below, value, member⟩)
      · exact ⟨entries, look_nil _⟩
      · have leaf := (listed _ _).mp member
        rw [look_append] at leaf
        obtain ⟨tree, there, leaf⟩ := Option.bind_eq_some_iff.mp leaf
        cases tree with
        | leaf old => cases leaf
        | dict inner => exact ⟨inner, there⟩

/-! Trees with other keys and values. -/

section Maps

variable {ν β : Type}

mutual

def map (rename : κ → ν) (change : α → β) : Tree κ α → Tree ν β
  | .leaf old => .leaf (change old)
  | .dict entries => .dict (mapEntries rename change entries)

def mapEntries (rename : κ → ν) (change : α → β) : List (κ × Tree κ α) → List (ν × Tree ν β)
  | [] => []
  | (first, tree) :: rest => (rename first, tree.map rename change) :: mapEntries rename change rest

end

variable [DecidableEq ν] {rename : κ → ν} {change : α → β}

theorem get?_mapEntries (distinct : Function.Injective rename) (entries : List (κ × Tree κ α))
    (other : ν) (tree : Tree ν β) :
    Assoc.get? (mapEntries rename change entries) other = some tree ↔
      ∃ first inner, other = rename first ∧ tree = inner.map rename change ∧
        Assoc.get? entries first = some inner := by
  induction entries with
  | nil => simp [mapEntries, Assoc.get?]
  | cons entry rest later =>
      obtain ⟨first, inner⟩ := entry
      rw [mapEntries, Assoc.get?]
      split_ifs with same
      · subst same
        constructor
        · rintro same
          cases same
          exact ⟨first, inner, rfl, rfl, if_pos rfl⟩
        · rintro ⟨again, found, same, rfl, present⟩
          rw [← distinct same, Assoc.get?, if_pos rfl] at present
          exact congrArg (some <| Tree.map rename change ·) (Option.some.inj present)
      · rw [later]
        constructor
        · rintro ⟨again, found, rfl, rfl, present⟩
          refine ⟨again, found, rfl, rfl, ?_⟩
          rw [Assoc.get?, if_neg (fun equal => same (congrArg rename equal)), present]
        · rintro ⟨again, found, rfl, rfl, present⟩
          rw [Assoc.get?, if_neg (fun equal => same (congrArg rename equal))] at present
          exact ⟨again, found, rfl, rfl, present⟩

theorem look_map (distinct : Function.Injective rename) (tree : Tree κ α) (path : List ν)
    (found : Tree ν β) :
    (tree.map rename change).look path = some found ↔
      ∃ old inner, path = old.map rename ∧ found = inner.map rename change ∧
        tree.look old = some inner := by
  induction path generalizing tree with
  | nil =>
      rw [look_nil, Option.some.injEq]
      constructor
      · rintro rfl
        exact ⟨[], tree, rfl, rfl, look_nil _⟩
      · rintro ⟨old, inner, same, rfl, there⟩
        obtain rfl := List.map_eq_nil_iff.mp same.symm
        rw [look_nil, Option.some.injEq] at there
        rw [there]
  | cons first path later =>
      cases tree with
      | leaf old =>
          constructor
          · intro there
            cases there
          · rintro ⟨old, inner, same, _, there⟩
            cases old with
            | nil => cases same
            | cons key old => cases there
      | dict entries =>
          rw [map, look_dict, Option.bind_eq_some_iff]
          constructor
          · rintro ⟨tree, present, there⟩
            obtain ⟨key, inner, rfl, rfl, old⟩ := (get?_mapEntries distinct _ _ _).mp present
            obtain ⟨below, deepest, rfl, rfl, behind⟩ := (later inner).mp there
            refine ⟨key :: below, deepest, rfl, rfl, ?_⟩
            rw [look_dict, old, Option.bind_some, behind]
          · rintro ⟨old, deepest, same, rfl, there⟩
            cases old with
            | nil => cases same
            | cons key old =>
                cases same
                obtain ⟨inner, present, there⟩ := Option.bind_eq_some_iff.mp there
                exact ⟨_, (get?_mapEntries distinct _ _ _).mpr ⟨key, inner, rfl, rfl, present⟩,
                  (later inner).mpr ⟨old, deepest, rfl, rfl, there⟩⟩

theorem Built.map {leaves : List (List κ × α)} {tree : Tree κ α}
    (distinct : Function.Injective rename) (built : Built leaves tree) :
    Built (leaves.map fun leaf => (leaf.1.map rename, change leaf.2)) (tree.map rename change) where
  leaf path value := by
    rw [look_map distinct, List.mem_map]
    constructor
    · rintro ⟨old, inner, rfl, same, there⟩
      cases inner with
      | leaf found =>
          cases same
          exact ⟨(old, found), (built.leaf _ _).mp there, rfl⟩
      | dict entries => cases same
    · rintro ⟨⟨old, found⟩, member, same⟩
      cases same
      exact ⟨old, .leaf found, rfl, rfl, (built.leaf _ _).mpr member⟩
  dict path := by
    constructor
    · rintro ⟨entries, there⟩
      obtain ⟨old, inner, rfl, same, there⟩ := (look_map distinct _ _ _).mp there
      cases inner with
      | leaf found => cases same
      | dict inner =>
          rcases (built.dict old).mp ⟨inner, there⟩ with rfl | ⟨key, below, value, member⟩
          · exact .inl rfl
          · refine .inr ⟨rename key, below.map rename, change value, ?_⟩
            have mapped := List.mem_map_of_mem (f := fun leaf : List κ × α =>
              (leaf.1.map rename, change leaf.2)) member
            rw [List.map_append, List.map_cons] at mapped
            exact mapped
    · intro above
      have found : ∃ old, path = old.map rename ∧
          (old = [] ∨ ∃ key below value, (old ++ key :: below, value) ∈ leaves) := by
        rcases above with rfl | ⟨key, below, value, member⟩
        · exact ⟨[], rfl, .inl rfl⟩
        · obtain ⟨⟨whole, found⟩, listed, same⟩ := List.mem_map.mp member
          obtain ⟨old, rest, rfl, rfl, behind⟩ := List.map_eq_append_iff.mp (congrArg Prod.fst same)
          obtain ⟨first, inner, rfl, _, _⟩ := List.map_eq_cons_iff.mp behind
          exact ⟨old, rfl, .inr ⟨first, inner, found, listed⟩⟩
      obtain ⟨old, rfl, aboveOld⟩ := found
      obtain ⟨entries, there⟩ := (built.dict old).mpr aboveOld
      exact ⟨_, (look_map distinct _ _ _).mpr ⟨old, .dict entries, rfl, rfl, there⟩⟩

end Maps

end Tree

end Daq
