import Mathlib.Data.List.Induction

namespace Daq

/-! Nested dictionaries. The entries of a dictionary are kept in the order in which their keys
came, as in `Dict`, which cannot be nested. -/

inductive Tree (κ α : Type) where
  | leaf (value : α)
  | dict (entries : List (κ × Tree κ α))

namespace Assoc

variable {κ ν : Type} [DecidableEq κ]

def keys (entries : List (κ × ν)) : List κ := entries.map Prod.fst

def get? : List (κ × ν) → κ → Option ν
  | [], _ => none
  | (other, value) :: rest, key => if other = key then some value else get? rest key

/-- A key that is there already keeps its place. -/
def set : List (κ × ν) → κ → ν → List (κ × ν)
  | [], key, value => [(key, value)]
  | (other, old) :: rest, key, value =>
      if other = key then (key, value) :: rest else (other, old) :: set rest key value

theorem get?_set (entries : List (κ × ν)) (key other : κ) (value : ν) :
    get? (set entries key value) other = if key = other then some value else get? entries other := by
  induction entries with
  | nil => rfl
  | cons entry rest later =>
      obtain ⟨first, old⟩ := entry
      rw [set]
      by_cases here : first = key
      · subst here
        rw [if_pos rfl, get?, get?]
        split <;> rfl
      · rw [if_neg here, get?, get?, later]
        by_cases found : first = other
        · subst found
          rw [if_pos rfl, if_pos rfl, if_neg (Ne.symm here)]
        · rw [if_neg found, if_neg found]

@[simp] theorem get?_set_self (entries : List (κ × ν)) (key : κ) (value : ν) :
    get? (set entries key value) key = some value := by
  rw [get?_set, if_pos rfl]

theorem get?_set_of_ne (entries : List (κ × ν)) {key other : κ} (value : ν)
    (different : key ≠ other) : get? (set entries key value) other = get? entries other := by
  rw [get?_set, if_neg different]

theorem set_get? {entries : List (κ × ν)} {key : κ} {value : ν}
    (present : get? entries key = some value) : set entries key value = entries := by
  induction entries with
  | nil => cases present
  | cons entry rest later =>
      obtain ⟨first, old⟩ := entry
      rw [get?] at present
      rw [set]
      split at present
      · rename_i here
        rw [if_pos here, here, Option.some.inj present]
      · rename_i elsewhere
        rw [if_neg elsewhere, later present]

theorem get?_eq_none_iff {entries : List (κ × ν)} {key : κ} :
    get? entries key = none ↔ key ∉ keys entries := by
  induction entries with
  | nil => simp [get?, keys]
  | cons entry rest later =>
      obtain ⟨first, old⟩ := entry
      rw [get?, keys, List.map_cons, List.mem_cons, not_or, ← keys, ← later]
      by_cases here : first = key
      · simp [here]
      · simp [here, Ne.symm here]

theorem mem_of_get? {entries : List (κ × ν)} {key : κ} {value : ν}
    (present : get? entries key = some value) : (key, value) ∈ entries := by
  induction entries with
  | nil => cases present
  | cons entry rest later =>
      obtain ⟨first, old⟩ := entry
      rw [get?] at present
      split at present
      · rename_i here
        rw [here, Option.some.inj present]
        exact List.mem_cons_self
      · exact List.mem_cons_of_mem _ (later present)

theorem get?_of_mem {entries : List (κ × ν)} (distinct : (keys entries).Nodup) {key : κ} {value : ν}
    (member : (key, value) ∈ entries) : get? entries key = some value := by
  induction entries with
  | nil => cases member
  | cons entry rest later =>
      obtain ⟨first, old⟩ := entry
      obtain ⟨fresh, distinct⟩ := List.nodup_cons.mp distinct
      rw [get?]
      rcases List.mem_cons.mp member with here | member
      · cases here
        rw [if_pos rfl]
      · rw [if_neg, later distinct member]
        have listed : key ∈ rest.map Prod.fst := List.mem_map_of_mem (f := Prod.fst) member
        rintro rfl
        exact fresh listed

theorem mem_keys_set {entries : List (κ × ν)} {key other : κ} {value : ν} :
    other ∈ keys (set entries key value) ↔ other ∈ keys entries ∨ other = key := by
  rw [← not_iff_not, ← get?_eq_none_iff, get?_set, not_or, ← get?_eq_none_iff]
  by_cases same : key = other
  · simp [same]
  · simp [same, Ne.symm same]

theorem nodup_keys_set {entries : List (κ × ν)} (distinct : (keys entries).Nodup) (key : κ)
    (value : ν) : (keys (set entries key value)).Nodup := by
  induction entries with
  | nil => exact List.nodup_cons.mpr ⟨List.not_mem_nil, List.nodup_nil⟩
  | cons entry rest later =>
      obtain ⟨first, old⟩ := entry
      obtain ⟨fresh, behind⟩ := List.nodup_cons.mp distinct
      rw [set]
      split
      · rename_i here
        exact List.nodup_cons.mpr ⟨here ▸ fresh, behind⟩
      · rename_i elsewhere
        refine List.nodup_cons.mpr ⟨?_, later behind⟩
        exact fun member => (mem_keys_set.mp member).elim fresh elsewhere

theorem mem_set {entries : List (κ × ν)} {key : κ} {value : ν} {entry : κ × ν}
    (member : entry ∈ set entries key value) : entry = (key, value) ∨ entry ∈ entries := by
  induction entries with
  | nil => exact .inl (List.mem_singleton.mp member)
  | cons head rest later =>
      obtain ⟨first, old⟩ := head
      rw [set] at member
      split at member
      · exact (List.mem_cons.mp member).imp_right (List.mem_cons_of_mem _)
      · rcases List.mem_cons.mp member with rfl | member
        · exact .inr List.mem_cons_self
        · exact (later member).imp_right (List.mem_cons_of_mem _)

end Assoc

namespace Tree

variable {κ α : Type}

/-- A property of all trees, from the values of a dictionary to the dictionary. -/
theorem induct {motive : Tree κ α → Prop} (leaf : ∀ value, motive (.leaf value))
    (dict : ∀ entries, (∀ entry ∈ entries, motive entry.2) → motive (.dict entries))
    (tree : Tree κ α) : motive tree := by
  refine @Tree.rec κ α motive (fun entries => ∀ entry ∈ entries, motive entry.2)
    (fun entry => motive entry.2) leaf dict ?_ ?_ (fun _ _ inner => inner) tree
  · exact List.forall_mem_nil _
  · intro entry rest here later
    exact List.forall_mem_cons.mpr ⟨here, later⟩

/-- The keys of each dictionary are distinct. -/
inductive WellFormed : Tree κ α → Prop
  | leaf (value : α) : WellFormed (.leaf value)
  | dict {entries : List (κ × Tree κ α)} (distinct : (Assoc.keys entries).Nodup)
      (inner : ∀ entry ∈ entries, WellFormed entry.2) : WellFormed (.dict entries)

mutual

def depth : Tree κ α → Nat
  | .leaf _ => 0
  | .dict entries => depthEntries entries + 1

def depthEntries : List (κ × Tree κ α) → Nat
  | [] => 0
  | (_, tree) :: rest => max tree.depth (depthEntries rest)

end

theorem depth_le_depthEntries {entries : List (κ × Tree κ α)} {entry : κ × Tree κ α}
    (member : entry ∈ entries) : entry.2.depth ≤ depthEntries entries := by
  induction entries with
  | nil => cases member
  | cons head rest later =>
      rw [depthEntries]
      rcases List.mem_cons.mp member with rfl | member
      · exact Nat.le_max_left _ _
      · exact Nat.le_trans (later member) (Nat.le_max_right _ _)

variable [DecidableEq κ]

/-- What there is at the end of a path of keys. -/
def look : Tree κ α → List κ → Option (Tree κ α)
  | tree, [] => some tree
  | .leaf _, _ :: _ => none
  | .dict entries, key :: path => (Assoc.get? entries key).bind fun tree => tree.look path

/-! Deep merge. -/

mutual

/-- Two dictionaries are merged; any other value takes the place of what there is. -/
def mergeOnto : Tree κ α → Option (Tree κ α) → Tree κ α
  | .leaf value, _ => .leaf value
  | .dict adding, some (.dict base) => .dict (mergeEntries adding base)
  | .dict adding, _ => .dict adding

def mergeEntries : List (κ × Tree κ α) → List (κ × Tree κ α) → List (κ × Tree κ α)
  | [], base => base
  | (key, value) :: rest, base =>
      mergeEntries rest (Assoc.set base key (value.mergeOnto (Assoc.get? base key)))

end

/-- No dictionary takes the place of another. -/
theorem mergeOnto_none (adding : Tree κ α) : adding.mergeOnto none = adding := by
  cases adding <;> rfl

theorem mergeOnto_dict (adding : List (κ × Tree κ α)) (base : Option (Tree κ α)) :
    ∃ merged, (Tree.dict adding).mergeOnto base = .dict merged := by
  rcases base with _ | _ | entries
  · exact ⟨adding, rfl⟩
  · exact ⟨adding, rfl⟩
  · exact ⟨mergeEntries adding entries, rfl⟩

theorem get?_mergeEntries {adding : List (κ × Tree κ α)} (distinct : (Assoc.keys adding).Nodup)
    (base : List (κ × Tree κ α)) (key : κ) :
    Assoc.get? (mergeEntries adding base) key =
      match Assoc.get? adding key with
      | none => Assoc.get? base key
      | some value => some (value.mergeOnto (Assoc.get? base key)) := by
  induction adding generalizing base with
  | nil => rfl
  | cons entry rest later =>
      obtain ⟨first, value⟩ := entry
      obtain ⟨fresh, behind⟩ := List.nodup_cons.mp distinct
      rw [mergeEntries, later behind, Assoc.get?]
      by_cases here : first = key
      · subst here
        rw [if_pos rfl, Assoc.get?_eq_none_iff.mpr fresh]
        exact Assoc.get?_set_self _ _ _
      · rw [if_neg here, Assoc.get?_set_of_ne _ _ here]

theorem mem_keys_mergeEntries {adding : List (κ × Tree κ α)}
    (distinct : (Assoc.keys adding).Nodup) (base : List (κ × Tree κ α)) (key : κ) :
    key ∈ Assoc.keys (mergeEntries adding base) ↔
      key ∈ Assoc.keys base ∨ key ∈ Assoc.keys adding := by
  rw [← not_iff_not, not_or, ← Assoc.get?_eq_none_iff, ← Assoc.get?_eq_none_iff,
    ← Assoc.get?_eq_none_iff, get?_mergeEntries distinct]
  cases Assoc.get? adding key <;> simp

@[simp] theorem look_nil (tree : Tree κ α) : tree.look [] = some tree := by
  cases tree <;> rfl

@[simp] theorem look_leaf (value : α) (key : κ) (path : List κ) :
    (Tree.leaf value).look (key :: path) = none := rfl

@[simp] theorem look_dict (entries : List (κ × Tree κ α)) (key : κ) (path : List κ) :
    (Tree.dict entries).look (key :: path) =
      (Assoc.get? entries key).bind fun tree => tree.look path := rfl

theorem WellFormed.of_get? {entries : List (κ × Tree κ α)} (wellFormed : (Tree.dict entries).WellFormed)
    {key : κ} {tree : Tree κ α} (present : Assoc.get? entries key = some tree) :
    tree.WellFormed := by
  cases wellFormed with
  | dict distinct inner => exact inner _ (Assoc.mem_of_get? present)

omit [DecidableEq κ] in
theorem WellFormed.distinct {entries : List (κ × Tree κ α)}
    (wellFormed : (Tree.dict entries).WellFormed) : (Assoc.keys entries).Nodup := by
  cases wellFormed with
  | dict distinct inner => exact distinct

theorem WellFormed.set {entries : List (κ × Tree κ α)} (wellFormed : (Tree.dict entries).WellFormed)
    (key : κ) {tree : Tree κ α} (inner : tree.WellFormed) :
    (Tree.dict (Assoc.set entries key tree)).WellFormed := by
  cases wellFormed with
  | dict distinct each =>
      refine .dict (Assoc.nodup_keys_set distinct key tree) fun entry member => ?_
      rcases Assoc.mem_set member with rfl | member
      · exact inner
      · exact each entry member

omit [DecidableEq κ] in
theorem WellFormed.filter {entries : List (κ × Tree κ α)} (keep : κ × Tree κ α → Bool)
    (wellFormed : (Tree.dict entries).WellFormed) : (Tree.dict (entries.filter keep)).WellFormed := by
  cases wellFormed with
  | dict distinct inner =>
      have sublist := List.filter_sublist (p := keep) (l := entries)
      exact .dict ((sublist.map Prod.fst).nodup distinct) fun entry member =>
        inner entry (sublist.subset member)

/-- Where the added tree has something, it is merged onto what there is. -/
theorem look_mergeOnto {adding : Tree κ α} (wellFormed : adding.WellFormed)
    (base : Option (Tree κ α)) {path : List κ} {value : Tree κ α}
    (added : adding.look path = some value) :
    (adding.mergeOnto base).look path =
      some (value.mergeOnto (base.bind fun base => base.look path)) := by
  induction path generalizing adding base with
  | nil =>
      rw [look_nil, Option.some.injEq] at added
      cases base <;> simp [added]
  | cons key path later =>
      cases adding with
      | leaf old => cases added
      | dict entries =>
          obtain ⟨inner, present, found⟩ := Option.bind_eq_some_iff.mp added
          cases base with
          | none =>
              rw [mergeOnto_none, added]
              exact congrArg some (mergeOnto_none value).symm
          | some base =>
              cases base with
              | leaf old =>
                  exact added.trans (congrArg some (mergeOnto_none value).symm)
              | dict base =>
                  rw [mergeOnto, look_dict, get?_mergeEntries wellFormed.distinct, present]
                  exact later (wellFormed.of_get? present) (Assoc.get? base key) found

/-- The added tree has something at the path, or a value above it that is no dictionary. -/
def Touches (adding : Tree κ α) (path : List κ) : Prop :=
  (adding.look path).isSome ∨
    ∃ above, above <+: path ∧ ∃ value, adding.look above = some (.leaf value)

theorem touches_dict {entries : List (κ × Tree κ α)} {key : κ} {path : List κ} {tree : Tree κ α}
    (present : Assoc.get? entries key = some tree) (touched : tree.Touches path) :
    (Tree.dict entries).Touches (key :: path) := by
  rcases touched with defined | ⟨above, inside, value, found⟩
  · exact .inl (by rw [look_dict, present]; exact defined)
  · exact .inr ⟨key :: above, (List.prefix_cons_inj key).mpr inside, value,
      by rw [look_dict, present]; exact found⟩

/-- Anywhere else the merge leaves what there is. -/
theorem look_mergeOnto_of_not_touches {adding : Tree κ α} (wellFormed : adding.WellFormed)
    (base : Option (Tree κ α)) {path : List κ} (untouched : ¬ adding.Touches path) :
    (adding.mergeOnto base).look path = base.bind fun base => base.look path := by
  induction path generalizing adding base with
  | nil => exact absurd (.inl (by rw [look_nil]; rfl)) untouched
  | cons key path later =>
      cases adding with
      | leaf value => exact absurd (.inr ⟨[], List.nil_prefix, value, look_nil _⟩) untouched
      | dict entries =>
          have undefined : (Tree.dict entries).look (key :: path) = none := by
            rw [← Option.not_isSome_iff_eq_none]
            exact fun defined => untouched (.inl defined)
          cases base with
          | none => exact undefined
          | some base =>
              cases base with
              | leaf old => exact undefined
              | dict base =>
                  rw [mergeOnto, look_dict, get?_mergeEntries wellFormed.distinct]
                  cases present : Assoc.get? entries key with
                  | none => rfl
                  | some tree =>
                      exact later (wellFormed.of_get? present) (Assoc.get? base key)
                        fun touched => untouched (touches_dict present touched)

theorem mergeEntries_eq_self {adding base : List (κ × Tree κ α)}
    (merged : ∀ entry ∈ adding, ∃ tree, Assoc.get? base entry.1 = some tree ∧
      entry.2.mergeOnto (some tree) = tree) :
    mergeEntries adding base = base := by
  induction adding with
  | nil => rfl
  | cons entry rest later =>
      obtain ⟨⟨tree, present, same⟩, behind⟩ := List.forall_mem_cons.mp merged
      rw [mergeEntries, present, same, Assoc.set_get? present, later behind]

/-- A merge that has been made changes nothing if it is made again. -/
theorem mergeOnto_again {adding : Tree κ α} (wellFormed : adding.WellFormed)
    (base : Option (Tree κ α)) :
    adding.mergeOnto (some (adding.mergeOnto base)) = adding.mergeOnto base := by
  induction wellFormed generalizing base with
  | leaf value => rfl
  | @dict entries distinct inner later =>
      have onto : ∀ base, mergeEntries entries (mergeEntries entries base) = mergeEntries entries base := by
        intro base
        apply mergeEntries_eq_self
        intro entry member
        refine ⟨entry.2.mergeOnto (Assoc.get? base entry.1), ?_, later entry member _⟩
        rw [get?_mergeEntries distinct, Assoc.get?_of_mem distinct member]
      have self : mergeEntries entries entries = entries := by
        apply mergeEntries_eq_self
        intro entry member
        have again := later entry member none
        rw [mergeOnto_none] at again
        exact ⟨entry.2, Assoc.get?_of_mem distinct member, again⟩
      cases base with
      | none => exact congrArg Tree.dict self
      | some base =>
          cases base with
          | leaf old => exact congrArg Tree.dict self
          | dict base => exact congrArg Tree.dict (onto base)

/-- What a deep merge of dictionaries has at each path. -/
structure MergeLaw (base adding result : Tree κ α) : Prop where
  leaf : ∀ path value, adding.look path = some (.leaf value) →
    result.look path = some (.leaf value)
  new : ∀ path added, adding.look path = some (.dict added) →
    (∀ old, base.look path ≠ some (.dict old)) → result.look path = some (.dict added)
  both : ∀ path added old, adding.look path = some (.dict added) →
    base.look path = some (.dict old) →
    result.look path = some (.dict (mergeEntries added old)) ∧
      ∀ key, key ∈ Assoc.keys (mergeEntries added old) ↔
        key ∈ Assoc.keys old ∨ key ∈ Assoc.keys added
  rest : ∀ path, adding.look path = none →
    (∀ above, above <+: path → ∀ value, adding.look above ≠ some (.leaf value)) →
    result.look path = base.look path

theorem WellFormed.look {tree found : Tree κ α} (wellFormed : tree.WellFormed) {path : List κ}
    (there : tree.look path = some found) : found.WellFormed := by
  induction path generalizing tree with
  | nil =>
      rw [look_nil, Option.some.injEq] at there
      exact there ▸ wellFormed
  | cons key path later =>
      cases tree with
      | leaf value => cases there
      | dict entries =>
          obtain ⟨inner, present, there⟩ := Option.bind_eq_some_iff.mp there
          exact later (wellFormed.of_get? present) there

theorem mergeLaw {adding : Tree κ α} (wellFormed : adding.WellFormed) (base : Tree κ α) :
    MergeLaw base adding (adding.mergeOnto (some base)) where
  leaf path value added := look_mergeOnto wellFormed (some base) added
  new path added there none := by
    rw [look_mergeOnto wellFormed (some base) there, Option.bind_some]
    cases old : base.look path with
    | none => exact congrArg some (mergeOnto_none _)
    | some tree =>
        cases tree with
        | leaf value => rfl
        | dict entries => exact absurd old (none entries)
  both path added old there before := by
    rw [look_mergeOnto wellFormed (some base) there, Option.bind_some, before]
    exact ⟨rfl, mem_keys_mergeEntries (wellFormed.look there).distinct old⟩
  rest path undefined plain := by
    apply look_mergeOnto_of_not_touches wellFormed
    rintro (defined | ⟨above, inside, value, found⟩)
    · rw [undefined] at defined
      cases defined
    · exact plain above inside value found

/-! Merges one after another. -/

theorem look_append (tree : Tree κ α) (above below : List κ) :
    tree.look (above ++ below) = (tree.look above).bind fun inner => inner.look below := by
  induction above generalizing tree with
  | nil => simp
  | cons key above later =>
      cases tree with
      | leaf value => rfl
      | dict entries =>
          rw [List.cons_append, look_dict, look_dict, Option.bind_assoc]
          exact congrArg _ (funext later)

theorem look_of_leaf_above {tree : Tree κ α} {above path : List κ} {value : α} {found : Tree κ α}
    (inside : above <+: path) (leaf : tree.look above = some (.leaf value))
    (there : tree.look path = some found) : path = above := by
  obtain ⟨below, rfl⟩ := inside
  rw [look_append, leaf, Option.bind_some] at there
  cases below with
  | nil => exact List.append_nil above
  | cons key below => cases there

theorem look_foldl_of_not_touches {layers : List (List (κ × Tree κ α))}
    (wellFormed : ∀ layer ∈ layers, (Tree.dict layer).WellFormed) {path : List κ}
    (untouched : ∀ layer ∈ layers, ¬ (Tree.dict layer).Touches path) (base : List (κ × Tree κ α)) :
    (Tree.dict (layers.foldl (fun base layer => mergeEntries layer base) base)).look path =
      (Tree.dict base).look path := by
  induction layers generalizing base with
  | nil => rfl
  | cons layer rest later =>
      obtain ⟨wellFormedHere, wellFormedRest⟩ := List.forall_mem_cons.mp wellFormed
      obtain ⟨untouchedHere, untouchedRest⟩ := List.forall_mem_cons.mp untouched
      rw [List.foldl_cons, later wellFormedRest untouchedRest]
      exact look_mergeOnto_of_not_touches wellFormedHere (some (.dict base)) untouchedHere

/-- A value that comes from merges comes from them whatever there was before. -/
theorem look_foldl_of_leaf {layers : List (List (κ × Tree κ α))}
    (wellFormed : ∀ layer ∈ layers, (Tree.dict layer).WellFormed) {path : List κ} {value : α}
    (leaf : (Tree.dict (layers.foldl (fun base layer => mergeEntries layer base) [])).look path =
      some (.leaf value)) (base : List (κ × Tree κ α)) :
    (Tree.dict (layers.foldl (fun base layer => mergeEntries layer base) base)).look path =
      some (.leaf value) := by
  induction layers using List.reverseRecOn with
  | nil => cases path <;> cases leaf
  | append_singleton layers layer earlier =>
      obtain ⟨wellFormedEarlier, wellFormedHere⟩ := List.forall_mem_append.mp wellFormed
      have wellFormedLayer := wellFormedHere layer (List.mem_singleton.mpr rfl)
      have onto : ∀ base : List (κ × Tree κ α),
          Tree.dict (mergeEntries layer base) = (Tree.dict layer).mergeOnto (some (.dict base)) :=
        fun _ => rfl
      rw [List.foldl_append, List.foldl_cons, List.foldl_nil, onto] at leaf ⊢
      by_cases touched : (Tree.dict layer).Touches path
      · -- the last layer decides
        have defined : ∃ found, (Tree.dict layer).look path = some found := by
          rcases touched with defined | ⟨above, inside, old, found⟩
          · exact Option.isSome_iff_exists.mp defined
          · have above := look_of_leaf_above inside (look_mergeOnto wellFormedLayer _ found) leaf
            exact ⟨_, above ▸ found⟩
        obtain ⟨found, added⟩ := defined
        rw [look_mergeOnto wellFormedLayer _ added] at leaf ⊢
        cases found with
        | leaf value => exact leaf
        | dict inner =>
            obtain ⟨merged, same⟩ := mergeOnto_dict inner _
            rw [same] at leaf
            cases leaf
      · rw [look_mergeOnto_of_not_touches wellFormedLayer _ touched, Option.bind_some] at leaf ⊢
        exact earlier wellFormedEarlier leaf

end Tree

end Daq
