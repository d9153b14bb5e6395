import Mathlib.Data.List.Nodup
import Mathlib.Data.List.Perm.Subperm

namespace Daq

/-- A dictionary that iterates in insertion order.  Assigning to a key that is
present keeps its position. -/
structure Dict (κ ν : Type) where
  entries : List (κ × ν)
  nodup : (entries.map Prod.fst).Nodup

namespace Dict

variable {κ ν : Type}

theorem mem_entries_unique {dict : Dict κ ν} {key : κ} {first second : ν}
    (firstMember : (key, first) ∈ dict.entries)
    (secondMember : (key, second) ∈ dict.entries) : first = second := by
  have equality := List.inj_on_of_nodup_map dict.nodup firstMember secondMember rfl
  exact congrArg Prod.snd equality

theorem ext_entries {first second : Dict κ ν} (same : first.entries = second.entries) :
    first = second := by
  cases first
  cases second
  cases same
  rfl

def keys (dict : Dict κ ν) : List κ := dict.entries.map Prod.fst

def values (dict : Dict κ ν) : List ν := dict.entries.map Prod.snd

def size (dict : Dict κ ν) : Nat := dict.entries.length

def empty : Dict κ ν where
  entries := []
  nodup := List.nodup_nil

/-- The same keys in the same order with other values. -/
def mapValues {μ : Type} (dict : Dict κ ν) (change : κ → ν → μ) : Dict κ μ where
  entries := dict.entries.map fun entry => (entry.1, change entry.1 entry.2)
  nodup := by
    rw [List.map_map]
    exact dict.nodup

theorem entries_mapValues {μ : Type} (dict : Dict κ ν) (change : κ → ν → μ) :
    (dict.mapValues change).entries = dict.entries.map fun entry => (entry.1, change entry.1 entry.2) :=
  rfl

theorem keys_mapValues {μ : Type} (dict : Dict κ ν) (change : κ → ν → μ) :
    (dict.mapValues change).keys = dict.keys :=
  List.map_map

theorem mapValues_mapValues {μ ξ : Type} (dict : Dict κ ν) (first : κ → ν → μ) (second : κ → μ → ξ) :
    (dict.mapValues first).mapValues second =
      dict.mapValues fun key value => second key (first key value) :=
  ext_entries List.map_map

/-- Go through entries with a running state and put in place of each value what the step
makes of it. -/
def mapAccumEntries {σ : Type} (step : σ → κ → ν → σ × ν) :
    σ → List (κ × ν) → σ × List (κ × ν)
  | state, [] => (state, [])
  | state, (key, value) :: rest =>
      let stepped := step state key value
      let behind := mapAccumEntries step stepped.1 rest
      (behind.1, (key, stepped.2) :: behind.2)

theorem map_fst_mapAccumEntries {σ : Type} (step : σ → κ → ν → σ × ν) (state : σ)
    (entries : List (κ × ν)) :
    (mapAccumEntries step state entries).2.map Prod.fst = entries.map Prod.fst := by
  induction entries generalizing state with
  | nil => rfl
  | cons entry rest later => simp [mapAccumEntries, later]

/-- A `for` loop over the items of a dictionary that changes their values in place. -/
def mapAccum {σ : Type} (dict : Dict κ ν) (step : σ → κ → ν → σ × ν) (state : σ) :
    σ × Dict κ ν :=
  ((mapAccumEntries step state dict.entries).1,
    { entries := (mapAccumEntries step state dict.entries).2
      nodup := by
        rw [map_fst_mapAccumEntries]
        exact dict.nodup })

variable [DecidableEq κ]

def get? (dict : Dict κ ν) (key : κ) : Option ν :=
  (dict.entries.find? fun entry => decide (entry.1 = key)).map Prod.snd

private theorem map_fst_replace (entries : List (κ × ν)) (key : κ) (value : ν) :
    (entries.map fun entry => if entry.1 = key then (key, value) else entry).map
      Prod.fst = entries.map Prod.fst := by
  rw [List.map_map]
  apply List.map_congr_left
  intro entry _
  by_cases same : entry.1 = key
  · simp [same]
  · simp [same]

def insert (dict : Dict κ ν) (key : κ) (value : ν) : Dict κ ν :=
  if present : key ∈ dict.keys then
    { entries := dict.entries.map fun entry =>
        if entry.1 = key then (key, value) else entry
      nodup := by
        rw [map_fst_replace]
        exact dict.nodup }
  else
    { entries := dict.entries ++ [(key, value)]
      nodup := by
        rw [List.map_append, List.nodup_append]
        refine ⟨dict.nodup, by simp, ?_⟩
        intro left leftMember right rightMember equality
        simp only [List.map_cons, List.map_nil, List.mem_singleton] at rightMember
        subst rightMember
        subst equality
        exact present leftMember }

def erase (dict : Dict κ ν) (key : κ) : Dict κ ν where
  entries := dict.entries.filter fun entry => decide (entry.1 ≠ key)
  nodup := (List.filter_sublist.map Prod.fst).nodup dict.nodup

theorem get?_eq_some_iff {dict : Dict κ ν} {key : κ} {value : ν} :
    dict.get? key = some value ↔ (key, value) ∈ dict.entries := by
  unfold get?
  rw [Option.map_eq_some_iff]
  constructor
  · rintro ⟨⟨found, stored⟩, search, equality⟩
    have same : found = key := by simpa using List.find?_some search
    have member := List.mem_of_find?_eq_some search
    subst equality
    exact same ▸ member
  · intro member
    cases search : dict.entries.find? fun entry => decide (entry.1 = key) with
    | none =>
        have absent := List.find?_eq_none.mp search _ member
        simp at absent
    | some entry =>
        obtain ⟨found, stored⟩ := entry
        have same : found = key := by simpa using List.find?_some search
        subst same
        exact ⟨(found, stored), rfl,
          mem_entries_unique (List.mem_of_find?_eq_some search) member⟩

theorem get?_eq_none_iff {dict : Dict κ ν} {key : κ} :
    dict.get? key = none ↔ key ∉ dict.keys := by
  rw [Option.eq_none_iff_forall_ne_some]
  simp only [ne_eq, get?_eq_some_iff, keys, List.mem_map, Prod.exists,
    exists_and_right, exists_eq_right, not_exists]

theorem mem_keys_iff {dict : Dict κ ν} {key : κ} :
    key ∈ dict.keys ↔ ∃ value, dict.get? key = some value := by
  simp only [get?_eq_some_iff, keys, List.mem_map, Prod.exists,
    exists_and_right, exists_eq_right]

theorem mem_values_iff {dict : Dict κ ν} {value : ν} :
    value ∈ dict.values ↔ ∃ key, dict.get? key = some value := by
  simp only [get?_eq_some_iff, values, List.mem_map, Prod.exists, exists_eq_right]

/-- What one key has, gathered from all entries. -/
theorem flatMap_entries {α : Type} (dict : Dict κ ν) (key : κ) (part : ν → List α) :
    dict.entries.flatMap (fun entry => if entry.1 = key then part entry.2 else []) =
      (dict.get? key).elim [] part := by
  have gathered : ∀ entries : List (κ × ν), (entries.map Prod.fst).Nodup →
      entries.flatMap (fun entry => if entry.1 = key then part entry.2 else []) =
        ((entries.find? fun entry => decide (entry.1 = key)).map Prod.snd).elim [] part := by
    intro entries distinct
    induction entries with
    | nil => rfl
    | cons entry rest later =>
        rw [List.map_cons, List.nodup_cons] at distinct
        rw [List.flatMap_cons, later distinct.2]
        by_cases same : entry.1 = key
        · subst same
          have absent : rest.find? (fun other => decide (other.1 = entry.1)) = none := by
            rw [List.find?_eq_none]
            intro other member found
            exact distinct.1 (List.mem_map.mpr ⟨other, member, of_decide_eq_true found⟩)
          simp [absent]
        · rw [if_neg same, List.find?_cons_of_neg (by simpa using same), List.nil_append]
  exact gathered dict.entries dict.nodup

theorem mem_insert_entries {dict : Dict κ ν} {key other : κ} {value stored : ν} :
    (other, stored) ∈ (dict.insert key value).entries ↔
      (other = key ∧ stored = value) ∨
        (other ≠ key ∧ (other, stored) ∈ dict.entries) := by
  unfold insert
  by_cases present : key ∈ dict.keys
  · simp only [present, ↓reduceDIte, List.mem_map]
    constructor
    · rintro ⟨entry, member, equality⟩
      by_cases same : entry.1 = key
      · simp only [same, ↓reduceIte, Prod.mk.injEq] at equality
        exact .inl ⟨equality.1.symm, equality.2.symm⟩
      · simp only [same, ↓reduceIte] at equality
        subst equality
        exact .inr ⟨same, member⟩
    · rintro (⟨rfl, rfl⟩ | ⟨different, member⟩)
      · obtain ⟨entry, member, same⟩ := List.mem_map.mp present
        exact ⟨entry, member, by simp [same]⟩
      · exact ⟨(other, stored), member, by simp [different]⟩
  · simp only [present, ↓reduceDIte, List.mem_append, List.mem_singleton,
      Prod.mk.injEq]
    constructor
    · rintro (member | equality)
      · refine .inr ⟨?_, member⟩
        rintro rfl
        exact present (List.mem_map.mpr ⟨_, member, rfl⟩)
      · exact .inl equality
    · rintro (equality | ⟨_, member⟩)
      · exact .inr equality
      · exact .inl member

theorem mem_erase_entries {dict : Dict κ ν} {key other : κ} {stored : ν} :
    (other, stored) ∈ (dict.erase key).entries ↔
      other ≠ key ∧ (other, stored) ∈ dict.entries := by
  simp [erase, and_comm]

@[simp] theorem get?_empty (key : κ) : (empty : Dict κ ν).get? key = none := rfl

theorem get?_insert (dict : Dict κ ν) (key other : κ) (value : ν) :
    (dict.insert key value).get? other =
      if other = key then some value else dict.get? other := by
  apply Option.ext
  intro stored
  rw [get?_eq_some_iff, mem_insert_entries]
  by_cases same : other = key
  · simp [same, eq_comm]
  · simp [same, get?_eq_some_iff]

@[simp] theorem get?_insert_self (dict : Dict κ ν) (key : κ) (value : ν) :
    (dict.insert key value).get? key = some value := by
  rw [get?_insert, if_pos rfl]

theorem get?_insert_of_ne (dict : Dict κ ν) {key other : κ} (value : ν)
    (different : other ≠ key) :
    (dict.insert key value).get? other = dict.get? other := by
  rw [get?_insert, if_neg different]

/-- What holds of every entry and of a new one. -/
theorem forall_get?_insert {dict : Dict κ ν} {key : κ} {value : ν} {property : κ → ν → Prop}
    (old : ∀ other stored, dict.get? other = some stored → property other stored)
    (new : property key value) :
    ∀ other stored, (dict.insert key value).get? other = some stored → property other stored := by
  intro other stored found
  rw [get?_insert] at found
  split at found
  · rename_i same
    cases found
    exact same ▸ new
  · exact old other stored found

theorem get?_erase (dict : Dict κ ν) (key other : κ) :
    (dict.erase key).get? other =
      if other = key then none else dict.get? other := by
  apply Option.ext
  intro stored
  rw [get?_eq_some_iff, mem_erase_entries]
  by_cases same : other = key
  · simp [same]
  · simp [same, get?_eq_some_iff]

@[simp] theorem get?_erase_self (dict : Dict κ ν) (key : κ) :
    (dict.erase key).get? key = none := by
  rw [get?_erase, if_pos rfl]

theorem get?_erase_of_ne (dict : Dict κ ν) {key other : κ}
    (different : other ≠ key) :
    (dict.erase key).get? other = dict.get? other := by
  rw [get?_erase, if_neg different]

@[simp] theorem insert_insert (dict : Dict κ ν) (key : κ) (earlier value : ν) :
    (dict.insert key earlier).insert key value = dict.insert key value := by
  have assigned : key ∈ (dict.insert key earlier).keys := by
    rw [mem_keys_iff]
    simp
  apply ext_entries
  conv_lhs => rw [insert, dif_pos assigned]
  by_cases present : key ∈ dict.keys
  · simp only [insert, dif_pos present, List.map_map]
    apply List.map_congr_left
    intro entry _
    by_cases same : entry.1 = key <;> simp [same]
  · simp only [insert, dif_neg present, List.map_append, List.map_cons, List.map_nil, if_true]
    congr 1
    apply (List.map_congr_left ?_).trans (List.map_id _)
    intro entry member
    have different : entry.1 ≠ key := fun same =>
      present (same ▸ List.mem_map_of_mem member)
    simp [different]

theorem insert_eq_self {dict : Dict κ ν} {key : κ} {value : ν}
    (stored : dict.get? key = some value) : dict.insert key value = dict := by
  have present : key ∈ dict.keys := by
    rw [mem_keys_iff]
    simp [stored]
  apply ext_entries
  rw [insert, dif_pos present]
  apply (List.map_congr_left ?_).trans (List.map_id _)
  rintro ⟨other, held⟩ member
  by_cases same : other = key
  · subst same
    have equal := mem_entries_unique member (get?_eq_some_iff.mp stored)
    simp [equal]
  · simp [same]

theorem size_eq_zero_iff {dict : Dict κ ν} :
    dict.size = 0 ↔ ∀ key, dict.get? key = none := by
  unfold size
  rw [List.length_eq_zero_iff]
  constructor
  · intro nothing key
    rw [get?_eq_none_iff, keys, nothing]
    simp
  · intro absent
    rw [List.eq_nil_iff_forall_not_mem]
    rintro ⟨key, value⟩ member
    have stored := get?_eq_some_iff.mpr member
    rw [absent key] at stored
    cases stored

theorem entries_insert_of_absent {dict : Dict κ ν} {key : κ} (fresh : key ∉ dict.keys) (value : ν) :
    (dict.insert key value).entries = dict.entries ++ [(key, value)] := by
  simp [insert, fresh]

theorem values_insert_of_absent {dict : Dict κ ν} {key : κ} (value : ν)
    (absent : dict.get? key = none) :
    (dict.insert key value).values = dict.values ++ [value] := by
  simp [values, entries_insert_of_absent (get?_eq_none_iff.mp absent)]

theorem size_insert_of_absent {dict : Dict κ ν} {key : κ} (value : ν)
    (absent : dict.get? key = none) : (dict.insert key value).size = dict.size + 1 := by
  simp [size, entries_insert_of_absent (get?_eq_none_iff.mp absent)]

theorem size_insert_of_present {dict : Dict κ ν} {key : κ} (value : ν)
    (present : key ∈ dict.keys) : (dict.insert key value).size = dict.size := by
  simp [size, insert, present]

theorem size_erase_le (dict : Dict κ ν) (key : κ) : (dict.erase key).size ≤ dict.size :=
  List.length_filter_le _ _

theorem length_le_size {dict : Dict κ ν} {chosen : List κ} (distinct : chosen.Nodup)
    (present : ∀ key ∈ chosen, dict.get? key ≠ none) : chosen.length ≤ dict.size := by
  have subset : chosen ⊆ dict.keys := by
    intro key member
    by_contra absent
    exact present key member (get?_eq_none_iff.mpr absent)
  calc
    chosen.length ≤ dict.keys.length := (distinct.subperm subset).length_le
    _ = dict.size := List.length_map _

theorem get?_mapValues {μ : Type} {dict : Dict κ ν} {change : κ → ν → μ} {key : κ} {value : μ} :
    (dict.mapValues change).get? key = some value ↔
      ∃ stored, dict.get? key = some stored ∧ value = change key stored := by
  rw [get?_eq_some_iff]
  constructor
  · intro found
    obtain ⟨entry, member, equality⟩ := List.mem_map.mp found
    cases equality
    exact ⟨entry.2, get?_eq_some_iff.mpr member, rfl⟩
  · rintro ⟨stored, found, rfl⟩
    exact List.mem_map.mpr ⟨(key, stored), get?_eq_some_iff.mp found, rfl⟩

theorem get?_mapValues_eq {μ : Type} (dict : Dict κ ν) (change : κ → ν → μ) (key : κ) :
    (dict.mapValues change).get? key = (dict.get? key).map (change key) := by
  apply Option.ext
  intro value
  rw [get?_mapValues, Option.map_eq_some_iff]
  simp only [eq_comm]

theorem mapValues_congr {μ : Type} {dict : Dict κ ν} {first second : κ → ν → μ}
    (same : ∀ key value, dict.get? key = some value → first key value = second key value) :
    dict.mapValues first = dict.mapValues second := by
  apply ext_entries
  apply List.map_congr_left
  intro entry member
  rw [same entry.1 entry.2 (get?_eq_some_iff.mpr member)]

theorem entries_insert_middle {dict : Dict κ ν} {before behind : List (κ × ν)} {key : κ}
    {stored : ν} (entries : dict.entries = before ++ (key, stored) :: behind) (value : ν) :
    (dict.insert key value).entries = before ++ (key, value) :: behind := by
  have distinct := dict.nodup
  rw [entries, List.map_append, List.map_cons, List.nodup_middle, List.nodup_cons,
    List.mem_append, not_or] at distinct
  obtain ⟨⟨early, late⟩, _⟩ := distinct
  have present : key ∈ dict.keys := by simp [keys, entries]
  have kept : ∀ {part : List (κ × ν)}, key ∉ part.map Prod.fst →
      (part.map fun entry => if entry.1 = key then (key, value) else entry) = part := by
    intro part absent
    apply (List.map_congr_left ?_).trans (List.map_id _)
    intro entry member
    have different : entry.1 ≠ key := fun same => absent (same ▸ List.mem_map_of_mem member)
    simp [different]
  have replaced : (dict.insert key value).entries =
      dict.entries.map fun entry => if entry.1 = key then (key, value) else entry := by
    rw [insert, dif_pos present]
  rw [replaced, entries, List.map_append, List.map_cons, kept early, kept late, if_pos rfl]

theorem mapValues_insert {μ : Type} (dict : Dict κ ν) (change : ν → μ) (key : κ) (value : ν) :
    (dict.insert key value).mapValues (fun _ stored => change stored) =
      (dict.mapValues fun _ stored => change stored).insert key (change value) := by
  apply ext_entries
  by_cases present : key ∈ dict.keys
  · obtain ⟨⟨key, stored⟩, member, rfl⟩ := List.mem_map.mp present
    obtain ⟨before, behind, split⟩ := List.append_of_mem member
    have mapped : (dict.mapValues fun _ stored => change stored).entries =
        (before.map fun entry => (entry.1, change entry.2)) ++
          (key, change stored) :: behind.map fun entry => (entry.1, change entry.2) := by
      rw [entries_mapValues, split, List.map_append, List.map_cons]
    rw [entries_insert_middle mapped, entries_mapValues, entries_insert_middle split,
      List.map_append, List.map_cons]
  · have absent : key ∉ (dict.mapValues fun _ stored => change stored).keys := by
      rw [keys_mapValues]
      exact present
    rw [entries_insert_of_absent absent, entries_mapValues, entries_mapValues,
      entries_insert_of_absent present, List.map_append]
    rfl

theorem entries_foldl_insert {α : Type} (keyOf : α → κ) (valueOf : α → ν) {elements : List α}
    {dict : Dict κ ν} (distinct : (dict.keys ++ elements.map keyOf).Nodup) :
    (elements.foldl (fun dict element => dict.insert (keyOf element) (valueOf element)) dict).entries =
      dict.entries ++ elements.map fun element => (keyOf element, valueOf element) := by
  induction elements generalizing dict with
  | nil => exact (List.append_nil _).symm
  | cons element rest later =>
      have fresh : keyOf element ∉ dict.keys := fun present =>
        List.disjoint_of_nodup_append distinct present List.mem_cons_self
      have appended := entries_insert_of_absent fresh (valueOf element)
      rw [List.foldl_cons, later, appended, List.append_assoc, List.map_cons, List.singleton_append]
      rw [keys, appended, List.map_append, List.append_assoc]
      exact distinct

theorem entries_erase_middle {dict : Dict κ ν} {before behind : List (κ × ν)} {key : κ} {stored : ν}
    (entries : dict.entries = before ++ (key, stored) :: behind) :
    (dict.erase key).entries = before ++ behind := by
  have distinct := dict.nodup
  rw [entries, List.map_append, List.map_cons, List.nodup_middle, List.nodup_cons,
    List.mem_append, not_or] at distinct
  obtain ⟨⟨early, late⟩, _⟩ := distinct
  have kept : ∀ {part : List (κ × ν)}, key ∉ part.map Prod.fst →
      (part.filter fun entry => decide (entry.1 ≠ key)) = part := by
    intro part absent
    apply List.filter_eq_self.mpr
    intro entry member
    exact decide_eq_true fun same => absent (same ▸ List.mem_map_of_mem member)
  change (dict.entries.filter fun entry => decide (entry.1 ≠ key)) = _
  rw [entries, List.filter_append, List.filter_cons_of_neg (by simp), kept early, kept late]

theorem values_erase_sublist (dict : Dict κ ν) (key : κ) :
    (dict.erase key).values.Sublist dict.values :=
  List.filter_sublist.map Prod.snd

end Dict

end Daq
