import Daq.Config.Read
import Daq.Lib.TreeLeaves
import Mathlib.Data.Bool.AllAny
import Mathlib.Data.String.Basic

namespace Daq.Configurator

/-! `print_config`, and what is read back from what it prints. -/

section Code

variable {α : Type}

/-- One line, with quotes around a value that has a space in it. -/
def printItem (name value : List Char) : List Char :=
  let quote := if ' ' ∈ value then ['"'] else []
  name ++ '=' :: (quote ++ value ++ quote)

/-- The lines of all keys, which are sorted. -/
def sortedLines (keyed : List (String × List (List Char))) : List (List Char) :=
  (keyed.mergeSort fun one other => one.1 ≤ other.1).flatMap Prod.snd

mutual

/-- The lines of each key of a dictionary. -/
def keyLines (str : α → List Char) (front : List Char) :
    List (String × Tree String α) → List (String × List (List Char))
  | [] => []
  | (key, value) :: rest =>
      (key, valueLines str (front ++ key.toList) value) :: keyLines str front rest

def valueLines (str : α → List Char) (name : List Char) : Tree String α → List (List Char)
  | .leaf value => [printItem name (str value)]
  | .dict entries => sortedLines (keyLines str (name ++ ['.']) entries)

end

def appendConfig (str : α → List Char) (front : List Char)
    (config : List (String × Tree String α)) : List (List Char) :=
  sortedLines (keyLines str front config)

def printConfig (str : α → List Char) (config : List (String × Tree String α)) : List Char :=
  ['\n'].intercalate (appendConfig str [] config) ++ ['\n']

end Code

/-! The lines of a dictionary. -/

/-- The keys of a path behind the first one, each with its dot. -/
def dots (path : List String) : List Char := path.flatMap fun key => '.' :: key.toList

section Lines

variable {α : Type} {str : α → List Char} {entries : List (String × Tree String α)}

theorem sortedLines_map {β : Type} (line : String → β → List Char)
    (keyed : List (String × List β)) :
    sortedLines (keyed.map fun entry => (entry.1, entry.2.map (line entry.1))) =
      ((keyed.mergeSort fun one other => one.1 ≤ other.1).flatMap fun entry =>
        entry.2.map fun item => (entry.1, item)).map fun item => line item.1 item.2 := by
  have sorted : (keyed.map fun entry => (entry.1, entry.2.map (line entry.1))).mergeSort
        (fun one other => one.1 ≤ other.1) =
      (keyed.mergeSort fun one other => one.1 ≤ other.1).map fun entry =>
        (entry.1, entry.2.map (line entry.1)) := by
    symm
    apply List.map_mergeSort
    exact fun _ _ _ _ => rfl
  rw [sortedLines, sorted, List.flatMap_map, List.map_flatMap]
  simp only [List.map_map, Function.comp_def]

theorem keyLines_eq (front : List Char)
    (each : ∀ entry ∈ entries, ∀ name, ∃ items : List (List String × α),
      valueLines str name entry.2 =
          items.map (fun item => printItem (name ++ dots item.1) (str item.2)) ∧
        ∀ path value, (path, value) ∈ items ↔ entry.2.look path = some (.leaf value)) :
    ∃ keyed : List (String × List (List String × α)),
      keyLines str front entries = keyed.map (fun entry => (entry.1, entry.2.map fun item =>
          printItem (front ++ entry.1.toList ++ dots item.1) (str item.2))) ∧
        ∀ key path value, (∃ items, (key, items) ∈ keyed ∧ (path, value) ∈ items) ↔
          ∃ tree, (key, tree) ∈ entries ∧ tree.look path = some (.leaf value) := by
  induction entries with
  | nil => exact ⟨[], rfl, by simp⟩
  | cons entry rest later =>
      obtain ⟨first, tree⟩ := entry
      obtain ⟨here, behind⟩ := List.forall_mem_cons.mp each
      obtain ⟨items, lines, listed⟩ := here (front ++ first.toList)
      obtain ⟨keyed, keyedLines, keyedListed⟩ := later behind
      refine ⟨(first, items) :: keyed, ?_, ?_⟩
      · rw [keyLines, keyedLines, List.map_cons, lines]
      · intro key path value
        have others := keyedListed key path value
        simp only [List.mem_cons, Prod.mk.injEq, or_and_right, exists_or, and_assoc,
          exists_and_left, exists_eq_left, listed, others]

theorem sortedLines_keyLines (distinct : (Assoc.keys entries).Nodup) (front : List Char)
    (each : ∀ entry ∈ entries, ∀ name, ∃ items : List (List String × α),
      valueLines str name entry.2 =
          items.map (fun item => printItem (name ++ dots item.1) (str item.2)) ∧
        ∀ path value, (path, value) ∈ items ↔ entry.2.look path = some (.leaf value)) :
    ∃ items : List (String × List String × α),
      sortedLines (keyLines str front entries) = items.map (fun item =>
          printItem (front ++ item.1.toList ++ dots item.2.1) (str item.2.2)) ∧
        ∀ key path value, (key, path, value) ∈ items ↔
          (Tree.dict entries).look (key :: path) = some (.leaf value) := by
  obtain ⟨keyed, lines, listed⟩ := keyLines_eq front each
  refine ⟨(keyed.mergeSort fun one other => one.1 ≤ other.1).flatMap fun entry =>
    entry.2.map fun item => (entry.1, item), ?_, ?_⟩
  · rw [lines]
    exact sortedLines_map (fun key item =>
      printItem (front ++ key.toList ++ dots item.1) (str item.2)) keyed
  · intro key path value
    have inside : (∃ tree, (key, tree) ∈ entries ∧ tree.look path = some (.leaf value)) ↔
        (Tree.dict entries).look (key :: path) = some (.leaf value) := by
      rw [Tree.look_dict, Option.bind_eq_some_iff]
      constructor
      · rintro ⟨tree, member, leaf⟩
        exact ⟨tree, Assoc.get?_of_mem distinct member, leaf⟩
      · rintro ⟨tree, present, leaf⟩
        exact ⟨tree, Assoc.mem_of_get? present, leaf⟩
    rw [← inside, ← listed, List.mem_flatMap]
    simp only [List.mem_mergeSort, List.mem_map, Prod.exists, Prod.mk.injEq]
    constructor
    · rintro ⟨_, items, member, _, _, item, rfl, rfl, rfl⟩
      exact ⟨items, member, item⟩
    · rintro ⟨items, member, item⟩
      exact ⟨key, items, member, path, value, item, rfl, rfl, rfl⟩

theorem valueLines_eq {tree : Tree String α} (wellFormed : tree.WellFormed) (name : List Char) :
    ∃ items : List (List String × α),
      valueLines str name tree =
          items.map (fun item => printItem (name ++ dots item.1) (str item.2)) ∧
        ∀ path value, (path, value) ∈ items ↔ tree.look path = some (.leaf value) := by
  induction wellFormed generalizing name with
  | leaf value =>
      refine ⟨[([], value)], ?_, ?_⟩
      · simp [valueLines, dots]
      · intro path other
        cases path <;> simp [eq_comm]
  | @dict entries distinct _ each =>
      obtain ⟨items, lines, listed⟩ := sortedLines_keyLines distinct (name ++ ['.']) each
      refine ⟨items.map fun item => (item.1 :: item.2.1, item.2.2), ?_, ?_⟩
      · rw [valueLines, lines, List.map_map]
        simp [dots, Function.comp_def]
      · intro path value
        cases path with
        | nil => simp
        | cons key path =>
            rw [← listed]
            simp

theorem appendConfig_eq (wellFormed : (Tree.dict entries).WellFormed) :
    ∃ items : List (String × List String × α),
      appendConfig str [] entries =
          items.map (fun item => printItem (item.1.toList ++ dots item.2.1) (str item.2.2)) ∧
        ∀ key path value, (key, path, value) ∈ items ↔
          (Tree.dict entries).look (key :: path) = some (.leaf value) := by
  cases wellFormed with
  | dict distinct inner =>
      exact sortedLines_keyLines distinct [] fun entry member => valueLines_eq (inner entry member)

end Lines

/-! What can be written. -/

/-- A text that does not begin or end with certain characters. -/
structure Trimmed (drop : Char → Bool) (text : List Char) : Prop where
  head : ∀ char ∈ text.head?, drop char = false
  last : ∀ char ∈ text.getLast?, drop char = false

theorem trimmed_of_all {drop : Char → Bool} {text : List Char}
    (head : (text.head?.all fun char => !drop char) = true)
    (last : (text.getLast?.all fun char => !drop char) = true) : Trimmed drop text where
  head char found := by simpa using (Option.all_eq_true _ _).mp head char found
  last char found := by simpa using (Option.all_eq_true _ _).mp last char found

/-- White space and both quotes. -/
def spaceOrQuote (char : Char) : Bool :=
  Report.isSpace char ∨ char = '"' ∨ char = singleQuote

structure PlainKey (key : List Char) : Prop where
  free : ∀ char ∈ key, char ∉ ['.', '=', '#', '\n', '\r']
  trimmed : Trimmed Report.isSpace key

structure PlainValue (value : List Char) : Prop where
  free : ∀ char ∈ value, char ∉ ['#', '\n', '\r']
  trimmed : Trimmed spaceOrQuote value

/-- A value of a dictionary that can be written. -/
inductive Plain : Tree String String → Prop
  | leaf {value : String} (plain : PlainValue value.toList) : Plain (.leaf value)
  | dict {entries : List (String × Tree String String)} (nonempty : entries ≠ [])
      (distinct : (Assoc.keys entries).Nodup) (keys : ∀ entry ∈ entries, PlainKey entry.1.toList)
      (inner : ∀ entry ∈ entries, Plain entry.2) : Plain (.dict entries)

/-- A dictionary that can be written; it may be empty itself. -/
structure PlainConfig (config : List (String × Tree String String)) : Prop where
  distinct : (Assoc.keys config).Nodup
  keys : ∀ entry ∈ config, PlainKey entry.1.toList
  inner : ∀ entry ∈ config, Plain entry.2

section Plain

variable {tree : Tree String String} {config : List (String × Tree String String)}

theorem Plain.wellFormed (plain : Plain tree) : tree.WellFormed := by
  induction plain with
  | leaf _ => exact .leaf _
  | dict _ distinct _ _ each => exact .dict distinct each

theorem Plain.full (plain : Plain tree) : tree.Full := by
  induction plain with
  | leaf _ => exact .leaf _
  | dict nonempty _ _ _ each => exact .dict nonempty each

theorem Plain.of_leaf (plain : Plain tree) {path : List String} {value : String}
    (leaf : tree.look path = some (.leaf value)) :
    (∀ key ∈ path, PlainKey key.toList) ∧ PlainValue value.toList := by
  induction path generalizing tree with
  | nil =>
      rw [Tree.look_nil, Option.some.injEq] at leaf
      subst leaf
      cases plain with
      | leaf plain => exact ⟨List.forall_mem_nil _, plain⟩
  | cons key path later =>
      cases plain with
      | leaf _ => cases leaf
      | dict _ _ keys inner =>
          obtain ⟨tree, present, leaf⟩ := Option.bind_eq_some_iff.mp leaf
          have member := Assoc.mem_of_get? present
          obtain ⟨below, value⟩ := later (inner _ member) leaf
          exact ⟨List.forall_mem_cons.mpr ⟨keys _ member, below⟩, value⟩

theorem PlainConfig.of_leaf (plain : PlainConfig config) {key : String} {path : List String}
    {value : String} (leaf : (Tree.dict config).look (key :: path) = some (.leaf value)) :
    PlainKey key.toList ∧ (∀ key ∈ path, PlainKey key.toList) ∧ PlainValue value.toList := by
  obtain ⟨tree, present, leaf⟩ := Option.bind_eq_some_iff.mp leaf
  have member := Assoc.mem_of_get? present
  exact ⟨plain.keys _ member, (plain.inner _ member).of_leaf leaf⟩

end Plain

/-! Stripping and splitting what has been written. -/

section Texts

variable {drop : Char → Bool} {text front behind : List Char}

theorem Trimmed.mono {less : Char → Bool} (trimmed : Trimmed drop text)
    (fewer : ∀ char, drop char = false → less char = false) : Trimmed less text :=
  ⟨fun char member => fewer char (trimmed.head char member),
    fun char member => fewer char (trimmed.last char member)⟩

theorem Trimmed.append {mark : Char} (frontTrimmed : Trimmed drop front)
    (behindTrimmed : Trimmed drop behind) (kept : drop mark = false) :
    Trimmed drop (front ++ mark :: behind) := by
  constructor
  · intro char member
    cases front with
    | nil =>
        cases member
        exact kept
    | cons first front => exact frontTrimmed.head char member
  · intro char member
    rw [List.getLast?_append, List.getLast?_cons] at member
    cases last : behind.getLast? with
    | none =>
        rw [last] at member
        cases member
        exact kept
    | some final =>
        rw [last] at member
        cases member
        exact behindTrimmed.last final last

theorem dropWhile_of_head (kept : ∀ char ∈ text.head?, drop char = false) :
    text.dropWhile drop = text := by
  cases text with
  | nil => rfl
  | cons char text => exact List.dropWhile_cons_of_neg (by simp [kept char rfl])

theorem strip_surrounded (trimmed : Trimmed drop text) (frontDropped : ∀ char ∈ front, drop char)
    (behindDropped : ∀ char ∈ behind, drop char) :
    strip drop (front ++ (text ++ behind)) = text := by
  rw [strip, List.dropWhile_append_of_pos frontDropped]
  cases text with
  | nil =>
      rw [List.nil_append, List.dropWhile_eq_nil_iff.mpr behindDropped]
      rfl
  | cons first text =>
      have head : ∀ char ∈ (first :: text ++ behind).head?, drop char = false := trimmed.head
      rw [dropWhile_of_head head, List.rdropWhile, List.reverse_append,
        List.dropWhile_append_of_pos (fun char member =>
          behindDropped char (List.mem_reverse.mp member)), dropWhile_of_head, List.reverse_reverse]
      rw [List.head?_reverse]
      exact trimmed.last

theorem Trimmed.strip (trimmed : Trimmed drop text) : strip drop text = text := by
  have stripped := strip_surrounded trimmed (List.forall_mem_nil _) (List.forall_mem_nil _)
  rwa [List.nil_append, List.append_nil] at stripped

theorem splitFirst_append {mark : Char} (absent : mark ∉ front) (behind : List Char) :
    splitFirst mark (front ++ mark :: behind) = (front, some behind) := by
  induction front with
  | nil => exact if_pos rfl
  | cons char front later =>
      obtain ⟨different, absent⟩ := not_or.mp (List.mem_cons.not.mp absent)
      rw [List.cons_append, splitFirst, if_neg (Ne.symm different), later absent]

theorem splitFirst_of_not_mem {mark : Char} (absent : mark ∉ text) :
    splitFirst mark text = (text, none) := by
  induction text with
  | nil => rfl
  | cons char text later =>
      obtain ⟨different, absent⟩ := not_or.mp (List.mem_cons.not.mp absent)
      rw [splitFirst, if_neg (Ne.symm different), later absent]

theorem readLines_append (free : ∀ char ∈ text, char ≠ '\n' ∧ char ≠ '\r') (rest : List Char) :
    readLines (text ++ '\n' :: rest) = (text ++ ['\n']) :: readLines rest := by
  induction text with
  | nil => rw [List.nil_append, readLines] <;> simp
  | cons char text later =>
      obtain ⟨⟨notNewline, notReturn⟩, behind⟩ := List.forall_mem_cons.mp free
      rw [List.cons_append, readLines, if_neg (not_or.mpr ⟨notNewline, notReturn⟩), later behind]
      · rfl
      · intro _ same
        exact absurd same notReturn

theorem readLines_intercalate {lines : List (List Char)} (nonempty : lines ≠ [])
    (free : ∀ line ∈ lines, ∀ char ∈ line, char ≠ '\n' ∧ char ≠ '\r') :
    readLines (['\n'].intercalate lines ++ ['\n']) = lines.map fun line => line ++ ['\n'] := by
  induction lines with
  | nil => exact absurd rfl nonempty
  | cons line lines later =>
      obtain ⟨freeHere, freeRest⟩ := List.forall_mem_cons.mp free
      cases lines with
      | nil =>
          rw [List.intercalate_singleton, readLines_append freeHere]
          rfl
      | cons next lines =>
          rw [List.intercalate_cons_cons, List.append_assoc, List.append_assoc, List.singleton_append,
            readLines_append freeHere, later (List.cons_ne_nil _ _) freeRest]
          rfl

theorem kept_of_plain {char : Char} (kept : spaceOrQuote char = false) :
    Report.isSpace char = false ∧ char ≠ '"' ∧ char ≠ singleQuote := by
  simpa [spaceOrQuote, not_or] using kept

theorem trimmed_quoted {value quote : List Char} (plain : PlainValue value)
    (quotes : quote = [] ∨ quote = ['"']) : Trimmed Report.isSpace (quote ++ value ++ quote) := by
  rcases quotes with rfl | rfl
  · rw [List.nil_append, List.append_nil]
    exact plain.trimmed.mono fun char none => (kept_of_plain none).1
  · refine ⟨fun char member => ?_, fun char member => ?_⟩
    · cases member
      decide
    · rw [List.getLast?_append] at member
      cases member
      decide

theorem unquote_quoted {value quote : List Char} (plain : PlainValue value)
    (quotes : quote = [] ∨ quote = ['"']) : unquote (quote ++ value ++ quote) = value := by
  have noQuote : Trimmed (fun char => decide (char = '"')) value :=
    plain.trimmed.mono fun char none => decide_eq_false (kept_of_plain none).2.1
  have noSingle : Trimmed (fun char => decide (char = singleQuote)) value :=
    plain.trimmed.mono fun char none => decide_eq_false (kept_of_plain none).2.2
  have dropped : ∀ char ∈ quote, decide (char = '"') := by
    rcases quotes with rfl | rfl
    · exact List.forall_mem_nil _
    · exact List.forall_mem_singleton.mpr rfl
  rw [unquote, (trimmed_quoted plain quotes).strip, List.append_assoc, strip_surrounded noQuote dropped dropped,
    noSingle.strip]

theorem unquote_plain {value : List Char} (plain : PlainValue value) : unquote value = value := by
  have same := unquote_quoted plain (.inl rfl)
  rwa [List.nil_append, List.append_nil] at same

theorem trimmed_dots {key : List Char} {path : List String} (plain : Trimmed Report.isSpace key)
    (below : ∀ key ∈ path, PlainKey key.toList) : Trimmed Report.isSpace (key ++ dots path) := by
  induction path generalizing key with
  | nil => rwa [dots, List.flatMap_nil, List.append_nil]
  | cons next path later =>
      obtain ⟨here, below⟩ := List.forall_mem_cons.mp below
      have joined : Trimmed Report.isSpace (key ++ '.' :: next.toList) :=
        plain.append here.trimmed rfl
      have dotted := later joined below
      rwa [List.append_assoc] at dotted

theorem free_dots {key : String} {path : List String} (plain : PlainKey key.toList)
    (below : ∀ key ∈ path, PlainKey key.toList) {char : Char}
    (member : char ∈ key.toList ++ dots path) : char ∉ ['=', '#', '\n', '\r'] := by
  have free : ∀ key : String, PlainKey key.toList → char ∈ key.toList →
      char ∉ ['=', '#', '\n', '\r'] := by
    intro key plain member inside
    exact plain.free char member (List.mem_cons_of_mem _ inside)
  rcases List.mem_append.mp member with member | member
  · exact free key plain member
  · obtain ⟨next, listed, member⟩ := List.mem_flatMap.mp member
    rcases List.mem_cons.mp member with rfl | member
    · decide
    · exact free next (below next listed) member

theorem free_item {name value : List Char}
    (nameFree : ∀ char ∈ name, char ∉ ['=', '#', '\n', '\r']) (plain : PlainValue value)
    {char : Char} (member : char ∈ printItem name value) : char ∉ ['#', '\n', '\r'] := by
  have quote : char ∈ (if ' ' ∈ value then ['"'] else []) → char = '"' := by
    intro member
    split at member
    · exact List.mem_singleton.mp member
    · cases member
  rw [printItem, List.mem_append, List.mem_cons, List.mem_append, List.mem_append] at member
  rcases member with member | rfl | (member | member) | member
  · exact fun inside => nameFree char member (List.mem_cons_of_mem _ inside)
  · decide
  · rw [quote member]
    decide
  · exact plain.free char member
  · rw [quote member]
    decide

end Texts

/-! Reading what has been written. -/

section Reading

variable {γ : Type} [DecidableEq γ] {config inner result : Entries γ}
variable {key value first rest : List Char}

theorem parseFlatItem_last (split : splitFirst '.' (strip Report.isSpace key) = (first, none)) :
    parseFlatItem config key value =
      .ok (Assoc.set config (.text (.ofList first)) (.leaf (.text (.ofList (unquote value))))) := by
  rw [parseFlatItem]
  split
  · rename_i same
    cases split.symm.trans same
    rfl
  · rename_i same
    cases split.symm.trans same

theorem parseFlatItem_inner (split : splitFirst '.' (strip Report.isSpace key) = (first, some rest))
    (there : Assoc.get? config (.text (.ofList first)) = some (.dict inner))
    (parsed : parseFlatItem inner rest (unquote value) = .ok result) :
    parseFlatItem config key value =
      .ok (Assoc.set config (.text (.ofList first)) (.dict result)) := by
  rw [parseFlatItem]
  split
  · rename_i same
    cases split.symm.trans same
  · rename_i same
    cases split.symm.trans same
    rw [there]
    dsimp only
    rw [parsed]
    rfl

theorem parseFlatItem_new (split : splitFirst '.' (strip Report.isSpace key) = (first, some rest))
    (absent : Assoc.get? config (.text (.ofList first)) = none)
    (parsed : parseFlatItem [] rest (unquote value) = .ok result) :
    parseFlatItem config key value =
      .ok (Assoc.set config (.text (.ofList first)) (.dict result)) := by
  rw [parseFlatItem]
  split
  · rename_i same
    cases split.symm.trans same
  · rename_i same
    cases split.symm.trans same
    rw [absent]
    dsimp only
    rw [parsed]
    rfl

/-- A dotted key is a branch of the dictionary, where no text is in its way. -/
theorem parseFlatItem_dots {key item : String} {path : List String} {value : List Char}
    (plain : PlainKey key.toList) (below : ∀ key ∈ path, PlainKey key.toList)
    (plainItem : PlainValue item.toList) (unquoted : unquote value = item.toList)
    (clear : ∀ above rest, above ≠ [] → rest ≠ [] →
      (Scalar.text key :: path.map Scalar.text : List (Scalar γ)) = above ++ rest →
      ∀ old, (Tree.dict config).look above ≠ some (.leaf old)) :
    parseFlatItem config (key.toList ++ dots path) value =
      .ok (Tree.mergeEntries [(.text key, .branch (path.map .text) (.text item))] config) := by
  have stripped := (trimmed_dots plain.trimmed below).strip
  have noDot : '.' ∉ key.toList := fun member => plain.free '.' member (by simp)
  induction path generalizing config key value with
  | nil =>
      have split : splitFirst '.' (strip Report.isSpace (key.toList ++ dots [])) =
          (key.toList, none) := by
        rw [stripped, dots, List.flatMap_nil, List.append_nil]
        exact splitFirst_of_not_mem noDot
      rw [parseFlatItem_last split, unquoted, String.ofList_toList, String.ofList_toList]
      rfl
  | cons next path later =>
      obtain ⟨here, behind⟩ := List.forall_mem_cons.mp below
      have split : splitFirst '.' (strip Report.isSpace (key.toList ++ dots (next :: path))) =
          (key.toList, some (next.toList ++ dots path)) := by
        rw [stripped]
        exact splitFirst_append noDot _
      have dotted := (trimmed_dots here.trimmed behind).strip
      have nextDot : '.' ∉ next.toList := fun member => here.free '.' member (by simp)
      have again : unquote (unquote value) = item.toList := by
        rw [unquoted, unquote_plain plainItem]
      rw [Tree.mergeEntries, Tree.mergeEntries]
      cases present : Assoc.get? config (.text key) with
      | none =>
          rw [Tree.mergeOnto_none]
          have empty : ∀ above rest, above ≠ [] → rest ≠ [] →
              (Scalar.text next :: path.map Scalar.text : List (Scalar γ)) = above ++ rest →
              ∀ old, (Tree.dict ([] : Entries γ)).look above ≠ some (.leaf old) := by
            intro above rest inside _ _ old
            cases above with
            | nil => exact absurd rfl inside
            | cons first above =>
                intro wrong
                cases wrong
          have parsed := later here behind again empty dotted nextDot
          rw [Tree.mergeEntries, Tree.mergeEntries, Assoc.get?, Tree.mergeOnto_none] at parsed
          rw [← @String.ofList_toList key] at present
          rw [parseFlatItem_new split present parsed, String.ofList_toList]
          rfl
      | some tree =>
          have below : ∀ above, above ≠ [] →
              (Tree.dict config).look (.text key :: above) = tree.look above := by
            intro above _
            rw [Tree.look_dict, present, Option.bind_some]
          cases tree with
          | leaf old =>
              refine absurd ?_ (clear [.text key] ((next :: path).map .text) (List.cons_ne_nil _ _)
                (List.cons_ne_nil _ _) rfl old)
              rw [Tree.look_dict, present, Option.bind_some, Tree.look_nil]
          | dict inner =>
              have parsed := later here behind again (fun above rest inside unended same old => by
                rw [← below above inside]
                exact clear (.text key :: above) rest (List.cons_ne_nil _ _) unended
                  (congrArg (Scalar.text key :: ·) same) old) dotted nextDot
              rw [← @String.ofList_toList key] at present
              rw [parseFlatItem_inner split present parsed, String.ofList_toList]
              rfl

theorem readFlatLine_item {key item : String} {path : List String}
    (plain : PlainKey key.toList) (below : ∀ key ∈ path, PlainKey key.toList)
    (plainItem : PlainValue item.toList)
    (clear : ∀ above rest, above ≠ [] → rest ≠ [] →
      (Scalar.text key :: path.map Scalar.text : List (Scalar γ)) = above ++ rest →
      ∀ old, (Tree.dict config).look above ≠ some (.leaf old)) :
    readFlatLine config (printItem (key.toList ++ dots path) item.toList ++ ['\n']) =
      .ok (Tree.mergeEntries [(.text key, .branch (path.map .text) (.text item))] config) := by
  have nameFree : ∀ char ∈ key.toList ++ dots path, char ∉ ['=', '#', '\n', '\r'] :=
    fun char member => free_dots plain below member
  have uncommented : (printItem (key.toList ++ dots path) item.toList ++ ['\n']).takeWhile
      (fun char => char ≠ '#') = printItem (key.toList ++ dots path) item.toList ++ ['\n'] := by
    rw [List.takeWhile_eq_self_iff]
    intro char member
    rw [decide_eq_true_iff]
    rintro rfl
    rcases List.mem_append.mp member with member | member
    · exact free_item nameFree plainItem member (by decide)
    · cases List.mem_singleton.mp member
  have quotes : (if ' ' ∈ item.toList then ['"'] else []) = [] ∨
      (if ' ' ∈ item.toList then ['"'] else []) = ['"'] := by
    split
    · exact .inr rfl
    · exact .inl rfl
  have trimmed : Trimmed Report.isSpace (printItem (key.toList ++ dots path) item.toList) :=
    (trimmed_dots plain.trimmed below).append (trimmed_quoted plainItem quotes) rfl
  have stripped : strip Report.isSpace (printItem (key.toList ++ dots path) item.toList ++ ['\n']) =
      printItem (key.toList ++ dots path) item.toList :=
    strip_surrounded trimmed (List.forall_mem_nil _) (List.forall_mem_singleton.mpr rfl)
  have noEquals : '=' ∉ key.toList ++ dots path := fun member => nameFree '=' member (by decide)
  rw [readFlatLine, uncommented, stripped]
  rw [printItem, splitFirst_append noEquals]
  exact parseFlatItem_dots plain below plainItem (unquote_quoted plainItem quotes) clear

end Reading

section RoundTrip

variable {γ : Type} [DecidableEq γ]

/-- A dictionary of texts, as a config. -/
def texts (config : List (String × Tree String String)) : Config γ :=
  Tree.map .text .text (.dict config)

/-- A leaf of a dictionary of texts. -/
def textLeaf (γ : Type) (item : String × List String × String) : List (Scalar γ) × Scalar γ :=
  ((item.1 :: item.2.1).map .text, .text item.2.2)

/-- The line of a leaf. -/
def itemLine (item : String × List String × String) : List Char :=
  printItem (item.1.toList ++ dots item.2.1) item.2.2.toList

theorem foldlM_readFlatLine {config : List (String × Tree String String)}
    (plain : PlainConfig config) {items : List (String × List String × String)}
    (leaves : ∀ item ∈ items,
      (Tree.dict config).look (item.1 :: item.2.1) = some (.leaf item.2.2))
    {done : List (List (Scalar γ) × Scalar γ)} {entries : Entries γ}
    (built : Tree.Built done (.dict entries))
    (whole : ∀ leaf ∈ done, (texts config).look leaf.1 = some (.leaf leaf.2)) :
    ∃ read, (items.map fun item => itemLine item ++ ['\n']).foldlM readFlatLine entries = .ok read ∧
      Tree.Built ((items.map (textLeaf γ)).reverse ++ done) (.dict read) := by
  induction items generalizing done entries with
  | nil => exact ⟨entries, rfl, built⟩
  | cons item items later =>
      obtain ⟨key, path, value⟩ := item
      obtain ⟨leaf, behind⟩ := List.forall_mem_cons.mp leaves
      obtain ⟨plainKey, plainPath, plainValue⟩ := plain.of_leaf leaf
      have found : (texts config).look (textLeaf γ (key, path, value)).1 =
          some (.leaf (textLeaf γ (key, path, value)).2) :=
        (Tree.look_map (fun _ _ same => Scalar.text.inj same) _ _ _).mpr
          ⟨key :: path, .leaf value, rfl, rfl, leaf⟩
      have apart : ∀ leaf ∈ done, leaf.1 <+: (textLeaf γ (key, path, value)).1 ∨
          (textLeaf γ (key, path, value)).1 <+: leaf.1 → leaf = textLeaf γ (key, path, value) :=
        fun leaf member related => Tree.eq_of_look_leaf (whole leaf member) found related
      have clear : ∀ above rest, above ≠ [] → rest ≠ [] →
          (Scalar.text key :: path.map Scalar.text : List (Scalar γ)) = above ++ rest →
          ∀ old, (Tree.dict entries).look above ≠ some (.leaf old) := by
        intro above rest _ unended same old there
        have inside : above <+: (textLeaf γ (key, path, value)).1 := ⟨rest, same.symm⟩
        have equal := apart _ ((built.leaf above old).mp there) (.inl inside)
        have ended : above = above ++ rest := (congrArg Prod.fst equal).trans same
        exact unended (List.append_cancel_left ((List.append_nil above).trans ended)).symm
      have first : readFlatLine entries (itemLine (key, path, value) ++ ['\n']) = _ :=
        readFlatLine_item plainKey plainPath plainValue clear
      obtain ⟨read, ran, builtRead⟩ := later behind (built.branch (List.cons_ne_nil _ _) apart)
        (List.forall_mem_cons.mpr ⟨found, whole⟩)
      refine ⟨read, ?_, ?_⟩
      · rw [List.map_cons, List.foldlM_cons, first]
        exact ran
      · rw [List.map_cons, List.reverse_cons, List.append_assoc]
        exact builtRead

/-- What `print_config` has printed is read back as the same dictionary. -/
theorem readFlatConfig_printConfig {config : List (String × Tree String String)}
    (plain : PlainConfig config) :
    ∃ read : Entries γ, readFlatConfig (printConfig String.toList config) = .ok read ∧
      Tree.Equal (texts config) (.dict read) := by
  have wellFormed : (Tree.dict config).WellFormed :=
    .dict plain.distinct fun entry member => (plain.inner entry member).wellFormed
  obtain ⟨items, lines, listed⟩ := @appendConfig_eq _ String.toList _ wellFormed
  have leaves : ∀ item ∈ items,
      (Tree.dict config).look (item.1 :: item.2.1) = some (.leaf item.2.2) :=
    fun item member => (listed _ _ _).mp member
  obtain ⟨read, ran, builtRead⟩ := foldlM_readFlatLine plain leaves
    (Tree.built_nil : Tree.Built [] (.dict ([] : Entries γ))) (List.forall_mem_nil _)
  have all : ∀ path value,
      (path, value) ∈ items.map (fun item => (item.1 :: item.2.1, item.2.2)) ↔
        (Tree.dict config).look path = some (.leaf value) := by
    intro path value
    cases path with
    | nil => simp
    | cons key path =>
        rw [← listed]
        simp
  have builtConfig : Tree.Built (items.map (textLeaf γ)) (texts config) := by
    have built : Tree.Built _ (texts config : Config γ) :=
      (Tree.built_of_full (fun entry member => (plain.inner entry member).full) all).map
        fun _ _ same => Scalar.text.inj same
    rw [List.map_map] at built
    exact built
  refine ⟨read, ?_, builtConfig.equal (builtRead.congr (by simp))⟩
  rw [readFlatConfig, printConfig, lines]
  cases items with
  | nil => exact ran
  | cons item items =>
      rw [readLines_intercalate, List.map_map]
      · exact ran
      · exact List.cons_ne_nil _ _
      · intro line member char inside
        obtain ⟨⟨key, path, value⟩, listedItem, rfl⟩ := List.mem_map.mp member
        obtain ⟨plainKey, plainPath, plainValue⟩ := plain.of_leaf (leaves _ listedItem)
        have free := free_item (fun _ member => free_dots plainKey plainPath member) plainValue inside
        exact ⟨fun same => free (by simp [same]), fun same => free (by simp [same])⟩

end RoundTrip

namespace Sample

def nested : List (String × Tree String String) :=
  [("title", .leaf "two words"), ("dict", .dict [("k1", .leaf "a=\"b\" c"), ("k2", .leaf "")])]

theorem key_plain {text : String} (listed : text ∈ ["title", "dict", "k1", "k2"]) :
    PlainKey text.toList := by
  simp only [List.mem_cons, List.not_mem_nil, or_false] at listed
  rcases listed with rfl | rfl | rfl | rfl <;>
    exact ⟨List.all_iff_forall_prop.mp (by decide), trimmed_of_all (by decide) (by decide)⟩

theorem value_plain {text : String} (listed : text ∈ ["two words", "a=\"b\" c", ""]) :
    PlainValue text.toList := by
  simp only [List.mem_cons, List.not_mem_nil, or_false] at listed
  rcases listed with rfl | rfl | rfl <;>
    exact ⟨List.all_iff_forall_prop.mp (by decide), trimmed_of_all (by decide) (by decide)⟩

theorem nested_plain : PlainConfig nested := by
  have inner : Plain (.dict [("k1", .leaf "a=\"b\" c"), ("k2", .leaf "")]) := by
    refine .dict (List.cons_ne_nil _ _) (by decide) ?_ ?_
    · exact List.forall_mem_cons.mpr ⟨key_plain (by simp),
        List.forall_mem_singleton.mpr (key_plain (by simp))⟩
    · exact List.forall_mem_cons.mpr ⟨.leaf (value_plain (by simp)),
        List.forall_mem_singleton.mpr (.leaf (value_plain (by simp)))⟩
  refine ⟨by decide, ?_, ?_⟩
  · exact List.forall_mem_cons.mpr ⟨key_plain (by simp),
      List.forall_mem_singleton.mpr (key_plain (by simp))⟩
  · exact List.forall_mem_cons.mpr ⟨.leaf (value_plain (by simp)),
      List.forall_mem_singleton.mpr inner⟩

theorem nested_read : ∃ read : Entries Unit,
    readFlatConfig (printConfig String.toList nested) = .ok read ∧
      Tree.Equal (texts nested) (.dict read) :=
  readFlatConfig_printConfig nested_plain

end Sample

end Daq.Configurator
