import Daq.Lib.Rolling
import Daq.Report.Processing

namespace Daq

open Report

/-! What rating the categories shows, and what it leaves of the results. -/

namespace Report

/-- `info` agrees with every result, and is overwritten with `pass` behind another one. -/
def rating : Rolling String where
  blank := NO_REQUIRED
  lenient := "info"
  clash := "fail"
  substitute := "pass"
  lenient_ne_blank := by decide
  clash_ne_blank := by decide
  clash_ne_lenient := by decide
  substitute_ne_lenient := by decide

end Report

namespace ReportConfig

variable (config : ReportConfig)

/-- The tests that are rated in a category. -/
def Counts (category testName : String) : Prop :=
  config.category testName = category ∧ (config.testInfo testName).required.isSome

instance (category testName : String) : Decidable (config.Counts category testName) :=
  inferInstanceAs (Decidable (_ ∧ _))

def words (category : String) (entries : List (String × ResultDict)) : List String :=
  (entries.filter fun entry => config.Counts category entry.1).map fun entry => entry.2.result

/-- What happens to a result while the categories are rated. -/
inductive Softened : String × ResultDict → String × ResultDict → Prop
  | same (entry : String × ResultDict) : Softened entry entry
  | softened {testName : String} {resultDict : ResultDict}
      (required : (config.testInfo testName).required.isSome)
      (info : resultDict.result = "info") :
      Softened (testName, resultDict) (testName, { resultDict with result := "pass" })

variable {config}

section Words

variable {category testName : String} {resultDict : ResultDict}
  {entries : List (String × ResultDict)}

@[simp] theorem words_nil : config.words category [] = [] := rfl

theorem words_cons_of_counts (counts : config.Counts category testName) :
    config.words category ((testName, resultDict) :: entries) =
      resultDict.result :: config.words category entries := by
  simp [words, counts]

theorem words_cons_of_not_counts (other : ¬ config.Counts category testName) :
    config.words category ((testName, resultDict) :: entries) = config.words category entries := by
  simp [words, other]

theorem words_append (first second : List (String × ResultDict)) :
    config.words category (first ++ second) =
      config.words category first ++ config.words category second := by
  simp [words]

end Words

namespace Softened

theorem name {first second : String × ResultDict} (softened : config.Softened first second) :
    second.1 = first.1 := by
  cases softened with
  | same => rfl
  | softened => rfl

theorem trans {first second third : String × ResultDict} (early : config.Softened first second)
    (late : config.Softened second third) : config.Softened first third := by
  cases early with
  | same => exact late
  | softened required info =>
      cases late with
      | same => exact .softened required info
      | softened _ again => simp at again

theorem eq_or_info {first second : String × ResultDict}
    (softened : config.Softened first second) :
    second = first ∨ first.2.result = "info" ∧ second.2.result = "pass" := by
  cases softened with
  | same => exact .inl rfl
  | softened _ info => exact .inr ⟨info, rfl⟩

theorem antisymm {first second : String × ResultDict} (early : config.Softened first second)
    (late : config.Softened second first) : second = first := by
  rcases early.eq_or_info with same | ⟨info, _⟩
  · exact same
  · rcases late.eq_or_info with same | ⟨_, pass⟩
    · exact same.symm
    · simp [info] at pass

variable {first second third : List (String × ResultDict)}

theorem list_trans (early : List.Forall₂ config.Softened first second)
    (late : List.Forall₂ config.Softened second third) :
    List.Forall₂ config.Softened first third := by
  induction early generalizing third with
  | nil => exact late
  | cons head _ later =>
      cases late with
      | cons next rest => exact .cons (head.trans next) (later rest)

theorem list_antisymm (early : List.Forall₂ config.Softened first second)
    (late : List.Forall₂ config.Softened second first) : second = first := by
  induction early with
  | nil => rfl
  | cons head _ later =>
      cases late with
      | cons next rest => rw [head.antisymm next, later rest]

theorem list_eq (softened : List.Forall₂ config.Softened first second)
    (same : ∀ category, config.words category second = config.words category first) :
    second = first := by
  induction softened with
  | nil => rfl
  | @cons entry after entries others head _ later =>
      obtain ⟨testName, resultDict⟩ := entry
      have heads : after = (testName, resultDict) := by
        cases head with
        | same => rfl
        | softened required info =>
            have counts : config.Counts (config.category testName) testName := ⟨rfl, required⟩
            have words := same (config.category testName)
            rw [words_cons_of_counts counts, words_cons_of_counts counts, info] at words
            simp at words
      rw [heads, later]
      intro category
      have words := same category
      rw [heads] at words
      by_cases counts : config.Counts category testName
      · rw [words_cons_of_counts counts, words_cons_of_counts counts, List.cons.injEq] at words
        exact words.2
      · rw [words_cons_of_not_counts counts, words_cons_of_not_counts counts] at words
        exact words

end Softened

end ReportConfig

namespace ReportGenerator

open ReportConfig

variable {generator : ReportGenerator}

section Row

variable {row : CategoryRow} {testName : String} {resultDict : ResultDict}

theorem rateTest_of_not_counts (other : ¬ generator.moduleConfig.Counts row.category testName) :
    generator.rateTest row testName resultDict = (row, resultDict) :=
  if_neg other

theorem rateTest_of_counts (counts : generator.moduleConfig.Counts row.category testName)
    (resultDict : ResultDict) :
    (generator.rateTest row testName resultDict).1.category = row.category ∧
      (generator.rateTest row testName resultDict).1.result =
        rating.next row.result resultDict.result ∧
      (generator.rateTest row testName resultDict).2 =
        { resultDict with result := rating.left row.result resultDict.result } := by
  have rates : generator.rateTest row testName resultDict = if _ then _ else _ := if_pos counts
  rw [rates]
  unfold Rolling.next Rolling.left rating
  dsimp only
  split
  · split
    · simp
    · simp
  · simp

end Row

section Rows

variable (generator)

/-- Rating a category goes through its words, and leaves those of the others. -/
theorem rateTests_words (row : CategoryRow) (entries : List (String × ResultDict)) :
    (Dict.mapAccumEntries generator.rateTest row entries).1.category = row.category ∧
      (Dict.mapAccumEntries generator.rateTest row entries).1.result =
        (generator.moduleConfig.words row.category entries).foldl rating.next row.result ∧
      generator.moduleConfig.words row.category
          (Dict.mapAccumEntries generator.rateTest row entries).2 =
        rating.overwrite row.result (generator.moduleConfig.words row.category entries) := by
  induction entries generalizing row with
  | nil => exact ⟨rfl, rfl, rfl⟩
  | cons entry rest later =>
      obtain ⟨testName, resultDict⟩ := entry
      rw [Dict.mapAccumEntries]
      by_cases counts : generator.moduleConfig.Counts row.category testName
      · obtain ⟨category, result, dict⟩ := rateTest_of_counts counts resultDict
        have behind := later (generator.rateTest row testName resultDict).1
        rw [category, result] at behind
        rw [words_cons_of_counts counts, words_cons_of_counts counts, dict]
        exact ⟨behind.1, behind.2.1, congrArg (_ :: ·) behind.2.2⟩
      · rw [words_cons_of_not_counts counts, words_cons_of_not_counts counts,
          rateTest_of_not_counts counts]
        exact later row

theorem rateTests_softened (row : CategoryRow) (entries : List (String × ResultDict)) :
    List.Forall₂ generator.moduleConfig.Softened entries
      (Dict.mapAccumEntries generator.rateTest row entries).2 := by
  induction entries generalizing row with
  | nil => exact .nil
  | cons entry rest later =>
      obtain ⟨testName, resultDict⟩ := entry
      rw [Dict.mapAccumEntries]
      apply List.Forall₂.cons _ (later _)
      by_cases counts : generator.moduleConfig.Counts row.category testName
      · obtain ⟨_, _, dict⟩ := rateTest_of_counts counts resultDict
        rw [dict, Rolling.left]
        split
        · split
          · rename_i info
            exact .softened counts.2 info
          · exact .same _
        · exact .same _
      · rw [rateTest_of_not_counts counts]
        exact .same _

theorem rateTests_others {category : String} (row : CategoryRow) (differs : category ≠ row.category)
    (entries : List (String × ResultDict)) :
    generator.moduleConfig.words category
        (Dict.mapAccumEntries generator.rateTest row entries).2 =
      generator.moduleConfig.words category entries := by
  induction entries generalizing row with
  | nil => rfl
  | cons entry rest later =>
      obtain ⟨testName, resultDict⟩ := entry
      rw [Dict.mapAccumEntries]
      by_cases counts : generator.moduleConfig.Counts row.category testName
      · obtain ⟨same, _, _⟩ := rateTest_of_counts counts resultDict
        have other : ¬ generator.moduleConfig.Counts category testName :=
          fun both => differs (both.1.symm.trans counts.1)
        rw [words_cons_of_not_counts other, words_cons_of_not_counts other]
        exact later _ (same ▸ differs)
      · rw [rateTest_of_not_counts counts]
        have behind := later row differs
        by_cases both : generator.moduleConfig.Counts category testName
        · rw [words_cons_of_counts both, words_cons_of_counts both, behind]
        · rw [words_cons_of_not_counts both, words_cons_of_not_counts both, behind]

def rated (category : String) : ReportGenerator :=
  { generator with
    results := (generator.results.mapAccum generator.rateTest (generator.startRow category)).2 }

theorem categoryRows_cons (category : String) (rest : List String) :
    categoryRows (category :: rest) generator =
      ((generator.results.mapAccum generator.rateTest (generator.startRow category)).1 ::
        (categoryRows rest (generator.rated category)).1,
        (categoryRows rest (generator.rated category)).2) := rfl

theorem rated_words (category : String) :
    generator.moduleConfig.words category (generator.rated category).results.entries =
      rating.passed (generator.moduleConfig.words category generator.results.entries) :=
  (generator.rateTests_words (generator.startRow category) generator.results.entries).2.2

theorem rated_others {category other : String} (differs : other ≠ category) :
    generator.moduleConfig.words other (generator.rated category).results.entries =
      generator.moduleConfig.words other generator.results.entries :=
  generator.rateTests_others (generator.startRow category) differs generator.results.entries

theorem rated_softened (category : String) :
    List.Forall₂ generator.moduleConfig.Softened generator.results.entries
      (generator.rated category).results.entries :=
  generator.rateTests_softened (generator.startRow category) generator.results.entries

theorem rated_eq_iff (category : String) :
    (generator.rated category).results.entries = generator.results.entries ↔
      rating.passed (generator.moduleConfig.words category generator.results.entries) =
        generator.moduleConfig.words category generator.results.entries := by
  rw [← rated_words]
  constructor
  · intro same
    rw [same]
  · intro same
    apply Softened.list_eq (generator.rated_softened category)
    intro other
    by_cases differs : other = category
    · rw [differs, same]
    · exact generator.rated_others differs

theorem categoryRows_frame (categories : List String) (generator : ReportGenerator) :
    (categoryRows categories generator).2 =
      { generator with results := (categoryRows categories generator).2.results } := by
  induction categories generalizing generator with
  | nil => rfl
  | cons category rest later =>
      rw [categoryRows_cons, later (generator.rated category)]
      rfl

theorem categoryRows_softened (categories : List String) (generator : ReportGenerator) :
    List.Forall₂ generator.moduleConfig.Softened generator.results.entries
      (categoryRows categories generator).2.results.entries := by
  induction categories generalizing generator with
  | nil =>
      apply List.forall₂_same.mpr
      intro entry _
      exact .same entry
  | cons category rest later =>
      rw [categoryRows_cons]
      exact Softened.list_trans (generator.rated_softened category)
        (later (generator.rated category))

theorem categoryRows_results (category : String) (categories : List String)
    (generator : ReportGenerator) :
    ((categoryRows categories generator).1.filter fun row => row.category = category).map
        CategoryRow.result =
      rating.summaries (categories.count category)
        (generator.moduleConfig.words category generator.results.entries) := by
  induction categories generalizing generator with
  | nil => rfl
  | cons first rest later =>
      obtain ⟨same, shows, _⟩ :=
        generator.rateTests_words (generator.startRow first) generator.results.entries
      have rowCategory : (generator.results.mapAccum generator.rateTest
        (generator.startRow first)).1.category = first := same
      have rowResult : (generator.results.mapAccum generator.rateTest
          (generator.startRow first)).1.result =
        rating.summary (generator.moduleConfig.words first generator.results.entries) := shows
      have behind := later (generator.rated first)
      rw [categoryRows_cons]
      by_cases here : first = category
      · rw [List.filter_cons_of_pos (by simpa [rowCategory] using here), List.map_cons, behind, here,
          List.count_cons_self, Rolling.summaries, ← here, rowResult]
        exact congrArg (fun words => _ :: rating.summaries _ words) (generator.rated_words first)
      · rw [List.filter_cons_of_neg (by simpa [rowCategory] using here), behind,
          List.count_cons_of_ne here]
        exact congrArg (rating.summaries _) (generator.rated_others (Ne.symm here))

theorem categoryRows_eq_iff (categories : List String) (generator : ReportGenerator) :
    (categoryRows categories generator).2.results.entries = generator.results.entries ↔
      ∀ category ∈ categories,
        rating.passed (generator.moduleConfig.words category generator.results.entries) =
          generator.moduleConfig.words category generator.results.entries := by
  induction categories generalizing generator with
  | nil => simp [categoryRows]
  | cons category rest later =>
      rw [categoryRows_cons, List.forall_mem_cons, ← rated_eq_iff]
      have behind := later (generator.rated category)
      constructor
      · intro same
        have first : (generator.rated category).results.entries = generator.results.entries := by
          apply Softened.list_antisymm (generator.rated_softened category)
          have others := categoryRows_softened rest (generator.rated category)
          rw [same] at others
          exact others
        rw [first] at behind
        exact ⟨first, behind.mp same⟩
      · intro ⟨first, others⟩
        rw [first] at behind
        exact behind.mpr others

end Rows

/-! What is written around the tables. -/

section Written

variable (upper : String → String)

theorem categoryRows_fileMd (categories : List String) (generator : ReportGenerator)
    (fileMd : List String) :
    categoryRows categories { generator with fileMd } =
      ((categoryRows categories generator).1,
        { (categoryRows categories generator).2 with fileMd }) := by
  induction categories generalizing generator with
  | nil => rfl
  | cons category rest later =>
      have same : rated { generator with fileMd } category =
        { generator.rated category with fileMd } := rfl
      rw [categoryRows_cons, categoryRows_cons, same, later]
      rfl

theorem categoryTable_fileMd (generator : ReportGenerator) (fileMd : List String) :
    categoryTable upper { generator with fileMd } = categoryTable upper generator := by
  have rows := categoryRows_fileMd generator.categories generator fileMd
  change List.foldl _ _ (categoryRows generator.categories { generator with fileMd }).1 = _
  rw [rows]
  rfl

theorem rows_foldl_addRow {α : Type} (cells : α → List String) (elements : List α)
    (table : MdTable) :
    (elements.foldl (fun table element => table.addRow (cells element)) table).rows =
      table.rows ++ elements.map fun element => [""] ++ (cells element).map strip ++ [""] := by
  induction elements generalizing table with
  | nil => simp
  | cons element rest later =>
      rw [List.foldl_cons, later]
      simp [MdTable.addRow]

theorem categoryTable_rows (generator : ReportGenerator) :
    (categoryTable upper generator).rows =
      (categoryRows generator.categories generator).1.map fun row =>
        [""] ++ (categoryCells upper row).map strip ++ [""] :=
  rows_foldl_addRow _ _ _

theorem writeTestTables_done (generator : ReportGenerator) :
    ∃ rest, generator.writeTestTables upper =
      { (categoryRows generator.categories generator).2 with
        fileMd := generator.fileMd ++ (categoryTable upper generator).render :: rest } := by
  have frame := categoryRows_frame generator.categories generator
  unfold writeTestTables writeResultTable writeExpectedTable writeCategoryTable writeln write
  rw [frame]
  simp only [List.append_assoc, List.cons_append, List.nil_append]
  exact ⟨_, rfl⟩

theorem analyseAndWriteResults_done (generator : ReportGenerator) :
    ∃ notice, generator.analyseAndWriteResults =
      { generator with
        fileMd := generator.fileMd ++ (overallResult generator.passes ++ "\n") :: notice } := by
  unfold analyseAndWriteResults
  split
  · simp only [writeln, write, List.append_assoc, List.cons_append, List.nil_append]
    exact ⟨_, rfl⟩
  · simp only [writeln, write, List.append_assoc, List.cons_append, List.nil_append]
    exact ⟨_, rfl⟩

/-- The summary is the verdict, and then the tables; of the generator only the results
change, as the category table leaves them. -/
theorem writeTestSummary_done (generator : ReportGenerator) :
    ∃ notice rest, generator.writeTestSummary upper =
      { (categoryRows generator.categories generator).2 with
        fileMd := generator.fileMd ++ [testSeparator SUMMARY_LINE ++ "\n",
          overallResult generator.passes ++ "\n"] ++ notice ++
            (categoryTable upper generator).render :: rest } := by
  obtain ⟨notice, verdict⟩ :=
    (generator.writeln (testSeparator SUMMARY_LINE)).analyseAndWriteResults_done
  obtain ⟨rest, tables⟩ := writeTestTables_done upper
    (generator.writeln (testSeparator SUMMARY_LINE)).analyseAndWriteResults
  refine ⟨notice, rest, ?_⟩
  unfold writeTestSummary
  rw [tables, verdict]
  simp only [writeln, write, categoryTable_fileMd, categoryRows_fileMd, List.append_assoc,
    List.cons_append, List.nil_append]
  rfl

end Written

end ReportGenerator

end Daq
