import Daq.Lib.Tally
import Daq.Report.Overall

namespace Daq

open Fallible Report

/-! What the tables of the md report count. -/

namespace Report

theorem mem_appendNew {list : List String} {element other : String} :
    other ∈ appendNew list element ↔ other ∈ list ∨ other = element := by
  unfold appendNew
  split
  · rename_i member
    exact ⟨.inl, fun either => either.elim id fun same => same ▸ member⟩
  · rw [List.mem_append, List.mem_singleton]

theorem appendNew_nodup {list : List String} (distinct : list.Nodup) (element : String) :
    (appendNew list element).Nodup := by
  unfold appendNew
  split
  · exact distinct
  · rename_i fresh
    exact List.nodup_append_comm.mp (List.nodup_cons.mpr ⟨fresh, distinct⟩)

end Report

namespace ReportConfig

variable (config : ReportConfig)

def expectedOf (testName : String) : String :=
  (config.testInfo testName).expected.getD DEFAULT_EXPECTED

/-- Only tests with a requirement are counted in the category table. -/
def Required (testName : String) : Prop := (config.testInfo testName).required.isSome

instance (testName : String) : Decidable (config.Required testName) :=
  inferInstanceAs (Decidable (_ = true))

/-- The cell of the expectation table that an entry is counted in. -/
def cell (entry : String × ResultDict) : String × String :=
  (config.expectedOf entry.1, entry.2.result)

end ReportConfig

namespace ReportGenerator

open ReportConfig

/-- The headers are distinct and cover the results, which are counted by expectation and
word. -/
structure Tallied (generator : ReportGenerator) : Prop where
  resultHeaders : generator.resultHeaders.Nodup
  expectedHeaders : generator.expectedHeaders.Nodup
  categories : generator.categories.Nodup
  words : ∀ entry ∈ generator.results.entries, entry.2.result ∈ generator.resultHeaders
  expectations : ∀ entry ∈ generator.results.entries,
    generator.moduleConfig.expectedOf entry.1 ∈ generator.expectedHeaders
  rated : ∀ entry ∈ generator.results.entries,
    generator.moduleConfig.category entry.1 ∈ generator.categories
  counts : ∀ cell, generator.expecteds.count cell =
    (generator.results.entries.map generator.moduleConfig.cell).countP fun other => other = cell

section Tallied

variable {generator after : ReportGenerator}

theorem Tallied.recorded (tallied : Tallied generator) (modules : Dict String (List String))
    (missingTests : List String) : Tallied { generator with modules, missingTests } where
  resultHeaders := tallied.resultHeaders
  expectedHeaders := tallied.expectedHeaders
  categories := tallied.categories
  words := tallied.words
  expectations := tallied.expectations
  rated := tallied.rated
  counts := tallied.counts

theorem covered_appendNew {entries : List (String × ResultDict)} {headers : List String}
    {header : String × ResultDict → String} (covered : ∀ entry ∈ entries, header entry ∈ headers)
    (new : String × ResultDict) :
    ∀ entry ∈ entries ++ [new], header entry ∈ appendNew headers (header new) := by
  intro entry member
  apply mem_appendNew.mpr
  rcases List.mem_append.mp member with member | member
  · exact .inl (covered entry member)
  · rw [List.mem_singleton.mp member]
    exact .inr rfl

theorem accumulateResult_tallied {testName result extra : String} {moduleName : Option String}
    (tallied : Tallied generator)
    (done : generator.accumulateResult testName result extra moduleName = .ok after) :
    Tallied after := by
  unfold accumulateResult at done
  split at done
  · cases done
  · rename_i fresh
    cases done
    have entries := fun dict : ResultDict => Dict.entries_insert_of_absent fresh dict
    refine ⟨appendNew_nodup tallied.resultHeaders _, appendNew_nodup tallied.expectedHeaders _,
      appendNew_nodup tallied.categories _, ?words, ?expectations, ?rated, ?counts⟩
    case words =>
      rw [entries]
      exact covered_appendNew tallied.words _
    case expectations =>
      rw [entries]
      exact covered_appendNew tallied.expectations _
    case rated =>
      rw [entries]
      exact covered_appendNew tallied.rated _
    case counts =>
      intro cell
      have tally := Dict.count_tallyAt generator.expecteds
        (generator.moduleConfig.expectedOf testName, result) cell
      rw [entries, List.map_append, List.countP_append, ← tallied.counts]
      refine tally.trans (congrArg _ ?_)
      rw [List.map_singleton, List.countP_singleton]
      exact if_congr decide_eq_true_iff.symm rfl rfl

theorem processLine_tallied {moduleName line : String} (tallied : Tallied generator)
    (done : processLine moduleName generator line = .ok after) : Tallied after := by
  unfold processLine at done
  split at done
  · cases done
    exact tallied
  · obtain ⟨middle, accumulated, same⟩ := bind_eq_ok_iff.mp done
    cases same
    exact (accumulateResult_tallied tallied accumulated).recorded _ _

theorem processModule_tallied {module : String × RepItem} (tallied : Tallied generator)
    (done : processModule generator module = .ok after) : Tallied after :=
  foldlM_keeps (fun _ _ _ => processLine_tallied) done (tallied.recorded _ _)

theorem findMissingTestResult_tallied {testName : String} (tallied : Tallied generator)
    (done : findMissingTestResult generator testName = .ok after) : Tallied after := by
  unfold findMissingTestResult at done
  split at done
  · obtain ⟨middle, accumulated, same⟩ := bind_eq_ok_iff.mp done
    cases same
    exact (accumulateResult_tallied tallied accumulated).recorded _ _
  · cases done
    exact tallied

theorem processResults_tallied (tallied : Tallied generator)
    (done : generator.processResults = .ok after) : Tallied after := by
  obtain ⟨middle, modules, tests⟩ := bind_eq_ok_iff.mp done
  apply foldlM_keeps (fun _ _ _ => findMissingTestResult_tallied) tests
  exact foldlM_keeps (fun _ _ _ => processModule_tallied) modules tallied

theorem new_tallied {config : ReportConfig} {repitems : Dict String RepItem}
    (results : config.results.Nodup) (expected : config.expected.Nodup)
    (categories : config.categories.Nodup) : Tallied (new config repitems) where
  resultHeaders := results
  expectedHeaders := expected
  categories := categories
  words := List.forall_mem_nil _
  expectations := List.forall_mem_nil _
  rated := List.forall_mem_nil _
  counts _ := rfl

end Tallied

/-! The rows of the category table. -/

/-- Each expectation has the numbers of passed, failed and skipped tests, and they add up to
the total. -/
structure Balanced (width : Nat) (row : CategoryRow) : Prop where
  width : row.results.length = width
  triples : ∀ counts ∈ row.results, counts.length = 3
  total : row.total = (row.results.map List.sum).sum

section Rows

variable {generator : ReportGenerator}

theorem startRow_balanced (generator : ReportGenerator) (category : String) :
    Balanced generator.expectedHeaders.length (generator.startRow category) where
  width := List.length_map _
  triples counts member := by
    obtain ⟨_, _, rfl⟩ := List.mem_map.mp member
    rfl
  total := by
    rw [startRow, List.map_map]
    exact (List.sum_eq_zero fun number member => by
      obtain ⟨_, _, rfl⟩ := List.mem_map.mp member
      rfl).symm

theorem sum_modify_add_one {counts : List Nat} {column : Nat} (inside : column < counts.length) :
    (counts.modify column (· + 1)).sum = counts.sum + 1 := by
  have sums := @sum_map_modify _ id (· + 1) counts column inside fun _ _ => rfl
  rwa [List.map_id, List.map_id] at sums

def resultColumn (result : String) : Nat :=
  if result = "pass" ∨ result = "info" then INDEX_PASS
  else if result = "skip" then INDEX_SKIP
  else INDEX_FAIL

theorem resultColumn_lt (result : String) : resultColumn result < 3 := by
  unfold resultColumn
  split
  · decide
  · split
    · decide
    · decide

theorem rateTest_counted {row : CategoryRow} {testName : String}
    (counts : generator.moduleConfig.Counts row.category testName) (resultDict : ResultDict) :
    ∃ result, (generator.rateTest row testName resultDict).1 =
      { row with
        total := row.total + 1
        result
        results := row.results.modify
          (generator.expectedHeaders.idxOf (generator.moduleConfig.expectedOf testName))
          fun numbers => numbers.modify (resultColumn resultDict.result) (· + 1) } := by
  have branch : generator.rateTest row testName resultDict = if _ then _ else _ := if_pos counts
  by_cases differs : row.result ≠ resultDict.result ∧ row.result ≠ NO_REQUIRED
  · by_cases info : resultDict.result = "info"
    · exact ⟨row.result, congrArg Prod.fst (branch.trans ((if_pos differs).trans (if_pos info)))⟩
    · exact ⟨"fail", congrArg Prod.fst (branch.trans ((if_pos differs).trans (if_neg info)))⟩
  · exact ⟨resultDict.result, congrArg Prod.fst (branch.trans (if_neg differs))⟩

/-- A test that counts is counted once in its row, whatever becomes of its result. -/
theorem rateTest_balanced {width : Nat} {row : CategoryRow} {testName : String}
    (balanced : Balanced width row)
    (expectation : generator.expectedHeaders.idxOf (generator.moduleConfig.expectedOf testName) <
      width)
    (resultDict : ResultDict) :
    Balanced width (generator.rateTest row testName resultDict).1 ∧
      (generator.rateTest row testName resultDict).1.total =
        row.total + if generator.moduleConfig.Counts row.category testName then 1 else 0 := by
  by_cases counts : generator.moduleConfig.Counts row.category testName
  · obtain ⟨result, rated⟩ := rateTest_counted counts resultDict
    have inside := resultColumn_lt resultDict.result
    rw [rated, if_pos counts]
    refine ⟨⟨?width, ?triples, ?total⟩, rfl⟩
    case width => exact (List.length_modify _ _ _).trans balanced.width
    case triples =>
      intro numbers member
      obtain ⟨index, here, rfl⟩ := List.mem_iff_getElem.mp member
      have long : index < row.results.length := by rwa [List.length_modify] at here
      rw [List.getElem_modify]
      split
      · rw [List.length_modify]
        exact balanced.triples _ (List.getElem_mem long)
      · exact balanced.triples _ (List.getElem_mem long)
    case total =>
      dsimp only
      rw [sum_map_modify (balanced.width ▸ expectation), balanced.total]
      intro numbers member
      exact sum_modify_add_one (balanced.triples numbers member ▸ inside)
  · rw [rateTest_of_not_counts counts, if_neg counts]
    exact ⟨balanced, rfl⟩

theorem rateTests_balanced {width : Nat} {row : CategoryRow} (balanced : Balanced width row)
    {entries : List (String × ResultDict)}
    (expectations : ∀ entry ∈ entries,
      generator.expectedHeaders.idxOf (generator.moduleConfig.expectedOf entry.1) < width) :
    Balanced width (Dict.mapAccumEntries generator.rateTest row entries).1 ∧
      (Dict.mapAccumEntries generator.rateTest row entries).1.total =
        row.total +
          (entries.map Prod.fst).countP fun testName =>
            generator.moduleConfig.Counts row.category testName := by
  induction entries generalizing row with
  | nil => exact ⟨balanced, rfl⟩
  | cons entry rest later =>
      obtain ⟨testName, resultDict⟩ := entry
      obtain ⟨here, others⟩ := List.forall_mem_cons.mp expectations
      obtain ⟨first, total⟩ := rateTest_balanced balanced here resultDict
      obtain ⟨behind, sum⟩ := later first others
      have category : (generator.rateTest row testName resultDict).1.category = row.category := by
        by_cases counts : generator.moduleConfig.Counts row.category testName
        · exact (rateTest_of_counts counts resultDict).1
        · rw [rateTest_of_not_counts counts]
      refine ⟨behind, sum.trans ?_⟩
      rw [total, category, List.map_cons, List.countP_cons]
      simp only [decide_eq_true_eq]
      omega

theorem rated_keys (generator : ReportGenerator) (category : String) :
    (generator.rated category).results.keys = generator.results.keys :=
  Dict.map_fst_mapAccumEntries _ _ _

theorem categoryRows_balanced (categories : List String) (generator : ReportGenerator)
    (expectations : ∀ testName ∈ generator.results.keys,
      generator.moduleConfig.expectedOf testName ∈ generator.expectedHeaders) :
    (∀ row ∈ (categoryRows categories generator).1,
        Balanced generator.expectedHeaders.length row) ∧
      (categoryRows categories generator).1.map CategoryRow.total =
        categories.map fun category => generator.results.keys.countP fun testName =>
          generator.moduleConfig.Counts category testName := by
  induction categories generalizing generator with
  | nil => exact ⟨List.forall_mem_nil _, rfl⟩
  | cons category rest later =>
      have entries : ∀ entry ∈ generator.results.entries,
          generator.expectedHeaders.idxOf (generator.moduleConfig.expectedOf entry.1) <
            generator.expectedHeaders.length := by
        intro entry member
        exact List.idxOf_lt_length_iff.mpr (expectations entry.1 (List.mem_map_of_mem member))
      obtain ⟨balanced, total⟩ := rateTests_balanced (generator.startRow_balanced category) entries
      have keys := generator.rated_keys category
      obtain ⟨others, totals⟩ := later (generator.rated category) (by
        rw [keys]
        exact expectations)
      rw [categoryRows_cons]
      refine ⟨List.forall_mem_cons.mpr ⟨balanced, others⟩, ?_⟩
      rw [List.map_cons, List.map_cons, totals, keys]
      exact congrArg (· :: _) (total.trans (Nat.zero_add _))

end Rows

/-! The tables as they are written. -/

section Written

variable (upper : String → String)

theorem headers_foldl_addRow {α : Type} (cells : α → List String) (elements : List α)
    (table : MdTable) :
    (elements.foldl (fun table element => table.addRow (cells element)) table).headers =
      table.headers := by
  induction elements generalizing table with
  | nil => rfl
  | cons element rest later => exact later _

def expectedTable (generator : ReportGenerator) : MdTable :=
  generator.expectedHeaders.foldl
    (fun table expected =>
      table.addRow (expected :: generator.resultHeaders.map fun result =>
        toString (generator.expecteds.count (expected, result))))
    (MdTable.new (EXPECTED_HEADER :: generator.resultHeaders))

theorem mem_write (generator : ReportGenerator) (msg : String) :
    msg ∈ (generator.write msg).fileMd :=
  List.mem_append_right _ (List.mem_singleton.mpr rfl)

theorem write_keeps {generator : ReportGenerator} {written : String}
    (member : written ∈ generator.fileMd) (msg : String) :
    written ∈ (generator.write msg).fileMd :=
  List.mem_append_left _ member

theorem writeTestTables_tables (generator : ReportGenerator) :
    (categoryTable upper generator).render ∈ (generator.writeTestTables upper).fileMd ∧
      generator.expectedTable.render ∈ (generator.writeTestTables upper).fileMd := by
  have same : (categoryRows generator.categories generator).2.expectedTable =
      generator.expectedTable := by
    rw [categoryRows_frame]
    rfl
  constructor
  · apply write_keeps (write_keeps (write_keeps (write_keeps (write_keeps (write_keeps _ _) _) _) _) _)
    exact mem_write _ _
  · rw [← same]
    exact write_keeps (write_keeps (write_keeps (mem_write _ _) _) _) _

theorem writeTestSummary_tables (generator : ReportGenerator) :
    (categoryTable upper generator).render ∈ (generator.writeTestSummary upper).fileMd ∧
      generator.expectedTable.render ∈ (generator.writeTestSummary upper).fileMd := by
  obtain ⟨notice, verdict⟩ :=
    (generator.writeln (testSeparator SUMMARY_LINE)).analyseAndWriteResults_done
  obtain ⟨fileMd, summary⟩ : ∃ fileMd, generator.writeTestSummary upper =
      writeTestTables upper { generator with fileMd } :=
    ⟨_, congrArg (writeTestTables upper) verdict⟩
  have tables := writeTestTables_tables upper { generator with fileMd }
  rw [categoryTable_fileMd] at tables
  rw [summary]
  exact tables

variable {config : ReportConfig} {repitems : Dict String RepItem}

/-- The tests with an expectation and a reported result, those that are gone included. -/
def tests (config : ReportConfig) (repitems : Dict String RepItem) (expected result : String) :
    Nat :=
  (allReported config repitems).countP fun line =>
    config.expectedOf line.2.testName = expected ∧ line.2.result = result

/-- In the md report every result is counted once: the category rows count the results with a
requirement, each in the numbers of one row, and the expectation table counts all results by
their expectation and the word that was reported. -/
theorem finalize_tables (results : config.results.Nodup) (expected : config.expected.Nodup)
    (categories : config.categories.Nodup) {final : ReportGenerator}
    (done : (new config repitems).finalize upper = .ok final) :
    ∃ (byCategory byExpectation : MdTable) (rows : List CategoryRow) (expectations words : List String),
      byCategory.render ∈ final.fileMd ∧
      byCategory.headers = [""] ++ (CATEGORY_BASE_COLS ++ expectations) ++ [""] ∧
      byCategory.rows = (rows.map fun row => [""] ++ (categoryCells upper row).map strip ++ [""]) ∧
      (rows.map CategoryRow.total).sum =
        ((allReported config repitems).countP fun line => config.Required line.2.testName) ∧
      (∀ row ∈ rows, row.total = (row.results.map List.sum).sum) ∧
      byExpectation.render ∈ final.fileMd ∧
      byExpectation.headers = [""] ++ (EXPECTED_HEADER :: words) ++ [""] ∧
      byExpectation.rows = (expectations.map fun expected =>
        [""] ++ (expected :: words.map fun result =>
          toString (tests config repitems expected result)).map strip ++ [""]) ∧
      (expectations.map fun expected =>
        (words.map fun result => tests config repitems expected result).sum).sum =
          (allReported config repitems).length := by
  obtain ⟨processed, processing, summary⟩ := bind_eq_ok_iff.mp done
  cases summary
  have tallied := processResults_tallied (new_tallied results expected categories) processing
  have accumulated := processResults_accumulated processing
  have configured : processed.moduleConfig = config := accumulated.moduleConfig
  have entries : processed.results.entries = (allReported config repitems).map config.entry :=
    accumulated.entries
  have keys : processed.results.keys =
      (allReported config repitems).map fun line => line.2.testName := by
    rw [Dict.keys, entries, List.map_map]
    rfl
  have cells : ∀ expected result, processed.expecteds.count (expected, result) =
      tests config repitems expected result := by
    intro expected result
    rw [tallied.counts, entries, List.map_map, List.countP_map, tests, configured]
    apply List.countP_congr
    intro line _
    simp only [Function.comp_apply, cell, ReportConfig.entry, resultDict, Prod.ext_iff,
      decide_eq_true_iff]
    exact decide_eq_true_iff
  obtain ⟨balanced, totals⟩ := categoryRows_balanced processed.categories processed (by
      intro testName member
      obtain ⟨entry, stored, rfl⟩ := List.mem_map.mp member
      exact tallied.expectations entry stored)
  obtain ⟨categoryWritten, expectedWritten⟩ := writeTestSummary_tables upper processed
  refine ⟨categoryTable upper processed, processed.expectedTable,
    (categoryRows processed.categories processed).1, processed.expectedHeaders,
    processed.resultHeaders, categoryWritten, headers_foldl_addRow _ _ _,
    categoryTable_rows upper processed, ?total, fun row member => (balanced row member).total,
    expectedWritten, headers_foldl_addRow _ _ _, ?cells, ?sum⟩
  case total =>
    have counted := sum_countP_eq tallied.categories config.category
      (fun testName => decide (config.Required testName)) processed.results.keys (by
        intro testName member _
        obtain ⟨entry, stored, rfl⟩ := List.mem_map.mp member
        exact configured ▸ tallied.rated entry stored)
    rw [totals, configured]
    rw [keys, List.countP_map] at counted
    rw [keys]
    refine Eq.trans ?_ counted
    congr 1
    apply List.map_congr_left
    intro category _
    apply List.countP_congr
    intro testName _
    rw [Bool.and_eq_true, decide_eq_true_iff, decide_eq_true_iff, decide_eq_true_iff]
    exact and_comm
  case cells =>
    simp only [expectedTable, rows_foldl_addRow, cells]
    rfl
  case sum =>
    have counted := sum_sum_count tallied.expectedHeaders tallied.resultHeaders
      (processed.results.entries.map processed.moduleConfig.cell) (by
        intro cell member
        obtain ⟨entry, stored, rfl⟩ := List.mem_map.mp member
        exact ⟨tallied.expectations entry stored, tallied.words entry stored⟩)
    simp only [← tallied.counts, cells] at counted
    rw [counted, List.length_map, entries, List.length_map]

end Written

namespace Sample

theorem onePassed_tables :
    ∃ (final : ReportGenerator) (byCategory : MdTable) (rows : List CategoryRow),
      (new twoTests onePassed).finalize String.toUpper = .ok final ∧
      byCategory.render ∈ final.fileMd ∧
      byCategory.rows =
        (rows.map fun row => [""] ++ (categoryCells String.toUpper row).map strip ++ [""]) ∧
      (rows.map CategoryRow.total).sum = 1 := by
  obtain ⟨final, finalized⟩ :=
    (@finalize_ok_iff twoTests onePassed String.toUpper).mpr (by decide)
  obtain ⟨byCategory, _, rows, _, _, written, _, cells, total, _⟩ :=
    finalize_tables String.toUpper List.nodup_nil List.nodup_nil List.nodup_nil finalized
  have one : ((allReported twoTests onePassed).countP fun line =>
      twoTests.Required line.2.testName) = 1 := by decide
  exact ⟨final, byCategory, rows, finalized, written, cells, total.trans one⟩

end Sample

end ReportGenerator

end Daq
