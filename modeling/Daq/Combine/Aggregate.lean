import Daq.Data
import Daq.Lib.Fallible
import Daq.Lib.Tally

namespace Daq.Combine

open Fallible

/-! The aggregate of the JSON reports of a device. -/

variable {ρ : Type} [DecidableEq ρ]

/-- What a report has for a test; either value may be missing. -/
structure TestResult (ρ : Type) where
  result : Option ρ := none
  category : Option ρ := none
deriving DecidableEq

/-- The tests of a module. -/
abbrev ModuleResult (ρ : Type) := Dict String (TestResult ρ)

structure JsonReport (ρ : Type) where
  timestamp : Option String := none
  missingTests : List String := []
  modules : Dict String (ModuleResult ρ) := .empty

structure Aggregate (ρ : Type) where
  tests : Dict String (Dict (Option ρ) Nat) := .empty
  categories : Dict (Option ρ) (Dict (Option ρ) Nat) := .empty
  missing : Dict String Nat := .empty
  reports : Dict String Bool := .empty

/-- `table.setdefault(row, {})` and `table[row].setdefault(column, 0)`. -/
def prepare {κ : Type} [DecidableEq κ] (table : Dict κ (Dict (Option ρ) Nat)) (row : κ)
    (column : Option ρ) : Dict κ (Dict (Option ρ) Nat) :=
  let table := table.setDefault row .empty
  table.insert row (((table.get? row).getD .empty).setDefault column 0)

/-- `table[row][column] += 1`. -/
def increment {κ : Type} [DecidableEq κ] (table : Dict κ (Dict (Option ρ) Nat)) (row : κ)
    (column : Option ρ) : Dict κ (Dict (Option ρ) Nat) :=
  let counts := (table.get? row).getD .empty
  table.insert row (counts.insert column ((counts.get? column).getD 0 + 1))

def addTest (aggregate : Aggregate ρ) (test : String × TestResult ρ) : Aggregate ρ :=
  let tests := prepare aggregate.tests test.1 test.2.result
  let categories := prepare aggregate.categories test.2.category test.2.result
  { aggregate with
    tests := increment tests test.1 test.2.result
    categories := increment categories test.2.category test.2.result }

def addModule (aggregate : Aggregate ρ) (module : String × ModuleResult ρ) : Aggregate ρ :=
  module.2.entries.foldl addTest aggregate

def addMissing (aggregate : Aggregate ρ) (test : String) : Aggregate ρ :=
  let missing := aggregate.missing.setDefault test 0
  { aggregate with missing := missing.insert test ((missing.get? test).getD 0 + 1) }

/-- A report without a timestamp raises. -/
def addReport (aggregate : Aggregate ρ) (report : JsonReport ρ) : Except Exc (Aggregate ρ) :=
  match report.timestamp with
  | none => .error (.keyError "'timestamp'")
  | some timestamp =>
      let aggregate := { aggregate with reports := aggregate.reports.insert timestamp true }
      let aggregate := report.missingTests.foldl addMissing aggregate
      .ok (report.modules.entries.foldl addModule aggregate)

def aggregate (jsonReports : List (JsonReport ρ)) : Except Exc (Aggregate ρ) :=
  jsonReports.foldlM addReport {}

/-! What is counted. -/

def moduleResults (reports : List (JsonReport ρ)) : List (ModuleResult ρ) :=
  reports.flatMap fun report => report.modules.values

def testResults (reports : List (JsonReport ρ)) : List (String × TestResult ρ) :=
  (moduleResults reports).flatMap Dict.entries

def testCell (test : String × TestResult ρ) : String × Option ρ := (test.1, test.2.result)

def categoryCell (test : String × TestResult ρ) : Option ρ × Option ρ :=
  (test.2.category, test.2.result)

theorem increment_prepare {κ : Type} [DecidableEq κ] (table : Dict κ (Dict (Option ρ) Nat))
    (row : κ) (column : Option ρ) :
    increment (prepare table row column) row column = table.tallyAt (row, column) := by
  have prepared : ((prepare table row column).get? row).getD .empty =
      ((table.get? row).getD .empty).setDefault column 0 := by
    rw [prepare, Dict.get?_insert_self, Option.getD_some, Dict.get?_setDefault_self,
      Option.getD_some]
  rw [increment, prepared, prepare, Dict.insert_insert, Dict.insert_setDefault,
    Dict.insert_setDefault, Dict.get?_setDefault_self, Option.getD_some]
  rfl

theorem addTest_eq (aggregate : Aggregate ρ) (test : String × TestResult ρ) :
    addTest aggregate test =
      { aggregate with
        tests := aggregate.tests.tallyAt (testCell test)
        categories := aggregate.categories.tallyAt (categoryCell test) } := by
  rw [addTest, increment_prepare, increment_prepare]
  rfl

omit [DecidableEq ρ] in
theorem addMissing_eq (aggregate : Aggregate ρ) (test : String) :
    addMissing aggregate test = { aggregate with missing := aggregate.missing.tally test } := by
  rw [addMissing, Dict.insert_setDefault, Dict.get?_setDefault_self, Option.getD_some]
  rfl

theorem addTests_eq (tests : List (String × TestResult ρ)) (aggregate : Aggregate ρ) :
    tests.foldl addTest aggregate =
      { aggregate with
        tests := (tests.map testCell).foldl Dict.tallyAt aggregate.tests
        categories := (tests.map categoryCell).foldl Dict.tallyAt aggregate.categories } := by
  induction tests generalizing aggregate with
  | nil => rfl
  | cons test rest later => rw [List.foldl_cons, later, addTest_eq, List.map_cons, List.map_cons,
      List.foldl_cons, List.foldl_cons]

omit [DecidableEq ρ] in
theorem addMissings_eq (tests : List String) (aggregate : Aggregate ρ) :
    tests.foldl addMissing aggregate =
      { aggregate with missing := tests.foldl Dict.tally aggregate.missing } := by
  induction tests generalizing aggregate with
  | nil => rfl
  | cons test rest later => rw [List.foldl_cons, later, addMissing_eq, List.foldl_cons]

theorem addModules_eq (modules : List (String × ModuleResult ρ)) (aggregate : Aggregate ρ) :
    modules.foldl addModule aggregate =
      (modules.flatMap fun module => module.2.entries).foldl addTest aggregate := by
  induction modules generalizing aggregate with
  | nil => rfl
  | cons module rest later => rw [List.foldl_cons, later, List.flatMap_cons, List.foldl_append,
      addModule]

theorem addReport_eq (aggregate : Aggregate ρ) (report : JsonReport ρ) {timestamp : String}
    (stamped : report.timestamp = some timestamp) :
    addReport aggregate report = .ok
      { tests := ((testResults [report]).map testCell).foldl Dict.tallyAt aggregate.tests
        categories :=
          ((testResults [report]).map categoryCell).foldl Dict.tallyAt aggregate.categories
        missing := report.missingTests.foldl Dict.tally aggregate.missing
        reports := aggregate.reports.insert timestamp true } := by
  have tests : testResults [report] =
      report.modules.entries.flatMap fun module => module.2.entries := by
    rw [testResults, moduleResults, List.flatMap_singleton, Dict.values, List.flatMap_map]
  rw [addReport, stamped]
  dsimp only
  rw [addModules_eq, addMissings_eq, addTests_eq, tests]

theorem addReport_stamped {aggregate after : Aggregate ρ} {report : JsonReport ρ}
    (done : addReport aggregate report = .ok after) :
    ∃ timestamp, report.timestamp = some timestamp := by
  unfold addReport at done
  split at done
  · cases done
  · exact ⟨_, ‹_›⟩

omit [DecidableEq ρ] in
theorem testResults_cons (report : JsonReport ρ) (reports : List (JsonReport ρ)) :
    testResults (report :: reports) = testResults [report] ++ testResults reports := by
  rw [testResults, moduleResults, List.flatMap_cons, List.flatMap_append, testResults,
    moduleResults, List.flatMap_singleton]
  rfl

/-- The four maps of the aggregate, each filled by a loop of its own. -/
theorem aggregate_eq (reports : List (JsonReport ρ)) (start : Aggregate ρ)
    (timestamps : List String) (stamped : reports.map JsonReport.timestamp = timestamps.map some) :
    reports.foldlM addReport start = .ok
      { tests := ((testResults reports).map testCell).foldl Dict.tallyAt start.tests
        categories := ((testResults reports).map categoryCell).foldl Dict.tallyAt start.categories
        missing := (reports.flatMap JsonReport.missingTests).foldl Dict.tally start.missing
        reports := timestamps.foldl (fun dict timestamp => dict.insert timestamp true)
          start.reports } := by
  induction reports generalizing start timestamps with
  | nil =>
      obtain rfl : timestamps = [] := by simpa using stamped.symm
      rfl
  | cons report rest later =>
      cases timestamps with
      | nil => simp at stamped
      | cons timestamp timestamps =>
          rw [List.map_cons, List.map_cons, List.cons.injEq] at stamped
          rw [List.foldlM_cons, addReport_eq start report stamped.1, ok_bind,
            later _ _ stamped.2,
            testResults_cons report rest, List.map_append, List.map_append, List.foldl_append,
            List.foldl_append, List.flatMap_cons, List.foldl_append, List.foldl_cons]

theorem exists_map_some {α : Type} {options : List (Option α)}
    (present : ∀ option ∈ options, option.isSome) : ∃ values : List α, options = values.map some := by
  induction options with
  | nil => exact ⟨[], rfl⟩
  | cons option rest later =>
      obtain ⟨here, others⟩ := List.forall_mem_cons.mp present
      obtain ⟨value, rfl⟩ := Option.isSome_iff_exists.mp here
      obtain ⟨values, rfl⟩ := later others
      exact ⟨value :: values, rfl⟩

theorem aggregate_stamped {reports : List (JsonReport ρ)} {built : Aggregate ρ}
    (done : aggregate reports = .ok built) :
    ∃ timestamps : List String, reports.map JsonReport.timestamp = timestamps.map some := by
  apply exists_map_some
  intro stamp member
  obtain ⟨report, inside, rfl⟩ := List.mem_map.mp member
  obtain ⟨_, _, added⟩ := foldlM_each done report inside
  obtain ⟨timestamp, stamped⟩ := addReport_stamped added
  rw [stamped]
  rfl

/-! What the aggregate says, and that the order does not matter. -/

section Counts

variable (reports : List (JsonReport ρ))

/-- The number of modules, over all reports, in which a test has a result. -/
def modulesWith (test : String) (result : Option ρ) : Nat :=
  (moduleResults reports).countP fun tests =>
    (tests.get? test).any fun found => found.result = result

/-- The number of tests, over all modules, of a category and with a result. -/
def testsWith (category result : Option ρ) : Nat :=
  (testResults reports).countP fun test => test.2.category = category ∧ test.2.result = result

/-- A number in a dictionary, which has no zeros. -/
def counted (number : Nat) : Option Nat := if number = 0 then none else some number

theorem count_testCell (test : String) (result : Option ρ) :
    (((testResults reports).map testCell).countP fun cell => cell = (test, result)) =
      modulesWith reports test result := by
  rw [modulesWith, testResults]
  induction moduleResults reports with
  | nil => rfl
  | cons module rest later =>
      have here := Dict.countP_entries module test fun found => found.result = result
      rw [List.flatMap_cons, List.map_append, List.countP_append, later, List.countP_cons, ← here,
        List.countP_map, Nat.add_comm]
      congr 1
      apply List.countP_congr
      intro found _
      simp [testCell]

theorem count_categoryCell (category result : Option ρ) :
    (((testResults reports).map categoryCell).countP fun cell => cell = (category, result)) =
      testsWith reports category result := by
  rw [List.countP_map, testsWith]
  apply List.countP_congr
  intro test _
  simp [categoryCell]

end Counts

/-- The same reports in another order, with their modules in other orders. -/
structure SameReport (first second : JsonReport ρ) : Prop where
  timestamp : second.timestamp = first.timestamp
  missingTests : second.missingTests.Perm first.missingTests
  modules : second.modules.entries.Perm first.modules.entries

def Reordered (first second : List (JsonReport ρ)) : Prop :=
  ∃ middle, first.Perm middle ∧ List.Forall₂ SameReport middle second

structure SameAggregate (first second : Aggregate ρ) : Prop where
  tests : Dict.SameTable first.tests second.tests
  categories : Dict.SameTable first.categories second.categories
  missing : ∀ test, second.missing.get? test = first.missing.get? test
  reports : ∀ timestamp, second.reports.get? timestamp = first.reports.get? timestamp

section Order

variable {first second : List (JsonReport ρ)}

omit [DecidableEq ρ] in
theorem Reordered.flatMap_perm {α : Type} {part : JsonReport ρ → List α}
    (reordered : Reordered first second)
    (each : ∀ report other, SameReport report other → (part other).Perm (part report)) :
    (second.flatMap part).Perm (first.flatMap part) := by
  obtain ⟨middle, perm, same⟩ := reordered
  refine List.Perm.trans ?_ (perm.symm.flatMap_right part)
  clear perm
  induction same with
  | nil => exact .refl _
  | cons here _ later =>
      rw [List.flatMap_cons, List.flatMap_cons]
      exact (each _ _ here).append later

omit [DecidableEq ρ] in
theorem Reordered.testResults_perm (reordered : Reordered first second) :
    (testResults second).Perm (testResults first) := by
  apply List.Perm.flatMap_right
  apply reordered.flatMap_perm
  intro report other same
  exact same.modules.map Prod.snd

omit [DecidableEq ρ] in
theorem Reordered.timestamps {timestamps : List String} (reordered : Reordered first second)
    (stamped : first.map JsonReport.timestamp = timestamps.map some) :
    ∃ others : List String, second.map JsonReport.timestamp = others.map some ∧
      others.Perm timestamps := by
  have perm : (second.map JsonReport.timestamp).Perm (timestamps.map some) := by
    rw [← stamped, ← List.flatMap_pure_eq_map, ← List.flatMap_pure_eq_map]
    apply reordered.flatMap_perm
    intro report other same
    exact .of_eq (congrArg pure same.timestamp)
  have present : ∀ timestamp ∈ second.map JsonReport.timestamp, timestamp.isSome := by
    intro timestamp member
    obtain ⟨_, _, rfl⟩ := List.mem_map.mp (perm.mem_iff.mp member)
    rfl
  generalize second.map JsonReport.timestamp = stamps at perm present
  obtain ⟨others, rfl⟩ := exists_map_some present
  exact ⟨others, rfl, (List.map_perm_map_iff (Option.some_injective _)).mp perm⟩

end Order

/-- The aggregate counts what the reports say. -/
theorem aggregate_counts {reports : List (JsonReport ρ)} {built : Aggregate ρ}
    (done : aggregate reports = .ok built) :
    (∀ test result, (built.tests.get? test).bind (fun row => row.get? result) =
        counted (modulesWith reports test result)) ∧
      (∀ category result, (built.categories.get? category).bind (fun row => row.get? result) =
        counted (testsWith reports category result)) ∧
      (∀ test, built.missing.get? test =
        counted ((reports.flatMap JsonReport.missingTests).count test)) ∧
      (∀ result, (built.tests.keys.map fun test => built.tests.count (test, result)).sum =
        (built.categories.keys.map fun category =>
          built.categories.count (category, result)).sum) ∧
      ∀ others, Reordered reports others →
        ∃ again, aggregate others = .ok again ∧ SameAggregate built again := by
  obtain ⟨timestamps, stamped⟩ := aggregate_stamped done
  obtain rfl := Except.ok.inj (done.symm.trans (aggregate_eq _ _ _ stamped))
  have tests := Dict.counts_foldl_tallyAt Dict.counts_empty ((testResults reports).map testCell)
  have categories :=
    Dict.counts_foldl_tallyAt Dict.counts_empty ((testResults reports).map categoryCell)
  have testCount : ∀ cell : String × Option ρ,
      (((testResults reports).map testCell).foldl Dict.tallyAt .empty).count cell =
        ((testResults reports).map testCell).countP fun other => other = cell := by
    intro cell
    rw [Dict.count_foldl_tallyAt, Dict.count_empty, Nat.zero_add]
  have categoryCount : ∀ cell : Option ρ × Option ρ,
      (((testResults reports).map categoryCell).foldl Dict.tallyAt .empty).count cell =
        ((testResults reports).map categoryCell).countP fun other => other = cell := by
    intro cell
    rw [Dict.count_foldl_tallyAt, Dict.count_empty, Nat.zero_add]
  refine ⟨?tests, ?categories, ?missing, ?sums, ?order⟩
  case tests =>
    intro test result
    rw [tests.get? (test, result), testCount, count_testCell]
    rfl
  case categories =>
    intro category result
    rw [categories.get? (category, result), categoryCount, count_categoryCell]
    rfl
  case missing =>
    intro test
    exact Dict.get?_foldl_tally _ test
  case sums =>
    intro result
    refine (sum_column_foldl_tallyAt _ result).trans
      (Eq.trans ?_ (sum_column_foldl_tallyAt _ result).symm)
    rw [List.countP_map, List.countP_map]
    rfl
  case order =>
    intro others reordered
    obtain ⟨otherTimestamps, otherStamped, perm⟩ := reordered.timestamps stamped
    have same := reordered.testResults_perm
    refine ⟨_, aggregate_eq _ _ _ otherStamped, ⟨?_, ?_, ?_, ?_⟩⟩
    · apply tests.sameTable (Dict.counts_foldl_tallyAt Dict.counts_empty _)
      intro cell
      rw [testCount, Dict.count_foldl_tallyAt, Dict.count_empty, Nat.zero_add,
        (same.map testCell).countP_eq]
    · apply categories.sameTable (Dict.counts_foldl_tallyAt Dict.counts_empty _)
      intro cell
      rw [categoryCount, Dict.count_foldl_tallyAt, Dict.count_empty, Nat.zero_add,
        (same.map categoryCell).countP_eq]
    · intro test
      have missing : (others.flatMap JsonReport.missingTests).Perm
          (reports.flatMap JsonReport.missingTests) :=
        reordered.flatMap_perm fun _ _ same => same.missingTests
      rw [Dict.get?_foldl_tally, Dict.get?_foldl_tally, missing.count_eq]
    · intro timestamp
      rw [Dict.get?_foldl_insert_const, Dict.get?_foldl_insert_const]
      exact if_congr perm.mem_iff rfl rfl

namespace Sample

def tested (result category : String) : TestResult String :=
  { result := some result, category := some category }

def pingPassed : JsonReport String where
  timestamp := some "2020-05-29T00:23:33.000Z"
  missingTests := ["base.startup.dhcp", "base.target.ping"]
  modules :=
    { entries := [("ping",
        { entries := [("base.switch.ping", tested "pass" "Other"),
            ("base.target.ping", tested "pass" "Other")]
          nodup := by decide })]
      nodup := List.nodup_singleton _ }

/-- Two modules of one report have the same test. -/
def pingFailed : JsonReport String where
  timestamp := some "2020-05-30T00:23:33.000Z"
  missingTests := ["base.startup.dhcp"]
  modules :=
    { entries := [
        ("ping",
          { entries := [("base.switch.ping", tested "fail" "Security")]
            nodup := List.nodup_singleton _ }),
        ("again",
          { entries := [("base.switch.ping", tested "pass" "Other")]
            nodup := List.nodup_singleton _ })]
      nodup := by decide }

theorem pings_counted :
    ∃ built, aggregate [pingPassed, pingFailed, pingPassed] = .ok built ∧
      (built.tests.get? "base.switch.ping").bind (fun row => row.get? (some "pass")) = some 3 ∧
      (built.tests.get? "base.switch.ping").bind (fun row => row.get? (some "fail")) = some 1 ∧
      (built.categories.get? (some "Other")).bind (fun row => row.get? (some "pass")) = some 5 ∧
      built.missing.get? "base.startup.dhcp" = some 3 ∧
      ∃ again, aggregate [pingFailed, pingPassed, pingPassed] = .ok again ∧
        SameAggregate built again := by
  have done := aggregate_eq [pingPassed, pingFailed, pingPassed] {}
    ["2020-05-29T00:23:33.000Z", "2020-05-30T00:23:33.000Z", "2020-05-29T00:23:33.000Z"] rfl
  obtain ⟨tests, categories, missing, _, reordered⟩ := aggregate_counts done
  refine ⟨_, done, ?_, ?_, ?_, ?_, ?_⟩
  · rw [tests]
    decide
  · rw [tests]
    decide
  · rw [categories]
    decide
  · rw [missing]
    decide
  · exact reordered _ ⟨_, .swap _ _ _,
      List.forall₂_same.mpr fun _ _ => ⟨rfl, .refl _, .refl _⟩⟩

end Sample

end Daq.Combine
