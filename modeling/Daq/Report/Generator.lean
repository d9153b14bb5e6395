import Daq.Data
import Daq.Faucet.Client
import Daq.Lib.Fallible
import Daq.Report.ResultLine

namespace Daq

/-! The report generator: the results of the modules, the verdict over them and the tables.
The header of the md report, the copies of the module reports behind the tables and the
conversion to PDF read nothing back and are left out. -/

structure TestEntry where
  category : Option String := none
  expected : Option String := none
  required : Option Json := none

/-- `module_config`, as far as it is read. -/
structure ReportConfig where
  results : List String := []
  expected : List String := []
  categories : List String := []
  tests : Dict String TestEntry := .empty

/-- What was accumulated for one module; the report file is given by its lines. -/
structure RepItem where
  report : Option (List String) := none
  exception : Option String := none
  returnCode : Option Int := none

/-- The dictionary that is kept for one result. -/
structure ResultDict where
  result : String
  testName : String
  moduleName : Option String
  category : String
  expected : String
  resultDescription : String
deriving DecidableEq, Repr

/-- One row of the category table: the tests of each expectation are counted as passed,
failed and skipped. -/
structure CategoryRow where
  category : String
  total : Nat
  result : String
  results : List (List Nat)

/-- The dictionaries in `all_results` are those in `results`, so a module keeps only the
names of its tests. -/
structure ReportGenerator where
  moduleConfig : ReportConfig
  repitems : Dict String RepItem
  resultHeaders : List String
  results : Dict String ResultDict
  expectedHeaders : List String
  expecteds : Dict String (Dict String Nat)
  categories : List String
  modules : Dict String (List String)
  missingTests : List String
  fileMd : List String

namespace Report

def SUMMARY_LINE : String := "Report summary"
def DEFAULT_CATEGORY : String := "Other"
def DEFAULT_EXPECTED : String := "Other"
def CATEGORY_BASE_COLS : List String := ["Category", "Total Tests", "Result"]
def EXPECTED_HEADER : String := "Expectation"
def SUMMARY_HEADERS : List String := ["Result", "Test", "Category", "Expectation", "Notes"]
def MISSING_TEST_RESULT : String := "gone"
def NO_REQUIRED : String := "n/a"
def INDEX_PASS : Nat := 0
def INDEX_FAIL : Nat := 1
def INDEX_SKIP : Nat := 2

def testSeparator (title : String) : String := "\n## " ++ title ++ "\n"

/-- `str.strip`. -/
def strip (text : String) : String :=
  String.ofList ((text.toList.dropWhile isSpace).reverse.dropWhile isSpace).reverse

/-- `append` unless it is in the list. -/
def appendNew (list : List String) (element : String) : List String :=
  if element ∈ list then list else list ++ [element]

structure MdTable where
  headers : List String
  rows : List (List String)

namespace MdTable

def new (headers : List String) : MdTable := { headers := [""] ++ headers ++ [""], rows := [] }

def addRow (table : MdTable) (row : List String) : MdTable :=
  { table with rows := table.rows ++ [[""] ++ row.map strip ++ [""]] }

def render (table : MdTable) : String :=
  "|".intercalate table.headers ++ "\n" ++
    "|".intercalate ([""] ++ (table.headers.drop 2).map (fun _ => "---") ++ [""]) ++ "\n" ++
    "\n".intercalate (table.rows.map "|".intercalate) ++ "\n"

end MdTable

end Report

namespace ReportGenerator

open Report

def new (moduleConfig : ReportConfig) (repitems : Dict String RepItem) : ReportGenerator where
  moduleConfig
  repitems
  resultHeaders := moduleConfig.results
  results := .empty
  expectedHeaders := moduleConfig.expected
  expecteds := .empty
  categories := moduleConfig.categories
  modules := .empty
  missingTests := []
  fileMd := []

def getTestInfo (generator : ReportGenerator) (testName : String) : TestEntry :=
  (generator.moduleConfig.tests.get? testName).getD {}

/-! Reading the reports of the modules. -/

/-- A second result for a test raises: the message of the assertion does not format. -/
def accumulateResult (generator : ReportGenerator) (testName result extra : String)
    (moduleName : Option String) : Except Exc ReportGenerator :=
  if testName ∈ generator.results.keys then
    .error (.typeError "not all arguments converted during string formatting")
  else
    let testInfo := generator.getTestInfo testName
    let category := testInfo.category.getD DEFAULT_CATEGORY
    let expected := testInfo.expected.getD DEFAULT_EXPECTED
    let counts := (generator.expecteds.get? expected).getD .empty
    .ok { generator with
      resultHeaders := appendNew generator.resultHeaders result
      categories := appendNew generator.categories category
      expectedHeaders := appendNew generator.expectedHeaders expected
      expecteds := generator.expecteds.insert expected
        (counts.insert result ((counts.get? result).getD 0 + 1))
      results := generator.results.insert testName
        { result, testName, moduleName, category, expected, resultDescription := extra } }

def processLine (moduleName : String) (generator : ReportGenerator) (line : String) :
    Except Exc ReportGenerator :=
  match resultLine line with
  | none => .ok generator
  | some line => do
      let generator ←
        generator.accumulateResult line.testName line.result line.extra (some moduleName)
      return { generator with
        modules := generator.modules.insert moduleName
          (((generator.modules.get? moduleName).getD []) ++ [line.testName]) }

def processModule (generator : ReportGenerator) (module : String × RepItem) :
    Except Exc ReportGenerator :=
  (module.2.report.getD []).foldlM (processLine module.1)
    { generator with modules := generator.modules.insert module.1 [] }

/-- A required test without a result is gone. -/
def findMissingTestResult (generator : ReportGenerator) (testName : String) :
    Except Exc ReportGenerator :=
  if ((generator.getTestInfo testName).required.map Faucet.truthy).getD false = true ∧
      testName ∉ generator.results.keys then do
    let generator ← generator.accumulateResult testName MISSING_TEST_RESULT "" none
    return { generator with missingTests := generator.missingTests ++ [testName] }
  else .ok generator

def processResults (generator : ReportGenerator) : Except Exc ReportGenerator := do
  let generator ← generator.repitems.entries.foldlM processModule generator
  generator.moduleConfig.tests.keys.foldlM findMissingTestResult generator

/-! Writing the md report. -/

def write (generator : ReportGenerator) (msg : String) : ReportGenerator :=
  { generator with fileMd := generator.fileMd ++ [msg] }

def writeln (generator : ReportGenerator) (msg : String) : ReportGenerator :=
  generator.write (msg ++ "\n")

/-- `passes`: no result differs from what is required. -/
def passes (generator : ReportGenerator) : Bool :=
  generator.results.entries.all fun entry =>
    match (generator.getTestInfo entry.1).required with
    | none => true
    | some required => required = .str (Str.ofChars entry.2.result.toList)

def gone (generator : ReportGenerator) : Bool :=
  generator.results.entries.any fun entry =>
    (generator.getTestInfo entry.1).required.isSome ∧ entry.2.result = "gone"

def overallResult (passes : Bool) : String :=
  "Overall device result " ++ if passes then "PASS" else "FAIL"

def analyseAndWriteResults (generator : ReportGenerator) : ReportGenerator :=
  let written := (generator.writeln (overallResult generator.passes)).writeln ""
  if generator.gone then
    (written.writeln ("**Some tests report as GONE. " ++
      "Please check for possible misconfiguration**")).writeln ""
  else written

def startRow (generator : ReportGenerator) (category : String) : CategoryRow where
  category
  total := 0
  result := NO_REQUIRED
  results := generator.expectedHeaders.map fun _ => [0, 0, 0]

/-- One test in the row of a category.  The dictionary of a test whose `info` differs from
the result of the row is changed to `pass`. -/
def rateTest (generator : ReportGenerator) (row : CategoryRow) (testName : String)
    (resultDict : ResultDict) : CategoryRow × ResultDict :=
  let testInfo := generator.getTestInfo testName
  if testInfo.category.getD DEFAULT_CATEGORY = row.category ∧ testInfo.required.isSome then
    let expectedIndex := generator.expectedHeaders.idxOf (testInfo.expected.getD DEFAULT_EXPECTED)
    let column :=
      if resultDict.result = "pass" ∨ resultDict.result = "info" then INDEX_PASS
      else if resultDict.result = "skip" then INDEX_SKIP
      else INDEX_FAIL
    let row := { row with
      total := row.total + 1
      results := row.results.modify expectedIndex fun counts => counts.modify column (· + 1) }
    if row.result ≠ resultDict.result ∧ row.result ≠ NO_REQUIRED then
      if resultDict.result = "info" then (row, { resultDict with result := "pass" })
      else ({ row with result := "fail" }, resultDict)
    else ({ row with result := resultDict.result }, resultDict)
  else (row, resultDict)

/-- The rows of the category table; the dictionaries keep the changes from row to row. -/
def categoryRows : List String → ReportGenerator → List CategoryRow × ReportGenerator
  | [], generator => ([], generator)
  | category :: rest, generator =>
      let rated := generator.results.mapAccum generator.rateTest (generator.startRow category)
      let behind := categoryRows rest { generator with results := rated.2 }
      (rated.1 :: behind.1, behind.2)

def joinCategoryResults (results : List Nat) : String :=
  "/".intercalate (results.map toString)

section

variable (upper : String → String)

def categoryCells (row : CategoryRow) : List String :=
  [row.category, toString row.total, upper row.result] ++ row.results.map joinCategoryResults

def categoryTable (generator : ReportGenerator) : MdTable :=
  (categoryRows generator.categories generator).1.foldl
    (fun table row => table.addRow (categoryCells upper row))
    (MdTable.new (CATEGORY_BASE_COLS ++ generator.expectedHeaders))

def writeCategoryTable (generator : ReportGenerator) : ReportGenerator :=
  let rated := (categoryRows generator.categories generator).2
  (rated.write (categoryTable upper generator).render).writeln "Syntax: Pass / Fail / Skip"

def writeExpectedTable (generator : ReportGenerator) : ReportGenerator :=
  let table := generator.expectedHeaders.foldl
    (fun table expected =>
      let counts := (generator.expecteds.get? expected).getD .empty
      table.addRow (expected :: generator.resultHeaders.map fun result =>
        toString ((counts.get? result).getD 0)))
    (MdTable.new (EXPECTED_HEADER :: generator.resultHeaders))
  generator.write table.render

/-- The names are sorted by their code points. -/
def writeResultTable (generator : ReportGenerator) : ReportGenerator :=
  let sorted := generator.results.entries.mergeSort fun first second => first.1 ≤ second.1
  let table := sorted.foldl
    (fun table entry => table.addRow [entry.2.result, entry.2.testName, entry.2.category,
      entry.2.expected, entry.2.resultDescription])
    (MdTable.new SUMMARY_HEADERS)
  generator.write table.render

def writeTestTables (generator : ReportGenerator) : ReportGenerator :=
  let generator := (generator.writeCategoryTable upper).writeln ""
  let generator := generator.writeExpectedTable.writeln ""
  generator.writeResultTable.writeln ""

def writeTestSummary (generator : ReportGenerator) : ReportGenerator :=
  writeTestTables upper
    (generator.writeln (testSeparator SUMMARY_LINE)).analyseAndWriteResults

def finalize (generator : ReportGenerator) : Except Exc ReportGenerator := do
  let generator ← generator.processResults
  return generator.writeTestSummary upper

end

/-- What `finalize` returns and the JSON report holds for a module. -/
structure ReportedModule where
  exception : Option String
  returnCode : Option Int
  tests : Dict String ResultDict

/-- The dictionary of a test is put among the tests of its module. -/
def collect (results tests : Dict String ResultDict) (testName : String) :
    Dict String ResultDict :=
  match results.get? testName with
  | none => tests
  | some resultDict => tests.insert testName resultDict

/-- `all_results["modules"]`, with the dictionaries as they are now. -/
def allResults (generator : ReportGenerator) : Dict String ReportedModule :=
  generator.modules.mapValues fun moduleName testNames =>
    let item := (generator.repitems.get? moduleName).getD {}
    { exception := item.exception
      returnCode := item.returnCode
      tests := testNames.foldl (collect generator.results) .empty }

end ReportGenerator

end Daq
