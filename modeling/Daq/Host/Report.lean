import Daq.Data

namespace Daq

/-! The report generator, as far as it decides the dictionary it returns. -/

namespace Report

variable (config : ModuleConfig)

def testInfo (test : String) : TestInfo :=
  ((config.tests.find? fun entry => decide (entry.1 = test)).map Prod.snd).getD {}

/-- Every test is reported once.  The message of the assertion does not format,
so a second report raises a type error instead. -/
def accumulateResult (results : Dict String String) (test result : String) :
    Except Exc (Dict String String) :=
  if results.get? test = none then .ok (results.insert test result)
  else .error (.typeError "not all arguments converted during string formatting")

def accumulateLines : List (String × String) → Dict String String →
    Except Exc (Dict String String)
  | [], results => .ok results
  | (test, result) :: rest, results => do
      let results ← accumulateResult results test result
      accumulateLines rest results

def accumulateItems : List ReportItem → Dict String String →
    Except Exc (Dict String String)
  | [], results => .ok results
  | item :: rest, results => do
      let results ← accumulateLines (item.reportLines.getD []) results
      accumulateItems rest results

/-- Required tests without a result are gone. -/
def findMissingTestResults : List (String × TestInfo) → Dict String String →
    Dict String String
  | [], results => results
  | (test, info) :: rest, results =>
      if NonEmpty info.required ∧ results.get? test = none then
        findMissingTestResults rest (results.insert test "gone")
      else findMissingTestResults rest results

/-- One row of the category table.  While it rates the category, it turns an
`info` that differs from the rating so far into a `pass`. -/
def writeCategory (category : String) :
    List String → String → Dict String String → Dict String String
  | [], _, results => results
  | test :: rest, rating, results =>
      let result := (results.get? test).getD ""
      let info := testInfo config test
      if info.category = category ∧ info.required ≠ none then
        if rating ≠ result ∧ rating ≠ "n/a" then
          if result = "info" then
            writeCategory category rest rating (results.insert test "pass")
          else writeCategory category rest "fail" results
        else writeCategory category rest result results
      else writeCategory category rest rating results

def categoriesOf : List String → List String → List String
  | categories, [] => categories
  | categories, test :: rest =>
      let category := (testInfo config test).category
      categoriesOf (if category ∈ categories then categories else categories ++ [category]) rest

def writeCategoryTable (results : Dict String String) : Dict String String :=
  (categoriesOf config config.categories results.keys).foldl
    (fun results category => writeCategory config category results.keys "n/a" results)
    results

def moduleTests (results : Dict String String) (lines : List (String × String)) :
    Dict String String :=
  lines.foldl (fun tests line =>
    tests.insert line.1 ((results.get? line.1).getD line.2)) .empty

/-- The returned dictionary: the results of a module are those the tables left
behind. -/
def finalizeItems (items : Dict String ReportItem) : Except Exc DeviceReport := do
  let results ← accumulateItems items.values .empty
  let results := findMissingTestResults config.tests results
  let results := writeCategoryTable config results
  pure { modules := items.mapValues fun _ item =>
    { exception := item.exception
      returnCode := item.returnCode
      tests := moduleTests results (item.reportLines.getD []) } }

end Report

/-- A module of the report speaks against the device. -/
def ModuleResult.Fails (module : ModuleResult) : Prop :=
  NonEmpty module.exception ∨ module.returnCode.getD 0 ≠ 0 ∨
    ∃ result ∈ module.tests.values, result ≠ "pass" ∧ result ≠ "skip"

instance (module : ModuleResult) : Decidable module.Fails :=
  inferInstanceAs (Decidable (_ ∨ _ ∨ _))

/-- The modules that reported a return code. -/
def DeviceReport.processed (report : DeviceReport) : List String :=
  (report.modules.entries.filter fun entry => entry.2.returnCode.isSome).map Prod.fst

/-- The number of modules with a return code is compared with the number of
enabled tests; their names are not. -/
def calculateDeviceResult (enabledTests : List String) (report : DeviceReport) :
    ResultCode :=
  if (∃ module ∈ report.modules.values, module.Fails) ∨
      enabledTests.length ≠ report.processed.length then .failed
  else .passed

end Daq
