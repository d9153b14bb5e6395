import Daq.Report.Generator

namespace Daq

open Fallible Report

/-! What the generator has accumulated when all reports were read. -/

/-- A result line and the module that reported it. -/
abbrev Reported := Option String × ResultLine

namespace RepItem

def lines (item : RepItem) : List ResultLine := (item.report.getD []).filterMap resultLine

end RepItem

namespace ReportConfig

variable (config : ReportConfig)

def testInfo (testName : String) : TestEntry := (config.tests.get? testName).getD {}

def category (testName : String) : String :=
  (config.testInfo testName).category.getD DEFAULT_CATEGORY

/-- The dictionary that a result line gets. -/
def resultDict (reported : Reported) : ResultDict where
  result := reported.2.result
  testName := reported.2.testName
  moduleName := reported.1
  category := config.category reported.2.testName
  expected := (config.testInfo reported.2.testName).expected.getD DEFAULT_EXPECTED
  resultDescription := reported.2.extra

def entry (reported : Reported) : String × ResultDict :=
  (reported.2.testName, config.resultDict reported)

/-- The result lines of all modules, in the order in which they are read. -/
def reported (repitems : Dict String RepItem) : List Reported :=
  repitems.entries.flatMap fun module => module.2.lines.map fun line => (some module.1, line)

def names (reported : List Reported) : List String := reported.map fun line => line.2.testName

end ReportConfig

namespace ReportGenerator

open ReportConfig

structure Accumulated (before after : ReportGenerator) (reported : List Reported) : Prop where
  moduleConfig : after.moduleConfig = before.moduleConfig
  repitems : after.repitems = before.repitems
  fileMd : after.fileMd = before.fileMd
  entries : after.results.entries =
    before.results.entries ++ reported.map before.moduleConfig.entry
  categories : after.categories =
    (reported.map fun line => before.moduleConfig.category line.2.testName).foldl appendNew
      before.categories

namespace Accumulated

variable {before middle after : ReportGenerator} {first second : List Reported}

theorem refl (generator : ReportGenerator) : Accumulated generator generator [] :=
  ⟨rfl, rfl, rfl, (List.append_nil _).symm, rfl⟩

theorem trans (early : Accumulated before middle first) (late : Accumulated middle after second) :
    Accumulated before after (first ++ second) where
  moduleConfig := late.moduleConfig.trans early.moduleConfig
  repitems := late.repitems.trans early.repitems
  fileMd := late.fileMd.trans early.fileMd
  entries := by
    rw [late.entries, early.entries, early.moduleConfig, List.map_append, List.append_assoc]
  categories := by
    rw [late.categories, early.categories, early.moduleConfig, List.map_append, List.foldl_append]

theorem keys (accumulated : Accumulated before after first) :
    after.results.keys = before.results.keys ++ names first := by
  simp [Dict.keys, accumulated.entries, names, ReportConfig.entry]

end Accumulated

theorem accumulateResult_accumulated {generator after : ReportGenerator} {line : ResultLine}
    {moduleName : Option String}
    (done : generator.accumulateResult line.testName line.result line.extra moduleName = .ok after) :
    Accumulated generator after [(moduleName, line)] ∧ after.modules = generator.modules ∧
      after.missingTests = generator.missingTests := by
  unfold accumulateResult at done
  split at done
  · cases done
  · rename_i fresh
    cases done
    refine ⟨⟨rfl, rfl, rfl, ?_, rfl⟩, rfl, rfl⟩
    simp [Dict.insert, fresh, ReportConfig.entry, resultDict, ReportConfig.category,
      ReportConfig.testInfo, getTestInfo]

theorem accumulateResult_ok {generator : ReportGenerator} {testName : String}
    (fresh : testName ∉ generator.results.keys) (result extra : String)
    (moduleName : Option String) :
    ∃ after, generator.accumulateResult testName result extra moduleName = .ok after := by
  rw [accumulateResult, if_neg fresh]
  exact ⟨_, rfl⟩

section Loops

variable {α : Type} {step : ReportGenerator → α → Except Exc ReportGenerator}
  {part : α → List Reported}

theorem foldlM_accumulated
    (each : ∀ generator element after, step generator element = .ok after →
      Accumulated generator after (part element))
    {elements : List α} {generator after : ReportGenerator}
    (done : elements.foldlM step generator = .ok after) :
    Accumulated generator after (elements.flatMap part) := by
  induction elements generalizing generator with
  | nil =>
      cases done
      exact Accumulated.refl _
  | cons element rest later =>
      rw [List.foldlM_cons] at done
      obtain ⟨middle, first, behind⟩ := bind_eq_ok_iff.mp done
      rw [List.flatMap_cons]
      exact (each generator element middle first).trans (later behind)

theorem foldlM_ok
    (each : ∀ generator element after, step generator element = .ok after →
      Accumulated generator after (part element))
    (possible : ∀ generator element,
      (generator.results.keys ++ names (part element)).Nodup →
        ∃ after, step generator element = .ok after)
    {elements : List α} {generator : ReportGenerator}
    (distinct : (generator.results.keys ++ names (elements.flatMap part)).Nodup) :
    ∃ after, elements.foldlM step generator = .ok after := by
  induction elements generalizing generator with
  | nil => exact ⟨generator, rfl⟩
  | cons element rest later =>
      rw [List.flatMap_cons, names, List.map_append, ← List.append_assoc] at distinct
      have front : (generator.results.keys ++ names (part element)).Nodup :=
        distinct.of_append_left
      obtain ⟨middle, first⟩ := possible generator element front
      have keys := (each generator element middle first).keys
      have behind : (middle.results.keys ++ names (rest.flatMap part)).Nodup := by
        rw [keys]
        exact distinct
      obtain ⟨after, done⟩ := later behind
      exact ⟨after, by rw [List.foldlM_cons, first, ok_bind, done]⟩

end Loops

section Lines

variable {generator after : ReportGenerator}

/-- What a line of a report adds. -/
def lineReports (moduleName line : String) : List Reported :=
  (resultLine line).toList.map fun line => (some moduleName, line)

theorem processLine_accumulated {moduleName line : String}
    (done : processLine moduleName generator line = .ok after) :
    Accumulated generator after (lineReports moduleName line) := by
  unfold processLine at done
  unfold lineReports
  split at done
  · rename_i other
    cases done
    rw [other]
    exact Accumulated.refl _
  · rename_i found
    obtain ⟨middle, accumulated, same⟩ := bind_eq_ok_iff.mp done
    cases same
    obtain ⟨facts, _⟩ := accumulateResult_accumulated accumulated
    rw [found]
    exact ⟨facts.moduleConfig, facts.repitems, facts.fileMd, facts.entries, facts.categories⟩

theorem processLine_ok {moduleName line : String}
    (distinct : (generator.results.keys ++ names (lineReports moduleName line)).Nodup) :
    ∃ after, processLine moduleName generator line = .ok after := by
  unfold processLine
  cases found : resultLine line with
  | none => exact ⟨generator, rfl⟩
  | some line =>
      have fresh : line.testName ∉ generator.results.keys := by
        simp only [lineReports, found, Option.toList_some, List.map_cons, List.map_nil, names] at distinct
        have disjoint := List.disjoint_of_nodup_append distinct
        exact fun member => disjoint member (List.mem_singleton.mpr rfl)
      obtain ⟨middle, done⟩ := accumulateResult_ok fresh line.result line.extra (some moduleName)
      exact ⟨_, by dsimp only; rw [done]; rfl⟩

theorem processLine_modules {moduleName line : String} {base : Dict String (List String)}
    {found : List String} (done : processLine moduleName generator line = .ok after)
    (stored : generator.modules = base.insert moduleName found) :
    after.modules = base.insert moduleName (found ++ names (lineReports moduleName line)) := by
  unfold processLine at done
  unfold lineReports
  split at done
  · rename_i other
    cases done
    simp [other, names, stored]
  · rename_i line is
    obtain ⟨middle, accumulated, same⟩ := bind_eq_ok_iff.mp done
    cases same
    obtain ⟨_, modules, _⟩ := accumulateResult_accumulated accumulated
    simp [is, names, modules, stored]

theorem processLines_modules {moduleName : String} {base : Dict String (List String)}
    {found lines : List String}
    (done : lines.foldlM (processLine moduleName) generator = .ok after)
    (stored : generator.modules = base.insert moduleName found) :
    after.modules =
      base.insert moduleName (found ++ names (lines.flatMap (lineReports moduleName))) := by
  induction lines generalizing generator found with
  | nil =>
      cases done
      simp [stored, names]
  | cons line rest later =>
      rw [List.foldlM_cons] at done
      obtain ⟨middle, first, behind⟩ := bind_eq_ok_iff.mp done
      rw [later behind (processLine_modules first stored), List.flatMap_cons, names, names, names,
        List.map_append, List.append_assoc]

def moduleReports (module : String × RepItem) : List Reported :=
  module.2.lines.map fun line => (some module.1, line)

theorem flatMap_lineReports (moduleName : String) (item : RepItem) :
    (item.report.getD []).flatMap (lineReports moduleName) = moduleReports (moduleName, item) := by
  rw [moduleReports, RepItem.lines]
  induction item.report.getD [] with
  | nil => rfl
  | cons line rest later =>
      rw [List.flatMap_cons, later, lineReports, List.filterMap_cons]
      cases resultLine line with
      | none => rfl
      | some found => rfl

theorem processModule_accumulated {module : String × RepItem}
    (done : processModule generator module = .ok after) :
    Accumulated generator after (moduleReports module) := by
  have facts := @foldlM_accumulated String (processLine module.1) (lineReports module.1)
    (fun _ _ _ => processLine_accumulated) _ _ _ done
  rw [flatMap_lineReports] at facts
  exact ⟨facts.moduleConfig, facts.repitems, facts.fileMd, facts.entries, facts.categories⟩

theorem processModule_modules {module : String × RepItem}
    (done : processModule generator module = .ok after) :
    after.modules = generator.modules.insert module.1 (names (moduleReports module)) := by
  have modules := processLines_modules done rfl
  rw [flatMap_lineReports] at modules
  exact modules

theorem processModules_modules {modules : List (String × RepItem)}
    (done : modules.foldlM processModule generator = .ok after) :
    after.modules = modules.foldl
      (fun dict module => dict.insert module.1 (names (moduleReports module)))
      generator.modules := by
  induction modules generalizing generator with
  | nil =>
      cases done
      rfl
  | cons module rest later =>
      rw [List.foldlM_cons] at done
      obtain ⟨middle, first, behind⟩ := bind_eq_ok_iff.mp done
      rw [later behind, processModule_modules first, List.foldl_cons]

theorem processModule_ok {module : String × RepItem}
    (distinct : (generator.results.keys ++ names (moduleReports module)).Nodup) :
    ∃ after, processModule generator module = .ok after := by
  apply @foldlM_ok String (processLine module.1) (lineReports module.1)
    (fun _ _ _ => processLine_accumulated) (fun _ _ => processLine_ok)
  rw [flatMap_lineReports]
  exact distinct

end Lines

section Missing

variable {generator after : ReportGenerator}

def goneLine (testName : String) : Reported :=
  (none, { result := MISSING_TEST_RESULT, testName, extra := "" })

def Needed (config : ReportConfig) (testName : String) : Prop :=
  ((config.testInfo testName).required.map Faucet.truthy).getD false = true

instance (config : ReportConfig) (testName : String) : Decidable (Needed config testName) :=
  inferInstanceAs (Decidable (_ = _))

/-- The tests of the configuration that have to be reported and are not. -/
def missing (config : ReportConfig) (names : List String) : List String :=
  config.tests.keys.filter fun testName => Needed config testName ∧ testName ∉ names

theorem findMissingTestResult_done (generator : ReportGenerator) (testName : String) :
    ∃ after, findMissingTestResult generator testName = .ok after ∧
      Accumulated generator after
        (if Needed generator.moduleConfig testName ∧ testName ∉ generator.results.keys then
          [goneLine testName] else []) ∧ after.modules = generator.modules := by
  change ∃ after, (if Needed generator.moduleConfig testName ∧
    testName ∉ generator.results.keys then _ else _) = _ ∧ _
  by_cases absent : Needed generator.moduleConfig testName ∧ testName ∉ generator.results.keys
  · obtain ⟨middle, done⟩ := accumulateResult_ok absent.2 MISSING_TEST_RESULT "" none
    obtain ⟨facts, modules, _⟩ := @accumulateResult_accumulated generator middle
      (goneLine testName).2 none done
    rw [if_pos absent, if_pos absent, done]
    refine ⟨_, rfl, ?_, modules⟩
    exact ⟨facts.moduleConfig, facts.repitems, facts.fileMd, facts.entries, facts.categories⟩
  · rw [if_neg absent, if_neg absent]
    exact ⟨generator, rfl, Accumulated.refl _, rfl⟩

theorem findMissingTestResults_done {tests : List String} (distinct : tests.Nodup)
    (generator : ReportGenerator) :
    ∃ after, tests.foldlM findMissingTestResult generator = .ok after ∧
      Accumulated generator after
        ((tests.filter fun testName => Needed generator.moduleConfig testName ∧
          testName ∉ generator.results.keys).map goneLine) ∧
      after.modules = generator.modules := by
  induction tests generalizing generator with
  | nil => exact ⟨generator, rfl, Accumulated.refl _, rfl⟩
  | cons testName rest later =>
      obtain ⟨other, restDistinct⟩ := List.nodup_cons.mp distinct
      obtain ⟨middle, first, accumulated, modules⟩ := findMissingTestResult_done generator testName
      obtain ⟨after, behind, others, same⟩ := later restDistinct middle
      have filtered : rest.filter (fun testName => Needed middle.moduleConfig testName ∧
          testName ∉ middle.results.keys) =
            rest.filter fun testName => Needed generator.moduleConfig testName ∧
              testName ∉ generator.results.keys := by
        apply List.filter_congr
        intro next member
        have differs : next ≠ testName := fun equal => other (equal ▸ member)
        rw [accumulated.moduleConfig, accumulated.keys]
        split
        · simp [names, goneLine, differs]
        · simp [names]
      rw [filtered] at others
      refine ⟨after, by rw [List.foldlM_cons, first, ok_bind, behind], ?_, same.trans modules⟩
      have both := accumulated.trans others
      by_cases absent : Needed generator.moduleConfig testName ∧ testName ∉ generator.results.keys
      · rw [if_pos absent] at both
        rw [List.filter_cons_of_pos (by simpa using absent)]
        exact both
      · rw [if_neg absent] at both
        rw [List.filter_cons_of_neg (by simpa using absent)]
        exact both

end Missing

section Results

variable {config : ReportConfig} {repitems : Dict String RepItem}

/-- All results: those reported, and those of the missing tests. -/
def allReported (config : ReportConfig) (repitems : Dict String RepItem) : List Reported :=
  reported repitems ++ (missing config (names (reported repitems))).map goneLine

theorem processResults_accumulated {after : ReportGenerator}
    (done : (new config repitems).processResults = .ok after) :
    Accumulated (new config repitems) after (allReported config repitems) := by
  obtain ⟨middle, modules, tests⟩ := bind_eq_ok_iff.mp done
  have first := @foldlM_accumulated _ processModule moduleReports
    (fun _ _ _ => processModule_accumulated) _ _ _ modules
  obtain ⟨found, same, second, _⟩ := findMissingTestResults_done middle.moduleConfig.tests.nodup middle
  cases same.symm.trans tests
  rw [first.moduleConfig, first.keys] at second
  exact first.trans second

theorem names_moduleReports (module : String × RepItem) :
    names (moduleReports module) = module.2.lines.map ResultLine.testName :=
  List.map_map

theorem processResults_modules {after : ReportGenerator}
    (done : (new config repitems).processResults = .ok after) :
    after.modules = repitems.mapValues fun _ item => item.lines.map ResultLine.testName := by
  obtain ⟨middle, modules, tests⟩ := bind_eq_ok_iff.mp done
  obtain ⟨found, same, _, others⟩ := findMissingTestResults_done middle.moduleConfig.tests.nodup middle
  cases same.symm.trans tests
  rw [others, processModules_modules modules]
  apply Dict.ext_entries
  have assigned := @Dict.entries_foldl_insert String (List String) _ _ Prod.fst
    (fun module => names (moduleReports module)) repitems.entries .empty repitems.nodup
  apply assigned.trans
  simp only [names_moduleReports]
  rfl

theorem processResults_ok_iff :
    (∃ after, (new config repitems).processResults = .ok after) ↔
      (names (reported repitems)).Nodup := by
  constructor
  · intro ⟨after, done⟩
    have keys := (processResults_accumulated done).keys
    have distinct : after.results.keys.Nodup := after.results.nodup
    rw [keys, allReported, names, List.map_append] at distinct
    exact distinct.of_append_right.of_append_left
  · intro distinct
    have start : ((new config repitems).results.keys ++
        names (repitems.entries.flatMap moduleReports)).Nodup := distinct
    obtain ⟨middle, modules⟩ := @foldlM_ok _ processModule moduleReports
      (fun _ _ _ => processModule_accumulated) (fun _ _ => processModule_ok) _ _ start
    obtain ⟨after, tests, _⟩ := findMissingTestResults_done middle.moduleConfig.tests.nodup middle
    exact ⟨after, bind_eq_ok_iff.mpr ⟨middle, modules, tests⟩⟩

end Results

end ReportGenerator

end Daq
