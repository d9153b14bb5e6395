import Daq.Host.Report
import Daq.Report.Returned

namespace Daq

open Fallible Report

/-! What a host sees of its report: the results alone, without the tables. -/

/-- A configured test as the host has it: of what is required it matters whether there is
something, and whether it is empty. -/
structure TestEntry.Views (entry : TestEntry) (info : TestInfo) : Prop where
  category : info.category = entry.category.getD Report.DEFAULT_CATEGORY
  required : info.required.isSome = entry.required.isSome
  needed : NonEmpty info.required ↔ (entry.required.map Faucet.truthy).getD false = true

structure ReportConfig.Views (config : ReportConfig) (loaded : ModuleConfig) : Prop where
  categories : loaded.categories = config.categories
  tests : List.Forall₂ (fun entry info => info.1 = entry.1 ∧ entry.2.Views info.2)
    config.tests.entries loaded.tests

/-- The configuration of a host, as far as its report reads it. -/
def ReportConfig.plain (config : ReportConfig) : ModuleConfig where
  categories := config.categories
  tests := config.tests.entries.map fun entry =>
    (entry.1,
      { category := entry.2.category.getD Report.DEFAULT_CATEGORY
        expected := entry.2.expected.getD Report.DEFAULT_EXPECTED
        required := entry.2.required.map fun required =>
          if Faucet.truthy required then "required" else "" })

theorem ReportConfig.plain_views (config : ReportConfig) : config.Views config.plain where
  categories := rfl
  tests := by
    rw [ReportConfig.plain, List.forall₂_map_right_iff]
    apply List.forall₂_same.mpr
    intro entry _
    refine ⟨rfl, rfl, Option.isSome_map, ?_⟩
    cases required : entry.2.required with
    | none => simp [NonEmpty]
    | some value => by_cases needed : Faucet.truthy value = true <;> simp [NonEmpty, needed]

def Report.ResultLine.plain (line : ResultLine) : String × String := (line.testName, line.result)

def RepItem.plain (item : RepItem) : ReportItem where
  exception := item.exception
  returnCode := item.returnCode
  reportLines := item.report.map fun lines => (lines.filterMap resultLine).map ResultLine.plain

namespace ReportGenerator

open ReportConfig

def seen (results : Dict String ResultDict) : Dict String String :=
  results.mapValues fun _ resultDict => resultDict.result

theorem seen_insert (results : Dict String ResultDict) (testName : String)
    (resultDict : ResultDict) :
    seen (results.insert testName resultDict) =
      (seen results).insert testName resultDict.result :=
  Dict.mapValues_insert results ResultDict.result testName resultDict

def ReportedModule.plain (reported : ReportedModule) : ModuleResult where
  exception := reported.exception
  returnCode := reported.returnCode
  tests := seen reported.tests

/-- The report as the host returns it. -/
def deviceReport (generator : ReportGenerator) : DeviceReport where
  modules := generator.allResults.mapValues fun _ => ReportedModule.plain

variable {config : ReportConfig} {loaded : ModuleConfig} {repitems : Dict String RepItem}

section Configured

theorem views_testInfo (views : config.Views loaded) (testName : String) :
    (config.testInfo testName).Views (Report.testInfo loaded testName) := by
  have tests := views.tests
  unfold ReportConfig.testInfo Report.testInfo Dict.get?
  generalize config.tests.entries = entries at tests
  generalize loaded.tests = infos at tests
  induction tests with
  | nil => exact ⟨rfl, rfl, by simp [NonEmpty]⟩
  | @cons entry info _ _ head _ later =>
      by_cases same : entry.1 = testName
      · simp [head.1, same, head.2]
      · simp [head.1, same, later]

theorem views_counts (views : config.Views loaded) (category testName : String) :
    (Report.testInfo loaded testName).category = category ∧
        (Report.testInfo loaded testName).required ≠ none ↔
      config.Counts category testName := by
  have view := views_testInfo views testName
  rw [Counts, ReportConfig.category, ← view.category, ← view.required, Option.isSome_iff_ne_none]

theorem categoriesOf_eq (views : config.Views loaded) (testNames categories : List String) :
    Report.categoriesOf loaded categories testNames =
      (testNames.map config.category).foldl Report.appendNew categories := by
  induction testNames generalizing categories with
  | nil => rfl
  | cons testName rest later =>
      have same : (Report.testInfo loaded testName).category = config.category testName :=
        (views_testInfo views testName).category
      rw [Report.categoriesOf, later, same]
      rfl

end Configured

section Reading

/-- What is seen after a call. -/
def seenAfter (outcome : Except Exc ReportGenerator) : Except Exc (Dict String String) :=
  outcome.map fun generator => seen generator.results

theorem accumulateResult_seen (generator : ReportGenerator) (line : ResultLine)
    (moduleName : Option String) :
    seenAfter (generator.accumulateResult line.testName line.result line.extra moduleName) =
      Report.accumulateResult (seen generator.results) line.testName line.result := by
  unfold accumulateResult Report.accumulateResult
  have absent : (seen generator.results).get? line.testName = none ↔
      line.testName ∉ generator.results.keys := by
    rw [Dict.get?_eq_none_iff, seen, Dict.keys_mapValues]
  by_cases present : line.testName ∈ generator.results.keys
  · rw [if_pos present, if_neg (by simpa [absent] using present)]
    rfl
  · rw [if_neg present, if_pos (absent.mpr present)]
    exact congrArg Except.ok (seen_insert _ _ _)

theorem processLines_seen (moduleName : String) (lines : List String)
    (generator : ReportGenerator) :
    seenAfter (lines.foldlM (processLine moduleName) generator) =
      Report.accumulateLines ((lines.filterMap resultLine).map ResultLine.plain)
        (seen generator.results) := by
  induction lines generalizing generator with
  | nil => rfl
  | cons line rest later =>
      rw [List.foldlM_cons, List.filterMap_cons, processLine]
      cases resultLine line with
      | none => exact later generator
      | some found =>
          have first := accumulateResult_seen generator found (some moduleName)
          rw [List.map_cons, Report.accumulateLines, ResultLine.plain, ← first]
          dsimp only
          cases generator.accumulateResult found.testName found.result found.extra
              (some moduleName) with
          | error raised => rfl
          | ok middle => exact later _

theorem processModules_seen (modules : List (String × RepItem)) (generator : ReportGenerator) :
    seenAfter (modules.foldlM processModule generator) =
      Report.accumulateItems (modules.map fun module => module.2.plain)
        (seen generator.results) := by
  induction modules generalizing generator with
  | nil => rfl
  | cons module rest later =>
      have lines : (module.2.plain.reportLines.getD []) =
          ((module.2.report.getD []).filterMap resultLine).map ResultLine.plain := by
        rw [RepItem.plain]
        cases module.2.report with
        | none => rfl
        | some lines => rfl
      have first := processLines_seen module.1 (module.2.report.getD [])
        { generator with modules := generator.modules.insert module.1 [] }
      rw [List.foldlM_cons, List.map_cons, Report.accumulateItems, lines, ← first, processModule]
      cases (module.2.report.getD []).foldlM (processLine module.1)
          { generator with modules := generator.modules.insert module.1 [] } with
      | error raised => rfl
      | ok middle => exact later middle

theorem findMissingTestResults_seen {entries : List (String × TestEntry)}
    {infos : List (String × TestInfo)}
    (views : List.Forall₂ (fun entry info => info.1 = entry.1 ∧ entry.2.Views info.2) entries infos)
    {generator after : ReportGenerator}
    (configured : ∀ entry ∈ entries, generator.moduleConfig.testInfo entry.1 = entry.2)
    (done : (entries.map Prod.fst).foldlM findMissingTestResult generator = .ok after) :
    seen after.results = Report.findMissingTestResults infos (seen generator.results) := by
  induction views generalizing generator with
  | nil =>
      cases done
      rfl
  | @cons entry info _ _ head _ later =>
      rw [List.map_cons, List.foldlM_cons] at done
      obtain ⟨middle, first, behind⟩ := bind_eq_ok_iff.mp done
      obtain ⟨other, again, accumulated, _⟩ := findMissingTestResult_done generator entry.1
      obtain rfl := Except.ok.inj (again.symm.trans first)
      have needed : NonEmpty info.2.required ↔ Needed generator.moduleConfig entry.1 := by
        rw [Needed, configured entry List.mem_cons_self, head.2.needed]
      have absent : (seen generator.results).get? info.1 = none ↔
          entry.1 ∉ generator.results.keys := by
        rw [Dict.get?_eq_none_iff, seen, Dict.keys_mapValues, head.1]
      have rest := later (fun entry member => accumulated.moduleConfig ▸
        configured entry (List.mem_cons_of_mem _ member)) behind
      rw [rest, Report.findMissingTestResults]
      by_cases gone : Needed generator.moduleConfig entry.1 ∧ entry.1 ∉ generator.results.keys
      · rw [if_pos ⟨needed.mpr gone.1, absent.mpr gone.2⟩]
        rw [if_pos gone] at accumulated
        apply congrArg
        apply Dict.ext_entries
        have fresh : info.1 ∉ (seen generator.results).keys :=
          Dict.get?_eq_none_iff.mp (absent.mpr gone.2)
        rw [Dict.entries_insert_of_absent fresh, seen, Dict.entries_mapValues, accumulated.entries,
          List.map_append, head.1]
        rfl
      · rw [if_neg fun both => gone ⟨needed.mp both.1, absent.mp both.2⟩]
        rw [if_neg gone] at accumulated
        apply congrArg
        apply Dict.ext_entries
        rw [seen, Dict.entries_mapValues, accumulated.entries, List.map_nil, List.append_nil]
        rfl

end Reading

section Rating

variable {generator : ReportGenerator}

theorem writeCategory_of_counts (views : config.Views loaded) {category testName : String}
    (counts : config.Counts category testName) {results : Dict String String} {word : String}
    (stored : results.get? testName = some word) (rest : List String) (shows : String) :
    Report.writeCategory loaded category (testName :: rest) shows results =
      Report.writeCategory loaded category rest (rating.next shows word)
        (results.insert testName (rating.left shows word)) := by
  rw [Report.writeCategory, stored, Option.getD_some,
    if_pos ((views_counts views category testName).mpr counts), Rolling.next, Rolling.left]
  have kept : results.insert testName word = results := Dict.insert_eq_self stored
  change (if shows ≠ word ∧ shows ≠ rating.blank then if word = rating.lenient then _ else _ else _) = _
  split
  · split
    · rfl
    · rw [kept]
      rfl
  · rw [kept]

theorem writeCategory_of_not_counts (views : config.Views loaded) {category testName : String}
    (other : ¬ config.Counts category testName) (rest : List String) (shows : String)
    (results : Dict String String) :
    Report.writeCategory loaded category (testName :: rest) shows results =
      Report.writeCategory loaded category rest shows results := by
  rw [Report.writeCategory, if_neg]
  intro both
  exact other ((views_counts views category testName).mp both)

def seenEntry (entry : String × ResultDict) : String × String := (entry.1, entry.2.result)

/-- A row leaves the same of the results: what is behind it was gone through, what is before
it was not. -/
theorem rateTests_seen (views : generator.moduleConfig.Views loaded) (row : CategoryRow)
    (behind : List (String × ResultDict)) {before : List (String × String)}
    {results : Dict String String} (entries : results.entries = before ++ behind.map seenEntry) :
    (Report.writeCategory loaded row.category (behind.map Prod.fst) row.result results).entries =
      before ++ (Dict.mapAccumEntries generator.rateTest row behind).2.map seenEntry := by
  induction behind generalizing row before results with
  | nil => exact entries
  | cons entry rest later =>
      obtain ⟨testName, resultDict⟩ := entry
      rw [List.map_cons, Dict.mapAccumEntries]
      by_cases counts : generator.moduleConfig.Counts row.category testName
      · obtain ⟨category, result, dict⟩ := rateTest_of_counts counts resultDict
        have stored : results.get? testName = some resultDict.result := by
          apply Dict.get?_eq_some_iff.mpr
          rw [entries]
          exact List.mem_append_right before List.mem_cons_self
        have replaced := Dict.entries_insert_middle entries
          (rating.left row.result resultDict.result)
        rw [List.append_cons] at replaced
        have next := later (generator.rateTest row testName resultDict).1 replaced
        rw [category, result] at next
        rw [writeCategory_of_counts views counts stored, next, dict, List.append_assoc]
        rfl
      · rw [writeCategory_of_not_counts views counts, rateTest_of_not_counts counts]
        rw [List.map_cons, List.append_cons] at entries
        rw [later row entries, List.append_assoc]
        rfl

theorem categoryRows_seen (categories : List String) (generator : ReportGenerator)
    (views : generator.moduleConfig.Views loaded) :
    seen (categoryRows categories generator).2.results =
      categories.foldl
        (fun results category => Report.writeCategory loaded category results.keys "n/a" results)
        (seen generator.results) := by
  induction categories generalizing generator with
  | nil => rfl
  | cons category rest later =>
      have row : Report.writeCategory loaded category (seen generator.results).keys "n/a"
          (seen generator.results) = seen (generator.rated category).results := by
        apply Dict.ext_entries
        rw [seen, Dict.keys_mapValues]
        exact @rateTests_seen loaded generator views (generator.startRow category)
          generator.results.entries [] (seen generator.results) rfl
      rw [categoryRows_cons, List.foldl_cons, row]
      exact later (generator.rated category) views

end Rating

section Returning

variable {final : ReportGenerator}

theorem collect_seen {results : Dict String ResultDict} (lines : List ResultLine)
    (reported : ∀ line ∈ lines, line.testName ∈ results.keys) (tests : Dict String ResultDict) :
    seen ((lines.map ResultLine.testName).foldl (collect results) tests) =
      (lines.map ResultLine.plain).foldl
        (fun tests line => tests.insert line.1 (((seen results).get? line.1).getD line.2))
        (seen tests) := by
  induction lines generalizing tests with
  | nil => rfl
  | cons line rest later =>
      obtain ⟨resultDict, found⟩ := Dict.mem_keys_iff.mp (reported line List.mem_cons_self)
      have shown : (seen results).get? line.testName = some resultDict.result := by
        rw [seen, Dict.get?_mapValues_eq, found, Option.map_some]
      rw [List.map_cons, List.map_cons, List.foldl_cons, List.foldl_cons,
        later fun line member => reported line (List.mem_cons_of_mem _ member), collect, found,
        ResultLine.plain, shown, Option.getD_some]
      dsimp only
      rw [seen_insert]

theorem deviceReport_eq {processed : ReportGenerator}
    (finalized : Finalized config repitems processed final) :
    (deviceReport final).modules =
      (repitems.mapValues fun _ => RepItem.plain).mapValues fun _ item =>
        { exception := item.exception
          returnCode := item.returnCode
          tests := Report.moduleTests (seen final.results) (item.reportLines.getD []) } := by
  rw [deviceReport, allResults, finalized.modules, Dict.mapValues_mapValues,
    Dict.mapValues_mapValues, Dict.mapValues_mapValues]
  dsimp only
  apply Dict.mapValues_congr
  intro module item found
  have reported : ∀ line ∈ item.lines, line.testName ∈ final.results.keys := by
    intro line member
    have inside : (some module, line) ∈ allReported config repitems :=
      List.mem_append_left _ (mem_reported.mpr ⟨module, item, rfl, found, member⟩)
    rw [finalized.keys]
    exact List.mem_map_of_mem (f := fun line => line.2.testName) inside
  have lines : item.plain.reportLines.getD [] = item.lines.map ResultLine.plain := by
    rw [RepItem.plain, RepItem.lines]
    cases item.report with
    | none => rfl
    | some lines => rfl
  rw [finalized.items, found, lines, Report.moduleTests, ReportedModule.plain,
    collect_seen item.lines reported .empty]
  rfl

end Returning

section Refining

theorem writeCategoryTable_seen (views : config.Views loaded) {processed final : ReportGenerator}
    (finalized : Finalized config repitems processed final) :
    seen final.results = Report.writeCategoryTable loaded (seen processed.results) := by
  have sameViews : processed.moduleConfig.Views loaded := finalized.moduleConfig ▸ views
  have keys : (seen processed.results).keys = names (allReported config repitems) := by
    rw [seen, Dict.keys_mapValues, Dict.keys, finalized.entries, List.map_map]
    rfl
  have categories : Report.categoriesOf loaded loaded.categories (seen processed.results).keys =
      processed.categories := by
    rw [categoriesOf_eq views, keys, views.categories, finalized.categories, names, List.map_map]
    rfl
  rw [finalized.results, categoryRows_seen processed.categories processed sameViews,
    Report.writeCategoryTable, categories]

theorem finalizeItems_refined (upper : String → String) (views : config.Views loaded) :
    Report.finalizeItems loaded (repitems.mapValues fun _ => RepItem.plain) =
      ((new config repitems).finalize upper).map deviceReport := by
  have items : (repitems.mapValues fun _ => RepItem.plain).values =
      repitems.entries.map fun module => module.2.plain := List.map_map
  have read := processModules_seen repitems.entries (new config repitems)
  have start : seen (new config repitems).results = .empty := rfl
  rw [Report.finalizeItems, items, ← start, ← read]
  cases modules : repitems.entries.foldlM processModule (new config repitems) with
  | error raised =>
      have raises : (new config repitems).finalize upper = .error raised :=
        bind_eq_error_iff.mpr (.inl (bind_eq_error_iff.mpr (.inl modules)))
      rw [raises]
      rfl
  | ok middle =>
      obtain ⟨processed, tests, _⟩ :=
        findMissingTestResults_done middle.moduleConfig.tests.nodup middle
      have results : (new config repitems).processResults = .ok processed :=
        bind_eq_ok_iff.mpr ⟨middle, modules, tests⟩
      obtain ⟨final, done⟩ := (finalize_ok_iff upper).mpr (processResults_ok_iff.mp ⟨_, results⟩)
      obtain ⟨other, finalized⟩ := finalize_finalized done
      obtain rfl := Except.ok.inj (results.symm.trans finalized.computed)
      have first := @foldlM_accumulated _ processModule moduleReports
        (fun _ _ _ => processModule_accumulated) _ _ _ modules
      have configured : ∀ entry ∈ config.tests.entries,
          middle.moduleConfig.testInfo entry.1 = entry.2 := by
        intro entry member
        have same : middle.moduleConfig = config := first.moduleConfig
        rw [same, ReportConfig.testInfo, Dict.get?_eq_some_iff.mpr member, Option.getD_some]
      have missing : seen processed.results =
          Report.findMissingTestResults loaded.tests (seen middle.results) := by
        apply findMissingTestResults_seen views.tests configured
        rw [first.moduleConfig] at tests
        exact tests
      rw [done, seenAfter, Except.map, ok_bind]
      dsimp only
      rw [← missing, ← writeCategoryTable_seen views finalized]
      rw [← deviceReport_eq finalized]
      rfl

end Refining

end ReportGenerator

end Daq
