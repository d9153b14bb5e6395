import Daq.Report.Overall

namespace Daq

open Fallible Report

/-! The results that are returned, against those that the modules gave. -/

namespace ReportConfig

variable {config : ReportConfig} {repitems : Dict String RepItem}

theorem mem_reported {reporter : Option String} {line : ResultLine} :
    (reporter, line) ∈ reported repitems ↔
      ∃ module item, reporter = some module ∧ repitems.get? module = some item ∧
        line ∈ item.lines := by
  simp only [reported, List.mem_flatMap, List.mem_map, Prod.mk.injEq, Prod.exists,
    Dict.get?_eq_some_iff]
  constructor
  · rintro ⟨module, item, member, found, inside, same, equal⟩
    exact ⟨module, item, same.symm, member, equal ▸ inside⟩
  · rintro ⟨module, item, same, member, inside⟩
    exact ⟨module, item, member, line, inside, same.symm, rfl⟩

/-- The result word that the report of a module has for a test. -/
def givenResult (repitems : Dict String RepItem) (module testName : String) : Option String :=
  (repitems.get? module).bind fun item =>
    (item.lines.find? fun line => line.testName = testName).map ResultLine.result

theorem givenResult_of_mem (distinct : (names (reported repitems)).Nodup) {module : String}
    {item : RepItem} {line : ResultLine} (found : repitems.get? module = some item)
    (member : line ∈ item.lines) :
    givenResult repitems module line.testName = some line.result := by
  rw [givenResult, found, Option.bind_some]
  cases search : item.lines.find? fun other => other.testName = line.testName with
  | none =>
      have absent := List.find?_eq_none.mp search line member
      simp at absent
  | some other =>
      have same : other.testName = line.testName := by simpa using List.find?_some search
      have inside := List.mem_of_find?_eq_some search
      have equal := List.inj_on_of_nodup_map distinct
        (mem_reported.mpr ⟨module, item, rfl, found, inside⟩)
        (mem_reported.mpr ⟨module, item, rfl, found, member⟩) same
      cases equal
      rfl

/-- The result words of a category, in the order in which they are read. -/
def reportedWords (config : ReportConfig) (repitems : Dict String RepItem) (category : String) :
    List String :=
  config.words category ((reported repitems).map config.entry)

def goneWords (config : ReportConfig) (repitems : Dict String RepItem) (category : String) :
    List String :=
  config.words category (((ReportGenerator.missing config (names (reported repitems))).map
    ReportGenerator.goneLine).map config.entry)

theorem eq_gone {category word : String} (member : word ∈ goneWords config repitems category) :
    word = MISSING_TEST_RESULT := by
  unfold goneWords words at member
  obtain ⟨entry, inside, rfl⟩ := List.mem_map.mp member
  obtain ⟨line, gone, rfl⟩ := List.mem_map.mp (List.mem_of_mem_filter inside)
  obtain ⟨testName, _, rfl⟩ := List.mem_map.mp gone
  rfl

theorem words_allReported (category : String) :
    config.words category ((ReportGenerator.allReported config repitems).map config.entry) =
      reportedWords config repitems category ++ goneWords config repitems category := by
  rw [ReportGenerator.allReported, List.map_append, words_append]
  rfl

/-- The `info` come first, with nothing but `n/a` before them. -/
def InfoFirst (words : List String) : Prop :=
  ∃ blanks leading rest, words = blanks ++ leading ++ rest ∧ (∀ word ∈ blanks, word = "n/a") ∧
    (∀ word ∈ leading, word = "info") ∧ "info" ∉ rest

theorem passed_words_iff (category : String) :
    rating.passed (config.words category
        ((ReportGenerator.allReported config repitems).map config.entry)) =
      config.words category ((ReportGenerator.allReported config repitems).map config.entry) ↔
      InfoFirst (reportedWords config repitems category) := by
  have none : rating.lenient ∉ goneWords config repitems category := by
    intro member
    exact absurd (eq_gone member) (by decide)
  rw [words_allReported, Rolling.passed_append_eq_self_iff none]
  exact Rolling.passed_eq_self_iff

end ReportConfig

namespace ReportGenerator

open ReportConfig

variable {config : ReportConfig} {repitems : Dict String RepItem}

/-- The result word that the returned dictionary has for a test of a module. -/
def returnedResult (modules : Dict String ReportedModule) (module testName : String) :
    Option String :=
  (modules.get? module).bind fun reported =>
    (reported.tests.get? testName).map ResultDict.result

theorem get?_collected (testNames : List String) (results tests : Dict String ResultDict)
    (testName : String) :
    (testNames.foldl (collect results) tests).get? testName =
      if testName ∈ testNames then (results.get? testName).or (tests.get? testName)
      else tests.get? testName := by
  induction testNames generalizing tests with
  | nil => rfl
  | cons first rest later =>
      rw [List.foldl_cons, later, collect]
      by_cases same : testName = first
      · cases found : results.get? first with
        | none => simp [same, found]
        | some resultDict => simp [same, found]
      · cases results.get? first with
        | none => simp [same]
        | some resultDict => simp [same, Dict.get?_insert_of_ne]

/-- A finalized report, with the results that were processed for it. -/
structure Finalized (config : ReportConfig) (repitems : Dict String RepItem)
    (processed final : ReportGenerator) : Prop where
  computed : (new config repitems).processResults = .ok processed
  items : final.repitems = repitems
  modules : final.modules = repitems.mapValues fun _ item => item.lines.map ResultLine.testName
  results : final.results = (categoryRows processed.categories processed).2.results

theorem finalize_finalized {upper : String → String} {final : ReportGenerator}
    (done : (new config repitems).finalize upper = .ok final) :
    ∃ processed, Finalized config repitems processed final := by
  obtain ⟨processed, notice, rest, results, written⟩ := finalize_done upper done
  have accumulated := processResults_accumulated results
  have frame := categoryRows_frame processed.categories processed
  refine ⟨processed, results, ?_, ?_, ?_⟩
  · rw [written, frame]
    exact accumulated.repitems
  · have modules := processResults_modules results
    rw [written, frame]
    exact modules
  · rw [written]

namespace Finalized

variable {processed final : ReportGenerator}

theorem distinct (finalized : Finalized config repitems processed final) :
    (names (reported repitems)).Nodup :=
  processResults_ok_iff.mp ⟨processed, finalized.computed⟩

theorem moduleConfig (finalized : Finalized config repitems processed final) :
    processed.moduleConfig = config :=
  (processResults_accumulated finalized.computed).moduleConfig

theorem entries (finalized : Finalized config repitems processed final) :
    processed.results.entries = (allReported config repitems).map config.entry :=
  (processResults_accumulated finalized.computed).entries

theorem categories (finalized : Finalized config repitems processed final) :
    processed.categories =
      ((allReported config repitems).map fun line => config.category line.2.testName).foldl
        appendNew config.categories :=
  (processResults_accumulated finalized.computed).categories

theorem returnedResult_eq (finalized : Finalized config repitems processed final)
    (module testName : String) :
    returnedResult final.allResults module testName =
      (repitems.get? module).bind fun item =>
        if testName ∈ item.lines.map ResultLine.testName then
          (final.results.get? testName).map ResultDict.result
        else none := by
  rw [returnedResult, allResults, finalized.modules, Dict.get?_mapValues_eq, Dict.get?_mapValues_eq]
  cases repitems.get? module with
  | none => rfl
  | some item =>
      simp only [Option.map_some, Option.bind_some, get?_collected, Dict.get?_empty, Option.or_none]
      split
      · rfl
      · rfl

theorem softened (finalized : Finalized config repitems processed final) :
    List.Forall₂ config.Softened processed.results.entries final.results.entries := by
  rw [finalized.results, ← finalized.moduleConfig]
  exact categoryRows_softened processed.categories processed

theorem keys (finalized : Finalized config repitems processed final) :
    final.results.keys = names (allReported config repitems) := by
  have same : ∀ {first second : List (String × ResultDict)},
      List.Forall₂ config.Softened first second → second.map Prod.fst = first.map Prod.fst := by
    intro first second softened
    induction softened with
    | nil => rfl
    | cons head _ later => rw [List.map_cons, List.map_cons, head.name, later]
  rw [Dict.keys, same finalized.softened, finalized.entries, List.map_map]
  rfl

theorem returned_of_kept (finalized : Finalized config repitems processed final)
    (kept : final.results.entries = processed.results.entries) (module testName : String) :
    returnedResult final.allResults module testName = givenResult repitems module testName := by
  rw [finalized.returnedResult_eq]
  cases found : repitems.get? module with
  | none => rw [givenResult, found, Option.bind_none, Option.bind_none]
  | some item =>
      rw [Option.bind_some]
      split
      · rename_i ran
        obtain ⟨line, member, rfl⟩ := List.mem_map.mp ran
        have inside : (some module, line) ∈ allReported config repitems :=
          List.mem_append_left _ (mem_reported.mpr ⟨module, item, rfl, found, member⟩)
        have stored : final.results.get? line.testName =
            some (config.resultDict (some module, line)) := by
          apply Dict.get?_eq_some_iff.mpr
          rw [kept, finalized.entries]
          exact List.mem_map_of_mem (f := config.entry) inside
        rw [stored, givenResult_of_mem finalized.distinct found member]
        rfl
      · rename_i absent
        have nothing : (item.lines.find? fun line => decide (line.testName = testName)) = none := by
          apply List.find?_eq_none.mpr
          intro line member same
          have equal : line.testName = testName := by simpa using same
          exact absent (List.mem_map.mpr ⟨line, member, equal⟩)
        rw [givenResult, found, Option.bind_some, nothing]
        rfl

theorem kept_of_returned (finalized : Finalized config repitems processed final)
    (same : ∀ module testName,
      returnedResult final.allResults module testName = givenResult repitems module testName) :
    final.results.entries = processed.results.entries := by
  obtain ⟨lengths, softened⟩ := List.forall₂_iff_zip.mp finalized.softened
  have equal : List.Forall₂ (· = ·) processed.results.entries final.results.entries := by
    apply List.forall₂_iff_zip.mpr
    refine ⟨lengths, ?_⟩
    intro entry after pair
    rcases (softened pair).eq_or_info with unchanged | ⟨info, pass⟩
    · exact unchanged.symm
    · have before := (List.of_mem_zip pair).1
      have behind := (List.of_mem_zip pair).2
      rw [finalized.entries] at before
      obtain ⟨line, member, rfl⟩ := List.mem_map.mp before
      rcases List.mem_append.mp member with ran | gone
      · obtain ⟨reporter, line⟩ := line
        obtain ⟨module, item, rfl, found, inside⟩ := mem_reported.mp ran
        have stored : final.results.get? line.testName = some after.2 := by
          apply Dict.get?_eq_some_iff.mpr
          have name : after.1 = line.testName := (softened pair).name
          rw [← name]
          exact behind
        have asGiven := same module line.testName
        have named : line.testName ∈ item.lines.map ResultLine.testName :=
          List.mem_map_of_mem inside
        rw [finalized.returnedResult_eq, found, Option.bind_some, if_pos named, stored,
          givenResult_of_mem finalized.distinct found inside, Option.map_some, pass] at asGiven
        have word : line.result = "info" := info
        rw [word] at asGiven
        simp at asGiven
      · obtain ⟨testName, _, rfl⟩ := List.mem_map.mp gone
        have word : MISSING_TEST_RESULT = "info" := info
        simp [MISSING_TEST_RESULT] at word
  rw [List.forall₂_eq_eq_eq] at equal
  exact equal.symm

end Finalized

theorem mem_foldl_appendNew {added list : List String} {element : String} :
    element ∈ added.foldl appendNew list ↔ element ∈ list ∨ element ∈ added := by
  induction added generalizing list with
  | nil => simp
  | cons first rest later =>
      rw [List.foldl_cons, later, appendNew]
      split
      · rename_i present
        simp only [List.mem_cons]
        constructor
        · intro either
          rcases either with inside | behind
          · exact .inl inside
          · exact .inr (.inr behind)
        · intro either
          rcases either with inside | rfl | behind
          · exact .inl inside
          · exact .inl present
          · exact .inr behind
      · simp [or_assoc]

theorem words_of_not_mem {category : String} {lines : List Reported}
    (absent : category ∉ lines.map fun line => config.category line.2.testName) :
    config.words category (lines.map config.entry) = [] := by
  have none : ((lines.map config.entry).filter fun entry => config.Counts category entry.1) = [] := by
    apply List.filter_eq_nil_iff.mpr
    intro entry member counts
    obtain ⟨line, inside, rfl⟩ := List.mem_map.mp member
    have both : config.Counts category (config.entry line).1 := by simpa using counts
    exact absent (List.mem_map.mpr ⟨line, inside, both.1⟩)
  rw [words, none, List.map_nil]

/-- All results are returned as given if and only if in each category the `info` come
first. -/
theorem returned_as_given_iff {upper : String → String} {final : ReportGenerator}
    (done : (new config repitems).finalize upper = .ok final) :
    (∀ module testName,
        returnedResult final.allResults module testName = givenResult repitems module testName) ↔
      ∀ category, InfoFirst (reportedWords config repitems category) := by
  obtain ⟨processed, finalized⟩ := finalize_finalized done
  have kept := categoryRows_eq_iff processed.categories processed
  rw [← finalized.results, finalized.moduleConfig] at kept
  constructor
  · intro same category
    have passed := kept.mp (finalized.kept_of_returned same)
    rw [finalized.entries] at passed
    apply (passed_words_iff category).mp
    by_cases inside : category ∈ processed.categories
    · exact passed category inside
    · rw [finalized.categories, mem_foldl_appendNew, not_or] at inside
      rw [words_of_not_mem inside.2]
      rfl
  · intro first
    apply finalized.returned_of_kept
    apply kept.mpr
    intro category _
    rw [finalized.entries]
    exact (passed_words_iff category).mpr (first category)

namespace Sample

def oneCategory : ReportConfig where
  tests :=
    { entries := [("connection.ping",
          { category := some "Connectivity", required := some (.str (Str.ofChars "pass".toList)) }),
        ("connection.dhcp",
          { category := some "Connectivity", required := some (.str (Str.ofChars "pass".toList)) })]
      nodup := by decide }

def oneModule (lines : List String) : Dict String RepItem where
  entries := [("pass", { report := some lines })]
  nodup := List.nodup_singleton _

def passThenInfo : Dict String RepItem :=
  oneModule ["RESULT pass connection.ping ok\n", "RESULT info connection.dhcp leased\n"]

theorem passThenInfo_returned :
    ∃ final, (new oneCategory passThenInfo).finalize String.toUpper = .ok final ∧
      givenResult passThenInfo "pass" "connection.dhcp" = some "info" ∧
      returnedResult final.allResults "pass" "connection.dhcp" = some "pass" := by
  exact ⟨_, rfl, by decide +kernel, by decide +kernel⟩

def infoThenPass : Dict String RepItem :=
  oneModule ["RESULT info connection.dhcp leased\n", "RESULT pass connection.ping ok\n"]

theorem infoThenPass_returned :
    ∃ final, (new oneCategory infoThenPass).finalize String.toUpper = .ok final ∧
      ∀ module testName, returnedResult final.allResults module testName =
        givenResult infoThenPass module testName := by
  have distinct : (names (reported infoThenPass)).Nodup := by decide +kernel
  obtain ⟨final, done⟩ :=
    (@finalize_ok_iff oneCategory infoThenPass String.toUpper).mpr distinct
  refine ⟨final, done, (returned_as_given_iff done).mpr ?_⟩
  intro category
  by_cases same : category = "Connectivity"
  · rw [same]
    exact ⟨[], ["info"], ["pass"], by decide +kernel, by simp, by simp, by simp⟩
  · have categories : (reported infoThenPass).map
        (fun line => oneCategory.category line.2.testName) = ["Connectivity", "Connectivity"] := by
      decide +kernel
    have nothing : reportedWords oneCategory infoThenPass category = [] := by
      apply words_of_not_mem
      rw [categories]
      simpa using same
    rw [nothing]
    exact ⟨[], [], [], rfl, by simp, by simp, by simp⟩

end Sample

end ReportGenerator

end Daq
