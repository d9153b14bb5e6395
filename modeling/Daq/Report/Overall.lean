import Daq.Report.Categories

namespace Daq

open Fallible Report

/-! The verdict that the md report gives over all tests. -/

namespace ReportConfig

/-- A test has what is required of it: the required result, or none where none is needed. -/
def Satisfied (repitems : Dict String RepItem) (testName : String) (required : Json) : Prop :=
  (∃ line ∈ reported repitems, line.2.testName = testName ∧
      required = .str (Str.ofChars line.2.result.toList)) ∨
    testName ∉ names (reported repitems) ∧
      (Faucet.truthy required = false ∨
        required = .str (Str.ofChars MISSING_TEST_RESULT.toList))

variable {config : ReportConfig} {repitems : Dict String RepItem}

theorem mem_names {reported : List Reported} {line : Reported} (member : line ∈ reported) :
    line.2.testName ∈ names reported :=
  List.mem_map_of_mem member

theorem mem_missing {names : List String} {testName : String} :
    testName ∈ ReportGenerator.missing config names ↔
      ∃ info required, config.tests.get? testName = some info ∧ info.required = some required ∧
        Faucet.truthy required = true ∧ testName ∉ names := by
  rw [ReportGenerator.missing, List.mem_filter, decide_eq_true_iff, Dict.mem_keys_iff,
    ReportGenerator.Needed, testInfo]
  constructor
  · rintro ⟨⟨info, found⟩, needed, absent⟩
    rw [found] at needed
    cases required : info.required with
    | none => simp [required] at needed
    | some value => exact ⟨info, value, found, required, by simpa [required] using needed, absent⟩
  · rintro ⟨info, required, found, requires, needed, absent⟩
    exact ⟨⟨info, found⟩, by simp [found, requires, needed], absent⟩

theorem allReported_required_iff (distinct : (names (reported repitems)).Nodup) :
    (∀ line ∈ ReportGenerator.allReported config repitems, ∀ required,
        (config.testInfo line.2.testName).required = some required →
          required = .str (Str.ofChars line.2.result.toList)) ↔
      ∀ testName info required, config.tests.get? testName = some info →
        info.required = some required → Satisfied repitems testName required := by
  constructor
  · intro all testName info required found requires
    have requirement : (config.testInfo testName).required = some required := by
      simp [testInfo, found, requires]
    by_cases ran : testName ∈ names (reported repitems)
    · obtain ⟨line, member, rfl⟩ := List.mem_map.mp ran
      left
      exact ⟨line, member, rfl, all line (List.mem_append_left _ member) required requirement⟩
    · right
      cases needed : Faucet.truthy required with
      | false => exact ⟨ran, .inl rfl⟩
      | true =>
          have gone : testName ∈ ReportGenerator.missing config (names (reported repitems)) :=
            mem_missing.mpr ⟨info, required, found, requires, needed, ran⟩
          have line := List.mem_map_of_mem (f := ReportGenerator.goneLine) gone
          exact ⟨ran, .inr (all _ (List.mem_append_right _ line) required requirement)⟩
  · intro all line member required requires
    have configured : ∃ info, config.tests.get? line.2.testName = some info ∧
        info.required = some required := by
      unfold testInfo at requires
      cases found : config.tests.get? line.2.testName with
      | none => simp [found] at requires
      | some info => exact ⟨info, rfl, by simpa [found] using requires⟩
    obtain ⟨info, found, here⟩ := configured
    have satisfied := all _ info required found here
    rcases List.mem_append.mp member with ran | gone
    · rcases satisfied with ⟨other, member, same, equals⟩ | ⟨absent, _⟩
      · rw [List.inj_on_of_nodup_map distinct member ran same] at equals
        exact equals
      · exact absurd (mem_names ran) absent
    · obtain ⟨testName, missing, rfl⟩ := List.mem_map.mp gone
      obtain ⟨other, value, again, requirement, needed, absent⟩ := mem_missing.mp missing
      obtain rfl : info = other := Option.some.inj (found.symm.trans again)
      obtain rfl : required = value := Option.some.inj (here.symm.trans requirement)
      rcases satisfied with ⟨line, member, same, _⟩ | ⟨_, falsy | equals⟩
      · have named := mem_names member
        rw [same] at named
        exact absurd named absent
      · rw [falsy] at needed
        cases needed
      · exact equals

end ReportConfig

namespace ReportGenerator

open ReportConfig

variable {config : ReportConfig} {repitems : Dict String RepItem}

/-- The summary of the md report begins with a conclusion. -/
def Concludes (generator : ReportGenerator) (line : String) : Prop :=
  [testSeparator SUMMARY_LINE ++ "\n", line ++ "\n"] <+: generator.fileMd

theorem overallResult_eq_pass_iff (passes : Bool) :
    overallResult passes = "Overall device result PASS" ↔ passes = true := by
  cases passes with
  | true => exact iff_of_true (by decide) rfl
  | false => exact iff_of_false (by decide) (by decide)

theorem concludes_pass_iff {generator : ReportGenerator} {passes : Bool} {rest : List String}
    (written : generator.fileMd =
      (testSeparator SUMMARY_LINE ++ "\n") :: (overallResult passes ++ "\n") :: rest) :
    generator.Concludes "Overall device result PASS" ↔ passes = true := by
  rw [Concludes, written]
  constructor
  · intro concludes
    rw [List.cons_prefix_cons, List.cons_prefix_cons] at concludes
    have verdict := (String.append_left_inj "\n").mp concludes.2.1
    exact (overallResult_eq_pass_iff passes).mp verdict.symm
  · intro pass
    rw [(overallResult_eq_pass_iff passes).mpr pass]
    exact ⟨rest, rfl⟩

theorem passes_iff {processed : ReportGenerator}
    (done : (new config repitems).processResults = .ok processed) :
    processed.passes = true ↔
      ∀ line ∈ allReported config repitems, ∀ required,
        (config.testInfo line.2.testName).required = some required →
          required = .str (Str.ofChars line.2.result.toList) := by
  have accumulated := processResults_accumulated done
  have entries : processed.results.entries = (allReported config repitems).map config.entry :=
    accumulated.entries
  have same : processed.moduleConfig = config := accumulated.moduleConfig
  rw [passes, entries, List.all_map, List.all_eq_true]
  apply forall₂_congr
  intro line _
  have info : processed.getTestInfo (config.entry line).1 = config.testInfo line.2.testName := by
    rw [getTestInfo, same]
    rfl
  rw [Function.comp_apply, info]
  cases (config.testInfo line.2.testName).required with
  | none => simp
  | some required =>
      change decide (required = .str (Str.ofChars line.2.result.toList)) = true ↔ _
      simp

theorem finalize_ok_iff (upper : String → String) :
    (∃ final, (new config repitems).finalize upper = .ok final) ↔
      (names (reported repitems)).Nodup := by
  rw [← processResults_ok_iff]
  constructor
  · intro ⟨final, done⟩
    obtain ⟨processed, results, _⟩ := bind_eq_ok_iff.mp done
    exact ⟨processed, results⟩
  · intro ⟨processed, results⟩
    exact ⟨_, bind_eq_ok_iff.mpr ⟨processed, results, rfl⟩⟩

theorem finalize_done (upper : String → String) {final : ReportGenerator}
    (done : (new config repitems).finalize upper = .ok final) :
    ∃ processed notice rest, (new config repitems).processResults = .ok processed ∧
      final = { (categoryRows processed.categories processed).2 with
        fileMd := [testSeparator SUMMARY_LINE ++ "\n",
          overallResult processed.passes ++ "\n"] ++ notice ++
            (categoryTable upper processed).render :: rest } := by
  obtain ⟨processed, results, summary⟩ := bind_eq_ok_iff.mp done
  obtain ⟨notice, rest, written⟩ := writeTestSummary_done upper processed
  have nothing : processed.fileMd = [] := (processResults_accumulated results).fileMd
  rw [nothing, List.nil_append] at written
  cases summary
  exact ⟨processed, notice, rest, results, written⟩

/-- The report says that the device passes exactly if each test has what is required. -/
theorem finalize_concludes_pass_iff (upper : String → String)
    (distinct : (names (reported repitems)).Nodup) :
    ∃ final, (new config repitems).finalize upper = .ok final ∧
      (final.Concludes "Overall device result PASS" ↔
        ∀ testName info required, config.tests.get? testName = some info →
          info.required = some required → Satisfied repitems testName required) := by
  obtain ⟨final, finalized⟩ := (finalize_ok_iff upper).mpr distinct
  obtain ⟨processed, notice, rest, done, written⟩ := finalize_done upper finalized
  refine ⟨final, finalized, ?_⟩
  rw [← allReported_required_iff distinct, ← passes_iff done]
  apply concludes_pass_iff
  rw [written]
  rfl

namespace Sample

def twoTests : ReportConfig where
  tests :=
    { entries := [("connection.ping", { required := some (.str (Str.ofChars "pass".toList)) }),
        ("connection.dhcp", { required := some (.str []) })]
      nodup := by decide }

def onePassed : Dict String RepItem where
  entries := [("pass", { report := some ["Starting\n", "RESULT pass connection.ping ok\n"] })]
  nodup := by decide

theorem onePassed_concludes_pass :
    ∃ final, (new twoTests onePassed).finalize String.toUpper = .ok final ∧
      final.Concludes "Overall device result PASS" := by
  obtain ⟨final, finalized, verdict⟩ :=
    @finalize_concludes_pass_iff twoTests onePassed String.toUpper (by decide)
  refine ⟨final, finalized, verdict.mpr ?_⟩
  intro testName info required found requires
  have member := Dict.get?_eq_some_iff.mp found
  simp only [twoTests, List.mem_cons, Prod.mk.injEq, List.not_mem_nil, or_false] at member
  rcases member with ⟨rfl, rfl⟩ | ⟨rfl, rfl⟩
  · cases requires
    left
    exact ⟨(some "pass", ⟨"pass", "connection.ping", "ok\n"⟩), by decide, rfl, by decide⟩
  · cases requires
    right
    exact ⟨by decide, .inl (by decide)⟩

end Sample

end ReportGenerator

end Daq
