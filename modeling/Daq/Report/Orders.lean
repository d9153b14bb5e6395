import Daq.Lib.RollingOrder
import Daq.Report.Returned

namespace Daq

open Fallible Report

/-! What the category table shows of the same results in another order. -/

/-- A module whose report has its lines in another order. -/
structure Shuffled (first second : String × RepItem) : Prop where
  name : second.1 = first.1
  exception : second.2.exception = first.2.exception
  returnCode : second.2.returnCode = first.2.returnCode
  report : (second.2.report.getD []).Perm (first.2.report.getD [])

/-- The modules in another order, and the lines of each. -/
def Reordered (repitems other : Dict String RepItem) : Prop :=
  ∃ entries, entries.Perm repitems.entries ∧ List.Forall₂ Shuffled entries other.entries

namespace ReportConfig

open ReportGenerator

variable {config : ReportConfig} {repitems other : Dict String RepItem} {category : String}

section Words

variable (config category)

/-- The result word that a line of a report counts with. -/
def lineWord (line : String) : Option String :=
  (resultLine line).bind fun line =>
    if config.Counts category line.testName then some line.result else none

/-- The result words that a module counts with. -/
def itemWords (module : String × RepItem) : List String :=
  (module.2.report.getD []).filterMap (config.lineWord category)

/-- The result words of a category, module by module. -/
def moduleWords (repitems : Dict String RepItem) : List (List String) :=
  repitems.entries.map (config.itemWords category)

theorem words_lines (module : String) (lines : List String) :
    config.words category (((lines.filterMap resultLine).map fun line =>
        ((some module, line) : Reported)).map config.entry) =
      lines.filterMap (config.lineWord category) := by
  induction lines with
  | nil => rfl
  | cons line rest later =>
      rw [List.filterMap_cons, List.filterMap_cons, lineWord]
      cases resultLine line with
      | none => exact later
      | some found =>
          by_cases counts : config.Counts category found.testName
          · rw [List.map_cons, List.map_cons, ReportConfig.entry, words_cons_of_counts counts, later,
              Option.bind_some, if_pos counts]
            rfl
          · rw [List.map_cons, List.map_cons, ReportConfig.entry, words_cons_of_not_counts counts,
              later, Option.bind_some, if_neg counts]

theorem words_modules (modules : List (String × RepItem)) :
    config.words category ((modules.flatMap moduleReports).map config.entry) =
      (modules.map (config.itemWords category)).flatten := by
  induction modules with
  | nil => rfl
  | cons module rest later =>
      rw [List.flatMap_cons, List.map_append, words_append, later, List.map_cons,
        List.flatten_cons, itemWords, ← words_lines config category module.1]
      rfl

theorem reportedWords_eq (repitems : Dict String RepItem) :
    reportedWords config repitems category = (moduleWords config category repitems).flatten :=
  words_modules config category repitems.entries

end Words

end ReportConfig

open ReportConfig ReportGenerator

variable {config : ReportConfig} {repitems other : Dict String RepItem} {category : String}

namespace Shuffled

theorem names {first second : List (String × RepItem)}
    (shuffled : List.Forall₂ Shuffled first second) :
    second.map Prod.fst = first.map Prod.fst := by
  induction shuffled with
  | nil => rfl
  | cons head _ later => rw [List.map_cons, List.map_cons, head.name, later]

theorem reports {first second : List (String × RepItem)}
    (shuffled : List.Forall₂ Shuffled first second) :
    (second.flatMap moduleReports).Perm (first.flatMap moduleReports) := by
  induction shuffled with
  | nil => exact .refl _
  | @cons module other _ _ head _ later =>
      rw [List.flatMap_cons, List.flatMap_cons]
      have reports : (moduleReports other).Perm (moduleReports module) := by
        unfold moduleReports RepItem.lines
        rw [head.name]
        exact (head.report.filterMap resultLine).map _
      exact reports.append later

theorem words {first second : List (String × RepItem)}
    (shuffled : List.Forall₂ Shuffled first second) :
    List.Forall₂ List.Perm (first.map (config.itemWords category))
      (second.map (config.itemWords category)) := by
  induction shuffled with
  | nil => exact .nil
  | cons head _ later => exact .cons (head.report.symm.filterMap _) later

theorem exists_of_words {entries : List (String × RepItem)} {groups : List (List String)}
    (perms : List.Forall₂ List.Perm (entries.map (config.itemWords category)) groups) :
    ∃ others, List.Forall₂ Shuffled entries others ∧
      others.map (config.itemWords category) = groups := by
  induction entries generalizing groups with
  | nil =>
      cases perms
      exact ⟨[], .nil, rfl⟩
  | cons module rest later =>
      cases perms with
      | cons head tail =>
          obtain ⟨lines, perm, words⟩ := exists_perm_filterMap head.symm
          obtain ⟨others, shuffled, behind⟩ := later tail
          refine ⟨(module.1, { module.2 with report := some lines }) :: others,
            .cons ⟨rfl, rfl, rfl, perm⟩ shuffled, ?_⟩
          rw [List.map_cons, behind]
          exact congrArg (· :: _) words

end Shuffled

namespace Reordered

theorem reported_perm (reordered : Reordered repitems other) :
    (reported other).Perm (reported repitems) := by
  obtain ⟨entries, perm, shuffled⟩ := reordered
  exact (Shuffled.reports shuffled).trans (perm.flatMap_right moduleReports)

theorem names_perm (reordered : Reordered repitems other) :
    (names (reported other)).Perm (names (reported repitems)) :=
  reordered.reported_perm.map _

theorem missing_eq (reordered : Reordered repitems other) :
    missing config (names (reported other)) = missing config (names (reported repitems)) := by
  apply List.filter_congr
  intro testName _
  simp only [reordered.names_perm.mem_iff]

theorem goneWords_eq (reordered : Reordered repitems other) :
    goneWords config other category = goneWords config repitems category := by
  unfold goneWords
  rw [reordered.missing_eq]

theorem allReported_perm (reordered : Reordered repitems other) :
    (allReported config other).Perm (allReported config repitems) := by
  unfold allReported
  rw [reordered.missing_eq]
  exact reordered.reported_perm.append_right _

theorem arranges (reordered : Reordered repitems other) :
    Arranges (moduleWords config category repitems) (reportedWords config other category) := by
  obtain ⟨entries, perm, shuffled⟩ := reordered
  exact ⟨_, _, perm.map _, Shuffled.words shuffled, reportedWords_eq config category other⟩

theorem exists_of_arranges {order : List String}
    (arranges : Arranges (moduleWords config category repitems) order) :
    ∃ other, Reordered repitems other ∧ reportedWords config other category = order := by
  obtain ⟨chosen, groups, perm, perms, rfl⟩ := arranges
  rw [moduleWords, ← List.filterMap_eq_map] at perm
  obtain ⟨entries, same, chosenWords⟩ := exists_perm_filterMap perm
  rw [List.filterMap_eq_map] at chosenWords
  rw [← chosenWords] at perms
  obtain ⟨others, shuffled, words⟩ := Shuffled.exists_of_words perms
  have distinct : (others.map Prod.fst).Nodup := by
    rw [Shuffled.names shuffled]
    exact (same.map Prod.fst).nodup_iff.mpr repitems.nodup
  refine ⟨⟨others, distinct⟩, ⟨entries, same, shuffled⟩, ?_⟩
  rw [reportedWords_eq]
  exact congrArg List.flatten words

end Reordered

namespace ReportGenerator

/-- `str.upper` as far as it is relied on: letters of ASCII become upper case. -/
def UppersAscii (upper : String → String) : Prop :=
  ∀ text : String, (text.toList.all fun char => char.toNat < 128) = true →
    (upper text).toList = text.toList.map Char.toUpper

theorem info_shown_ne_fail {upper : String → String} (ascii : UppersAscii upper) :
    strip (upper "info") ≠ strip (upper "fail") := by
  have info : upper "info" = "INFO" := by
    apply String.toList_inj.mp
    rw [ascii "info" (by decide)]
    decide
  have fail : upper "fail" = "FAIL" := by
    apply String.toList_inj.mp
    rw [ascii "fail" (by decide)]
    decide
  rw [info, fail]
  decide

theorem count_foldl_appendNew {added list : List String} {element : String} :
    (added.foldl appendNew list).count element =
      if element ∈ list then list.count element else if element ∈ added then 1 else 0 := by
  induction added generalizing list with
  | nil =>
      split
      · rfl
      · rename_i absent
        simpa using List.count_eq_zero.mpr absent
  | cons first rest later =>
      rw [List.foldl_cons, later, appendNew]
      by_cases present : first ∈ list
      · rw [if_pos present]
        by_cases here : element ∈ list
        · simp [here]
        · have differs : element ≠ first := fun same => here (same ▸ present)
          simp [here, differs]
      · rw [if_neg present]
        by_cases same : element = first
        · simp [same, present, List.count_eq_zero.mpr present]
        · simp [same, List.count_append, List.count_cons_of_ne (Ne.symm same)]

def tableCount (config : ReportConfig) (repitems : Dict String RepItem) (category : String) : Nat :=
  (((allReported config repitems).map fun line => config.category line.2.testName).foldl appendNew
    config.categories).count category

theorem tableCount_eq (reordered : Reordered repitems other) :
    tableCount config other category = tableCount config repitems category := by
  unfold tableCount
  rw [count_foldl_appendNew, count_foldl_appendNew]
  simp only [(reordered.allReported_perm.map _).mem_iff]

variable (upper : String → String)

/-- What the rows of the category table show as the result of a category. -/
def shownResults (config : ReportConfig) (repitems : Dict String RepItem) (category : String) :
    Except Exc (List String) := do
  let generator ← (new config repitems).processResults
  return ((categoryRows generator.categories generator).1.filter fun row =>
    row.category = category).map fun row => strip (upper row.result)

theorem shownResults_eq (distinct : (names (reported repitems)).Nodup) :
    shownResults upper config repitems category =
      .ok ((rating.summaries (tableCount config repitems category)
        (reportedWords config repitems category ++ goneWords config repitems category)).map
          fun word => strip (upper word)) := by
  obtain ⟨processed, done⟩ := (@processResults_ok_iff config repitems).mpr distinct
  have accumulated := processResults_accumulated done
  have rows := categoryRows_results category processed.categories processed
  have entries : processed.results.entries = (allReported config repitems).map config.entry :=
    accumulated.entries
  have same : processed.moduleConfig = config := accumulated.moduleConfig
  have count : processed.categories.count category = tableCount config repitems category := by
    rw [accumulated.categories]
    rfl
  rw [same, entries, words_allReported, count] at rows
  rw [shownResults, done, ← rows, List.map_map]
  rfl

/-- A category shows the same in every order if and only if its words are settled, or the
modules tangled. -/
theorem shownResults_reordered_iff {upper : String → String} (ascii : UppersAscii upper)
    (distinct : (names (reported repitems)).Nodup) (category : String) :
    (∀ other, Reordered repitems other →
      shownResults upper config other category = shownResults upper config repitems category) ↔
      rating.Settled (fun word => strip (upper word)) (goneWords config repitems category)
          (reportedWords config repitems category) ∨
        rating.Tangled (moduleWords config category repitems) := by
  have ordinary : ∀ word ∈ goneWords config repitems category, rating.Ordinary word := by
    intro word member
    rw [eq_gone member]
    decide
  have shows : ∀ other, Reordered repitems other →
      shownResults upper config other category =
        .ok ((rating.summaries (tableCount config repitems category)
          (reportedWords config other category ++ goneWords config repitems category)).map
            fun word => strip (upper word)) := by
    intro other reordered
    have again := reordered.names_perm.nodup_iff.mpr distinct
    rw [shownResults_eq upper again, tableCount_eq reordered, reordered.goneWords_eq]
  by_cases inside : 0 < tableCount config repitems category
  · have arranged := @Rolling.arranged_iff _ _ _ rating (fun word => strip (upper word)) _
      (moduleWords config category repitems) ordinary (info_shown_ne_fail ascii) _ inside
    rw [← reportedWords_eq] at arranged
    rw [← arranged]
    constructor
    · intro same order arranges
      obtain ⟨other, reordered, rfl⟩ := Reordered.exists_of_arranges arranges
      have equal := same other reordered
      rw [shows other reordered, shownResults_eq upper distinct] at equal
      exact Except.ok.inj equal
    · intro same other reordered
      rw [shows other reordered, shownResults_eq upper distinct, same _ reordered.arranges]
  · have outside : tableCount config repitems category = 0 := Nat.eq_zero_of_not_pos inside
    have nothing : reportedWords config repitems category = [] := by
      have absent := List.count_eq_zero.mp outside
      rw [mem_foldl_appendNew, not_or] at absent
      have words := words_of_not_mem absent.2
      rw [words_allReported, List.append_eq_nil_iff] at words
      exact words.1
    constructor
    · intro _
      left
      right; right; left
      rw [nothing]
      exact List.forall_mem_nil _
    · intro _ other reordered
      rw [shows other reordered, shownResults_eq upper distinct, outside]
      rfl

namespace Sample

def asciiUpper (text : String) : String := String.ofList (text.toList.map Char.toUpper)

theorem asciiUpper_upper : UppersAscii asciiUpper :=
  fun _ _ => String.toList_ofList

theorem infoThenPass_shows_fail :
    Reordered passThenInfo infoThenPass ∧
      shownResults asciiUpper oneCategory passThenInfo "Connectivity" = .ok ["PASS"] ∧
      shownResults asciiUpper oneCategory infoThenPass "Connectivity" = .ok ["FAIL"] := by
  refine ⟨⟨_, .refl _, .cons ⟨rfl, rfl, rfl, .swap _ _ _⟩ .nil⟩, ?_, ?_⟩
  · rfl
  · rfl

def passThenFail : Dict String RepItem :=
  oneModule ["RESULT pass connection.ping ok\n", "RESULT fail connection.dhcp missing\n"]

theorem passThenFail_shows_fail :
    shownResults asciiUpper oneCategory passThenFail "Connectivity" = .ok ["FAIL"] ∧
      ∀ other, Reordered passThenFail other →
        shownResults asciiUpper oneCategory other "Connectivity" =
          shownResults asciiUpper oneCategory passThenFail "Connectivity" := by
  refine ⟨rfl, (shownResults_reordered_iff asciiUpper_upper (by decide +kernel) _).mpr ?_⟩
  left; left
  exact ⟨"pass", by decide +kernel, "fail", by decide +kernel, by decide, by decide, by decide⟩

end Sample

end ReportGenerator

end Daq
