import Daq.Dot1x.Provenance
import Daq.Report.ReadBack

namespace Daq.Dot1x

open Report ReportConfig ReportGenerator

/-! The outcome of the test, from the verdicts to what the report generator makes of it. -/

/-- `str` of an address. -/
def Address.str (address : Address) : List Char :=
  (Address.text address).map fun byte => Char.ofNat byte.toNat

namespace Authenticator

/-- A round of the loop over the results. -/
def addResult (outcome : List Char × List Char) (item : Address × Bool) :
    List Char × List Char :=
  let result := if item.2 then "succeeded" else "failed"
  (outcome.1 ++ ("Authentication for ".toList ++ Address.str item.1 ++ " ".toList ++
      result.toList ++ ".".toList),
    if item.2 then outcome.2 else "fail".toList)

/-- `run_authentication_test` after its threads have ended: the summary and the result. -/
def runAuthenticationTest (results : Dict Address Bool) : List Char × List Char :=
  if results.size = 0 then
    ("Authentication failed. No EAPOL messages received.".toList, "skip".toList)
  else results.entries.foldl addResult ([], "pass".toList)

end Authenticator

def TEST_NAME : String := "dot1x.dot1x"

/-- The line that `test_dot1x.py` writes into its file. -/
def resultAndSummary (results : Dict Address Bool) : List Char :=
  let (summary, testResult) := Authenticator.runAuthenticationTest results
  "RESULT ".toList ++ testResult ++ " ".toList ++ TEST_NAME.toList ++ " ".toList ++ summary

def REPORT_DIVIDER : String := "--------------------"

/-- `write_out_result`: the lines that are appended to the report. -/
def writeOutResult (testName testDescription log : String) (resultAndSummary : List Char) :
    List String :=
  [REPORT_DIVIDER.toList, testName.toList, REPORT_DIVIDER.toList, testDescription.toList,
    REPORT_DIVIDER.toList, log.toList, REPORT_DIVIDER.toList, resultAndSummary, []].map
      fun line => String.ofList (line ++ ['\n'])

/-- The report of the module. -/
def dot1xReport (results : Dict Address Bool) : List String :=
  writeOutResult TEST_NAME "Dot1x authentication tests" "n/a" (resultAndSummary results)

/-! The texts can be read back. -/

/-- A character that neither ends a line nor starts a note. -/
def Plain (text : List Char) : Prop :=
  ∀ char ∈ text, notNewline char = true ∧ notPercent char = true

theorem Plain.append {first second : List Char} (former : Plain first) (latter : Plain second) :
    Plain (first ++ second) := by
  intro char member
  rcases List.mem_append.mp member with inside | inside
  · exact former char inside
  · exact latter char inside

theorem plain_of_all {text : List Char}
    (tested : (text.all fun char => notNewline char && notPercent char) = true) : Plain text := by
  intro char member
  simpa using List.all_eq_true.mp tested char member

theorem hexDigit_plain {value : Nat} (digit : value < 16) :
    Plain [Char.ofNat (Address.hexDigit value).toNat] := by
  have every : ∀ value : Fin 16,
      ([Char.ofNat (Address.hexDigit value).toNat].all fun char =>
        notNewline char && notPercent char) = true := by
    decide
  exact plain_of_all (every ⟨value, digit⟩)

theorem octets_plain (octets : Bytes) :
    Plain ((List.intercalate [58] (octets.map fun octet =>
      [Address.hexDigit (octet.toNat / 16), Address.hexDigit (octet.toNat % 16)])).map
        fun byte => Char.ofNat byte.toNat) := by
  have octet_plain : ∀ octet : UInt8,
      Plain ([Address.hexDigit (octet.toNat / 16), Address.hexDigit (octet.toNat % 16)].map
        fun byte => Char.ofNat byte.toNat) := by
    intro octet
    have bound := octet.toNat_lt
    have high : octet.toNat / 16 < 16 := by omega
    have low : octet.toNat % 16 < 16 := by omega
    exact (hexDigit_plain high).append (hexDigit_plain low)
  induction octets with
  | nil => exact plain_of_all rfl
  | cons octet rest later =>
      cases rest with
      | nil => exact octet_plain octet
      | cons next behind =>
          have colon : Plain [':'] := plain_of_all (by decide)
          exact ((octet_plain octet).append colon).append later

theorem str_plain (address : Address) : Plain (Address.str address) :=
  octets_plain address.1

theorem addResult_plain {outcome : List Char × List Char} (plain : Plain outcome.1)
    (item : Address × Bool) : Plain (Authenticator.addResult outcome item).1 := by
  have verdict : Plain (if item.2 then "succeeded" else "failed").toList := by
    split
    · exact plain_of_all (by decide)
    · exact plain_of_all (by decide)
  exact plain.append (((((plain_of_all (by decide)).append (str_plain item.1)).append
    (plain_of_all (by decide))).append verdict).append (plain_of_all (by decide)))

theorem foldl_addResult_plain (items : List (Address × Bool)) {outcome : List Char × List Char}
    (plain : Plain outcome.1) : Plain (items.foldl Authenticator.addResult outcome).1 := by
  induction items generalizing outcome with
  | nil => exact plain
  | cons item rest later => exact later (addResult_plain plain item)

theorem summary_plain (results : Dict Address Bool) :
    Plain (Authenticator.runAuthenticationTest results).1 := by
  unfold Authenticator.runAuthenticationTest
  split
  · exact plain_of_all (by decide)
  · exact foldl_addResult_plain _ (plain_of_all rfl)

/-! The result stands for the verdicts. -/

theorem foldl_addResult_result (items : List (Address × Bool)) (outcome : List Char × List Char) :
    (items.foldl Authenticator.addResult outcome).2 =
      if ∀ item ∈ items, item.2 = true then outcome.2 else "fail".toList := by
  induction items generalizing outcome with
  | nil => rw [if_pos (fun item wrong => nomatch wrong)]; rfl
  | cons item rest later =>
      rw [List.foldl_cons, later]
      cases accepted : item.2 with
      | true =>
          have same : (∀ other ∈ item :: rest, other.2 = true) ↔ ∀ other ∈ rest, other.2 = true :=
            List.forall_mem_cons.trans (and_iff_right accepted)
          simp only [same, Authenticator.addResult, accepted, if_true]
      | false =>
          have mixed : ¬ ∀ other ∈ item :: rest, other.2 = true := by
            intro all
            cases accepted.symm.trans (all item List.mem_cons_self)
          rw [if_neg mixed]
          simp [Authenticator.addResult, accepted]

/-- The word that the line begins with. -/
inductive Stands (results : Dict Address Bool) : List Char → Prop where
  | skip (none : results.size = 0) : Stands results "skip".toList
  | pass (some : results.size ≠ 0)
      (all : ∀ srcMac verdict, results.get? srcMac = Option.some verdict → verdict = true) :
      Stands results "pass".toList
  | fail (srcMac : Address) (rejected : results.get? srcMac = Option.some false) :
      Stands results "fail".toList

theorem runAuthenticationTest_stands (results : Dict Address Bool) :
    Stands results (Authenticator.runAuthenticationTest results).2 := by
  unfold Authenticator.runAuthenticationTest
  by_cases none : results.size = 0
  · rw [if_pos none]
    exact .skip none
  · rw [if_neg none, foldl_addResult_result]
    split
    · rename_i all
      apply Stands.pass none
      intro srcMac verdict judged
      exact all (srcMac, verdict) (Dict.get?_eq_some_iff.mp judged)
    · rename_i some
      simp only [not_forall] at some
      obtain ⟨⟨srcMac, verdict⟩, listed, rejected⟩ := some
      have failed : verdict = false := Bool.eq_false_iff.mpr rejected
      subst failed
      exact .fail srcMac (Dict.get?_eq_some_iff.mpr listed)

theorem Stands.word {results : Dict Address Bool} {word : List Char} (stands : Stands results word) :
    Word word := by
  have tested : ∀ {text : List Char}, text ≠ [] →
      (text.all fun char => !isSpace char && notPercent char) = true → Word text := by
    intro text filled visible
    have each : ∀ char ∈ text, isSpace char = false ∧ notPercent char = true := by
      intro char member
      simpa using List.all_eq_true.mp visible char member
    exact ⟨filled, fun char member => (each char member).1, fun char member => (each char member).2⟩
  cases stands with
  | skip none => exact tested (by decide) (by decide)
  | pass some all => exact tested (by decide) (by decide)
  | fail srcMac rejected => exact tested (by decide) (by decide)

theorem Stands.iffs {results : Dict Address Bool} {word : List Char} (stands : Stands results word) :
    (word = "skip".toList ↔ results.size = 0) ∧
      (word = "pass".toList ↔ results.size ≠ 0 ∧
        ∀ srcMac verdict, results.get? srcMac = some verdict → verdict = true) ∧
      (word = "fail".toList ↔ ∃ srcMac, results.get? srcMac = some false) := by
  have empty : results.size = 0 → ∀ srcMac, results.get? srcMac ≠ some false := by
    intro none srcMac rejected
    rw [Dict.size_eq_zero_iff.mp none srcMac] at rejected
    cases rejected
  cases stands with
  | skip none =>
      simp [none, empty none]
  | pass filled all =>
      have accepted : ∀ srcMac, results.get? srcMac ≠ some false :=
        fun srcMac rejected => Bool.false_ne_true (all srcMac false rejected)
      refine ⟨by simp [filled], by simpa [filled] using all, by simp [accepted]⟩
  | fail srcMac rejected =>
      have filled : results.size ≠ 0 := fun none => empty none srcMac rejected
      refine ⟨by simp [filled], ?_, fun _ => ⟨srcMac, rejected⟩, fun _ => rfl⟩
      have mixed : ¬ ∀ srcMac verdict, results.get? srcMac = some verdict → verdict = true :=
        fun all => Bool.false_ne_true (all srcMac false rejected)
      simp only [mixed, and_false, iff_false]
      decide

/-! What the report generator reads. -/

theorem beforeNote_unmarked {text : List Char} (unmarked : ∀ char ∈ text, notPercent char = true) :
    beforeNote text = text := by
  have kept := @beforeNote_append text [] unmarked (.inl rfl)
  rwa [List.append_nil] at kept

theorem dropWhile_starts {text : List Char} (starts : text.head? = some 'A') (rest : List Char) :
    (text ++ rest).dropWhile isSpace = text ++ rest := by
  cases text with
  | nil => cases starts
  | cons first behind =>
      cases starts
      rfl

theorem foldl_addResult_starts (items : List (Address × Bool)) {outcome : List Char × List Char}
    (starts : outcome.1.head? = some 'A') :
    (items.foldl Authenticator.addResult outcome).1.head? = some 'A' := by
  induction items generalizing outcome with
  | nil => exact starts
  | cons item rest later =>
      apply later
      rw [Authenticator.addResult, List.head?_append, starts]
      rfl

theorem summary_starts (results : Dict Address Bool) :
    (Authenticator.runAuthenticationTest results).1.head? = some 'A' := by
  unfold Authenticator.runAuthenticationTest Dict.size
  split
  · rfl
  · rename_i filled
    cases listed : results.entries with
    | nil => exact absurd (congrArg List.length listed) filled
    | cons item rest => exact foldl_addResult_starts rest rfl

theorem testName_word : Word TEST_NAME.toList :=
  ⟨by decide, List.all_iff_forall_prop.mp (by decide), List.all_eq_true.mp (by decide)⟩

theorem spaced (start result testName description : List Char) :
    start ++ result ++ [' '] ++ testName ++ [' '] ++ description ++ ['\n'] =
      start ++ (result ++ ' ' :: (testName ++ ' ' :: (description ++ ['\n']))) := by
  simp

theorem resultLine_written (results : Dict Address Bool) :
    resultLine (String.ofList (resultAndSummary results ++ ['\n'])) =
      some
        { result := String.ofList (Authenticator.runAuthenticationTest results).2
          testName := TEST_NAME
          extra := String.ofList ((Authenticator.runAuthenticationTest results).1 ++ ['\n']) } := by
  have plain := summary_plain results
  have word := (runAuthenticationTest_stands results).word
  have starts := summary_starts results
  unfold resultAndSummary
  generalize Authenticator.runAuthenticationTest results = outcome at *
  obtain ⟨summary, testResult⟩ := outcome
  dsimp only at plain word starts ⊢
  have line : "RESULT ".toList ++ testResult ++ " ".toList ++ TEST_NAME.toList ++ " ".toList ++
      summary ++ ['\n'] = writtenLine testResult TEST_NAME.toList summary := by
    have space : " ".toList = [' '] := by decide
    rw [space]
    exact spaced _ testResult TEST_NAME.toList summary
  have unmarked : ∀ char ∈ summary ++ ['\n'], notPercent char = true := by
    intro char member
    rcases List.mem_append.mp member with inside | last
    · exact (plain char inside).2
    · cases List.mem_singleton.mp last
      decide
  have undivided : summary.dropWhile notPercent = [] :=
    List.dropWhile_eq_nil_iff.mpr fun char member => (plain char member).2
  rw [line, resultLine_writtenLine word testName_word (fun char member => (plain char member).1)
    (.inl undivided), beforeNote_unmarked unmarked, dropWhile_starts starts, String.ofList_toList]

/-- The results after a run. -/
def resultsOf (setup : Setup) (begun : Nat) (events : List Event) : Dict Address Bool :=
  (Authenticator.runEvents setup events (.initial setup begun)).results

/-- What the report generator records of the test after any run: it has passed if and only if
there are verdicts and all of them are favourable, and then the server has accepted each
supplicant that has one; it has failed if and only if there is an unfavourable verdict, and it
was skipped if and only if there is none. -/
theorem verdicts_reported {setup : Setup} {begun : Nat} {events : List Event}
    {config : ReportConfig} {repitems : Dict String RepItem} {moduleName : String} {item : RepItem}
    (found : repitems.get? moduleName = some item)
    (report : item.report = some (dot1xReport (resultsOf setup begun events)))
    (distinct : (names (reported repitems)).Nodup) :
    ∃ after recorded, (new config repitems).processResults = .ok after ∧
      after.results.get? TEST_NAME = some recorded ∧
      (recorded.result = "skip" ↔ (resultsOf setup begun events).size = 0) ∧
      (recorded.result = "pass" ↔ (resultsOf setup begun events).size ≠ 0 ∧
        ∀ srcMac verdict, (resultsOf setup begun events).get? srcMac = some verdict →
          verdict = true) ∧
      (recorded.result = "fail" ↔
        ∃ srcMac, (resultsOf setup begun events).get? srcMac = some false) ∧
      (recorded.result = "pass" → ∀ srcMac ∈ (resultsOf setup begun events).keys,
        Granted ((Authenticator.initial setup begun).transcript setup events) srcMac) := by
  have founded := run_founded (@initial_founded setup begun) events
  rw [List.nil_append] at founded
  obtain ⟨after, done⟩ := (@processResults_ok_iff config repitems).mpr distinct
  have divided : item.report = some
      ([REPORT_DIVIDER.toList, TEST_NAME.toList, REPORT_DIVIDER.toList,
        "Dot1x authentication tests".toList, REPORT_DIVIDER.toList, "n/a".toList,
        REPORT_DIVIDER.toList].map (fun line => String.ofList (line ++ ['\n'])) ++
        String.ofList (resultAndSummary (resultsOf setup begun events) ++ ['\n']) ::
          [String.ofList ([] ++ ['\n'])]) := report
  obtain ⟨recorded, _⟩ :=
    processResults_of_line _ found divided (resultLine_written _) done
  have stands := runAuthenticationTest_stands (resultsOf setup begun events)
  obtain ⟨skipped, passed, failed⟩ := stands.iffs
  have word : ∀ {text : List Char} {word : String}, String.ofList text = word ↔
      text = word.toList := by
    intro text word
    constructor
    · rintro rfl
      exact String.toList_ofList.symm
    · rintro rfl
      exact String.ofList_toList
  refine ⟨after, _, done, recorded, word.trans skipped, word.trans passed, word.trans failed, ?_⟩
  intro pass srcMac listed
  obtain ⟨verdict, judged⟩ := Dict.mem_keys_iff.mp listed
  cases (passed.mp (word.mp pass)).2 srcMac verdict judged
  exact founded.granted srcMac judged

namespace Sample

def acceptanceReport : Dict String RepItem where
  entries := [("dot1x", { report := some (dot1xReport (resultsOf setup 0 acceptance)) })]
  nodup := List.nodup_singleton _

theorem acceptance_reported :
    ∃ after recorded, (new {} acceptanceReport).processResults = .ok after ∧
      after.results.get? TEST_NAME = some recorded ∧ recorded.result = "pass" ∧
      Granted (begun.transcript setup acceptance) supplicant := by
  have distinct : (names (reported acceptanceReport)).Nodup := by
    decide +kernel
  have results : (resultsOf setup 0 acceptance).entries = [(supplicant, true)] := by
    decide +kernel
  obtain ⟨after, recorded, done, found, _, passed, _, granted⟩ :=
    @verdicts_reported setup 0 acceptance {} acceptanceReport "dot1x" _ rfl rfl distinct
  have pass : recorded.result = "pass" := by
    apply passed.mpr
    refine ⟨by rw [Dict.size, results]; decide, fun srcMac verdict judged => ?_⟩
    have listed := Dict.get?_eq_some_iff.mp judged
    rw [results, List.mem_singleton] at listed
    exact congrArg Prod.snd listed
  refine ⟨after, recorded, done, found, pass, granted pass supplicant ?_⟩
  rw [Dict.keys, results]
  exact List.mem_singleton_self _

end Sample

end Daq.Dot1x
