import Daq.Report.Processing
import Mathlib.Data.Bool.AllAny
import Mathlib.Data.List.TakeWhile

namespace Daq

open Fallible Pattern

/-! Which result lines are read back as the results they were written for. -/

namespace Report

/-- A text that can stand for a result or a test. -/
structure Word (chars : List Char) : Prop where
  filled : chars ≠ []
  unspaced : ∀ char ∈ chars, isSpace char = false
  unmarked : ∀ char ∈ chars, notPercent char = true

/-- `RESULT result test description` and the end of the line. -/
def writtenLine (result testName description : List Char) : List Char :=
  "RESULT ".toList ++ (result ++ ' ' :: (testName ++ ' ' :: (description ++ ['\n'])))

/-- The text before `%%`. -/
def beforeNote : List Char → List Char
  | '%' :: '%' :: _ => []
  | [] => []
  | char :: rest => char :: beforeNote rest

/-- The first percent sign, if there is one, stands before another. -/
def Doubled (description : List Char) : Prop :=
  description.dropWhile notPercent = [] ∨
    ∃ note, description.dropWhile notPercent = '%' :: '%' :: note

variable {result testName description : List Char}

theorem isSpace_newline : isSpace '\n' = true := by decide

theorem not_isSpace_percent : isSpace '%' = false := by decide

theorem notNewline_of_not_isSpace {char : Char} (visible : isSpace char = false) :
    notNewline char = true := by
  rw [notNewline, decide_eq_true_iff]
  rintro rfl
  rw [isSpace_newline] at visible
  cases visible

theorem notPercent_of_isSpace {char : Char} (space : isSpace char = true) :
    notPercent char = true := by
  rw [notPercent, decide_eq_true_iff]
  rintro rfl
  rw [not_isSpace_percent] at space
  cases space

theorem Word.head (word : Word testName) (rest : List Char) :
    ∀ char ∈ (testName ++ rest).head?, isSpace char = false := by
  cases testName with
  | nil => exact absurd rfl word.filled
  | cons first behind =>
      rintro char ⟨⟩
      exact word.unspaced first List.mem_cons_self

theorem Word.notNewline (word : Word testName) : ∀ char ∈ testName, notNewline char = true :=
  fun char member => notNewline_of_not_isSpace (word.unspaced char member)

theorem head?_dropWhile {test : Char → Bool} (text : List Char) :
    ∀ char ∈ (text.dropWhile test).head?, test char = false := by
  intro char member
  obtain ⟨first, found, same⟩ : ∃ first, (text.dropWhile test).head? = some first ∧ first = char :=
    ⟨char, member, rfl⟩
  have fails := List.head?_dropWhile_not test text
  rw [found] at fails
  simpa [← same] using fails

/-- What follows the description without its percent signs. -/
def Tail (note : List Char) : Prop :=
  note = [] ∨ ∃ rest, note = '%' :: '%' :: (rest ++ ['\n']) ∧ ∀ char ∈ rest, notNewline char = true

theorem Tail.isNote {note : List Char} (tail : Tail note) : IsNote note := by
  rcases tail with rfl | ⟨rest, rfl, unbroken⟩
  · exact .inl (by decide)
  · exact .inr ⟨rest, ['\n'], rfl, unbroken, by decide⟩

theorem Tail.head {note : List Char} (tail : Tail note) : ∀ char ∈ note.head?, char = '%' := by
  rcases tail with rfl | ⟨rest, rfl, _⟩
  · rintro char ⟨⟩
  · rintro char ⟨⟩
    rfl

theorem Doubled.parts (doubled : Doubled description)
    (unbroken : ∀ char ∈ description, notNewline char = true) :
    ∃ before note, description ++ ['\n'] = before ++ note ∧
      (∀ char ∈ before, notPercent char = true) ∧ Tail note := by
  have whole : description.takeWhile notPercent ++ description.dropWhile notPercent = description :=
    List.takeWhile_append_dropWhile
  have front : ∀ char ∈ description.takeWhile notPercent, notPercent char = true :=
    fun _ => List.mem_takeWhile_imp
  rcases doubled with plain | ⟨rest, marked⟩
  · rw [plain, List.append_nil] at whole
    refine ⟨description ++ ['\n'], [], (List.append_nil _).symm, ?_, .inl rfl⟩
    rw [← whole]
    intro char member
    rcases List.mem_append.mp member with member | member
    · exact front char member
    · rw [List.mem_singleton.mp member]
      decide
  · rw [marked] at whole
    refine ⟨description.takeWhile notPercent, '%' :: '%' :: (rest ++ ['\n']), ?_, front,
      .inr ⟨rest, rfl, ?_⟩⟩
    · rw [← List.cons_append, ← List.cons_append, ← List.append_assoc, whole]
    · intro char member
      apply unbroken
      rw [← whole]
      exact List.mem_append_right _ (List.mem_cons_of_mem _ (List.mem_cons_of_mem _ member))

theorem beforeNote_append {before note : List Char}
    (front : ∀ char ∈ before, notPercent char = true) (tail : Tail note) :
    beforeNote (before ++ note) = before := by
  induction before with
  | nil =>
      rcases tail with rfl | ⟨rest, rfl, _⟩
      · rfl
      · rfl
  | cons first before later =>
      obtain ⟨unmarked, front⟩ := List.forall_mem_cons.mp front
      have differs : first ≠ '%' := by simpa [notPercent] using unmarked
      rw [List.cons_append, beforeNote, later front]
      intro rest same _
      exact differs same

theorem resultLine_start (text : List Char) :
    resultLine (String.ofList ("RESULT ".toList ++ text)) =
      lazily notNewline (fun result => several isSpace (lazily notNewline fun testName =>
        several isSpace (matchExtra result testName))) text := by
  have start : "RESULT ".toList = ['R', 'E', 'S', 'U', 'L', 'T', ' '] := by decide
  rw [resultLine, String.toList_ofList, start]
  rfl

theorem matchNote_of_tail {line : ResultLine} {note : List Char} (tail : Tail note) :
    greedily isSpace (fun _ => matchNote line) note = some line := by
  obtain ⟨found, matched⟩ :=
    Option.isSome_iff_exists.mp (@matchNote_isSome line note tail.isNote)
  cases (matchNote_eq_some matched).1
  apply @greedily_append _ _ _ _ [] _ _ (List.forall_mem_nil _)
  · intro char member
    rw [tail.head char member]
    exact not_isSpace_percent
  · exact matched

theorem matchExtra_description (result testName : List Char) {before note : List Char}
    (front : ∀ char ∈ before, notPercent char = true) (tail : Tail note) :
    several isSpace (matchExtra result testName) ([' '] ++ (before ++ note)) =
      some { result := String.ofList result
             testName := String.ofList testName
             extra := String.ofList (before.dropWhile isSpace) } := by
  have whole : before.takeWhile isSpace ++ before.dropWhile isSpace = before :=
    List.takeWhile_append_dropWhile
  have text : [' '] ++ (before ++ note) =
      (' ' :: before.takeWhile isSpace) ++ (before.dropWhile isSpace ++ note) := by
    calc
      [' '] ++ (before ++ note) =
          ' ' :: ((before.takeWhile isSpace ++ before.dropWhile isSpace) ++ note) := by rw [whole]; rfl
      _ = (' ' :: before.takeWhile isSpace) ++ (before.dropWhile isSpace ++ note) := by
          rw [List.append_assoc, List.cons_append]
  rw [text]
  apply several_append
  · exact List.forall_mem_cons.mpr ⟨by decide, fun _ => List.mem_takeWhile_imp⟩
  · exact List.cons_ne_nil _ _
  · cases visible : before.dropWhile isSpace with
    | nil =>
        intro char member
        rw [tail.head char member]
        exact not_isSpace_percent
    | cons first rest =>
        rintro char ⟨⟩
        exact head?_dropWhile before first (by rw [visible]; rfl)
  apply greedily_append
  · intro char member
    exact front char ((List.dropWhile_suffix _).subset member)
  · intro char member
    rw [tail.head char member]
    decide
  · exact matchNote_of_tail tail

theorem lazily_word {word rest : List Char} (isWord : Word word)
    {next : List Char → List Char → Option ResultLine} {found : ResultLine}
    (behind : several isSpace (next word) rest = some found) :
    lazily notNewline (fun taken => several isSpace (next taken)) (word ++ rest) = some found := by
  apply lazily_append isWord.notNewline _ behind
  intro early char others same
  apply several_eq_none
  apply isWord.unspaced
  rw [same]
  exact List.mem_append_right _ List.mem_cons_self

theorem resultLine_writtenLine (resultWord : Word result) (testWord : Word testName)
    (unbroken : ∀ char ∈ description, notNewline char = true) (doubled : Doubled description) :
    resultLine (String.ofList (writtenLine result testName description)) =
      some { result := String.ofList result
             testName := String.ofList testName
             extra := String.ofList ((beforeNote (description ++ ['\n'])).dropWhile isSpace) } := by
  obtain ⟨before, note, parts, front, tail⟩ := doubled.parts unbroken
  have line : writtenLine result testName description =
      "RESULT ".toList ++ (result ++ ([' '] ++ (testName ++ ([' '] ++ (before ++ note))))) :=
    congrArg (fun text => "RESULT ".toList ++ (result ++ ' ' :: (testName ++ ' ' :: text))) parts
  have described : beforeNote (description ++ ['\n']) = before :=
    (congrArg beforeNote parts).trans (beforeNote_append front tail)
  rw [line, described, resultLine_start]
  apply lazily_word resultWord
  apply several_append
  · exact List.all_eq_true.mp (by decide)
  · decide
  · exact testWord.head _
  · exact lazily_word testWord (matchExtra_description result testName front tail)

theorem doubled_of_front (front : List Char) {note : List Char}
    (plain : ∀ char ∈ front, notPercent char = true) (ends : IsNote note)
    (parts : description ++ ['\n'] = front ++ note) : Doubled description := by
  have dropped : (description ++ ['\n']).dropWhile notPercent = note.dropWhile notPercent := by
    rw [parts, List.dropWhile_append_of_pos plain]
  rw [List.dropWhile_append] at dropped
  split at dropped
  · rename_i empty
    exact .inl (List.isEmpty_iff.mp empty)
  · rename_i filled
    rcases ends with ended | ⟨rest, behind, rfl, _, _⟩
    · have nothing : note.dropWhile notPercent = [] := by
        unfold atEnd at ended
        rcases of_decide_eq_true ended with rfl | rfl
        · rfl
        · decide
      rw [nothing] at dropped
      exact absurd dropped (List.append_ne_nil_of_right_ne_nil _ (List.cons_ne_nil _ _))
    · have marked : ('%' :: '%' :: (rest ++ behind)).dropWhile notPercent =
          '%' :: '%' :: (rest ++ behind) := rfl
      rw [marked] at dropped
      right
      cases found : description.dropWhile notPercent with
      | nil =>
          rw [found] at filled
          exact absurd rfl filled
      | cons first others =>
          rw [found, List.cons_append, List.cons.injEq] at dropped
          obtain ⟨rfl, dropped⟩ := dropped
          cases others with
          | nil =>
              rw [List.nil_append, List.cons.injEq] at dropped
              exact absurd dropped.1 (by decide)
          | cons second others =>
              rw [List.cons_append, List.cons.injEq] at dropped
              obtain ⟨rfl, _⟩ := dropped
              exact ⟨others, rfl⟩

theorem behind_test {first tail rest : List Char}
    (testWord : Word testName) (spaces : ∀ char ∈ first, isSpace char = true) (filled : first ≠ [])
    (parts : first ++ (testName ++ tail) = ' ' :: (testName ++ rest)) : tail = rest := by
  cases first with
  | nil => exact absurd rfl filled
  | cons space first =>
      rw [List.cons_append, List.cons.injEq] at parts
      cases first with
      | nil => exact List.append_cancel_left parts.2
      | cons second first =>
          have space : isSpace second = true :=
            spaces second (List.mem_cons_of_mem _ List.mem_cons_self)
          have visible := testWord.head rest second (by rw [← parts.2]; rfl)
          rw [space] at visible
          cases visible

theorem doubled_of_resultLine (testWord : Word testName) {extra : String}
    (found : resultLine (String.ofList (writtenLine result testName description)) =
      some { result := String.ofList result, testName := String.ofList testName, extra }) :
    Doubled description := by
  have matched := resultLine_matches found
  rw [String.toList_ofList] at matched
  generalize whole : writtenLine result testName description = text at matched
  generalize named : ResultLine.mk (String.ofList result) (String.ofList testName) extra = line
    at matched
  cases matched with
  | @intro taken first name second caught third note _ firstSpaces firstFilled _ secondSpaces
      secondFilled caughtChars thirdSpaces ends =>
      rw [ResultLine.mk.injEq, String.ofList_inj, String.ofList_inj] at named
      obtain ⟨rfl, rfl, _⟩ := named
      unfold writtenLine at whole
      have behind := behind_test testWord firstSpaces firstFilled
        (List.append_cancel_left (List.append_cancel_left whole)).symm
      cases second with
      | nil => exact absurd rfl secondFilled
      | cons space second =>
          rw [List.cons_append, List.cons.injEq] at behind
          apply doubled_of_front (second ++ caught ++ third) _ ends
          · rw [← behind.2, List.append_assoc, List.append_assoc]
          · intro char member
            rcases List.mem_append.mp member with member | member
            · rcases List.mem_append.mp member with member | member
              · exact notPercent_of_isSpace (secondSpaces char (List.mem_cons_of_mem _ member))
              · exact caughtChars char member
            · exact notPercent_of_isSpace (thirdSpaces char member)

end Report

namespace ReportGenerator

open Report ReportConfig

/-- What a line was written for is what is recorded, wherever the line stands in the report of
a module, whatever the modules report otherwise, unless a test is reported twice: the test has
the result, the description is that of the line without its note, and the module has no other
test from the line. -/
def ReadBack (result testName description : List Char) : Prop :=
  ∀ (config : ReportConfig) (repitems : Dict String RepItem) (moduleName : String)
    (item : RepItem) (before behind : List String),
    repitems.get? moduleName = some item →
    item.report =
      some (before ++ String.ofList (writtenLine result testName description) :: behind) →
    (names (reported repitems)).Nodup →
    ∃ after, (new config repitems).processResults = .ok after ∧
      after.results.get? (String.ofList testName) = some
        { result := String.ofList result
          testName := String.ofList testName
          moduleName := some moduleName
          category := config.category (String.ofList testName)
          expected := (config.testInfo (String.ofList testName)).expected.getD DEFAULT_EXPECTED
          resultDescription :=
            String.ofList ((beforeNote (description ++ ['\n'])).dropWhile isSpace) } ∧
      after.modules.get? moduleName = some
        ((before.filterMap resultLine).map ResultLine.testName ++
          String.ofList testName :: (behind.filterMap resultLine).map ResultLine.testName)

variable {result testName description : List Char}

/-- The result of a line that is taken apart, and the tests of its module. -/
theorem processResults_of_line {config : ReportConfig} {repitems : Dict String RepItem}
    {moduleName written : String} {item : RepItem} (before : List String) {behind : List String}
    {line : ResultLine} {after : ReportGenerator}
    (found : repitems.get? moduleName = some item)
    (report : item.report = some (before ++ written :: behind))
    (read : resultLine written = some line)
    (done : (new config repitems).processResults = .ok after) :
    after.results.get? line.testName = some (config.resultDict (some moduleName, line)) ∧
      after.modules.get? moduleName = some
        ((before.filterMap resultLine).map ResultLine.testName ++
          line.testName :: (behind.filterMap resultLine).map ResultLine.testName) := by
  have lines : item.lines =
      before.filterMap resultLine ++ line :: behind.filterMap resultLine := by
    rw [RepItem.lines, report, Option.getD_some, List.filterMap_append,
      List.filterMap_cons_some read]
  constructor
  · have member : (some moduleName, line) ∈ allReported config repitems := by
      apply List.mem_append_left
      apply List.mem_flatMap.mpr
      refine ⟨(moduleName, item), Dict.get?_eq_some_iff.mp found, ?_⟩
      apply List.mem_map_of_mem
      rw [lines]
      exact List.mem_append_right _ List.mem_cons_self
    apply Dict.get?_eq_some_iff.mpr
    rw [(processResults_accumulated done).entries]
    exact List.mem_append_right _ (List.mem_map_of_mem member)
  · rw [processResults_modules done, Dict.get?_mapValues_eq, found, Option.map_some, lines,
      List.map_append, List.map_cons]

/-- One module with one line in its report. -/
def oneLine (line : String) : Dict String RepItem where
  entries := [("module", { report := some [line] })]
  nodup := List.nodup_singleton _

theorem reported_oneLine (line : String) :
    reported (oneLine line) = (resultLine line).toList.map fun line => (some "module", line) := by
  rw [reported, oneLine, List.flatMap_singleton, RepItem.lines, Option.getD_some,
    List.filterMap_cons]
  cases resultLine line with
  | none => rfl
  | some found => rfl

theorem reported_oneLine_nodup (line : String) : (names (reported (oneLine line))).Nodup := by
  rw [reported_oneLine]
  cases resultLine line with
  | none => exact List.nodup_nil
  | some found => exact List.nodup_singleton _

/-- A line that is read back was taken apart where it was put together. -/
theorem ReadBack.exists_resultLine (readBack : ReadBack result testName description) :
    ∃ extra, Report.resultLine (String.ofList (writtenLine result testName description)) =
      some { result := String.ofList result, testName := String.ofList testName, extra } := by
  have found : ∀ line, (oneLine line).get? "module" = some { report := some [line] } :=
    fun _ => rfl
  obtain ⟨after, done, recorded, tests⟩ := readBack {} _ "module" _ [] [] (found _) rfl
    (reported_oneLine_nodup _)
  rw [processResults_modules done, Dict.get?_mapValues_eq, found, Option.map_some,
    Option.some.injEq, RepItem.lines, Option.getD_some, List.filterMap_cons] at tests
  cases read : Report.resultLine (String.ofList (writtenLine result testName description)) with
  | none => simp [read] at tests
  | some line =>
      have named : line.testName = String.ofList testName := by simpa [read] using tests
      obtain ⟨again, _⟩ := processResults_of_line [] (found _) rfl read done
      rw [named, recorded, Option.some.injEq] at again
      have results : String.ofList result = line.result := congrArg ResultDict.result again
      exact ⟨line.extra, by rw [results, ← named]⟩

/-- A line is read back if and only if the first percent sign of its description, if there is
one, is doubled. -/
theorem readBack_iff (resultWord : Word result) (testWord : Word testName)
    (unbroken : ∀ char ∈ description, notNewline char = true) :
    ReadBack result testName description ↔ Doubled description := by
  constructor
  · intro readBack
    obtain ⟨extra, read⟩ := readBack.exists_resultLine
    exact doubled_of_resultLine testWord read
  · intro doubled config repitems moduleName item before behind found report distinct
    obtain ⟨after, done⟩ := processResults_ok_iff.mpr distinct
    have read := resultLine_writtenLine resultWord testWord unbroken doubled
    obtain ⟨recorded, tests⟩ := processResults_of_line _ found report read done
    exact ⟨after, done, recorded, tests⟩

namespace Sample

theorem word_pass : Word "pass".toList :=
  ⟨by decide, List.all_iff_forall_prop.mp (by decide), List.all_eq_true.mp (by decide)⟩

theorem word_ping : Word "ping".toList :=
  ⟨by decide, List.all_iff_forall_prop.mp (by decide), List.all_eq_true.mp (by decide)⟩

/-- A note is left out; a single percent sign moves the border of the test. -/
theorem noted_readBack : ReadBack "pass".toList "ping".toList "ok %% 50%".toList :=
  (readBack_iff word_pass word_ping (List.all_eq_true.mp (by decide))).mpr
    (.inr ⟨" 50%".toList, by decide⟩)

theorem percent_not_readBack : ¬ ReadBack "pass".toList "ping".toList "50% lost".toList := by
  intro readBack
  obtain ⟨extra, read⟩ := readBack.exists_resultLine
  rcases doubled_of_resultLine word_ping read with plain | ⟨note, marked⟩
  · exact absurd plain (by decide)
  · have dropped : "50% lost".toList.dropWhile notPercent = "% lost".toList := by decide
    rw [dropped] at marked
    cases marked

end Sample

end ReportGenerator

end Daq
