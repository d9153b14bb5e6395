import Daq.Data
import Daq.Combine.DateTime
import Daq.Lib.Dict
import Daq.Lib.Window

namespace Daq.Combine

open DateTime Numeral Window

/-! Which reports are combined: the newest ones inside a window of time, taken from the report
directory or from the cloud. -/

section Code

variable {ρ : Type}

/-- The time in the name of a report; `d` stands for a digit. -/
def markShape : List Char := "dddd-dd-ddTdddddd".toList

def isMark (mark : List Char) : Bool :=
  mark.length = markShape.length &&
    (markShape.zip mark).all fun (expected, char) =>
      if expected = 'd' then char.isDigit else char = expected

def reportFront (device : String) : List Char := "report_".toList ++ device.toList ++ ['_']

def jsonEnd : List Char := ".json".toList

/-- The group of `report_re`. The end of the expression also matches before a last newline. -/
def reportMark (device name : String) : Option String :=
  if (reportFront device).isPrefixOf name.toList then
    let rest := name.toList.drop (reportFront device).length
    let mark := rest.take markShape.length
    let tail := rest.drop markShape.length
    if isMark mark ∧ (tail = jsonEnd ∨ tail = jsonEnd ++ ['\n']) then some (.ofList mark)
    else none
  else none

/-- The bounds are compared as texts. -/
def skipped (start finish : Option DateTime) (timestamp : String) : Bool :=
  (start.any fun start => timestamp < isoToFname start) ||
    (finish.any fun finish => isoToFname finish < timestamp)

/-- `_get_local_reports`; a directory has what its files hold. -/
def getLocalReports (device : String) (reportsDir : Dict String ρ)
    (start finish : Option DateTime) (count : Nat) : List ρ :=
  let jsonFiles := reportsDir.keys.filter fun name => (reportMark device name).isSome
  let jsonFiles := jsonFiles.mergeSort fun first second => second ≤ first
  let jsonFiles :=
    if count ≠ 0 ∧ count < jsonFiles.length then jsonFiles.take count else jsonFiles
  jsonFiles.filterMap fun jsonFile =>
    match reportMark device jsonFile with
    | none => none
    | some timestamp =>
        if skipped start finish timestamp then none else reportsDir.get? jsonFile

/-- A run in the cloud, with its report if it has ended. -/
structure RunId (ρ : Type) where
  deviceId : String
  updated : String
  daqRunId : Option String := none
  jsonReport : Option ρ := none

def defaultLimit : Nat := 100

/-- `GcpManager.get_reports`: the filters of the query, its order and then its limit. -/
def getReports (runIds : List (RunId ρ)) (device : String) (start finish : Option DateTime)
    (count : Nat) (daqRunId : Option String) : List ρ :=
  let limitCount := if count ≠ 0 then count else defaultLimit
  let query := runIds.filter fun runId => runId.deviceId = device
  let query := query.filter fun runId => start.all fun start => toTimestamp start ≤ runId.updated
  let query := query.filter fun runId => finish.all fun finish => runId.updated ≤ toTimestamp finish
  let query :=
    if NonEmpty daqRunId then query.filter fun runId => runId.daqRunId = daqRunId else query
  let runIds := (query.mergeSort fun first second => second.updated ≤ first.updated).take limitCount
  runIds.filterMap RunId.jsonReport

end Code

/-! What is selected. -/

/-- A report and the second at which its run began. -/
structure Report (ρ : Type) where
  time : DateTime
  whole : time.microsecond = 0
  content : ρ

variable {ρ : Type}

def notBefore (start : Option DateTime) (report : Report ρ) : Bool :=
  start.all fun start => start ≤ report.time

def notAfter (finish : Option DateTime) (report : Report ρ) : Bool :=
  finish.all fun finish => report.time ≤ finish

def inWindow (start finish : Option DateTime) (report : Report ρ) : Bool :=
  notBefore start report && notAfter finish report

def newestFirst (reports : List (Report ρ)) : List (Report ρ) :=
  reports.mergeSort fun first second => second.time ≤ first.time

/-- The newest reports of those inside the window. -/
def selected (reports : List (Report ρ)) (start finish : Option DateTime) (count : Nat) :
    List (Report ρ) :=
  ((newestFirst reports).filter (inWindow start finish)).take count

/-- The name that a report is written under. -/
def reportName (device : String) (report : Report ρ) : String :=
  .ofList (reportFront device ++ ((isoToFname report.time).toList ++ jsonEnd))

/-- The reports of a device are the files of the directory whose names are its. -/
def InDirectory (reports : List (Report ρ)) (device : String)
    (reportsDir : Dict String (Report ρ)) : Prop :=
  (reportsDir.entries.filter fun file => (reportMark device file.1).isSome).Perm
    (reports.map fun report => (reportName device report, report))

/-- What a query without a run id finds in a run. -/
def RunId.document (runId : RunId ρ) : String × Option ρ := (runId.updated, runId.jsonReport)

def Report.document (report : Report ρ) : String × Option (Report ρ) :=
  (toTimestamp report.time, some report)

/-- The reports of a device are those of its runs, which are updated at their times. -/
def InCloud (reports : List (Report ρ)) (device : String) (runIds : List (RunId (Report ρ))) :
    Prop :=
  ((runIds.filter fun runId => runId.deviceId = device).map RunId.document).Perm
    (reports.map Report.document)

/-- The bounds of a query. -/
def queried (start finish : Option DateTime) (document : String × Option (Report ρ)) : Bool :=
  (start.all fun start => toTimestamp start ≤ document.1) &&
    finish.all fun finish => document.1 ≤ toTimestamp finish

/-! The order of the reports. -/

section Sorted

variable {reports : List (Report ρ)}

theorem newestFirst_perm (reports : List (Report ρ)) : (newestFirst reports).Perm reports :=
  List.mergeSort_perm _ _

theorem newestFirst_sorted (distinct : (reports.map Report.time).Nodup) :
    (newestFirst reports).Pairwise fun first second => second.time < first.time := by
  have sorted : (newestFirst reports).Pairwise fun first second =>
      decide (second.time ≤ first.time) = true := by
    apply List.pairwise_mergeSort
    · intro first second third older oldest
      rw [decide_eq_true_iff] at older oldest ⊢
      exact oldest.trans older
    · intro first second
      rw [Bool.or_eq_true, decide_eq_true_iff, decide_eq_true_iff]
      exact le_total _ _
  have apart : ((newestFirst reports).map Report.time).Nodup :=
    ((newestFirst_perm reports).map _).nodup_iff.mpr distinct
  rw [List.Nodup, List.pairwise_map] at apart
  refine (sorted.and apart).imp ?_
  rintro first second ⟨older, different⟩
  exact lt_of_le_of_ne (of_decide_eq_true older) (Ne.symm different)

theorem trans_keys {α : Type} (key : α → String) (first second third : α)
    (above : decide (key second ≤ key first) = true)
    (below : decide (key third ≤ key second) = true) : decide (key third ≤ key first) = true := by
  rw [decide_eq_true_iff] at above below ⊢
  exact String.le_trans below above

theorem total_keys {α : Type} (key : α → String) (first second : α) :
    (decide (key second ≤ key first) || decide (key first ≤ key second)) = true := by
  rw [Bool.or_eq_true, decide_eq_true_iff, decide_eq_true_iff]
  exact String.le_total _ _

theorem sorted_eq_map {α : Type} (key : α → String) (part : Report ρ → α)
    (distinct : (reports.map Report.time).Nodup)
    (ordered : ∀ first ∈ reports, ∀ second ∈ reports,
      key (part first) < key (part second) ↔ first.time < second.time)
    {elements : List α} (perm : elements.Perm (reports.map part)) :
    elements.mergeSort (fun first second => key second ≤ key first) =
      (newestFirst reports).map part := by
  have sorted : (elements.mergeSort fun first second => key second ≤ key first).Pairwise
      fun first second => key second ≤ key first := by
    have pairs := List.pairwise_mergeSort (trans_keys key) (total_keys key) elements
    exact pairs.imp of_decide_eq_true
  have inside : ∀ {report}, report ∈ newestFirst reports → report ∈ reports :=
    fun member => (newestFirst_perm reports).mem_iff.mp member
  have newest : ((newestFirst reports).map part).Pairwise
      fun first second => key second ≤ key first := by
    rw [List.pairwise_map]
    refine (newestFirst_sorted distinct).imp_of_mem ?_
    intro first second firstMember secondMember older
    rw [← String.not_lt, ordered first (inside firstMember) second (inside secondMember)]
    exact older.asymm
  refine List.Perm.eq_of_pairwise ?_ sorted newest ?_
  · intro first second firstMember secondMember below above
    obtain ⟨report, reported, rfl⟩ := List.mem_map.mp
      (perm.mem_iff.mp (List.mem_mergeSort.mp firstMember))
    obtain ⟨other, others, rfl⟩ := List.mem_map.mp secondMember
    have same : report.time = other.time := by
      rw [← String.not_lt, ordered _ (inside others) _ reported] at above
      rw [← String.not_lt, ordered _ reported _ (inside others)] at below
      exact le_antisymm (not_lt.mp above) (not_lt.mp below)
    rw [List.inj_on_of_nodup_map distinct reported (inside others) same]
  · exact (List.mergeSort_perm _ _).trans (perm.trans ((newestFirst_perm reports).map part).symm)

end Sorted

section Names

variable (device : String) (report other : Report ρ)

theorem isMark_format (time : DateTime) : isMark (format (isoShape []) time.clock) = true := by
  have shape : markShape = ['d', 'd', 'd', 'd', '-', 'd', 'd', '-', 'd', 'd', 'T', 'd', 'd', 'd',
      'd', 'd', 'd'] := by
    decide
  simp [isMark, shape, isoShape, clock, format, fixed, Nat.mod_lt]

theorem mark_whole : (isoToFname report.time).toList = format (isoShape []) report.time.clock := by
  rw [isoToFname_eq, String.toList_ofList, if_pos report.whole, List.append_nil]

theorem length_mark : (isoToFname report.time).toList.length = markShape.length := by
  have mark := isMark_format report.time
  rw [isMark, Bool.and_eq_true, decide_eq_true_iff] at mark
  rw [mark_whole, mark.1]

theorem reportMark_reportName :
    reportMark device (reportName device report) = some (isoToFname report.time) := by
  rw [reportMark, reportName, String.toList_ofList, if_pos (by simp), List.drop_left]
  dsimp only
  rw [← length_mark report, List.take_left, List.drop_left, mark_whole report,
    if_pos ⟨isMark_format _, .inl rfl⟩, ← mark_whole, String.ofList_toList]

theorem reportName_lt_iff :
    reportName device report < reportName device other ↔ report.time < other.time := by
  rw [reportName, reportName, String.lt_iff, String.toList_ofList, String.toList_ofList,
    append_lt_append_iff rfl, append_lt_append_iff (by rw [length_mark, length_mark]),
    ← String.lt_iff, isoToFname_lt_iff]
  simp

end Names

theorem newestFirst_filter {reports : List (Report ρ)}
    (distinct : (reports.map Report.time).Nodup) (test : Report ρ → Bool) :
    newestFirst (reports.filter test) = (newestFirst reports).filter test := by
  have sublist : ((reports.filter test).map Report.time).Nodup :=
    distinct.sublist (List.filter_sublist.map _)
  refine List.Perm.eq_of_pairwise ?_ (newestFirst_sorted sublist)
    ((newestFirst_sorted distinct).filter test) ?_
  · intro first second _ _ older newer
    exact absurd newer older.asymm
  · exact (newestFirst_perm _).trans ((newestFirst_perm reports).filter test).symm

section Local

variable {reports : List (Report ρ)} {device : String} {reportsDir : Dict String (Report ρ)}
variable {start finish : Option DateTime} {count : Nat}

theorem skipped_eq (report : Report ρ) :
    skipped start finish (isoToFname report.time) = !inWindow start finish report := by
  rw [inWindow, notBefore, notAfter, skipped, Bool.not_and]
  cases start <;> cases finish <;> simp [-String.lt_iff_ltb, isoToFname_lt_iff, ← not_lt]

theorem InDirectory.get? (stored : InDirectory reports device reportsDir) {report : Report ρ}
    (member : report ∈ reports) :
    reportsDir.get? (reportName device report) = some report := by
  rw [Dict.get?_eq_some_iff]
  have listed := stored.mem_iff.mpr (List.mem_map_of_mem member)
  exact (List.mem_filter.mp listed).1

theorem InDirectory.names (stored : InDirectory reports device reportsDir) :
    (reportsDir.keys.filter fun name => (reportMark device name).isSome).Perm
      (reports.map (reportName device)) := by
  have names := stored.map Prod.fst
  rw [List.map_map] at names
  rw [Dict.keys, List.filter_map]
  exact names

theorem limited_eq {α : Type} (elements : List α) (positive : 0 < count) :
    (if count ≠ 0 ∧ count < elements.length then elements.take count else elements) =
      elements.take count := by
  split
  · rfl
  · rw [List.take_of_length_le (by omega)]

/-- The limit is applied before the window. -/
theorem getLocalReports_eq (distinct : (reports.map Report.time).Nodup)
    (stored : InDirectory reports device reportsDir) (positive : 0 < count) :
    getLocalReports device reportsDir start finish count =
      ((newestFirst reports).take count).filter (inWindow start finish) := by
  have sorted := sorted_eq_map (fun name => name) (reportName device) distinct
    (fun first _ second _ => reportName_lt_iff device first second) stored.names
  rw [getLocalReports, sorted, limited_eq _ positive, ← List.map_take, List.filterMap_map,
    ← List.filterMap_eq_filter]
  apply List.filterMap_congr
  intro report member
  have inside := (newestFirst_perm reports).mem_iff.mp (List.mem_of_mem_take member)
  rw [Function.comp_apply, reportMark_reportName]
  dsimp only
  rw [skipped_eq, stored.get? inside]
  cases passes : inWindow start finish report <;> simp [Option.guard, passes]

end Local

section Cloud

variable {reports : List (Report ρ)} {device : String} {runIds : List (RunId (Report ρ))}
variable {start finish : Option DateTime} {count : Nat}

theorem truncated_le (time : DateTime) : time.truncated ≤ time := by
  rw [← not_lt, DateTime.lt_iff, not_or, not_and, Nat.not_lt]
  exact ⟨lt_irrefl time.clock, fun _ => Nat.div_mul_le_self _ _⟩

theorem truncated_of_whole (report : Report ρ) : report.time.truncated = report.time := by
  apply fields_injective
  have whole := report.whole
  simp [fields, clock, truncated, whole]

theorem le_truncated_iff (report : Report ρ) (time : DateTime) :
    report.time ≤ time.truncated ↔ report.time ≤ time := by
  rw [← not_lt, ← not_lt, DateTime.lt_iff, DateTime.lt_iff, report.whole]
  simp only [Nat.not_lt_zero, and_false]
  rfl

theorem queried_document (report : Report ρ) :
    queried start finish report.document = inWindow (start.map truncated) finish report := by
  rw [queried, Report.document, inWindow, notBefore, notAfter]
  cases start <;> cases finish <;>
    simp [-String.lt_iff_ltb, ← not_lt (α := String), toTimestamp_lt_iff, truncated_of_whole,
      le_truncated_iff]

theorem documents_eq (start finish : Option DateTime) (distinct : (reports.map Report.time).Nodup)
    (stored : InCloud reports device runIds) :
    (((runIds.filter fun runId => runId.deviceId = device).filter
          fun runId => queried start finish runId.document).mergeSort
        fun first second => second.updated ≤ first.updated).map RunId.document =
      ((newestFirst reports).filter (inWindow (start.map truncated) finish)).map
        Report.document := by
  have found := stored.filter (queried start finish)
  rw [List.filter_map, List.filter_map] at found
  have window : queried start finish ∘ Report.document =
      (inWindow (start.map truncated) finish : Report ρ → Bool) := funext queried_document
  rw [window] at found
  have sort : ∀ query : List (RunId (Report ρ)),
      (query.mergeSort fun first second => second.updated ≤ first.updated).map RunId.document =
        (query.map RunId.document).mergeSort fun first second => second.1 ≤ first.1 :=
    fun query => List.map_mergeSort fun _ _ _ _ => rfl
  rw [sort, ← newestFirst_filter distinct]
  apply sorted_eq_map Prod.fst Report.document
  · exact distinct.sublist (List.filter_sublist.map _)
  · intro first _ second _
    rw [Report.document, Report.document, toTimestamp_lt_iff, truncated_of_whole,
      truncated_of_whole]
  · exact found

/-- The window is applied before the limit, from its beginning cut to milliseconds. -/
theorem getReports_eq (distinct : (reports.map Report.time).Nodup)
    (stored : InCloud reports device runIds) (positive : 0 < count) :
    getReports runIds device start finish count none =
      ((newestFirst reports).filter (inWindow (start.map truncated) finish)).take count := by
  have query : ((runIds.filter fun runId => runId.deviceId = device).filter fun runId =>
        start.all fun start => toTimestamp start ≤ runId.updated).filter
        (fun runId => finish.all fun finish => runId.updated ≤ toTimestamp finish) =
      (runIds.filter fun runId => runId.deviceId = device).filter
        fun runId => queried start finish runId.document := by
    rw [List.filter_filter]
    apply List.filter_congr
    intro runId _
    exact Bool.and_comm _ _
  have documents := documents_eq start finish distinct stored
  have found := congrArg (fun found => (found.take count).filterMap Prod.snd) documents
  have each : Prod.snd ∘ Report.document = (some : Report ρ → Option (Report ρ)) := rfl
  rw [← List.map_take, ← List.map_take, List.filterMap_map, List.filterMap_map, each,
    List.filterMap_some] at found
  rw [getReports, query, if_pos positive.ne', if_neg (by decide)]
  exact found

end Cloud

section Agreement

variable {reports : List (Report ρ)}

theorem notBefore_falling (start : Option DateTime) :
    Falling (fun first second : Report ρ => second.time < first.time) (notBefore start) := by
  intro first second older passes
  cases start with
  | none => rfl
  | some start =>
      rw [notBefore, Option.all_some, decide_eq_true_iff] at passes ⊢
      exact passes.trans older.le

theorem notAfter_rising (finish : Option DateTime) :
    Falling (fun first second : Report ρ => second.time < first.time)
      fun report => !notAfter finish report := by
  intro first second older fails
  cases finish with
  | none => cases fails
  | some finish =>
      have after : ¬ first.time ≤ finish := by
        intro within
        have passes : notAfter (some finish) second = true := by
          rw [notAfter, Option.all_some, decide_eq_true_iff]
          exact older.le.trans within
        dsimp only at fails
        rw [passes] at fails
        cases fails
      simp [notAfter, after]

theorem notBefore_truncated {start : Option DateTime} {report : Report ρ}
    (passes : notBefore start report = true) :
    notBefore (start.map truncated) report = true := by
  cases start with
  | none => rfl
  | some start =>
      rw [notBefore, Option.all_some, decide_eq_true_iff] at passes
      rw [notBefore, Option.map_some, Option.all_some, decide_eq_true_iff]
      exact (truncated_le start).trans passes

/-- The two selections agree, and are the newest reports inside the window, if and only if the
limit and the cut to milliseconds make no difference. For the limit, that is where no report is
after the window, where none is inside, or where all that are not before it are within the limit.
For the cut, it is where no report is before the window only by less than a millisecond, or where
the window reaches the limit. -/
theorem getLocalReports_agrees_iff {device deviceId : String}
    {reportsDir : Dict String (Report ρ)} {runIds : List (RunId (Report ρ))} {count : Nat}
    (start finish : Option DateTime) (distinct : (reports.map Report.time).Nodup)
    (listed : InDirectory reports device reportsDir) (cloud : InCloud reports deviceId runIds)
    (positive : 0 < count) :
    (getLocalReports device reportsDir start finish count =
          getReports runIds deviceId start finish count none ∧
        getLocalReports device reportsDir start finish count =
          selected reports start finish count) ↔
      ((∀ report ∈ reports, notAfter finish report = true) ∨
          (∀ report ∈ reports, inWindow start finish report = false) ∨
          reports.countP (notBefore start) ≤ count) ∧
        ((∀ report ∈ reports, inWindow (start.map truncated) finish report = true →
            notBefore start report = true) ∨
          count ≤ reports.countP (inWindow start finish)) := by
  have perm := newestFirst_perm reports
  have sorted := newestFirst_sorted distinct
  rw [getLocalReports_eq distinct listed positive, getReports_eq distinct cloud positive]
  have limit := filter_take_eq_take_filter_iff sorted (notBefore_falling start)
    (notAfter_rising finish) positive
  have cut := take_filter_eq_take_filter_iff (notAfter finish) count sorted
    (notBefore_falling start) fun report => notBefore_truncated
  have both : ∀ here there chosen : List (Report ρ),
      (here = there ∧ here = chosen) ↔ here = chosen ∧ there = chosen := by
    intro here there chosen
    constructor
    · rintro ⟨rfl, rfl⟩
      exact ⟨rfl, rfl⟩
    · rintro ⟨rfl, rfl⟩
      exact ⟨rfl, rfl⟩
  rw [both, selected]
  refine and_congr ?_ ?_
  · rw [← perm.countP_eq]
    simp only [← perm.mem_iff]
    exact limit
  · rw [← perm.countP_eq]
    simp only [← perm.mem_iff]
    exact cut

end Agreement

/-! The files and the runs that there are for any reports of distinct times. -/

section Stored

variable {reports : List (Report ρ)}

theorem time_of_reportName {device : String} {first second : Report ρ}
    (same : reportName device first = reportName device second) : first.time = second.time := by
  have notOlder := mt (reportName_lt_iff device first second).mpr (by simp [same])
  have notNewer := mt (reportName_lt_iff device second first).mpr (by simp [same])
  exact le_antisymm (not_lt.mp notNewer) (not_lt.mp notOlder)

theorem reportNames_nodup (device : String) (distinct : (reports.map Report.time).Nodup) :
    ((reports.map fun report => (reportName device report, report)).map Prod.fst).Nodup := by
  rw [List.map_map]
  refine (List.nodup_map_iff_inj_on distinct.of_map).mpr ?_
  intro first firstMember second secondMember same
  exact List.inj_on_of_nodup_map distinct firstMember secondMember (time_of_reportName same)

def filesOf (device : String) (reports : List (Report ρ))
    (distinct : (reports.map Report.time).Nodup) : Dict String (Report ρ) where
  entries := reports.map fun report => (reportName device report, report)
  nodup := reportNames_nodup device distinct

def runsOf (device : String) (reports : List (Report ρ)) : List (RunId (Report ρ)) :=
  reports.map fun report =>
    { deviceId := device
      updated := toTimestamp report.time
      jsonReport := some report }

theorem inDirectory_filesOf (device : String) (distinct : (reports.map Report.time).Nodup) :
    InDirectory reports device (filesOf device reports distinct) := by
  rw [InDirectory, filesOf, List.filter_eq_self.mpr]
  intro file member
  obtain ⟨report, _, rfl⟩ := List.mem_map.mp member
  rw [reportMark_reportName]
  rfl

theorem inCloud_runsOf (device : String) (reports : List (Report ρ)) :
    InCloud reports device (runsOf device reports) := by
  rw [InCloud, List.filter_eq_self.mpr, runsOf, List.map_map]
  · rfl
  · intro run member
    obtain ⟨report, _, rfl⟩ := List.mem_map.mp member
    exact decide_eq_true rfl

end Stored

namespace Sample

theorem year2020 : 1 ≤ 2020 ∧ 2020 ≤ 9999 := by decide

theorem may : 1 ≤ 5 ∧ 5 ≤ 12 := by decide

theorem may29 : 1 ≤ 29 ∧ 29 ≤ daysInMonth 2020 5 := by decide

theorem minute23 : 23 < 60 := by decide

theorem second33 : 33 < 60 := by decide

theorem microsecond0 : 0 < 1000000 := by decide

def morning (hour : Fin 24) : DateTime :=
  ⟨2020, 5, 29, hour, 23, 33, 0, year2020, may, may29, hour.isLt, minute23, second33, microsecond0⟩

theorem morning_whole (hour : Fin 24) : (morning hour).microsecond = 0 := rfl

def reported (hour : Fin 24) : Report Unit := ⟨morning hour, morning_whole hour, ()⟩

theorem reported_distinct : ([reported 9, reported 0].map Report.time).Nodup := by decide

theorem morning_agrees :
    getLocalReports "device1" (filesOf "device1" [reported 9, reported 0] reported_distinct)
          (some (morning 5)) none 1 =
        getReports (runsOf "device1" [reported 9, reported 0]) "device1" (some (morning 5)) none 1
          none ∧
      getLocalReports "device1" (filesOf "device1" [reported 9, reported 0] reported_distinct)
          (some (morning 5)) none 1 =
        selected [reported 9, reported 0] (some (morning 5)) none 1 :=
  (getLocalReports_agrees_iff _ _ reported_distinct (inDirectory_filesOf _ _)
    (inCloud_runsOf _ _) (by decide)).mpr ⟨.inl fun _ _ => rfl, .inr (by decide)⟩

/-- The limit takes the only report inside the window. -/
theorem morning_disagrees :
    ¬ (getLocalReports "device1" (filesOf "device1" [reported 9, reported 0] reported_distinct)
            none (some (morning 5)) 1 =
          getReports (runsOf "device1" [reported 9, reported 0]) "device1" none
            (some (morning 5)) 1 none ∧
        getLocalReports "device1" (filesOf "device1" [reported 9, reported 0] reported_distinct)
            none (some (morning 5)) 1 =
          selected [reported 9, reported 0] none (some (morning 5)) 1) := by
  have newest : newestFirst [reported 9, reported 0] = [reported 9, reported 0] :=
    List.mergeSort_of_pairwise (by decide)
  rw [getLocalReports_eq reported_distinct (inDirectory_filesOf _ _) (by decide), selected, newest]
  rintro ⟨_, same⟩
  have empty := congrArg List.length same
  revert empty
  decide

end Sample

end Daq.Combine
