import Daq.Runner.TestList

namespace Daq.Runner

/-! What the commands leave in the sections. -/

/-- The last command for a test adds it. -/
def LastAdds (history : List Command) (test : Test) : Prop :=
  ∃ part, (history.filter fun command => command.test = test).getLast? = some (.add test part)

/-- The tests that are added to a section and not removed later, in the order of the adds. -/
def kept (part : Section) : List Command → List Test
  | [] => []
  | .remove _ :: history => kept part history
  | .add test marked :: history =>
      if marked = part ∧ .remove test ∉ history then test :: kept part history
      else kept part history

/-- What a test list is for: a test is listed if its last command adds it, and the list has the
first tests, the unmarked ones and the last ones, each in the order of the adds. -/
structure ListOf (history : List Command) (tests : List Test) : Prop where
  mem_iff : ∀ test, test ∈ tests ↔ LastAdds history test
  sections : tests = kept .first history ++ kept .body history ++ kept .last history

/-- How often a test is added to a section. -/
def adds (part : Section) (test : Test) (history : List Command) : Nat :=
  history.count (.add test part)

def removes (test : Test) (history : List Command) : Nat := history.count (.remove test)

/-- In every stretch of the commands that ends with the last remove of a test, the test is not
added to a section more often than it is removed. -/
def Cleared (history : List Command) : Prop :=
  ∀ part test start stretch rest, history = start ++ (stretch ++ .remove test :: rest) →
    .remove test ∉ rest → adds part test stretch ≤ removes test stretch + 1

section Sections

variable {history : List Command} {part : Section} {test : Test}

theorem kept_append_add (history : List Command) (part marked : Section) (test : Test) :
    kept part (history ++ [.add test marked]) =
      kept part history ++ if marked = part then [test] else [] := by
  induction history with
  | nil => by_cases same : marked = part <;> simp [kept, same]
  | cons command history later =>
      cases command with
      | remove other => exact later
      | add other mark =>
          have unremoved : Command.remove other ∉ history ++ [.add test marked] ↔
              .remove other ∉ history := by simp
          rw [List.cons_append, kept, kept, later]
          simp only [unremoved]
          split <;> rfl

theorem kept_append_remove (history : List Command) (part : Section) (test : Test) :
    kept part (history ++ [.remove test]) =
      (kept part history).filter fun other => other ≠ test := by
  induction history with
  | nil => rfl
  | cons command history later =>
      cases command with
      | remove other => exact later
      | add other mark =>
          rw [List.cons_append, kept, kept, later]
          by_cases same : other = test
          · subst same
            rw [if_neg (by simp)]
            split <;> simp
          · have unremoved : Command.remove other ∉ history ++ [.remove test] ↔
                .remove other ∉ history := by simp [same]
            simp only [unremoved]
            split <;> simp [same]

/-- The sections after the commands. -/
def left (history : List Command) : TestOrdering := history.foldl TestOrdering.obey {}

theorem get_left_add (history : List Command) (part marked : Section) (test : Test) :
    (left (history ++ [.add test marked])).get part =
      (left history).get part ++ if marked = part then [test] else [] := by
  rw [left, List.foldl_append]
  change ((left history).add test marked).get part = _
  cases marked <;> cases part <;> simp [TestOrdering.add, TestOrdering.get]

theorem get_left_remove (history : List Command) (part : Section) (test : Test) :
    (left (history ++ [.remove test])).get part = ((left history).get part).erase test := by
  rw [left, List.foldl_append]
  cases part <;> rfl

theorem filter_ne_sublist_erase (tests : List Test) (test : Test) :
    (tests.filter fun other => other ≠ test).Sublist (tests.erase test) := by
  induction tests with
  | nil => exact .refl _
  | cons other tests later =>
      by_cases same : other = test
      · subst same
        rw [List.filter_cons_of_neg (by simp), List.erase_cons_head]
        exact List.filter_sublist
      · rw [List.filter_cons_of_pos (by simp [same]), List.erase_cons_tail (by simp [same])]
        exact later.cons_cons _

/-- The code keeps what it should keep, in its order. -/
theorem kept_sublist (history : List Command) (part : Section) :
    (kept part history).Sublist ((left history).get part) := by
  induction history using List.reverseRecOn with
  | nil => cases part <;> exact .refl _
  | append_singleton history command later =>
      cases command with
      | add test marked =>
          rw [kept_append_add, get_left_add]
          exact later.append_right _
      | remove test =>
          rw [kept_append_remove, get_left_remove]
          exact (later.filter _).trans (filter_ne_sublist_erase _ _)

theorem count_left_add (history : List Command) (part marked : Section) (test other : Test) :
    ((left (history ++ [.add other marked])).get part).count test =
      ((left history).get part).count test + adds part test [.add other marked] := by
  rw [get_left_add, List.count_append, adds, List.count_singleton]
  by_cases same : marked = part <;> simp [same, List.count_singleton]

theorem count_left_remove (history : List Command) (part : Section) (test other : Test) :
    ((left (history ++ [.remove other])).get part).count test =
      ((left history).get part).count test - removes test [.remove other] := by
  rw [get_left_remove, List.count_erase, removes, List.count_singleton]
  simp

theorem adds_append (part : Section) (test : Test) (before after : List Command) :
    adds part test (before ++ after) = adds part test before + adds part test after :=
  List.count_append

theorem removes_append (test : Test) (before after : List Command) :
    removes test (before ++ after) = removes test before + removes test after :=
  List.count_append

theorem adds_remove (part : Section) (test other : Test) : adds part test [.remove other] = 0 := by
  simp [adds]

theorem removes_add (part : Section) (test other : Test) : removes test [.add other part] = 0 := by
  simp [removes]

/-- The ends of a longer history. -/
theorem forall_stretch_append {command : Command} {holds : List Command → Prop} :
    (∀ start stretch, history ++ [command] = start ++ stretch → holds stretch) ↔
      holds [] ∧ ∀ start stretch, history = start ++ stretch → holds (stretch ++ [command]) := by
  constructor
  · intro all
    refine ⟨all _ [] (List.append_nil _).symm, ?_⟩
    rintro start stretch rfl
    exact all start (stretch ++ [command]) (List.append_assoc _ _ _)
  · rintro ⟨none, longer⟩ start stretch parts
    induction stretch using List.reverseRecOn with
    | nil => exact none
    | append_singleton stretch last _ =>
        rw [← List.append_assoc] at parts
        obtain ⟨rest, same⟩ := List.append_inj' parts rfl
        rw [← List.singleton_inj.mp same]
        exact longer start stretch rest

/-- How often a test stands in a section. -/
theorem count_left_le_iff {limit : Nat} :
    ((left history).get part).count test ≤ limit ↔
      ∀ start stretch, history = start ++ stretch →
        adds part test stretch ≤ removes test stretch + limit := by
  induction history using List.reverseRecOn generalizing limit with
  | nil =>
      refine iff_of_true ?_ ?_
      · cases part <;> exact Nat.zero_le _
      · intro start stretch parts
        rw [(List.append_eq_nil_iff.mp parts.symm).2]
        exact Nat.zero_le _
  | append_singleton history command later =>
      rw [forall_stretch_append]
      simp only [adds_append, removes_append]
      cases command with
      | add other marked =>
          rw [count_left_add]
          simp only [removes_add, Nat.add_zero]
          constructor
          · intro few
            refine ⟨Nat.zero_le _, fun start stretch parts => ?_⟩
            have each := later.mp (Nat.le_sub_of_add_le few) start stretch parts
            omega
          · rintro ⟨_, all⟩
            have fits := all history [] (List.append_nil _).symm
            have none : adds part test [] = 0 ∧ removes test [] = 0 := ⟨rfl, rfl⟩
            have few := (@later (limit - adds part test [.add other marked])).mpr (by
              intro start stretch parts
              have each := all start stretch parts
              omega)
            omega
      | remove other =>
          rw [count_left_remove, Nat.sub_le_iff_le_add, later]
          simp only [adds_remove, Nat.add_zero, Nat.add_assoc, Nat.add_comm limit]
          exact (and_iff_right (Nat.zero_le _)).symm

/-- What comes after the last remove of a test. -/
theorem count_left_append {after : List Command} (unremoved : .remove test ∉ after) :
    ((left (history ++ after)).get part).count test =
      ((left history).get part).count test + adds part test after := by
  induction after using List.reverseRecOn with
  | nil => rw [List.append_nil]; rfl
  | append_singleton after command later =>
      obtain ⟨before, here⟩ := not_or.mp (mt List.mem_append.mpr unremoved)
      rw [← List.append_assoc, adds_append, ← Nat.add_assoc, ← later before]
      cases command with
      | add other marked => exact count_left_add _ _ _ _ _
      | remove other =>
          rw [count_left_remove, adds_remove, removes, List.count_eq_zero_of_not_mem here]
          rfl

theorem count_kept_append {after : List Command} (unremoved : .remove test ∉ after) :
    (kept part (history ++ after)).count test =
      (kept part history).count test + adds part test after := by
  induction after using List.reverseRecOn with
  | nil => rw [List.append_nil]; rfl
  | append_singleton after command later =>
      obtain ⟨before, here⟩ := not_or.mp (mt List.mem_append.mpr unremoved)
      rw [← List.append_assoc, adds_append, ← Nat.add_assoc, ← later before]
      cases command with
      | add other marked =>
          rw [kept_append_add, List.count_append, adds, List.count_singleton]
          by_cases same : marked = part <;> simp [same, List.count_singleton]
      | remove other =>
          have different : test ≠ other := by
            rintro rfl
            exact here (List.mem_singleton.mpr rfl)
          rw [kept_append_remove, adds_remove, Nat.add_zero, List.count_filter (by simp [different])]

theorem exists_mem_kept_iff : (∃ part, test ∈ kept part history) ↔ LastAdds history test := by
  induction history using List.reverseRecOn with
  | nil => simp [kept, LastAdds]
  | append_singleton history command later =>
      rw [LastAdds, List.filter_append]
      cases command with
      | add other marked =>
          simp only [kept_append_add, List.mem_append]
          by_cases same : other = test
          · subst same
            refine iff_of_true ⟨marked, .inr (by simp)⟩ ⟨marked, by simp [Command.test]⟩
          · rw [List.filter_cons_of_neg (by simp [Command.test, same]), List.filter_nil,
              List.append_nil]
            refine Iff.trans (exists_congr fun part => or_iff_left ?_) later
            split <;> simp [Ne.symm same]
      | remove other =>
          simp only [kept_append_remove, List.mem_filter]
          by_cases same : other = test
          · subst same
            exact iff_of_false (by simp) (by simp [Command.test])
          · rw [List.filter_cons_of_neg (by simp [Command.test, same]), List.filter_nil,
              List.append_nil]
            refine Iff.trans (exists_congr fun part => and_iff_left ?_) later
            simpa using Ne.symm same

theorem exists_last {command : Command} (member : command ∈ history) :
    ∃ before after, history = before ++ command :: after ∧ command ∉ after := by
  obtain ⟨after, before, parts, absent⟩ := List.eq_append_cons_of_mem (List.mem_reverse.mpr member)
  refine ⟨before.reverse, after.reverse, ?_, mt List.mem_reverse.mp absent⟩
  rw [← List.reverse_reverse history, parts]
  simp

theorem before_last_unique {command : Command} {before after start rest : List Command}
    (parts : before ++ command :: after = start ++ command :: rest) (last : command ∉ after)
    (alsoLast : command ∉ rest) : before = start := by
  rcases List.append_eq_append_iff.mp parts with ⟨more, longer, behind⟩ | ⟨more, longer, behind⟩
  · cases more with
    | nil => rw [longer, List.append_nil]
    | cons other more =>
        rw [List.cons_append, List.cons.injEq] at behind
        exact absurd (by rw [behind.2]; simp) last
  · cases more with
    | nil => rw [longer, List.append_nil]
    | cons other more =>
        rw [List.cons_append, List.cons.injEq] at behind
        exact absurd (by rw [behind.2]; simp) alsoLast

/-- A section has as many of a test as it should if the last remove of the test leaves none. -/
theorem count_left_eq_iff :
    ((left history).get part).count test = (kept part history).count test ↔
      ∀ start stretch rest, history = start ++ (stretch ++ .remove test :: rest) →
        .remove test ∉ rest → adds part test stretch ≤ removes test stretch + 1 := by
  by_cases removed : .remove test ∈ history
  · obtain ⟨before, after, rfl, last⟩ := exists_last removed
    have one : removes test [.remove test] = 1 := by simp [removes]
    have lefts : ((left (before ++ .remove test :: after)).get part).count test =
        ((left before).get part).count test - 1 + adds part test after := by
      rw [List.append_cons, count_left_append last, count_left_remove, one]
    have keeps : (kept part (before ++ .remove test :: after)).count test =
        0 + adds part test after := by
      rw [List.append_cons, count_kept_append last, kept_append_remove]
      congr 1
      rw [List.count_eq_zero]
      simp
    rw [lefts, keeps, Nat.add_right_cancel_iff, Nat.sub_eq_zero_iff_le, count_left_le_iff]
    constructor
    · intro few start stretch rest parts absent
      rw [← List.append_assoc] at parts
      exact few start stretch (before_last_unique parts last absent)
    · rintro few start stretch rfl
      exact few start stretch after (List.append_assoc _ _ _) last
  · have lefts := @count_left_append [] part test history removed
    have keeps := @count_kept_append [] part test history removed
    have none : ((left []).get part).count test = 0 := by cases part <;> rfl
    rw [List.nil_append, none] at lefts
    rw [List.nil_append] at keeps
    refine iff_of_true (lefts.trans keeps.symm) ?_
    rintro start stretch rest rfl
    exact absurd (by simp) removed

theorem sections_eq_iff :
    (left history).tests = kept .first history ++ kept .body history ++ kept .last history ↔
      ∀ part, (left history).get part = kept part history := by
  constructor
  · intro same
    have lengths := congrArg List.length same
    have first := (kept_sublist history .first).length_le
    have body := (kept_sublist history .body).length_le
    have last := (kept_sublist history .last).length_le
    simp only [TestOrdering.tests, List.length_append] at lengths
    simp only [TestOrdering.get] at first body last
    intro part
    refine ((kept_sublist history part).eq_of_length ?_).symm
    cases part <;> simp only [TestOrdering.get] <;> omega
  · intro each
    rw [← each, ← each, ← each]
    rfl

theorem listOf_left_iff : ListOf history (left history).tests ↔ Cleared history := by
  constructor
  · intro listed
    have each := sections_eq_iff.mp listed.sections
    intro part test
    exact count_left_eq_iff.mp (by rw [each])
  · intro cleared
    have each : ∀ part, (left history).get part = kept part history := by
      intro part
      have counts : ((left history).get part).Perm (kept part history) := by
        rw [List.perm_iff_count]
        exact fun test => count_left_eq_iff.mpr (cleared part test)
      exact ((kept_sublist history part).eq_of_length counts.length_eq.symm).symm
    have same := sections_eq_iff.mpr each
    refine ⟨fun test => ?_, same⟩
    rw [same, ← exists_mem_kept_iff, List.mem_append, List.mem_append]
    constructor
    · rintro ((first | body) | last)
      · exact ⟨.first, first⟩
      · exact ⟨.body, body⟩
      · exact ⟨.last, last⟩
    · rintro ⟨part, member⟩
      cases part with
      | first => exact .inl (.inl member)
      | body => exact .inl (.inr member)
      | last => exact .inr member

theorem listOf_nil_iff : ListOf history [] ↔ ∀ test, ¬ LastAdds history test := by
  constructor
  · intro listed test adds
    exact absurd ((listed.mem_iff test).mpr adds) List.not_mem_nil
  · intro none
    have empty : ∀ part, kept part history = [] := by
      intro part
      rw [List.eq_nil_iff_forall_not_mem]
      exact fun test member => none test (exists_mem_kept_iff.mp ⟨part, member⟩)
    refine ⟨fun test => iff_of_false List.not_mem_nil (none test), ?_⟩
    rw [empty, empty, empty]
    rfl

theorem cleared_of_nodup {history : List Command} (nodup : history.Nodup) : Cleared history := by
  intro part test start stretch rest split _
  have inside : stretch.Sublist history := by
    rw [split]
    exact (List.sublist_append_left _ _).trans (List.sublist_append_right _ _)
  have once : adds part test stretch ≤ 1 :=
    (List.nodup_iff_count_le_one.mp (nodup.sublist inside)) (.add test part)
  omega

end Sections

/-- The list of an acyclic tree of files is what it is for if and only if the last remove of every
test leaves none of it behind; without tests, if no test is listed. -/
theorem getTestList_listOf_iff {files : TestFiles} {testFile : String}
    (tree : TestTree files testFile) (noTest : Bool) :
    ∃ history, Reads files testFile history ∧
      (∀ other, Reads files testFile other → other = history) ∧
      ∃ enough tests, (∀ depth, enough ≤ depth →
          getTestList files noTest depth testFile = .ok tests) ∧
        (ListOf history tests ↔
          if noTest then ∀ test, ¬ LastAdds history test else Cleared history) := by
  obtain ⟨history, reads⟩ := tree.exists_reads
  refine ⟨history, reads, fun other again => again.unique reads, ?_⟩
  cases noTest with
  | true => exact ⟨0, [], fun _ _ => rfl, listOf_nil_iff⟩
  | false =>
      obtain ⟨enough, listed⟩ := reads.getTestList
      exact ⟨enough, _, listed, listOf_left_iff⟩

namespace TestSample

/-- A file of a site, and one of the source that it includes and changes. -/
def siteFiles : TestFiles where
  lines testFile :=
    if testFile = "site.conf" then
      some ["include ${DAQ_LIB}/config.list", "remove nmap", "add ping first", "build ping"]
    else if testFile = "/daq/config.list" then some ["add ping # twice", "remove ping", "add nmap", "add dhcp last"]
    else none
  getenv name := if name = "DAQ_LIB" then some "/daq" else none

def innerHistory : List Command :=
  [.add (some "ping") .body, .remove (some "ping"), .add (some "nmap") .body,
    .add (some "dhcp") .last]

def siteHistory : List Command :=
  innerHistory ++ [.remove (some "nmap"), .add (some "ping") .first]

theorem config_read : LinesRead siteFiles
    ["add ping # twice", "remove ping", "add nmap", "add dhcp last"] innerHistory := by
  have ping : TestLine.parse "add ping # twice" = .add (some "ping") none := by decide
  have gone : TestLine.parse "remove ping" = .remove (some "ping") := by decide
  have nmap : TestLine.parse "add nmap" = .add (some "nmap") none := by decide
  have dhcp : TestLine.parse "add dhcp last" = .add (some "dhcp") (some "last") := by decide
  exact .add ping (.remove gone (.add nmap (.add dhcp .nil)))

theorem parse_include : TestLine.parse "include ${DAQ_LIB}/config.list" =
    .include_ (some "${DAQ_LIB}/config.list") := by
  decide

theorem config_target :
    siteFiles.target (some "${DAQ_LIB}/config.list") = .ok "/daq/config.list" := by
  decide

theorem site_reads : Reads siteFiles "site.conf" siteHistory := by
  have nmap : TestLine.parse "remove nmap" = .remove (some "nmap") := by decide
  have ping : TestLine.parse "add ping first" = .add (some "ping") (some "first") := by decide
  have build : TestLine.parse "build ping" = .other := by decide
  exact ⟨_, rfl, .include_ parse_include config_target rfl config_read
    (.remove nmap (.add ping (.other build .nil)))⟩

theorem site_tree : TestTree siteFiles "site.conf" := by
  refine TestTree.of_includes rfl fun line member argument parsed => ?_
  have listed := List.mem_map_of_mem (f := TestLine.parse) member
  rw [parsed] at listed
  have lines : ["include ${DAQ_LIB}/config.list", "remove nmap", "add ping first",
      "build ping"].map TestLine.parse = [.include_ (some "${DAQ_LIB}/config.list"),
        .remove (some "nmap"), .add (some "ping") (some "first"), .other] := by decide
  rw [lines] at listed
  obtain rfl : argument = some "${DAQ_LIB}/config.list" := by simpa using listed
  refine ⟨"/daq/config.list", config_target, TestTree.of_includes rfl ?_⟩
  intro line member argument parsed
  have listed := List.mem_map_of_mem (f := TestLine.parse) member
  have lines : ["add ping # twice", "remove ping", "add nmap", "add dhcp last"].map
      TestLine.parse = [.add (some "ping") none, .remove (some "ping"), .add (some "nmap") none,
        .add (some "dhcp") (some "last")] := by decide
  rw [parsed, lines] at listed
  simp at listed

theorem site_listed :
    ∃ enough, (∀ depth, enough ≤ depth →
        getTestList siteFiles false depth "site.conf" = .ok [some "ping", some "dhcp"]) ∧
      ListOf siteHistory [some "ping", some "dhcp"] := by
  obtain ⟨history, reads, only, enough, tests, listed, correct⟩ :=
    getTestList_listOf_iff site_tree false
  obtain rfl := only siteHistory site_reads
  have listOf := correct.mpr (cleared_of_nodup (by decide))
  have tests : tests = [some "ping", some "dhcp"] := by
    rw [listOf.sections]
    decide
  subst tests
  exact ⟨enough, listed, listOf⟩

def oneFile (lines : List String) : TestFiles where
  lines testFile := if testFile = "host.conf" then some lines else none
  getenv _ := none

/-- A second add is left behind by a remove. -/
def doubled : List String := ["add ping", "add ping", "remove ping"]

theorem parse_doubled : doubled.map TestLine.parse =
    [.add (some "ping") none, .add (some "ping") none, .remove (some "ping")] := by
  decide

theorem doubled_tree : TestTree (oneFile doubled) "host.conf" := by
  refine TestTree.of_includes rfl ?_
  intro line member argument parsed
  have listed := List.mem_map_of_mem (f := TestLine.parse) member
  rw [parse_doubled, parsed] at listed
  simp at listed

def doubledHistory : List Command :=
  [.add (some "ping") .body, .add (some "ping") .body, .remove (some "ping")]

theorem doubled_reads : Reads (oneFile doubled) "host.conf" doubledHistory := by
  have add : TestLine.parse "add ping" = .add (some "ping") none := by decide
  have remove : TestLine.parse "remove ping" = .remove (some "ping") := by decide
  exact ⟨doubled, rfl, .add add (.add add (.remove remove .nil))⟩

theorem doubled_not_listed :
    TestTree (oneFile doubled) "host.conf" ∧
      Reads (oneFile doubled) "host.conf" doubledHistory ∧
      (∃ enough, ∀ depth, enough ≤ depth →
        getTestList (oneFile doubled) false depth "host.conf" = .ok [some "ping"]) ∧
      ¬ ListOf doubledHistory [some "ping"] := by
  refine ⟨doubled_tree, doubled_reads, doubled_reads.getTestList, ?_⟩
  intro listed
  have sections := listed.sections
  revert sections
  decide

end TestSample

end Daq.Runner
