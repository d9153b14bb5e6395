import Daq.Data
import Daq.Lib.Fallible
import Daq.Report.ResultLine
import Mathlib.Logic.Relation

namespace Daq.Runner

open Fallible

/-! The list of tests, read from files that add and remove tests and include each other. -/

/-- The argument of a command, which may be missing. -/
abbrev Test := Option String

inductive Section where
  | first
  | body
  | last
deriving DecidableEq

/-- Any other word stands for the body. -/
def Section.of (ordering : Option String) : Section :=
  if ordering = some "first" then .first else if ordering = some "last" then .last else .body

inductive TestLine where
  | add (argument : Test) (ordering : Option String)
  | remove (argument : Test)
  | include_ (argument : Test)
  | other
deriving DecidableEq

/-- The words of a line, up to a comment. -/
def TestLine.words (line : String) : List String :=
  (((line.toList.takeWhile fun char => char ≠ '#').splitOnP Report.isSpace).filter
    fun word => word ≠ []).map String.ofList

/-- An empty line, `build` and an unknown command change nothing. -/
def TestLine.parse (line : String) : TestLine :=
  match TestLine.words line with
  | [] => .other
  | cmdName :: arguments =>
      let argument := arguments.head?
      let ordering := arguments.tail.head?
      if cmdName = "add" then .add argument ordering
      else if cmdName = "remove" then .remove argument
      else if cmdName = "include" then .include_ argument
      else .other

/-- The lines of the files, and the environment. -/
structure TestFiles where
  lines : String → Option (List String)
  getenv : String → Option String

/-- `env_regex`: the name between the braces, up to the last one, and what comes after it. -/
def matchEnv (argument : String) : Option (String × String) :=
  match argument.toList with
  | '$' :: '{' :: rest =>
      match rest.reverse.dropWhile fun char => char ≠ '}' with
      | [] => none
      | _ :: name =>
          some (.ofList name.reverse,
            .ofList (rest.reverse.takeWhile fun char => char ≠ '}').reverse)
  | _ => none

/-- The file that an `include` names. A missing argument or variable raises. -/
def TestFiles.target (files : TestFiles) (argument : Test) : Except Exc String :=
  match argument with
  | none => .error (.typeError "expected string or bytes-like object")
  | some argument =>
      match matchEnv argument with
      | none => .ok argument
      | some (envVar, tail) =>
          match files.getenv envVar with
          | none => .error (.typeError "unsupported operand type(s) for +: 'NoneType' and 'str'")
          | some value => .ok (value ++ tail)

structure TestOrdering where
  first : List Test := []
  last : List Test := []
  body : List Test := []

namespace TestOrdering

def get (ordering : TestOrdering) : Section → List Test
  | .first => ordering.first
  | .last => ordering.last
  | .body => ordering.body

def add (ordering : TestOrdering) (test : Test) : Section → TestOrdering
  | .first => { ordering with first := ordering.first ++ [test] }
  | .last => { ordering with last := ordering.last ++ [test] }
  | .body => { ordering with body := ordering.body ++ [test] }

/-- From each section the first occurrence is taken, if there is one. -/
def remove (ordering : TestOrdering) (test : Test) : TestOrdering where
  first := ordering.first.erase test
  last := ordering.last.erase test
  body := ordering.body.erase test

def tests (ordering : TestOrdering) : List Test := ordering.first ++ ordering.body ++ ordering.last

end TestOrdering

/-- One round of the reading loop, with what is done for an include. -/
def readLine (files : TestFiles) (included : String → TestOrdering → Except Exc TestOrdering)
    (ordering : TestOrdering) (line : String) : Except Exc TestOrdering :=
  match TestLine.parse line with
  | .add argument word => .ok (ordering.add argument (Section.of word))
  | .remove argument => .ok (ordering.remove argument)
  | .include_ argument => do included (← files.target argument) ordering
  | .other => .ok ordering

/-- The inner `get_test_list`, down to a depth of includes. -/
def readTestFile (files : TestFiles) : Nat → String → TestOrdering → Except Exc TestOrdering
  | 0, _, _ => .error (.recursionError "maximum recursion depth exceeded")
  | depth + 1, testFile, ordering =>
      match files.lines testFile with
      | none => .error (.fileNotFoundError testFile)
      | some lines => lines.foldlM (readLine files (readTestFile files depth)) ordering

def getTestList (files : TestFiles) (noTest : Bool) (depth : Nat) (testFile : String) :
    Except Exc (List Test) :=
  if noTest then .ok []
  else do return (← readTestFile files depth testFile {}).tests

/-! The commands of a tree of files. -/

inductive Command where
  | add (test : Test) (part : Section)
  | remove (test : Test)
deriving DecidableEq

def Command.test : Command → Test
  | .add test _ => test
  | .remove test => test

def TestOrdering.obey (ordering : TestOrdering) : Command → TestOrdering
  | .add test part => ordering.add test part
  | .remove test => ordering.remove test

/-- The commands of lines in the order in which they are read, those of an included file in the
place of the include. -/
inductive LinesRead (files : TestFiles) : List String → List Command → Prop
  | nil : LinesRead files [] []
  | add {line : String} {argument : Test} {word : Option String} {lines : List String}
      {history : List Command} (parsed : TestLine.parse line = .add argument word)
      (rest : LinesRead files lines history) :
      LinesRead files (line :: lines) (.add argument (Section.of word) :: history)
  | remove {line : String} {argument : Test} {lines : List String} {history : List Command}
      (parsed : TestLine.parse line = .remove argument) (rest : LinesRead files lines history) :
      LinesRead files (line :: lines) (.remove argument :: history)
  | include_ {line : String} {argument : Test} {testFile : String} {inner lines : List String}
      {included history : List Command} (parsed : TestLine.parse line = .include_ argument)
      (resolved : files.target argument = .ok testFile) (found : files.lines testFile = some inner)
      (first : LinesRead files inner included) (rest : LinesRead files lines history) :
      LinesRead files (line :: lines) (included ++ history)
  | other {line : String} {lines : List String} {history : List Command}
      (parsed : TestLine.parse line = .other) (rest : LinesRead files lines history) :
      LinesRead files (line :: lines) history

/-- The commands of a file and of all that it includes. -/
def Reads (files : TestFiles) (testFile : String) (history : List Command) : Prop :=
  ∃ lines, files.lines testFile = some lines ∧ LinesRead files lines history

/-- A file has a line that includes another. -/
def Includes (files : TestFiles) (testFile included : String) : Prop :=
  ∃ lines, files.lines testFile = some lines ∧
    ∃ line ∈ lines, ∃ argument, TestLine.parse line = .include_ argument ∧
      files.target argument = .ok included

/-- An acyclic tree of files that are all there. -/
structure TestTree (files : TestFiles) (testFile : String) : Prop where
  acyclic : Acc (fun included file => Includes files file included) testFile
  readable : ∀ file, Relation.ReflTransGen (Includes files) testFile file →
    ∃ lines, files.lines file = some lines ∧
      ∀ line ∈ lines, ∀ argument, TestLine.parse line = .include_ argument →
        ∃ included, files.target argument = .ok included

/-- A file that only includes trees is one. -/
theorem TestTree.of_includes {files : TestFiles} {testFile : String} {lines : List String}
    (found : files.lines testFile = some lines)
    (below : ∀ line ∈ lines, ∀ argument, TestLine.parse line = .include_ argument →
      ∃ included, files.target argument = .ok included ∧ TestTree files included) :
    TestTree files testFile := by
  have trees : ∀ included, Includes files testFile included → TestTree files included := by
    rintro included ⟨again, foundAgain, line, member, argument, parsed, target⟩
    obtain rfl := Option.some.inj (found.symm.trans foundAgain)
    obtain ⟨other, same, tree⟩ := below line member argument parsed
    cases target.symm.trans same
    exact tree
  refine ⟨.intro _ fun included includes => (trees included includes).acyclic, ?_⟩
  intro file inside
  rcases inside.cases_head with rfl | ⟨included, includes, rest⟩
  · refine ⟨lines, found, fun line member argument parsed => ?_⟩
    exact (below line member argument parsed).imp fun _ => And.left
  · exact (trees included includes).readable file rest

section Reading

variable {files : TestFiles} {testFile : String} {lines : List String}
variable {history other : List Command}

theorem exists_linesRead
    (included : ∀ line ∈ lines, ∀ argument, TestLine.parse line = .include_ argument →
      ∃ testFile history, files.target argument = .ok testFile ∧ Reads files testFile history) :
    ∃ history, LinesRead files lines history := by
  induction lines with
  | nil => exact ⟨[], .nil⟩
  | cons line rest later =>
      obtain ⟨here, behind⟩ := List.forall_mem_cons.mp included
      obtain ⟨history, read⟩ := later behind
      cases parsed : TestLine.parse line with
      | add argument word => exact ⟨_, .add parsed read⟩
      | remove argument => exact ⟨_, .remove parsed read⟩
      | other => exact ⟨_, .other parsed read⟩
      | include_ argument =>
          obtain ⟨testFile, first, resolved, inner, found, readFirst⟩ := here argument parsed
          exact ⟨_, .include_ parsed resolved found readFirst read⟩

/-- An acyclic tree has an order in which its commands are read. -/
theorem TestTree.exists_reads (tree : TestTree files testFile) :
    ∃ history, Reads files testFile history := by
  obtain ⟨acyclic, readable⟩ := tree
  induction acyclic with
  | intro testFile _ later =>
      obtain ⟨lines, found, resolves⟩ := readable testFile .refl
      have each : ∀ line ∈ lines, ∀ argument, TestLine.parse line = .include_ argument →
          ∃ included history, files.target argument = .ok included ∧
            Reads files included history := by
        intro line member argument parsed
        obtain ⟨included, resolved⟩ := resolves line member argument parsed
        have includes : Includes files testFile included :=
          ⟨lines, found, line, member, argument, parsed, resolved⟩
        obtain ⟨history, reads⟩ :=
          later included includes fun file inside => readable file (.head includes inside)
        exact ⟨included, history, resolved, reads⟩
      obtain ⟨history, read⟩ := exists_linesRead each
      exact ⟨history, lines, found, read⟩

theorem LinesRead.unique (read : LinesRead files lines history)
    (again : LinesRead files lines other) : history = other := by
  induction read generalizing other with
  | nil =>
      cases again
      rfl
  | add parsed _ later =>
      cases again with
      | add parsedAgain rest =>
          obtain ⟨rfl, rfl⟩ := TestLine.add.inj (parsed.symm.trans parsedAgain)
          rw [later rest]
      | remove parsedAgain _ => cases parsed.symm.trans parsedAgain
      | include_ parsedAgain _ _ _ _ => cases parsed.symm.trans parsedAgain
      | other parsedAgain _ => cases parsed.symm.trans parsedAgain
  | remove parsed _ later =>
      cases again with
      | remove parsedAgain rest =>
          obtain rfl := TestLine.remove.inj (parsed.symm.trans parsedAgain)
          rw [later rest]
      | add parsedAgain _ => cases parsed.symm.trans parsedAgain
      | include_ parsedAgain _ _ _ _ => cases parsed.symm.trans parsedAgain
      | other parsedAgain _ => cases parsed.symm.trans parsedAgain
  | include_ parsed resolved found _ _ laterInner later =>
      cases again with
      | include_ parsedAgain resolvedAgain foundAgain first rest =>
          obtain rfl := TestLine.include_.inj (parsed.symm.trans parsedAgain)
          obtain rfl := Except.ok.inj (resolved.symm.trans resolvedAgain)
          obtain rfl := Option.some.inj (found.symm.trans foundAgain)
          rw [laterInner first, later rest]
      | add parsedAgain _ => cases parsed.symm.trans parsedAgain
      | remove parsedAgain _ => cases parsed.symm.trans parsedAgain
      | other parsedAgain _ => cases parsed.symm.trans parsedAgain
  | other parsed _ later =>
      cases again with
      | other _ rest => exact later rest
      | add parsedAgain _ => cases parsed.symm.trans parsedAgain
      | remove parsedAgain _ => cases parsed.symm.trans parsedAgain
      | include_ parsedAgain _ _ _ _ => cases parsed.symm.trans parsedAgain

theorem Reads.unique (read : Reads files testFile history) (again : Reads files testFile other) :
    history = other := by
  obtain ⟨lines, found, read⟩ := read
  obtain ⟨linesAgain, foundAgain, again⟩ := again
  obtain rfl := Option.some.inj (found.symm.trans foundAgain)
  exact read.unique again

/-- With enough depth, reading obeys the commands. -/
theorem LinesRead.foldlM_readLine (read : LinesRead files lines history) :
    ∃ enough, ∀ depth, enough ≤ depth → ∀ ordering : TestOrdering,
      lines.foldlM (readLine files (readTestFile files depth)) ordering =
        .ok (history.foldl TestOrdering.obey ordering) := by
  induction read with
  | nil => exact ⟨0, fun _ _ _ => rfl⟩
  | add parsed _ later =>
      obtain ⟨enough, obeyed⟩ := later
      refine ⟨enough, fun depth deep ordering => ?_⟩
      rw [List.foldlM_cons, readLine, parsed]
      exact obeyed depth deep _
  | remove parsed _ later =>
      obtain ⟨enough, obeyed⟩ := later
      refine ⟨enough, fun depth deep ordering => ?_⟩
      rw [List.foldlM_cons, readLine, parsed]
      exact obeyed depth deep _
  | @include_ _ _ testFile _ _ included _ parsed resolved found _ _ laterInner later =>
      obtain ⟨enoughInner, obeyedInner⟩ := laterInner
      obtain ⟨enough, obeyed⟩ := later
      refine ⟨enough + (enoughInner + 1), fun depth deep ordering => ?_⟩
      cases depth with
      | zero => omega
      | succ depth =>
          have first : readTestFile files (depth + 1) testFile ordering =
              .ok (included.foldl TestOrdering.obey ordering) := by
            rw [readTestFile, found]
            exact obeyedInner depth (by omega) ordering
          rw [List.foldlM_cons, readLine, parsed, List.foldl_append]
          dsimp only
          rw [resolved, ok_bind, first]
          exact obeyed (depth + 1) (by omega) _
  | other parsed _ later =>
      obtain ⟨enough, obeyed⟩ := later
      refine ⟨enough, fun depth deep ordering => ?_⟩
      rw [List.foldlM_cons, readLine, parsed]
      exact obeyed depth deep _

theorem Reads.getTestList (reads : Reads files testFile history) :
    ∃ enough, ∀ depth, enough ≤ depth →
      getTestList files false depth testFile =
        .ok (history.foldl TestOrdering.obey {}).tests := by
  obtain ⟨lines, found, read⟩ := reads
  obtain ⟨enough, obeyed⟩ := read.foldlM_readLine
  refine ⟨enough + 1, fun depth deep => ?_⟩
  cases depth with
  | zero => omega
  | succ depth =>
      rw [Runner.getTestList, if_neg (by decide), readTestFile, found]
      dsimp only
      rw [obeyed depth (by omega), ok_bind]
      rfl

end Reading

end Daq.Runner
