import Mathlib.Data.List.Basic

namespace Daq.Usi.Telnet

/-! What a switch sends over telnet, with its line ends made alike. -/

/-- The buffer and the two counters of a scan. -/
structure Scan where
  bytesBuffer : List UInt8 := []
  countBreak : Nat := 0
  countEsc : Nat := 0

/-- `remove` of a Java list, which fails out of bounds. -/
def removeAt (buffer : List UInt8) (index : Int) : Option (List UInt8) :=
  if 0 ≤ index ∧ index < buffer.length then some (buffer.eraseIdx index.toNat) else none

def removeBreaks (buffer : List UInt8) (countBreak : Nat) : Option (List UInt8) :=
  (List.range (countBreak - 1)).foldlM
    (fun rest (x : Nat) => removeAt rest ((buffer.length : Int) - 1 - x)) buffer

/-- Any other byte, which is left out behind an escape. -/
def addByte (scan : Scan) (byte : UInt8) : Option Scan :=
  if scan.countEsc = 0 then
    if 1 < scan.countBreak then do
      let bytesBuffer ← removeBreaks scan.bytesBuffer scan.countBreak
      return { scan with bytesBuffer := bytesBuffer ++ [byte], countBreak := 0 }
    else some { scan with bytesBuffer := scan.bytesBuffer ++ [byte] }
  else some { scan with countEsc := scan.countEsc - 1 }

def addBreak (endChar : UInt8) (scan : Scan) : Scan :=
  { scan with
    countBreak := scan.countBreak + 1
    bytesBuffer := scan.bytesBuffer ++ [endChar] }

def scanByte (endChar : UInt8) (scan : Scan) (byte : UInt8) : Option Scan :=
  if byte = 0 then some scan
  else if byte = 8 then some scan
  else if byte = 10 then some (addBreak endChar scan)
  else if byte = 13 then some (addBreak endChar scan)
  else if byte = 27 then some { scan with countEsc := 2 }
  else if byte = 33 then some scan
  else addByte scan byte

/-- `(char) (byte)`, where bytes have a sign. -/
def toChar (byte : UInt8) : Char :=
  Char.ofNat (if byte < 128 then byte.toNat else 0xFF00 + byte.toNat)

def normalizeLineEnding (bytes : List UInt8) (endChar : Char) : Option (List Char) := do
  let scan ← bytes.foldlM (scanByte (UInt8.ofNat endChar.toNat)) {}
  return scan.bytesBuffer.map toChar

/-! What is to come of it, and the runs of breaks on which it depends. -/

def isBreak (byte : UInt8) : Bool := byte = 10 || byte = 13

/-- NUL, backspace and the exclamation mark. -/
def hidden (byte : UInt8) : Bool := byte = 0 || byte = 8 || byte = 33

def visible (bytes : List UInt8) : List UInt8 := bytes.filter fun byte => !hidden byte

/-- Every other byte in its place, behind one newline if there is a break between
it and the one before. -/
def squeezed (pending : Bool) : List UInt8 → List Char
  | [] => []
  | byte :: rest =>
      if isBreak byte then squeezed true rest
      else (if pending then ['\n'] else []) ++ toChar byte :: squeezed false rest

/-- Breaks at either end are not between two bytes. -/
def Normalized (bytes : List UInt8) (text : List Char) : Prop :=
  ∃ front behind, text = List.replicate front '\n' ++
    squeezed false ((visible bytes).dropWhile isBreak) ++ List.replicate behind '\n'

/-- How long the runs of breaks are that have another byte behind them. -/
def breakRuns (count : Nat) : List UInt8 → List Nat
  | [] => []
  | byte :: rest =>
      if isBreak byte then breakRuns (count + 1) rest
      else if 0 < count then count :: breakRuns 0 rest
      else breakRuns 0 rest

/-! The scan, run by run.  A counter that is one is not reset, and is carried into
the next run. -/

theorem removeAt_last (buffer : List UInt8) (byte : UInt8) {index : Int}
    (last : index = buffer.length) : removeAt (buffer ++ [byte]) index = some buffer := by
  have bounds : 0 ≤ index ∧ index < (buffer ++ [byte]).length := by
    rw [List.length_append, List.length_singleton]
    omega
  have position : index.toNat = buffer.length := by omega
  rw [removeAt, if_pos bounds, position, List.eraseIdx_append_of_length_le (Nat.le_refl _),
    Nat.sub_self, List.eraseIdx_cons_zero, List.append_nil]

theorem foldlM_removeAt (buffer : List UInt8) (byte : UInt8) {size : Nat} (count kept : Nat)
    (whole : size = buffer.length + kept + count) :
    (List.range count).foldlM (fun rest (x : Nat) => removeAt rest ((size : Int) - 1 - x))
      (buffer ++ List.replicate (kept + count) byte) =
        some (buffer ++ List.replicate kept byte) := by
  induction count generalizing kept with
  | zero => rfl
  | succ count shorter =>
      have rest := shorter (kept + 1) (by omega)
      have sum : kept + (count + 1) = kept + 1 + count := by omega
      rw [List.range_succ, List.foldlM_append, sum, rest, List.replicate_succ',
        ← List.append_assoc]
      change (do removeAt (buffer ++ List.replicate kept byte ++ [byte]) _ >>= pure) = _
      rw [removeAt_last]
      · rfl
      · rw [List.length_append, List.length_replicate]
        omega

/-- All breaks of the count but one are taken from the end of the buffer. -/
theorem removeBreaks_eq (buffer : List UInt8) (byte : UInt8) {kept countBreak : Nat} :
    removeBreaks (buffer ++ List.replicate (kept + (countBreak - 1)) byte) countBreak =
      some (buffer ++ List.replicate kept byte) := by
  apply foldlM_removeAt
  rw [List.length_append, List.length_replicate]
  omega

/-- How many breaks of a run are left, and what is carried into the next run. -/
def left (carry run : Nat) : Nat := if 1 < carry + run then 1 - carry else run

def carried (carry run : Nat) : Nat := if 1 < carry + run then 0 else carry + run

/-- What the scan adds to the buffer behind a run that has not ended. -/
def scanned (carry run : Nat) : List UInt8 → List UInt8
  | [] => List.replicate run 10
  | byte :: rest =>
      if isBreak byte then scanned carry (run + 1) rest
      else List.replicate (left carry run) 10 ++ byte :: scanned (carried carry run) 0 rest

section Cons

variable {byte : UInt8} (rest : List UInt8)

theorem visible_of_hidden (passed : hidden byte = true) :
    visible (byte :: rest) = visible rest := by
  rw [visible, List.filter_cons, passed]
  rfl

theorem visible_of_shown (shown : hidden byte = false) :
    visible (byte :: rest) = byte :: visible rest := by
  rw [visible, List.filter_cons, shown]
  rfl

theorem scanned_break (breaks : isBreak byte = true) (carry run : Nat) :
    scanned carry run (byte :: rest) = scanned carry (run + 1) rest := by
  rw [scanned, if_pos breaks]

theorem scanned_plain (unbroken : isBreak byte = false) (carry run : Nat) :
    scanned carry run (byte :: rest) = List.replicate (left carry run) 10 ++
      byte :: scanned (carried carry run) 0 rest := by
  rw [scanned, unbroken, if_neg Bool.false_ne_true]

end Cons

theorem addByte_eq (buffer : List UInt8) {carry run : Nat} (byte : UInt8) (atMost : carry ≤ 1) :
    addByte ⟨buffer ++ List.replicate run 10, carry + run, 0⟩ byte =
      some ⟨buffer ++ List.replicate (left carry run) 10 ++ [byte], carried carry run, 0⟩ := by
  unfold addByte left carried
  rw [if_pos rfl]
  split
  · rename_i several
    dsimp only at several
    have run_eq : run = 1 - carry + (carry + run - 1) := by omega
    have removed : removeBreaks (buffer ++ List.replicate run 10) (carry + run) =
        some (buffer ++ List.replicate (1 - carry) 10) := by
      nth_rewrite 1 [run_eq]
      exact removeBreaks_eq buffer 10
    dsimp only
    rw [removed]
    rfl
  · rfl

theorem carried_le (carry run : Nat) : carried carry run ≤ 1 := by
  unfold carried
  split
  · exact Nat.zero_le 1
  · omega

theorem scanByte_hidden (endChar : UInt8) (scan : Scan) {byte : UInt8}
    (passed : hidden byte = true) : scanByte endChar scan byte = some scan := by
  simp only [hidden, Bool.or_eq_true, decide_eq_true_eq] at passed
  rcases passed with (rfl | rfl) | rfl <;> rfl

theorem scanByte_break (endChar : UInt8) (scan : Scan) {byte : UInt8}
    (breaks : isBreak byte = true) : scanByte endChar scan byte = some (addBreak endChar scan) := by
  simp only [isBreak, Bool.or_eq_true, decide_eq_true_eq] at breaks
  rcases breaks with rfl | rfl <;> rfl

theorem scanByte_plain (endChar : UInt8) (scan : Scan) {byte : UInt8}
    (shown : hidden byte = false) (unbroken : isBreak byte = false) (unescaped : byte ≠ 27) :
    scanByte endChar scan byte = addByte scan byte := by
  simp only [hidden, isBreak, Bool.or_eq_false_iff, decide_eq_false_iff_not] at shown unbroken
  obtain ⟨⟨notNul, notBack⟩, notMark⟩ := shown
  obtain ⟨notFeed, notCarriage⟩ := unbroken
  rw [scanByte, if_neg notNul, if_neg notBack, if_neg notFeed, if_neg notCarriage,
    if_neg unescaped, if_neg notMark]

theorem addBreak_eq (buffer : List UInt8) (carry run : Nat) :
    addBreak 10 ⟨buffer ++ List.replicate run 10, carry + run, 0⟩ =
      ⟨buffer ++ List.replicate (run + 1) 10, carry + (run + 1), 0⟩ := by
  rw [List.replicate_succ', ← List.append_assoc]
  rfl

theorem foldlM_scanByte {bytes : List UInt8} (unescaped : 27 ∉ bytes) (buffer : List UInt8)
    (run : Nat) {carry : Nat} (atMost : carry ≤ 1) :
    ∃ countBreak, bytes.foldlM (scanByte 10) ⟨buffer ++ List.replicate run 10, carry + run, 0⟩ =
      some ⟨buffer ++ scanned carry run (visible bytes), countBreak, 0⟩ := by
  induction bytes generalizing buffer carry run with
  | nil => exact ⟨carry + run, rfl⟩
  | cons byte rest later =>
      obtain ⟨here, behind⟩ := not_or.mp (mt List.mem_cons.mpr unescaped)
      rw [List.foldlM_cons]
      cases passed : hidden byte with
      | true =>
          rw [scanByte_hidden _ _ passed, visible_of_hidden _ passed]
          exact later behind buffer run atMost
      | false =>
          rw [visible_of_shown _ passed]
          cases breaks : isBreak byte with
          | true =>
              rw [scanByte_break _ _ breaks, addBreak_eq, scanned_break _ breaks]
              exact later behind buffer (run + 1) atMost
          | false =>
              rw [scanByte_plain _ _ passed breaks (Ne.symm here), addByte_eq buffer byte atMost,
                scanned_plain _ breaks]
              obtain ⟨countBreak, done⟩ := later behind
                (buffer ++ List.replicate (left carry run) 10 ++ [byte]) 0 (carried_le carry run)
              simp only [List.replicate_zero, List.append_nil, Nat.add_zero, List.append_assoc,
                List.singleton_append] at done ⊢
              exact ⟨countBreak, done⟩

/-! When nothing is carried that a later run would need. -/

/-- Only the last run that has another byte behind it is single. -/
def LastSingle (runs : List Nat) : Prop := ∀ run ∈ runs.dropLast, 2 ≤ run

theorem lastSingle_cons {run : Nat} {runs : List Nat} :
    LastSingle (run :: runs) ↔ (runs ≠ [] → 2 ≤ run) ∧ LastSingle runs := by
  cases runs with
  | nil => simp [LastSingle]
  | cons next runs => simp [LastSingle, List.dropLast_cons_cons]

/-- Two texts with the same byte in front of which there are newlines only. -/
theorem replicate_append_inj {first second : Nat} {char : Char} (plain : char ≠ '\n')
    {one other : List Char} :
    List.replicate first '\n' ++ char :: one = List.replicate second '\n' ++ char :: other ↔
      first = second ∧ one = other := by
  constructor
  · intro same
    induction first generalizing second with
    | zero =>
        cases second with
        | zero => exact ⟨rfl, (List.cons.inj same).2⟩
        | succ second => exact absurd (List.cons.inj same).1 plain
    | succ first shorter =>
        cases second with
        | zero => exact absurd (List.cons.inj same).1.symm plain
        | succ second =>
            obtain ⟨equal, rest⟩ := shorter (List.cons.inj same).2
            exact ⟨congrArg Nat.succ equal, rest⟩
  · rintro ⟨rfl, rfl⟩
    rfl

theorem toChar_ne_newline {byte : UInt8} (unbroken : isBreak byte = false) :
    toChar byte ≠ '\n' := by
  have all : ∀ code : Fin 256, code.val ≠ 10 → toChar (UInt8.ofNat code) ≠ '\n' := by
    decide +kernel
  simp only [isBreak, Bool.or_eq_false_iff, decide_eq_false_iff_not] at unbroken
  have other := all ⟨byte.toNat, byte.toNat_lt⟩ fun same => unbroken.1 (UInt8.toNat_inj.mp same)
  rw [UInt8.ofNat_toNat] at other
  exact other

theorem left_eq_iff {carry : Nat} (atMost : carry ≤ 1) (run : Nat) (runs : List Nat) :
    (left carry run = min run 1 ∧ (carried carry run = 1 → runs = []) ∧ LastSingle runs) ↔
      (carry = 1 → (if 0 < run then run :: runs else runs) = []) ∧
        LastSingle (if 0 < run then run :: runs else runs) := by
  unfold left carried
  by_cases positive : 0 < run
  · rw [if_pos positive, lastSingle_cons]
    have filled : ¬ run :: runs = [] := List.cons_ne_nil _ _
    have one : min run 1 = 1 := Nat.min_eq_right positive
    split <;> grind
  · rw [if_neg positive]
    split <;> grind

theorem carried_eq_iff (run : Nat) (runs : List Nat) :
    ((carried 0 run = 1 → runs = []) ∧ LastSingle runs) ↔
      LastSingle (if 0 < run then run :: runs else runs) := by
  unfold carried
  by_cases positive : 0 < run
  · rw [if_pos positive, lastSingle_cons]
    split <;> grind
  · rw [if_neg positive]
    split <;> grind

/-- From a run on, each run but the last one needs a second break; a carried break
is one too many for any run. -/
theorem scanned_eq_squeezed_iff {carry : Nat} (atMost : carry ≤ 1) (run : Nat)
    (bytes : List UInt8) :
    (∃ behind, (scanned carry run bytes).map toChar =
        squeezed (decide (0 < run)) bytes ++ List.replicate behind '\n') ↔
      (carry = 1 → breakRuns run bytes = []) ∧ LastSingle (breakRuns run bytes) := by
  induction bytes generalizing carry run with
  | nil =>
      constructor
      · exact fun _ => ⟨fun _ => rfl, List.forall_mem_nil _⟩
      · exact fun _ => ⟨run, List.map_replicate⟩
  | cons byte rest later =>
      cases breaks : isBreak byte with
      | true =>
          have positive : decide (0 < run + 1) = true := decide_eq_true (Nat.succ_pos run)
          have next := later atMost (run + 1)
          rw [positive] at next
          rw [scanned_break _ breaks, squeezed, if_pos breaks, breakRuns, if_pos breaks]
          exact next
      | false =>
          have newlines : ∀ count, (List.replicate count (10 : UInt8)).map toChar =
              List.replicate count '\n' := fun count => List.map_replicate
          have front : (if decide (0 < run) then ['\n'] else []) =
              List.replicate (min run 1) '\n' := by
            cases run with
            | zero => rfl
            | succ run =>
                rw [Nat.min_eq_right (Nat.succ_pos run), decide_eq_true (Nat.succ_pos run)]
                rfl
          have next := later (carried_le carry run) 0
          rw [decide_eq_false (Nat.lt_irrefl 0)] at next
          rw [scanned_plain _ breaks, List.map_append, newlines, List.map_cons, squeezed, breaks,
            if_neg Bool.false_ne_true, front]
          simp only [List.append_assoc, List.cons_append,
            replicate_append_inj (toChar_ne_newline breaks), exists_and_left, next]
          rw [breakRuns, breaks, if_neg Bool.false_ne_true]
          exact left_eq_iff atMost run _

/-- The runs of breaks in front of another byte, from the first byte on. -/
def runs (bytes : List UInt8) : List Nat := breakRuns 0 (visible bytes)

/-- Leading breaks are a run like any other, but need not become one newline. -/
theorem normalized_scanned_iff (bytes : List UInt8) :
    Normalized bytes ((scanned 0 0 (visible bytes)).map toChar) ↔ LastSingle (runs bytes) := by
  unfold Normalized runs
  generalize visible bytes = shown
  have leading : ∀ run, (∃ front behind, (scanned 0 run shown).map toChar =
      List.replicate front '\n' ++ squeezed false (shown.dropWhile isBreak) ++
        List.replicate behind '\n') ↔ LastSingle (breakRuns run shown) := by
    intro run
    induction shown generalizing run with
    | nil =>
        constructor
        · exact fun _ => List.forall_mem_nil _
        · intro _
          refine ⟨run, 0, ?_⟩
          rw [List.dropWhile_nil, squeezed, List.append_nil, List.replicate_zero, List.append_nil]
          exact List.map_replicate
    | cons byte rest later =>
        cases breaks : isBreak byte with
        | true =>
            rw [scanned_break _ breaks, List.dropWhile_cons, if_pos breaks, breakRuns,
              if_pos breaks]
            exact later (run + 1)
        | false =>
            have next := scanned_eq_squeezed_iff (carried_le 0 run) 0 rest
            rw [decide_eq_false (Nat.lt_irrefl 0)] at next
            have newlines : (List.replicate (left 0 run) (10 : UInt8)).map toChar =
                List.replicate (left 0 run) '\n' := List.map_replicate
            rw [scanned_plain _ breaks, List.map_append, newlines, List.map_cons,
              List.dropWhile_cons, breaks, if_neg Bool.false_ne_true, squeezed, breaks,
              if_neg Bool.false_ne_true, if_neg Bool.false_ne_true, List.nil_append]
            simp only [List.append_assoc, List.cons_append,
              replicate_append_inj (toChar_ne_newline breaks), exists_and_left, exists_eq_left',
              next]
            rw [breakRuns, breaks, if_neg Bool.false_ne_true]
            exact carried_eq_iff run _
  exact leading 0

theorem normalizeLineEnding_eq {bytes : List UInt8} (unescaped : 27 ∉ bytes) :
    normalizeLineEnding bytes '\n' = some ((scanned 0 0 (visible bytes)).map toChar) := by
  obtain ⟨countBreak, done⟩ := foldlM_scanByte unescaped [] 0 (Nat.zero_le 1)
  exact congrArg (fun found => Option.bind found fun scan =>
    some (scan.bytesBuffer.map toChar)) done

/-- Without escapes, the line ends come out right exactly if each run of breaks but
the last one with another byte behind it has two breaks at least. -/
theorem normalizeLineEnding_iff {bytes : List UInt8} (unescaped : 27 ∉ bytes) :
    (∃ text, normalizeLineEnding bytes '\n' = some text ∧ Normalized bytes text) ↔
      LastSingle (runs bytes) := by
  rw [normalizeLineEnding_eq unescaped, ← normalized_scanned_iff]
  simp

namespace Sample

/-- `a`, two pairs of breaks, `b`, a pair, `c`, one break, `d` and a break. -/
def paired : List UInt8 := [97, 13, 10, 13, 10, 98, 13, 10, 99, 10, 100, 10]

theorem paired_normalized :
    ∃ text, normalizeLineEnding paired '\n' = some text ∧ Normalized paired text := by
  have pairs : ∀ run ∈ (runs paired).dropLast, 2 ≤ run := by decide
  exact (normalizeLineEnding_iff (by decide)).mpr pairs

/-- Three lines with single breaks. -/
def lines : List UInt8 := [97, 10, 98, 10, 99]

theorem lines_not_normalized : ¬ ∀ bytes : List UInt8, 27 ∉ bytes →
    ∃ text, normalizeLineEnding bytes '\n' = some text ∧ Normalized bytes text := by
  intro normalizes
  obtain ⟨text, done, front, behind, equal⟩ := normalizes lines (by decide)
  have joined : normalizeLineEnding lines '\n' = some ['a', '\n', 'b', 'c'] := by decide +kernel
  have core : squeezed false ((visible lines).dropWhile isBreak) =
      ['a', '\n', 'b', '\n', 'c'] := by decide +kernel
  rw [joined, Option.some.injEq] at done
  rw [← done, core] at equal
  have lengths := congrArg List.length equal
  simp only [List.length_append, List.length_cons, List.length_nil, List.length_replicate]
    at lengths
  omega

end Sample

end Daq.Usi.Telnet
