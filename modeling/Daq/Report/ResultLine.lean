import Daq.Lib.Pattern

namespace Daq.Report

open Pattern

/-! The lines of a module report that carry a result. -/

/-- The white space of `str`. -/
def isSpace (char : Char) : Bool :=
  let point := char.toNat
  9 ≤ point ∧ point ≤ 13 ∨ 28 ≤ point ∧ point ≤ 32 ∨ point = 0x85 ∨ point = 0xa0 ∨
    point = 0x1680 ∨ 0x2000 ≤ point ∧ point ≤ 0x200a ∨ point = 0x2028 ∨ point = 0x2029 ∨
    point = 0x202f ∨ point = 0x205f ∨ point = 0x3000

def notNewline (char : Char) : Bool := char ≠ '\n'

def notPercent (char : Char) : Bool := char ≠ '%'

def atEnd (text : List Char) : Bool := text = [] ∨ text = ['\n']

/-- The result word, the name of the test and the text behind it. -/
structure ResultLine where
  result : String
  testName : String
  extra : String
deriving DecidableEq, Repr

/-- `(%%.*)?$` -/
def matchNote (line : ResultLine) : List Char → Option ResultLine :=
  optionally
    (fun text =>
      match text with
      | '%' :: '%' :: rest => greedily notNewline
          (fun _ text => if atEnd text then some line else none) rest
      | _ => none)
    (fun text => if atEnd text then some line else none)

/-- `([^%]*)\s*(%%.*)?$` -/
def matchExtra (result testName : List Char) : List Char → Option ResultLine :=
  greedily notPercent fun extra => greedily isSpace fun _ => matchNote
    { result := String.ofList result, testName := String.ofList testName
      extra := String.ofList extra }

/-- `_RESULT_REGEX`: `^RESULT (.*?)\s+(.*?)\s+([^%]*)\s*(%%.*)?$` -/
def resultLine (line : String) : Option ResultLine :=
  match line.toList with
  | 'R' :: 'E' :: 'S' :: 'U' :: 'L' :: 'T' :: ' ' :: text =>
      lazily notNewline (fun result => several isSpace (lazily notNewline fun testName =>
        several isSpace (matchExtra result testName))) text
  | _ => none

/-! What the expression takes a line apart into. -/

/-- The text at the end of a line that nothing captures. -/
def IsNote (text : List Char) : Prop :=
  atEnd text ∨ ∃ note rest, text = '%' :: '%' :: (note ++ rest) ∧
    (∀ char ∈ note, notNewline char = true) ∧ atEnd rest

theorem matchNote_eq_some {line found : ResultLine} {text : List Char}
    (matched : matchNote line text = some found) : found = line ∧ IsNote text := by
  have direct : ∀ {rest : List Char}, (if atEnd rest then some line else none) = some found →
      found = line ∧ atEnd rest := by
    intro rest behind
    split at behind
    · rename_i ended
      cases behind
      exact ⟨rfl, ended⟩
    · cases behind
  unfold matchNote optionally at matched
  split at matched
  · rename_i first
    cases matched
    dsimp only at first
    split at first
    · obtain ⟨note, rest, splits, behind⟩ := greedily_eq_some first
      obtain ⟨same, ended⟩ := direct behind
      exact ⟨same, .inr ⟨note, rest, by rw [splits.parts], splits.tested, ended⟩⟩
    · cases first
  · obtain ⟨same, ended⟩ := direct matched
    exact ⟨same, .inl ended⟩

theorem matchNote_isSome {line : ResultLine} {text : List Char} (note : IsNote text) :
    (matchNote line text).isSome := by
  apply optionally_isSome_iff.mpr
  rcases note with ended | ⟨note, rest, rfl, tested, ended⟩
  · right
    simp [ended]
  · left
    apply greedily_isSome ⟨rfl, tested⟩
    simp [ended]

/-- A text and what is captured of it. -/
inductive Matches : ResultLine → List Char → Prop
  | intro {result first testName second extra third note : List Char}
      (resultChars : ∀ char ∈ result, notNewline char = true)
      (firstSpaces : ∀ char ∈ first, isSpace char = true) (firstFilled : first ≠ [])
      (nameChars : ∀ char ∈ testName, notNewline char = true)
      (secondSpaces : ∀ char ∈ second, isSpace char = true) (secondFilled : second ≠ [])
      (extraChars : ∀ char ∈ extra, notPercent char = true)
      (thirdSpaces : ∀ char ∈ third, isSpace char = true) (ends : IsNote note) :
      Matches { result := String.ofList result, testName := String.ofList testName
                extra := String.ofList extra }
        ("RESULT ".toList ++
          (result ++ (first ++ (testName ++ (second ++ (extra ++ (third ++ note)))))))

theorem resultLine_matches {line : String} {found : ResultLine}
    (matched : resultLine line = some found) : Matches found line.toList := by
  unfold resultLine at matched
  split at matched
  · rename_i text start
    obtain ⟨result, _, resultSplits, matched⟩ := lazily_eq_some matched
    obtain ⟨first, _, firstSplits, firstFilled, matched⟩ := several_eq_some matched
    obtain ⟨testName, _, nameSplits, matched⟩ := lazily_eq_some matched
    obtain ⟨second, _, secondSplits, secondFilled, matched⟩ := several_eq_some matched
    obtain ⟨extra, _, extraSplits, matched⟩ := greedily_eq_some matched
    obtain ⟨third, note, thirdSplits, matched⟩ := greedily_eq_some matched
    obtain ⟨rfl, ends⟩ := matchNote_eq_some matched
    rw [start, resultSplits.parts, firstSplits.parts, nameSplits.parts, secondSplits.parts,
      extraSplits.parts, thirdSplits.parts]
    exact Matches.intro resultSplits.tested firstSplits.tested firstFilled nameSplits.tested
      secondSplits.tested secondFilled extraSplits.tested thirdSplits.tested ends
  · cases matched

end Daq.Report
