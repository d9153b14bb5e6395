import Daq.Data
import Daq.Lib.Dict
import Daq.Lib.Fallible
import Daq.Lib.Tree
import Daq.Report.ResultLine
import Mathlib.Data.List.DropRight

namespace Daq.Configurator

/-! Config files: their paths, and how they are read. -/

/-- What can be a key, or a value that is no dictionary: a text, or another value of a loader. -/
inductive Scalar (γ : Type) where
  | text (text : String)
  | other (value : γ)
deriving DecidableEq

/-- A value of a config. -/
abbrev Config (γ : Type) := Tree (Scalar γ) (Scalar γ)

/-- A config dictionary. -/
abbrev Entries (γ : Type) := List (Scalar γ × Config γ)

/-! Paths. -/

namespace Path

def join (path component : List Char) : List Char :=
  if component.head? = some '/' then component
  else if path = [] ∨ path.getLast? = some '/' then path ++ component
  else path ++ '/' :: component

def dirname (path : List Char) : List Char :=
  let head := path.rdropWhile fun char => char ≠ '/'
  if head.all fun char => char = '/' then head else head.rdropWhile fun char => char = '/'

/-- One component; two dots take back the one before. -/
def addComponent (absolute : Bool) (components : List (List Char)) (component : List Char) :
    List (List Char) :=
  if component = [] ∨ component = ['.'] then components
  else if component ≠ ['.', '.'] ∨ (!absolute ∧ components = []) ∨
      components.getLast? = some ['.', '.'] then components ++ [component]
  else components.dropLast

/-- Two slashes at the front are kept, but not three. -/
def normpath (path : List Char) : List Char :=
  let slashes :=
    match path with
    | '/' :: '/' :: '/' :: _ => ['/']
    | '/' :: '/' :: _ => ['/', '/']
    | '/' :: _ => ['/']
    | _ => []
  let components := (path.splitOn '/').foldl (addComponent (slashes ≠ [])) []
  let normal := slashes ++ ['/'].intercalate components
  if normal = [] then ['.'] else normal

def abspath (cwd path : List Char) : List Char :=
  normpath (if path.head? = some '/' then path else join cwd path)

end Path

/-! Flat files. -/

def strip (drop : Char → Bool) (text : List Char) : List Char :=
  (text.dropWhile drop).rdropWhile drop

/-- The text in front of the first mark, and the text behind it if there is one. -/
def splitFirst (mark : Char) : List Char → List Char × Option (List Char)
  | [] => ([], none)
  | char :: rest =>
      if char = mark then ([], some rest)
      else (char :: (splitFirst mark rest).1, (splitFirst mark rest).2)

theorem length_splitFirst {mark : Char} {text front behind : List Char}
    (split : splitFirst mark text = (front, some behind)) : behind.length < text.length := by
  induction text generalizing front with
  | nil => cases split
  | cons char rest later =>
      rw [splitFirst] at split
      split at split
      · cases split
        exact Nat.lt_succ_self _
      · obtain ⟨_, same⟩ := Prod.mk.inj split
        exact (later (Prod.ext rfl same)).trans (Nat.lt_succ_self _)

theorem length_strip_le (drop : Char → Bool) (text : List Char) :
    (strip drop text).length ≤ text.length :=
  (List.rdropWhile_prefix _ _).length_le.trans (List.dropWhile_suffix _).length_le

variable {γ : Type} [DecidableEq γ]

def singleQuote : Char := Char.ofNat 39

/-- A value without the quotes around it. -/
def unquote (value : List Char) : List Char :=
  strip (fun char => char = singleQuote)
    (strip (fun char => char = '"') (strip Report.isSpace value))

/-- What a text raises where a dictionary is wanted for the rest of a key. -/
def refuseText (key : List Char) : Exc :=
  match (splitFirst '.' (strip Report.isSpace key)).2 with
  | none => .typeError "'str' object does not support item assignment"
  | some _ => .attributeError "'str' object has no attribute 'setdefault'"

/-- `setdefault`, then the rest of the key. -/
def parseFlatItem (config : Entries γ) (key value : List Char) : Except Exc (Entries γ) :=
  let stripped := unquote value
  match _split : splitFirst '.' (strip Report.isSpace key) with
  | (first, none) =>
      .ok (Assoc.set config (.text (.ofList first)) (.leaf (.text (.ofList stripped))))
  | (first, some rest) =>
      match Assoc.get? config (.text (.ofList first)) with
      | some (.leaf _) => .error (refuseText rest)
      | some (.dict inner) => do
          return Assoc.set config (.text (.ofList first)) (.dict (← parseFlatItem inner rest stripped))
      | none => do
          return Assoc.set config (.text (.ofList first)) (.dict (← parseFlatItem [] rest stripped))
termination_by key.length
decreasing_by
  all_goals exact (length_splitFirst _split).trans_le (length_strip_le _ _)

theorem parseFlatItem_wellFormed {config result : Entries γ} {key value : List Char}
    (wellFormed : (Tree.dict config).WellFormed)
    (parsed : parseFlatItem config key value = .ok result) : (Tree.dict result).WellFormed := by
  fun_induction parseFlatItem config key value generalizing result with
  | case1 =>
      cases parsed
      exact wellFormed.set _ (.leaf _)
  | case2 => cases parsed
  | case3 =>
      rename_i present later
      obtain ⟨deeper, ran, same⟩ := Fallible.bind_eq_ok_iff.mp parsed
      cases same
      exact wellFormed.set _ (later (wellFormed.of_get? present) ran)
  | case4 =>
      rename_i later
      obtain ⟨deeper, ran, same⟩ := Fallible.bind_eq_ok_iff.mp parsed
      cases same
      exact wellFormed.set _ (later (.dict List.nodup_nil (List.forall_mem_nil _)) ran)

/-- The lines of a text, each with the line break at its end, which is read as one character
whatever it is in the file. -/
def readLines : List Char → List (List Char)
  | [] => []
  | '\r' :: '\n' :: rest => ['\n'] :: readLines rest
  | char :: rest =>
      if char = '\n' ∨ char = '\r' then ['\n'] :: readLines rest
      else
        match readLines rest with
        | [] => [[char]]
        | line :: lines => (char :: line) :: lines

/-- A line without an equals sign has to be empty. -/
def readFlatLine (config : Entries γ) (line : List Char) : Except Exc (Entries γ) :=
  let stripped := strip Report.isSpace (line.takeWhile fun char => char ≠ '#')
  match splitFirst '=' stripped with
  | (key, some value) => parseFlatItem config key value
  | (key, none) =>
      if key = [] then .ok config
      else .error (.exception s!"Unknown config entry: {String.ofList line}")

def readFlatConfig (text : List Char) : Except Exc (Entries γ) :=
  (readLines text).foldlM readFlatLine []

theorem readFlatConfig_wellFormed {text : List Char} {config : Entries γ}
    (read : readFlatConfig text = .ok config) : (Tree.dict config).WellFormed := by
  refine @Fallible.foldlM_keeps _ _ _ (fun config => (Tree.dict config).WellFormed) _ ?_ _ _ _ read
    (.dict List.nodup_nil (List.forall_mem_nil _))
  intro config line after wellFormed ran
  rw [readFlatLine] at ran
  split at ran
  · exact parseFlatItem_wellFormed wellFormed ran
  · split at ran
    · cases ran
      exact wellFormed
    · cases ran

end Daq.Configurator
