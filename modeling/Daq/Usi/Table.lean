import Mathlib.Data.List.Basic

namespace Daq.Usi

/-! The tables that a switch answers with.  A text is the list of its
characters, and `none` stands for an index that is out of bounds. -/

abbrev Text := List Char

/-- `Character.isWhitespace`: the spaces that may be broken at and the
separators of ASCII. -/
def isWhitespace (character : Char) : Bool :=
  let code := character.toNat
  (0x09 ≤ code && code ≤ 0x0D) || (0x1C ≤ code && code ≤ 0x20) || code = 0x1680 ||
    (0x2000 ≤ code && code ≤ 0x200A && code ≠ 0x2007) || code = 0x2028 || code = 0x2029 ||
    code = 0x205F || code = 0x3000

/-- `String.trim`: everything up to the blank goes at both ends. -/
def trim (text : Text) : Text :=
  let blank (character : Char) : Bool := character.toNat ≤ 0x20
  ((text.dropWhile blank).reverse.dropWhile blank).reverse

/-- `split("\n")`: empty lines at the end are dropped, unless there is only
one line. -/
def splitLines (text : Text) : List Text :=
  match text.splitOn '\n' with
  | [line] => [line]
  | lines => (lines.reverse.dropWhile List.isEmpty).reverse

def charAt (text : Text) (index : Int) : Option Char :=
  if 0 ≤ index then text[index.toNat]? else none

def substring (text : Text) (first last : Int) : Option Text :=
  if 0 ≤ first ∧ first ≤ last ∧ last ≤ text.length then
    some ((text.drop first.toNat).take (last - first).toNat)
  else none

def indexFrom (name : Text) (index : Nat) : Text → Int
  | [] => if name.isEmpty then index else -1
  | character :: rest =>
      if name.isPrefixOf (character :: rest) then index else indexFrom name (index + 1) rest

def indexOf (name text : Text) : Int := indexFrom name 0 text

def contains (text name : Text) : Bool := 0 ≤ indexOf name text

def getFirstWhiteSpace (text : Text) : Int :=
  match text.findIdx? isWhitespace with
  | some index => index
  | none => -1

def nonWhitespaceFrom (lastWhitespace : Bool) (index : Nat) : Text → Int
  | [] => -1
  | character :: rest =>
      if isWhitespace character then nonWhitespaceFrom true (index + 1) rest
      else if lastWhitespace then index
      else nonWhitespaceFrom false (index + 1) rest

def getIndexOfNonWhitespaceAfterWhitespace (text : Text) : Int := nonWhitespaceFrom false 0 text

/-- Where the values of a column end, by the header of the next column; the
inner `none` has it that the header line is the wrong one. -/
def sectionEnd (header values nextName : Text) (lastSectionEnd : Int) : Option (Option Int) := do
  let nextHeaderStart := indexOf nextName header
  let character ← charAt values lastSectionEnd
  let lastSectionEnd :=
    if isWhitespace character ∧ lastSectionEnd < nextHeaderStart then lastSectionEnd + 1
    else lastSectionEnd
  let fromSection ← substring values lastSectionEnd values.length
  let firstWhiteSpace := getFirstWhiteSpace fromSection + lastSectionEnd
  if firstWhiteSpace < 0 then
    return none
  let fromWhiteSpace ← substring values firstWhiteSpace values.length
  let lastWhiteSpace := getIndexOfNonWhitespaceAfterWhitespace fromWhiteSpace + firstWhiteSpace
  -- the values of the column are empty
  if firstWhiteSpace ≤ nextHeaderStart ∧ nextHeaderStart ≤ lastWhiteSpace then
    return some nextHeaderStart
  let beforeHead ← charAt values (nextHeaderStart - 1)
  return some (if isWhitespace beforeHead then max lastWhiteSpace nextHeaderStart
    else lastWhiteSpace)

/-- A non-breaking space is a space here, which `trim` does not take for one. -/
def tidy (raw : Text) : Text :=
  trim (raw.map fun character => if character = '\u00A0' then ' ' else character)

/-- The columns that are left, from where the last one ended; the pairs are in
the order in which they are put into the map. -/
def readSections (header values : Text) :
    List Text → List String → Int → Option (List (String × Text))
  | [], _, _ => some []
  | _ :: _, [], _ => none
  | [_], mapName :: _, secStart => do
      let raw ← substring values secStart values.length
      return [(mapName, tidy raw)]
  | _ :: nextName :: colNames, mapName :: mapNames, secStart => do
      match ← sectionEnd header values nextName secStart with
      | none => return []
      | some secEnd =>
          let raw ← substring values secStart secEnd
          let later ← readSections header values (nextName :: colNames) mapNames secEnd
          return (mapName, tidy raw) :: later

/-- A header and one row of data; whatever has fewer lines is an empty map. -/
def mapSimpleTable (rawPacket : Text) (colNames : List Text) (mapNames : List String) :
    Option (List (String × Text)) :=
  match splitLines rawPacket with
  | header :: values :: _ => readSections (trim header) (trim values) colNames mapNames 0
  | _ => some []

/-- Values that are not quite under their names. -/
example :
    (mapSimpleTable
      ("Port      Name               Status       Vlan       Duplex  Speed Type\n" ++
        "Gi1/0/5                     connected     trunk    a-full a-1000 10/100/1000BaseTX").toList
      (["Port", "Name", "Status", "Vlan", "Duplex", "Speed", "Type"].map String.toList)
      ["interface", "name", "status", "vlan", "duplex", "speed", "type"]).map
        (List.map fun entry => (entry.1, String.ofList entry.2)) =
      some [("interface", "Gi1/0/5"), ("name", ""), ("status", "connected"), ("vlan", "trunk"),
        ("duplex", "a-full"), ("speed", "a-1000"), ("type", "10/100/1000BaseTX")] := by
  decide +kernel

end Daq.Usi
