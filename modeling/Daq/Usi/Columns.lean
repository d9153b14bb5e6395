import Daq.Usi.Table
import Mathlib.Data.List.DropRight

namespace Daq.Usi

/-! Tables whose cells stand under their names. -/

/-- The characters that `trim` drops. -/
def isBlank (character : Char) : Bool := character.toNat ≤ 0x20

/-- The characters of a cell; a non-breaking space is not one. -/
def isSolid (character : Char) : Bool :=
  !isWhitespace character && !isBlank character && character ≠ '\u00A0'

/-- A column with its cell of a row.  The cell is shorter than the column. -/
structure Column where
  name : Text
  cell : Text
  gap : Text
  solid : cell.all isSolid = true
  blank : gap.all (fun character => isWhitespace character && isBlank character) = true
  apart : gap ≠ []

namespace Column

variable (column : Column)

def width : Nat := column.cell.length + column.gap.length

theorem solid_mem {character : Char} (member : character ∈ column.cell) :
    isSolid character = true :=
  List.all_eq_true.mp column.solid character member

theorem gap_mem {character : Char} (member : character ∈ column.gap) :
    isWhitespace character = true ∧ isBlank character = true :=
  Bool.and_eq_true_iff.mp (List.all_eq_true.mp column.blank character member)

end Column

def row (columns : List Column) : Text :=
  columns.flatMap fun column => column.cell ++ column.gap

/-- Each name is first found where its column starts. -/
def Under (header : Text) : Nat → List Column → Prop
  | _, [] => True
  | start, column :: rest =>
      indexOf column.name header = start ∧ Under header (start + column.width) rest

/-- No column of one character comes before a cell that is neither empty nor
the last one. -/
def Parted : List Column → Prop
  | column :: next :: later :: rest =>
      (column.width = 1 → next.cell = []) ∧ Parted (next :: later :: rest)
  | _ => True

/-- The rows that are read as they stand. -/
def Clear (columns : List Column) : Prop :=
  (∀ last ∈ columns.getLast?, last.cell ≠ []) ∧ Parted columns

instance decidableUnder (header : Text) :
    (start : Nat) → (columns : List Column) → Decidable (Under header start columns)
  | _, [] => .isTrue trivial
  | start, column :: rest =>
      @instDecidableAnd _ _ _ (decidableUnder header (start + column.width) rest)

instance decidableParted : (columns : List Column) → Decidable (Parted columns)
  | [] => .isTrue trivial
  | [_] => .isTrue trivial
  | [_, _] => .isTrue trivial
  | _ :: next :: later :: rest =>
      @instDecidableAnd _ _ _ (decidableParted (next :: later :: rest))

instance : DecidablePred Clear := fun columns =>
  inferInstanceAs (Decidable ((∀ last ∈ columns.getLast?, last.cell ≠ []) ∧ Parted columns))

def Filled (columns : List Column) : Prop := ∃ column ∈ columns, column.cell ≠ []

section Characters

variable {character : Char}

theorem not_isWhitespace_of_isSolid (solid : isSolid character = true) :
    isWhitespace character = false := by
  simp only [isSolid, Bool.and_eq_true, Bool.not_eq_true'] at solid
  exact solid.1.1

theorem not_isBlank_of_isSolid (solid : isSolid character = true) :
    isBlank character = false := by
  simp only [isSolid, Bool.and_eq_true, Bool.not_eq_true'] at solid
  exact solid.1.2

theorem ne_nbsp_of_isSolid (solid : isSolid character = true) : character ≠ '\u00A0' := by
  simp only [isSolid, Bool.and_eq_true, decide_eq_true_eq] at solid
  exact solid.2

theorem ne_nbsp_of_isBlank (blank : isBlank character = true) : character ≠ '\u00A0' := by
  intro equal
  rw [equal] at blank
  cases blank

end Characters

namespace Column

variable (column : Column) {blanks : Text}

theorem cell_solid : ∀ character ∈ column.cell, isWhitespace character = false :=
  fun _ member => not_isWhitespace_of_isSolid (column.solid_mem member)

theorem gap_append_white (white : ∀ blank ∈ blanks, isWhitespace blank = true) :
    ∀ blank ∈ column.gap ++ blanks, isWhitespace blank = true := by
  intro blank member
  cases List.mem_append.mp member with
  | inl inGap => exact (column.gap_mem inGap).1
  | inr inBlanks => exact white blank inBlanks

theorem gap_append_ne_nil (blanks : Text) : column.gap ++ blanks ≠ [] :=
  fun empty => column.apart (List.append_eq_nil_iff.mp empty).1

theorem empty_of_narrow (narrow : column.width = 1) :
    ∃ blank, column.cell = [] ∧ column.gap = [blank] := by
  obtain ⟨blank, gap', gap⟩ := List.exists_cons_of_ne_nil column.apart
  rw [width, gap, List.length_cons] at narrow
  have cell : column.cell = [] := List.length_eq_zero_iff.mp (by omega)
  have rest : gap' = [] := List.length_eq_zero_iff.mp (by omega)
  exact ⟨blank, cell, by rw [gap, rest]⟩

end Column

/-! What is left of a text when the blanks at its end are dropped. -/

section Ends

variable {α : Type} {p : α → Bool} {front back : List α}

theorem rdropWhile_append_of_all (all : ∀ element ∈ back, p element = true) :
    (front ++ back).rdropWhile p = front.rdropWhile p := by
  rw [List.rdropWhile, List.reverse_append, List.dropWhile_append_of_pos]
  · rfl
  · intro element member
    exact all element (List.mem_reverse.mp member)

theorem rdropWhile_append_of_left (left : back.rdropWhile p ≠ []) :
    (front ++ back).rdropWhile p = front ++ back.rdropWhile p := by
  have kept : back.reverse.dropWhile p ≠ [] := fun empty => left (by rw [List.rdropWhile, empty]; rfl)
  rw [List.rdropWhile, List.rdropWhile, List.reverse_append, List.dropWhile_append, if_neg]
  · rw [List.reverse_append, List.reverse_reverse]
  · simpa using kept

theorem rdropWhile_of_not (solid : ∀ element ∈ front, p element = false) :
    front.rdropWhile p = front := by
  rw [List.rdropWhile_eq_self_iff]
  intro nonempty
  rw [solid _ (List.getLast_mem nonempty)]
  exact Bool.false_ne_true

end Ends

theorem trim_eq (text : Text) : trim text = (text.dropWhile isBlank).rdropWhile isBlank := rfl

/-- What is to be seen of a row. -/
def shown (columns : List Column) : Text := (row columns).rdropWhile isBlank

section Rows

variable {column : Column} {columns rest : List Column}

theorem row_cons : row (column :: rest) = column.cell ++ column.gap ++ row rest := rfl

theorem shown_eq_nil : shown columns = [] ↔ ¬ Filled columns := by
  rw [shown, List.rdropWhile_eq_nil_iff]
  constructor
  · rintro blank ⟨column, member, nonempty⟩
    obtain ⟨character, rest, cell⟩ := List.exists_cons_of_ne_nil nonempty
    have inCell : character ∈ column.cell := by simp [cell]
    have inRow : character ∈ row columns :=
      List.mem_flatMap.mpr ⟨column, member, List.mem_append_left _ inCell⟩
    have solid := not_isBlank_of_isSolid (column.solid_mem inCell)
    cases solid.symm.trans (blank character inRow)
  · intro unfilled character member
    obtain ⟨column, inColumns, inColumn⟩ := List.mem_flatMap.mp member
    cases List.mem_append.mp inColumn with
    | inl inCell => exact absurd ⟨column, inColumns, List.ne_nil_of_mem inCell⟩ unfilled
    | inr inGap => exact (column.gap_mem inGap).2

theorem shown_cons_of_filled (filled : Filled rest) :
    shown (column :: rest) = column.cell ++ column.gap ++ shown rest := by
  rw [shown, row_cons, rdropWhile_append_of_left]
  · rfl
  · exact fun empty => shown_eq_nil.mp empty filled

theorem shown_cons_of_not_filled (unfilled : ¬ Filled rest) :
    shown (column :: rest) = column.cell := by
  rw [shown, row_cons, List.append_assoc, rdropWhile_append_of_all, rdropWhile_of_not]
  · exact fun _ member => not_isBlank_of_isSolid (column.solid_mem member)
  · intro character member
    cases List.mem_append.mp member with
    | inl inGap => exact (column.gap_mem inGap).2
    | inr inRest => exact List.rdropWhile_eq_nil_iff.mp (shown_eq_nil.mpr unfilled) _ inRest

theorem filled_cons : Filled (column :: rest) ↔ column.cell ≠ [] ∨ Filled rest := by
  simp [Filled]

theorem trim_row (first : column.cell ≠ []) :
    trim (row (column :: rest)) = shown (column :: rest) := by
  obtain ⟨character, cell, split⟩ := List.exists_cons_of_ne_nil first
  have solid : isSolid character = true := column.solid_mem (by simp [split])
  rw [trim_eq, shown, row_cons, split, List.cons_append, List.cons_append,
    List.dropWhile_cons_of_neg]
  simp [not_isBlank_of_isSolid solid]

theorem exists_shown_of_cell (nonempty : column.cell ≠ []) :
    ∃ character tail, shown (column :: rest) = character :: tail ∧
      isWhitespace character = false := by
  obtain ⟨character, cell, split⟩ := List.exists_cons_of_ne_nil nonempty
  have solid : isSolid character = true := column.solid_mem (by simp [split])
  refine ⟨character, ?_⟩
  by_cases filled : Filled rest
  · rw [shown_cons_of_filled filled, split, List.cons_append, List.cons_append]
    exact ⟨_, rfl, not_isWhitespace_of_isSolid solid⟩
  · rw [shown_cons_of_not_filled filled, split]
    exact ⟨_, rfl, not_isWhitespace_of_isSolid solid⟩

/-- What is shown of a row begins with whitespace if the first cell is empty,
and then with a cell. -/
theorem exists_shown_of_filled (filled : Filled (column :: rest)) :
    ∃ blanks character tail, shown (column :: rest) = blanks ++ character :: tail ∧
      (∀ blank ∈ blanks, isWhitespace blank = true) ∧ isWhitespace character = false ∧
      (blanks = [] → column.cell ≠ []) := by
  by_cases nonempty : column.cell = []
  · induction rest generalizing column with
    | nil => simp [Filled, nonempty] at filled
    | cons next rest later =>
        have behind : Filled (next :: rest) :=
          (filled_cons.mp filled).resolve_left (not_not_intro nonempty)
        have next_shown : ∃ blanks character tail,
            shown (next :: rest) = blanks ++ character :: tail ∧
              (∀ blank ∈ blanks, isWhitespace blank = true) ∧ isWhitespace character = false := by
          by_cases empty : next.cell = []
          · obtain ⟨blanks, character, tail, split, white, solid, _⟩ := later behind empty
            exact ⟨blanks, character, tail, split, white, solid⟩
          · obtain ⟨character, tail, split, solid⟩ := exists_shown_of_cell empty
            exact ⟨[], character, tail, split, List.forall_mem_nil _, solid⟩
        obtain ⟨blanks, character, tail, split, white, solid⟩ := next_shown
        refine ⟨column.gap ++ blanks, character, tail, ?_, column.gap_append_white white, solid,
          fun empty => absurd empty (column.gap_append_ne_nil blanks)⟩
        rw [shown_cons_of_filled behind, nonempty, split, List.nil_append, List.append_assoc]
  · obtain ⟨character, tail, split, solid⟩ := exists_shown_of_cell nonempty
    exact ⟨[], character, tail, split, List.forall_mem_nil _, solid, fun _ => nonempty⟩

end Rows

/-! How a text is looked through. -/

section Scans

variable {front middle back word blanks tail values : Text} {character : Char}

theorem charAt_append (front tail : Text) (character : Char) :
    charAt (front ++ character :: tail) front.length = some character := by
  simp [charAt]

theorem charAt_beyond {text : Text} {index : Int} (beyond : text.length ≤ index) :
    charAt text index = none := by
  unfold charAt
  split
  · exact List.getElem?_eq_none (by omega)
  · rfl

theorem substring_append (front middle back : Text) :
    substring (front ++ middle ++ back) front.length (front.length + middle.length) =
      some middle := by
  have within : (0 : Int) ≤ front.length ∧ (front.length : Int) ≤ front.length + middle.length ∧
      (front.length : Int) + middle.length ≤ (front ++ middle ++ back).length := by
    simp only [List.length_append]
    omega
  have length : ((front.length : Int) + middle.length - front.length).toNat = middle.length := by
    omega
  rw [substring, if_pos within, length, Int.toNat_natCast, List.append_assoc, List.drop_left,
    List.take_left]

theorem substring_from (front middle : Text) :
    substring (front ++ middle) front.length (front ++ middle).length = some middle := by
  have whole := substring_append front middle []
  rw [List.append_nil] at whole
  rw [List.length_append]
  exact whole

theorem mem_of_substring {raw : Text} {first : Char} {secEnd : Int}
    (within : substring (front ++ first :: character :: tail) front.length secEnd = some raw)
    (beyond : (front.length + 1 : Int) < secEnd) : character ∈ raw := by
  unfold substring at within
  split at within
  · obtain ⟨count, two⟩ : ∃ count, (secEnd - (front.length : Int)).toNat = count + 2 :=
      ⟨(secEnd - (front.length : Int)).toNat - 2, by omega⟩
    rw [Int.toNat_natCast, List.drop_left, two] at within
    cases within
    simp
  · cases within

theorem getFirstWhiteSpace_append (solid : ∀ other ∈ word, isWhitespace other = false)
    (white : isWhitespace character = true) :
    getFirstWhiteSpace (word ++ character :: tail) = word.length := by
  have found : (word ++ character :: tail).findIdx? isWhitespace = some word.length := by
    rw [List.findIdx?_append, List.findIdx?_eq_none_iff.mpr solid]
    simp [List.findIdx?_cons, white]
  rw [getFirstWhiteSpace, found]

theorem getFirstWhiteSpace_of_solid (solid : ∀ other ∈ word, isWhitespace other = false) :
    getFirstWhiteSpace word = -1 := by
  rw [getFirstWhiteSpace, List.findIdx?_eq_none_iff.mpr solid]

theorem nonWhitespaceFrom_append {index : Nat}
    (white : ∀ other ∈ blanks, isWhitespace other = true)
    (solid : isWhitespace character = false) :
    nonWhitespaceFrom true index (blanks ++ character :: tail) = index + blanks.length := by
  induction blanks generalizing index with
  | nil => simp [nonWhitespaceFrom, solid]
  | cons blank blanks later =>
      have first : isWhitespace blank = true := white blank List.mem_cons_self
      have rest : nonWhitespaceFrom true (index + 1) (blanks ++ character :: tail) =
          (index + 1 : Nat) + blanks.length :=
        later fun other member => white other (List.mem_cons_of_mem blank member)
      rw [List.cons_append, nonWhitespaceFrom, if_pos first, rest, List.length_cons]
      omega

theorem getIndexOfNonWhitespaceAfterWhitespace_append (nonempty : blanks ≠ [])
    (white : ∀ other ∈ blanks, isWhitespace other = true)
    (solid : isWhitespace character = false) :
    getIndexOfNonWhitespaceAfterWhitespace (blanks ++ character :: tail) = blanks.length := by
  obtain ⟨blank, rest, rfl⟩ := List.exists_cons_of_ne_nil nonempty
  have first : isWhitespace blank = true := white blank List.mem_cons_self
  rw [getIndexOfNonWhitespaceAfterWhitespace, List.cons_append, nonWhitespaceFrom, if_pos first,
    nonWhitespaceFrom_append (fun other member => white other (List.mem_cons_of_mem blank member))
      solid, List.length_cons]
  omega

end Scans

/-- `sectionEnd` when it is known where the values of the column begin. -/
def sectionEndFrom (values : Text) (nextHeaderStart lastSectionEnd : Int) :
    Option (Option Int) := do
  let fromSection ← substring values lastSectionEnd values.length
  let firstWhiteSpace := getFirstWhiteSpace fromSection + lastSectionEnd
  if firstWhiteSpace < 0 then
    return none
  let fromWhiteSpace ← substring values firstWhiteSpace values.length
  let lastWhiteSpace := getIndexOfNonWhitespaceAfterWhitespace fromWhiteSpace + firstWhiteSpace
  if firstWhiteSpace ≤ nextHeaderStart ∧ nextHeaderStart ≤ lastWhiteSpace then
    return some nextHeaderStart
  let beforeHead ← charAt values (nextHeaderStart - 1)
  return some (if isWhitespace beforeHead then max lastWhiteSpace nextHeaderStart
    else lastWhiteSpace)

section Sections

variable {header nextName before word blanks tail : Text} {character first : Char}
variable {nextHeaderStart : Int}

theorem sectionEnd_of_solid (solid : isWhitespace first = false) :
    sectionEnd header (before ++ first :: tail) nextName before.length =
      sectionEndFrom (before ++ first :: tail) (indexOf nextName header) before.length := by
  rw [sectionEnd, charAt_append]
  simp only [Option.bind_eq_bind, Option.bind_some, solid, Bool.false_eq_true, false_and,
    if_false]
  rfl

theorem sectionEnd_of_white (white : isWhitespace first = true)
    (behind : (before.length : Int) < indexOf nextName header) :
    sectionEnd header (before ++ first :: tail) nextName before.length =
      sectionEndFrom (before ++ [first] ++ tail) (indexOf nextName header)
        (before ++ [first]).length := by
  have next : ((before ++ [first]).length : Int) = before.length + 1 := by simp
  rw [sectionEnd, charAt_append, next, List.append_assoc, List.singleton_append]
  simp only [Option.bind_eq_bind, Option.bind_some, white, behind, and_self, if_true]
  rfl

/-- A cell, and whitespace up to another one. -/
theorem sectionEndFrom_word (solid : ∀ other ∈ word, isWhitespace other = false)
    (nonempty : blanks ≠ []) (white : ∀ other ∈ blanks, isWhitespace other = true)
    (next : isWhitespace character = false) :
    sectionEndFrom (before ++ (word ++ (blanks ++ character :: tail))) nextHeaderStart
        before.length =
      if (before.length + word.length : Int) ≤ nextHeaderStart ∧
          nextHeaderStart ≤ before.length + word.length + blanks.length then
        some (some nextHeaderStart)
      else
        (charAt (before ++ (word ++ (blanks ++ character :: tail))) (nextHeaderStart - 1)).bind
          fun beforeHead =>
            some (some (if isWhitespace beforeHead then
              max (before.length + word.length + blanks.length : Int) nextHeaderStart
            else (before.length + word.length + blanks.length : Int))) := by
  obtain ⟨blank, rest, rfl⟩ := List.exists_cons_of_ne_nil nonempty
  have blank_white : isWhitespace blank = true := white blank List.mem_cons_self
  have firstWhiteSpace : getFirstWhiteSpace (word ++ (blank :: rest ++ character :: tail)) +
      before.length = ((before ++ word).length : Nat) := by
    rw [List.cons_append, getFirstWhiteSpace_append solid blank_white, List.length_append]
    omega
  have lastWhiteSpace :
      getIndexOfNonWhitespaceAfterWhitespace (blank :: rest ++ character :: tail) +
        ((before ++ word).length : Nat) =
      before.length + word.length + (blank :: rest).length := by
    rw [getIndexOfNonWhitespaceAfterWhitespace_append nonempty white next, List.length_append]
    omega
  have fromWhiteSpace : substring (before ++ (word ++ (blank :: rest ++ character :: tail)))
      ((before ++ word).length : Nat)
      (before ++ (word ++ (blank :: rest ++ character :: tail))).length =
        some (blank :: rest ++ character :: tail) := by
    rw [← List.append_assoc before word]
    exact substring_from _ _
  have seen : ¬ (((before ++ word).length : Nat) : Int) < 0 := by omega
  have length : (((before ++ word).length : Nat) : Int) = before.length + word.length := by
    rw [List.length_append]
    omega
  rw [sectionEndFrom, substring_from]
  simp only [Option.bind_eq_bind, Option.bind_some, firstWhiteSpace, fromWhiteSpace,
    lastWhiteSpace, if_neg seen]
  rw [length]
  rfl

/-- The last cell; what is taken for whitespace is the character before it. -/
theorem sectionEndFrom_last {blank : Char} (nonempty : word ≠ [])
    (solid : ∀ other ∈ word, isWhitespace other = false) (white : isWhitespace blank = true) :
    sectionEndFrom (before ++ [blank] ++ word) nextHeaderStart (before ++ [blank]).length =
      if (before.length : Int) ≤ nextHeaderStart ∧ nextHeaderStart ≤ before.length + 1 then
        some (some nextHeaderStart)
      else
        (charAt (before ++ [blank] ++ word) (nextHeaderStart - 1)).bind fun beforeHead =>
          some (some (if isWhitespace beforeHead then
            max (before.length + 1 : Int) nextHeaderStart else (before.length + 1 : Int))) := by
  obtain ⟨character, rest, rfl⟩ := List.exists_cons_of_ne_nil nonempty
  have firstWhiteSpace : getFirstWhiteSpace (character :: rest) + (before ++ [blank]).length =
      before.length := by
    rw [getFirstWhiteSpace_of_solid solid, List.length_append, List.length_singleton]
    omega
  have lastWhiteSpace :
      getIndexOfNonWhitespaceAfterWhitespace ([blank] ++ character :: rest) + before.length =
        before.length + 1 := by
    rw [getIndexOfNonWhitespaceAfterWhitespace_append (List.cons_ne_nil blank [])
      (by simpa using white) (solid character List.mem_cons_self), List.length_singleton]
    omega
  have fromWhiteSpace : substring (before ++ [blank] ++ character :: rest) before.length
      (before ++ [blank] ++ character :: rest).length = some ([blank] ++ character :: rest) := by
    rw [List.append_assoc]
    exact substring_from _ _
  have seen : ¬ (before.length : Int) < 0 := by omega
  rw [sectionEndFrom, substring_from]
  simp only [Option.bind_eq_bind, Option.bind_some, firstWhiteSpace, fromWhiteSpace,
    lastWhiteSpace, if_neg seen]
  rfl

theorem sectionEndFrom_only (solid : ∀ other ∈ word, isWhitespace other = false) :
    sectionEndFrom word nextHeaderStart 0 = some none := by
  have whole : substring word 0 word.length = some word := substring_from [] word
  rw [sectionEndFrom, whole]
  simp only [Option.bind_eq_bind, Option.bind_some, getFirstWhiteSpace_of_solid solid]
  rfl

end Sections

section Tidying

variable {raw word gap : Text}

theorem map_of_no_nbsp (absent : ∀ character ∈ raw, character ≠ '\u00A0') :
    (raw.map fun character => if character = '\u00A0' then ' ' else character) = raw := by
  apply (List.map_congr_left _).trans raw.map_id
  intro character member
  rw [if_neg (absent character member), id]

theorem tidy_append (solid : ∀ character ∈ word, isSolid character = true)
    (blank : ∀ character ∈ gap, isBlank character = true) : tidy (word ++ gap) = word := by
  have absent : ∀ character ∈ word ++ gap, character ≠ '\u00A0' := by
    intro character member
    cases List.mem_append.mp member with
    | inl inWord => exact ne_nbsp_of_isSolid (solid character inWord)
    | inr inGap => exact ne_nbsp_of_isBlank (blank character inGap)
  have seen : ∀ character ∈ word, isBlank character = false :=
    fun character member => not_isBlank_of_isSolid (solid character member)
  rw [tidy, map_of_no_nbsp absent, trim_eq]
  cases word with
  | nil =>
      rw [List.nil_append, List.dropWhile_eq_nil_iff.mpr blank]
      rfl
  | cons first rest =>
      rw [List.cons_append, List.dropWhile_cons_of_neg (by simp [seen first]), ← List.cons_append,
        rdropWhile_append_of_all blank, rdropWhile_of_not seen]

theorem tidy_ne_nil {character : Char} (member : character ∈ raw)
    (solid : isSolid character = true) : tidy raw ≠ [] := by
  intro empty
  rw [tidy, trim_eq, List.rdropWhile_eq_nil_iff] at empty
  have kept : character ∈
      raw.map fun character => if character = '\u00A0' then ' ' else character := by
    refine List.mem_map.mpr ⟨character, member, ?_⟩
    rw [if_neg (ne_nbsp_of_isSolid solid)]
  have blank : isBlank character = true := by
    rw [← List.takeWhile_append_dropWhile (p := isBlank) (l := raw.map _)] at kept
    cases List.mem_append.mp kept with
    | inl taken => exact List.mem_takeWhile_imp taken
    | inr dropped => exact empty character dropped
  cases (not_isBlank_of_isSolid solid).symm.trans blank

end Tidying

/-- A section begins at the start of the line, with a cell, or behind whitespace. -/
def Begun (front : Text) (column : Column) : Prop :=
  front = [] ∧ column.cell ≠ [] ∨
    ∃ before blank, front = before ++ [blank] ∧ isWhitespace blank = true

section Steps

variable {header front : Text} {column next : Column} {rest : List Column}

/-- The section of a cell ends where the next column starts. -/
theorem sectionEnd_of_cell (nonempty : column.cell ≠ []) (filled : Filled (next :: rest))
    (found : indexOf next.name header = (front.length + column.width : Nat)) :
    sectionEnd header (front ++ shown (column :: next :: rest)) next.name front.length =
      some (some ((front.length + column.width : Nat) : Int)) := by
  obtain ⟨blanks, character, tail, split, white, solid, _⟩ := exists_shown_of_filled filled
  obtain ⟨first, cell', cell⟩ := List.exists_cons_of_ne_nil nonempty
  have text : shown (column :: next :: rest) =
      column.cell ++ (column.gap ++ blanks ++ character :: tail) := by
    rw [shown_cons_of_filled filled, split]
    simp only [List.append_assoc]
  have begins : shown (column :: next :: rest) =
      first :: (cell' ++ (column.gap ++ blanks ++ character :: tail)) := by
    rw [text, cell, List.cons_append]
  rw [begins, sectionEnd_of_solid (column.cell_solid first (by simp [cell])), ← begins, text,
    sectionEndFrom_word column.cell_solid (column.gap_append_ne_nil blanks)
      (column.gap_append_white white) solid, found, if_pos]
  rw [Column.width, List.length_append]
  omega

/-- The section of an empty cell ends where the next column starts, unless the
column is of one character and there is a cell right behind it, and more. -/
theorem sectionEnd_of_empty (empty : column.cell = []) (filled : Filled (next :: rest))
    (wide : column.width = 1 → next.cell ≠ [] → ¬ Filled rest)
    (found : indexOf next.name header = (front.length + column.width : Nat)) :
    sectionEnd header (front ++ shown (column :: next :: rest)) next.name front.length =
      some (some ((front.length + column.width : Nat) : Int)) := by
  obtain ⟨first, gap', gap⟩ := List.exists_cons_of_ne_nil column.apart
  have gap_white : ∀ other ∈ column.gap, isWhitespace other = true :=
    fun other member => (column.gap_mem member).1
  have width : column.width = gap'.length + 1 := by
    rw [Column.width, empty, gap, List.length_cons, List.length_nil, Nat.zero_add]
  have behind : (front.length : Int) < indexOf next.name header := by
    rw [found, width]
    omega
  have begins : shown (column :: next :: rest) = first :: (gap' ++ shown (next :: rest)) := by
    rw [shown_cons_of_filled filled, empty, gap, List.nil_append, List.cons_append]
  rw [begins, sectionEnd_of_white (gap_white first (by simp [gap])) behind, found, width]
  by_cases narrow : gap' = [] ∧ next.cell ≠ []
  · have last : ¬ Filled rest := wide (by rw [width, narrow.1]; rfl) narrow.2
    rw [narrow.1, List.nil_append, shown_cons_of_not_filled last,
      sectionEndFrom_last narrow.2 next.cell_solid (gap_white first (by simp [gap])), if_pos]
    rw [List.length_nil]
    omega
  · obtain ⟨blanks, character, tail, split, white, solid, cell_of_nil⟩ :=
      exists_shown_of_filled filled
    have blanks_white : ∀ other ∈ gap' ++ blanks, isWhitespace other = true := by
      intro other member
      cases List.mem_append.mp member with
      | inl inGap => exact gap_white other (by simp [gap, inGap])
      | inr inBlanks => exact white other inBlanks
    have blanks_nonempty : gap' ++ blanks ≠ [] := by
      intro nil
      obtain ⟨gap_nil, blanks_nil⟩ := List.append_eq_nil_iff.mp nil
      exact narrow ⟨gap_nil, cell_of_nil blanks_nil⟩
    have text : gap' ++ shown (next :: rest) = [] ++ (gap' ++ blanks ++ character :: tail) := by
      rw [split, List.nil_append, List.append_assoc]
    rw [text, sectionEndFrom_word (List.forall_mem_nil _) blanks_nonempty blanks_white
      solid, if_pos]
    rw [List.length_append, List.length_append, List.length_singleton, List.length_nil]
    omega

/-- The section of a column of one character reaches beyond the cell right
behind it, if there is more. -/
theorem sectionEnd_of_narrow (narrow : column.width = 1) (nonempty : next.cell ≠ [])
    (filled : Filled rest)
    (found : indexOf next.name header = (front.length + column.width : Nat)) :
    ∃ secEnd, sectionEnd header (front ++ shown (column :: next :: rest)) next.name
      front.length = some (some secEnd) ∧ (front.length + 1 : Int) < secEnd := by
  obtain ⟨blank, empty, gap⟩ := column.empty_of_narrow narrow
  obtain ⟨later, more, rfl⟩ : ∃ later more, rest = later :: more := by
    obtain ⟨later, member, _⟩ := filled
    exact List.exists_cons_of_ne_nil (List.ne_nil_of_mem member)
  obtain ⟨blanks, character, tail, split, white, solid, _⟩ := exists_shown_of_filled filled
  have blank_white : isWhitespace blank = true := (column.gap_mem (by simp [gap])).1
  have behind : (front.length : Int) < indexOf next.name header := by
    rw [found, narrow]
    omega
  have begins : shown (column :: next :: later :: more) =
      blank :: (next.cell ++ (next.gap ++ blanks ++ character :: tail)) := by
    rw [shown_cons_of_filled (filled_cons.mpr (.inl nonempty)), shown_cons_of_filled filled, empty,
      gap, split]
    simp only [List.nil_append, List.singleton_append, List.append_assoc]
  have beforeHead : charAt
      (front ++ [blank] ++ (next.cell ++ (next.gap ++ blanks ++ character :: tail)))
      (((front.length + 1 : Nat) : Int) - 1) = some blank := by
    have index : ((front.length + 1 : Nat) : Int) - 1 = front.length := by omega
    rw [index, List.append_assoc, List.singleton_append, charAt_append]
  have positive : 0 < next.cell.length := List.length_pos_iff.mpr nonempty
  rw [begins, sectionEnd_of_white blank_white behind, found, narrow,
    sectionEndFrom_word next.cell_solid (next.gap_append_ne_nil blanks)
      (next.gap_append_white white) solid, if_neg, beforeHead]
  · refine ⟨_, rfl, ?_⟩
    rw [if_pos blank_white, List.length_append, List.length_singleton]
    omega
  · rw [List.length_append, List.length_singleton]
    omega

/-- Behind the last cell no section ends. -/
theorem sectionEnd_of_last (begun : Begun front column) (nonempty : column.cell ≠ [])
    (last : ¬ Filled (next :: rest))
    (found : indexOf next.name header = (front.length + column.width : Nat)) :
    sectionEnd header (front ++ shown (column :: next :: rest)) next.name front.length = none ∨
      sectionEnd header (front ++ shown (column :: next :: rest)) next.name front.length =
        some none := by
  obtain ⟨first, cell', cell⟩ := List.exists_cons_of_ne_nil nonempty
  have gap_positive : 0 < column.gap.length := List.length_pos_iff.mpr column.apart
  have cell_positive : 0 < column.cell.length := List.length_pos_iff.mpr nonempty
  rw [shown_cons_of_not_filled last, cell, sectionEnd_of_solid
    (column.cell_solid first (by simp [cell])), ← cell, found]
  rcases begun with ⟨rfl, _⟩ | ⟨before, blank, rfl, white⟩
  · exact .inr (sectionEndFrom_only column.cell_solid)
  · left
    rw [sectionEndFrom_last nonempty column.cell_solid white, if_neg, charAt_beyond]
    · rfl
    · simp only [Column.width, List.length_append, List.length_singleton]
      omega
    · simp only [Column.width, List.length_append, List.length_singleton]
      omega

end Steps

/-! A row is read as it stands if and only if it is clear. -/

section Reading

variable {header front values : Text} {column next : Column} {rest : List Column}
variable {mapNames : List String} {mapName : String}

theorem clear_cons (wide : column.width = 1 → next.cell ≠ [] → ¬ Filled rest) :
    Clear (column :: next :: rest) ↔ Clear (next :: rest) := by
  cases rest with
  | nil => simp [Clear, Parted]
  | cons later more =>
      have last : (column :: next :: later :: more).getLast? =
          (next :: later :: more).getLast? := by simp
      rw [Clear, Clear, last]
      constructor
      · exact fun clear => ⟨clear.1, clear.2.2⟩
      · intro clear
        refine ⟨clear.1, fun narrow => ?_, clear.2⟩
        by_contra nonempty
        apply wide narrow nonempty
        have member : (later :: more).getLast (List.cons_ne_nil later more) ∈ later :: more :=
          List.getLast_mem _
        exact ⟨_, member, clear.1 _ (by simp [List.getLast?_eq_some_getLast])⟩

theorem not_clear_of_narrow (narrow : column.width = 1) (nonempty : next.cell ≠ [])
    (filled : Filled rest) : ¬ Clear (column :: next :: rest) := by
  obtain ⟨later, more, rfl⟩ : ∃ later more, rest = later :: more := by
    obtain ⟨later, member, _⟩ := filled
    exact List.exists_cons_of_ne_nil (List.ne_nil_of_mem member)
  exact fun clear => nonempty (clear.2.1 narrow)

theorem not_clear_of_last (last : ¬ Filled (next :: rest)) : ¬ Clear (column :: next :: rest) := by
  intro clear
  have member : (next :: rest).getLast (List.cons_ne_nil next rest) ∈ next :: rest :=
    List.getLast_mem _
  exact last ⟨_, member, clear.1 _ (by simp [List.getLast?_eq_some_getLast])⟩

theorem readSections_of_none {names : List Text} {lastSectionEnd : Int}
    (ends : sectionEnd header values next.name lastSectionEnd = none ∨
      sectionEnd header values next.name lastSectionEnd = some none)
    (cells : List (String × Text)) :
    readSections header values (column.name :: next.name :: names) (mapName :: mapNames)
      lastSectionEnd ≠ some ((mapName, column.cell) :: cells) := by
  intro read
  cases ends with
  | inl ends => simp [readSections, ends] at read
  | inr ends => simp [readSections, ends] at read

theorem readSections_of_some {names : List Text} {lastSectionEnd secEnd : Int} {raw : Text}
    (ends : sectionEnd header values next.name lastSectionEnd = some (some secEnd))
    (within : substring values lastSectionEnd secEnd = some raw) (cells : List (String × Text)) :
    readSections header values (column.name :: next.name :: names) (mapName :: mapNames)
        lastSectionEnd = some ((mapName, column.cell) :: cells) ↔
      tidy raw = column.cell ∧
        readSections header values (next.name :: names) mapNames secEnd = some cells := by
  simp only [readSections, ends, within, Option.bind_eq_bind, Option.bind_some]
  cases readSections header values (next.name :: names) mapNames secEnd with
  | none => simp
  | some later => simp

/-- A column that has been given more than its own cell is not read as it stands. -/
theorem readSections_of_narrow {names : List Text} {secEnd : Int} (narrow : column.width = 1)
    (nonempty : next.cell ≠ []) (filled : Filled rest)
    (ends : sectionEnd header (front ++ shown (column :: next :: rest)) next.name front.length =
      some (some secEnd))
    (beyond : (front.length + 1 : Int) < secEnd) (cells : List (String × Text)) :
    readSections header (front ++ shown (column :: next :: rest)) (column.name :: next.name :: names)
      (mapName :: mapNames) front.length ≠ some ((mapName, column.cell) :: cells) := by
  obtain ⟨blank, empty, gap⟩ := column.empty_of_narrow narrow
  obtain ⟨first, cell', cell⟩ := List.exists_cons_of_ne_nil nonempty
  have begins : shown (column :: next :: rest) =
      blank :: first :: (cell' ++ (next.gap ++ shown rest)) := by
    rw [shown_cons_of_filled (filled_cons.mpr (.inl nonempty)), shown_cons_of_filled filled, empty,
      gap, cell]
    simp only [List.nil_append, List.cons_append, List.append_assoc]
  cases within : substring (front ++ shown (column :: next :: rest)) front.length secEnd with
  | none => simp [readSections, ends, within]
  | some raw =>
      rw [Ne, readSections_of_some ends within, empty]
      rintro ⟨tidied, _⟩
      rw [begins] at within
      have solid : isSolid first = true := next.solid_mem (by simp [cell])
      exact tidy_ne_nil (mem_of_substring within beyond) solid tidied

theorem tidy_cell (gap : Text) (blank : ∀ character ∈ gap, isBlank character = true) :
    tidy (column.cell ++ gap) = column.cell :=
  tidy_append (fun _ member => column.solid_mem member) blank

theorem begun_behind {blanks : Text} (nonempty : blanks ≠ [])
    (white : ∀ other ∈ blanks, isWhitespace other = true) :
    Begun (front ++ column.cell ++ blanks) next := by
  right
  refine ⟨front ++ column.cell ++ blanks.dropLast, blanks.getLast nonempty, ?_,
    white _ (List.getLast_mem nonempty)⟩
  rw [List.append_assoc _ blanks.dropLast, List.dropLast_append_getLast]

/-- The columns that are left are read as they stand if and only if they are clear. -/
theorem readSections_iff (under : Under header front.length (column :: rest))
    (begun : Begun front column) (filled : Filled (column :: rest))
    (named : (column :: rest).length ≤ mapNames.length) :
    readSections header (front ++ shown (column :: rest)) ((column :: rest).map Column.name)
        mapNames front.length =
      some (mapNames.zip ((column :: rest).map Column.cell)) ↔ Clear (column :: rest) := by
  induction rest generalizing column front mapNames with
  | nil =>
      obtain ⟨mapName, mapNames, rfl⟩ : ∃ mapName names, mapNames = mapName :: names :=
        List.exists_cons_of_length_pos named
      have nonempty : column.cell ≠ [] := by simpa [Filled] using filled
      have whole : shown [column] = column.cell := shown_cons_of_not_filled (by simp [Filled])
      have tidied : tidy (column.cell ++ []) = column.cell :=
        tidy_cell [] (List.forall_mem_nil _)
      rw [List.append_nil] at tidied
      have clear : Clear [column] := ⟨by simpa using nonempty, trivial⟩
      simp only [List.map_cons, List.map_nil, List.zip_cons_cons, List.zip_nil_right,
        readSections, whole, substring_from, Option.bind_eq_bind, Option.bind_some, tidied, clear]
      exact iff_of_true rfl trivial
  | cons next rest later =>
      obtain ⟨mapName, mapNames, rfl⟩ : ∃ mapName names, mapNames = mapName :: names :=
        List.exists_cons_of_length_pos (Nat.lt_of_lt_of_le (Nat.succ_pos _) named)
      have found : indexOf next.name header = (front.length + column.width : Nat) := under.2.1
      simp only [List.map_cons, List.zip_cons_cons]
      by_cases behind : Filled (next :: rest)
      · by_cases wide : column.width = 1 → next.cell ≠ [] → ¬ Filled rest
        · have ends : sectionEnd header (front ++ shown (column :: next :: rest)) next.name
              front.length = some (some ((front.length + column.width : Nat) : Int)) := by
            by_cases empty : column.cell = []
            · exact sectionEnd_of_empty empty behind wide found
            · exact sectionEnd_of_cell empty behind found
          have text : front ++ shown (column :: next :: rest) =
              front ++ column.cell ++ column.gap ++ shown (next :: rest) := by
            rw [shown_cons_of_filled behind]
            simp only [List.append_assoc]
          have length : (front ++ column.cell ++ column.gap).length =
              front.length + column.width := by
            rw [List.length_append, List.length_append, Column.width, Nat.add_assoc]
          have within : substring (front ++ shown (column :: next :: rest)) front.length
              ((front.length + column.width : Nat) : Int) = some (column.cell ++ column.gap) := by
            rw [text, List.append_assoc front, Int.natCast_add, Column.width, ← List.length_append]
            exact substring_append _ _ _
          have tidied : tidy (column.cell ++ column.gap) = column.cell :=
            tidy_cell column.gap fun _ member => (column.gap_mem member).2
          have onward := later (length.symm ▸ under.2)
            (begun_behind column.apart fun _ member => (column.gap_mem member).1) behind
            (Nat.le_of_succ_le_succ named)
          rw [length, ← text] at onward
          rw [readSections_of_some ends within, clear_cons wide, ← onward]
          exact and_iff_right tidied
        · push Not at wide
          obtain ⟨narrow, nonempty, more⟩ := wide
          obtain ⟨secEnd, ends, beyond⟩ := sectionEnd_of_narrow narrow nonempty more found
          exact iff_of_false (readSections_of_narrow narrow nonempty more ends beyond _)
            (not_clear_of_narrow narrow nonempty more)
      · have nonempty : column.cell ≠ [] := (filled_cons.mp filled).resolve_right behind
        exact iff_of_false (readSections_of_none (sectionEnd_of_last begun nonempty behind found) _)
          (not_clear_of_last behind)

/-- A row under its header is mapped as it stands if and only if it is clear. -/
theorem mapSimpleTable_iff {rawPacket : Text} {lines : List Text} {first : Column}
    {others : List Column} (split : splitLines rawPacket = header :: values :: lines)
    (under : Under (trim header) 0 (first :: others))
    (lined : trim values = trim (row (first :: others))) (filled : first.cell ≠ [])
    (named : (first :: others).length ≤ mapNames.length) :
    mapSimpleTable rawPacket ((first :: others).map Column.name) mapNames =
      some (mapNames.zip ((first :: others).map Column.cell)) ↔ Clear (first :: others) := by
  have read := @readSections_iff (trim header) [] first others mapNames under (.inl ⟨rfl, filled⟩)
    (filled_cons.mpr (.inl filled)) named
  rw [List.nil_append, ← trim_row filled, ← lined] at read
  rw [mapSimpleTable, split]
  exact read

end Reading

/-! The status of an interface. -/

namespace InterfaceStatus

theorem spaces_blank (count : Nat) :
    (List.replicate count ' ').all (fun character => isWhitespace character && isBlank character) =
      true := by
  rw [List.all_replicate]
  split <;> rfl

theorem spaces_ne_nil {shorter width : Nat} (less : shorter < width) :
    List.replicate (width - shorter) ' ' ≠ [] := by
  rw [Ne, List.replicate_eq_nil_iff]
  omega

def padded (name cell : String) (width : Nat) (solid : cell.toList.all isSolid = true)
    (shorter : cell.toList.length < width) : Column where
  name := name.toList
  cell := cell.toList
  gap := List.replicate (width - cell.toList.length) ' '
  solid := solid
  blank := spaces_blank _
  apart := spaces_ne_nil shorter

def port : Column := padded "Port" "Gi1/0/5" 10 rfl (Nat.le_of_ble_eq_true rfl)

/-- The columns behind the port's, with what there is of a type. -/
def others (type : Column) : List Column :=
  [padded "Name" "" 19 rfl (Nat.le_of_ble_eq_true rfl),
    padded "Status" "connected" 13 rfl (Nat.le_of_ble_eq_true rfl),
    padded "Vlan" "trunk" 11 rfl (Nat.le_of_ble_eq_true rfl),
    padded "Duplex" "a-full" 8 rfl (Nat.le_of_ble_eq_true rfl),
    padded "Speed" "a-100" 6 rfl (Nat.le_of_ble_eq_true rfl), type]

def typed : Column := padded "Type" "10/100BaseTX" 18 rfl (Nat.le_of_ble_eq_true rfl)

def typeless : Column := padded "Type" "" 18 rfl (Nat.le_of_ble_eq_true rfl)

def header : Text :=
  "Port      Name               Status       Vlan       Duplex  Speed Type".toList

def values : Text :=
  "Gi1/0/5                      connected    trunk      a-full  a-100".toList

def mapNames : List String := ["interface", "name", "status", "vlan", "duplex", "speed", "type"]

theorem typed_mapped :
    mapSimpleTable (header ++ '\n' :: (values ++ " 10/100BaseTX".toList))
        ((port :: others typed).map Column.name) mapNames =
      some (mapNames.zip ((port :: others typed).map Column.cell)) := by
  have split : splitLines (header ++ '\n' :: (values ++ " 10/100BaseTX".toList)) =
      [header, values ++ " 10/100BaseTX".toList] := by decide +kernel
  have under : Under (trim header) 0 (port :: others typed) := by decide +kernel
  have lined : trim (values ++ " 10/100BaseTX".toList) = trim (row (port :: others typed)) := by
    decide +kernel
  exact (mapSimpleTable_iff split under lined (by decide) (by decide)).mpr (by decide)

/-- Where there is no type the names are looked for beyond the end of the line. -/
theorem typeless_not_mapped :
    splitLines (header ++ '\n' :: values) = [header, values] ∧
      Under (trim header) 0 (port :: others typeless) ∧
      trim values = trim (row (port :: others typeless)) ∧ port.cell ≠ [] ∧
      mapSimpleTable (header ++ '\n' :: values) ((port :: others typeless).map Column.name)
        mapNames = none := by
  decide +kernel

end InterfaceStatus

end Daq.Usi
