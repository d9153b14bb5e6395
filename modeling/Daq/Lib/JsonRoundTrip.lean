import Mathlib.Data.List.Chain
import Mathlib.Data.List.Nodup
import Daq.Lib.Json

namespace Daq

/-! What was written is read back, and takes one line. -/

/-- Without a surrogate pair that would be read as one code point. -/
structure Str.Joined (value : Str) : Prop where
  apart : value.IsChain fun first second => ¬ (Json.IsHigh first ∧ Json.IsLow second)
  bounded : ∀ point ∈ value, point < 1114112

namespace Json

/-! Strings. -/

theorem hexValue_hexDigit : ∀ digit < 16, hexValue (hexDigit digit) = some digit := by
  decide

theorem scan_plain {char : Char} (quote : char ≠ '"') (backslash : char ≠ '\\')
    (printable : ¬ char.toNat < 32) (rest : List Char) :
    scan (char :: rest) = (scan rest).map fun read => (char.toNat :: read.1, read.2) := by
  rw [scan.eq_def]
  split
  · rename_i wrong
    cases wrong
  · rename_i same
    exact absurd (List.cons.inj same).1 quote
  · rename_i same
    exact absurd (List.cons.inj same).1 backslash
  · rename_i same
    exact absurd (List.cons.inj same).1 backslash
  · rename_i same
    cases same
    rw [if_neg printable]
    cases scan rest with
    | none => rfl
    | some read => rfl

theorem scan_escapeUnit {unit : Nat} (small : unit < 65536) (rest : List Char) :
    scan (escapeUnit unit ++ rest) = (scan rest).map fun read => (unit :: read.1, read.2) := by
  have first := hexValue_hexDigit (unit / 4096) (by omega)
  have second := hexValue_hexDigit (unit / 256 % 16) (by omega)
  have third := hexValue_hexDigit (unit / 16 % 16) (by omega)
  have fourth := hexValue_hexDigit (unit % 16) (by omega)
  have sum : unit / 4096 * 4096 + unit / 256 % 16 * 256 + unit / 16 % 16 * 16 + unit % 16 =
      unit := by omega
  simp only [escapeUnit, List.cons_append, List.nil_append]
  rw [scan, first, second, third, fourth]
  simp only [Option.bind_eq_bind, Option.bind_some, sum]
  cases scan rest with
  | none => rfl
  | some read => rfl

theorem scan_shortEscape {unit : Nat} {letter : Char} (short : shortEscape unit = some letter)
    (rest : List Char) :
    scan ('\\' :: letter :: rest) = (scan rest).map fun read => (unit :: read.1, read.2) := by
  have unescaped : unescape letter = some unit ∧ letter ≠ 'u' := by
    unfold shortEscape at short
    split at short <;> cases short <;> decide
  have taken : scan ('\\' :: letter :: rest) = ((unescape letter).bind fun unit =>
      (scan rest).bind fun read => some (unit :: read.1, read.2)) := by
    rw [scan.eq_def]
    split
    · rename_i wrong
      cases wrong
    · rename_i same
      exact absurd (List.cons.inj same).1 (by decide)
    · rename_i same
      exact absurd (List.cons.inj (List.cons.inj same).2).1 unescaped.2
    · rename_i same
      cases same
      rfl
    · rename_i other same
      cases same
      exact (other letter rest rfl rfl).elim
  rw [taken, unescaped.1]
  cases scan rest with
  | none => rfl
  | some read => rfl

theorem toNat_ofNat_of_small {unit : Nat} (small : unit < 55296) :
    (Char.ofNat unit).toNat = unit := by
  have valid : unit.isValidChar := .inl small
  unfold Char.ofNat
  rw [dif_pos valid]
  rfl

theorem scan_writeUnit {unit : Nat} (small : unit < 65536) (rest : List Char) :
    scan (writeUnit unit ++ rest) = (scan rest).map fun read => (unit :: read.1, read.2) := by
  unfold writeUnit
  split
  · rename_i letter short
    exact scan_shortEscape short rest
  · rename_i plain
    split
    · rename_i printable
      have back := toNat_ofNat_of_small (show unit < 55296 by omega)
      have other : ∀ char : Char, shortEscape char.toNat ≠ none → Char.ofNat unit ≠ char := by
        intro char escaped same
        apply escaped
        rw [← same, back]
        exact plain
      have read := scan_plain (other '"' (by decide)) (other '\\' (by decide))
        (by rw [back]; omega) rest
      rw [back] at read
      exact read
    · exact scan_escapeUnit small rest

theorem scan_written (units : List Nat) (small : ∀ unit ∈ units, unit < 65536)
    (rest : List Char) :
    scan (units.flatMap writeUnit ++ '"' :: rest) = some (units, rest) := by
  induction units with
  | nil => rw [List.flatMap_nil, List.nil_append, scan]
  | cons unit units shorter =>
      rw [List.flatMap_cons, List.append_assoc,
        scan_writeUnit (small unit List.mem_cons_self),
        shorter fun other inside => small other (List.mem_cons_of_mem _ inside)]
      rfl

theorem merge_cons {point : Nat} {units : List Nat}
    (apart : ∀ second ∈ units.head?, ¬ (IsHigh point ∧ IsLow second)) :
    merge (point :: units) = point :: merge units := by
  cases units with
  | nil => rfl
  | cons second rest => rw [merge, if_neg (apart second rfl)]

theorem unitsOf_small {point : Nat} (bounded : point < 1114112) :
    ∀ unit ∈ unitsOf point, unit < 65536 := by
  intro unit inside
  unfold unitsOf at inside
  split at inside
  · rw [List.mem_singleton] at inside
    omega
  · simp only [List.mem_cons, List.not_mem_nil, or_false] at inside
    omega

theorem merge_units {value : Str} (joined : value.Joined) :
    merge (value.flatMap unitsOf) = value := by
  induction value with
  | nil => rfl
  | cons point rest shorter =>
      have smaller := shorter ⟨joined.apart.of_cons,
        fun other inside => joined.bounded other (List.mem_cons_of_mem _ inside)⟩
      have bound := joined.bounded point List.mem_cons_self
      rw [List.flatMap_cons]
      by_cases basic : point < 65536
      · rw [unitsOf, if_pos basic, List.singleton_append, merge_cons, smaller]
        intro second first
        cases rest with
        | nil => cases first
        | cons next tail =>
            have apart := (List.isChain_cons_cons.mp joined.apart).1
            rw [List.flatMap_cons, unitsOf] at first
            split at first
            · cases first
              exact apart
            · cases first
              rintro ⟨_, low⟩
              unfold IsLow at low
              have nextBound := joined.bounded next (by simp)
              omega
      · rw [unitsOf, if_neg basic]
        simp only [List.cons_append, List.nil_append]
        rw [merge, if_pos (by unfold IsHigh IsLow; omega), smaller]
        refine congrArg (fun first => first :: rest) ?_
        omega

theorem readString_written {value : Str} (joined : value.Joined) (rest : List Char) :
    readString ((value.flatMap unitsOf).flatMap writeUnit ++ '"' :: rest) =
      some (value, rest) := by
  have small : ∀ unit ∈ value.flatMap unitsOf, unit < 65536 := by
    intro unit inside
    obtain ⟨point, member, unitOf⟩ := List.mem_flatMap.mp inside
    exact unitsOf_small (joined.bounded point member) unit unitOf
  rw [readString, scan_written _ small, Option.map_some]
  exact congrArg (fun read => some (read, rest)) (merge_units joined)

/-! Numbers. -/

/-- The text does not go on with the number before it. -/
def Stops (rest : List Char) : Prop :=
  ∀ char ∈ rest.head?, char.isDigit = false ∧ char ≠ '.' ∧ char ≠ 'e' ∧ char ≠ 'E'

theorem takeWhile_digits {digits rest : List Char} (all : ∀ char ∈ digits, char.isDigit = true)
    (stops : ∀ char ∈ rest.head?, char.isDigit = false) :
    (digits ++ rest).takeWhile Char.isDigit = digits ∧
      (digits ++ rest).dropWhile Char.isDigit = rest := by
  rw [List.takeWhile_append_of_pos all, List.dropWhile_append_of_pos all]
  cases rest with
  | nil => simp
  | cons char tail =>
      have stop := stops char rfl
      simp [stop]

theorem digits_isDigit (number : Nat) :
    ∀ char ∈ Nat.toDigits 10 number, char.isDigit = true :=
  fun _ inside => Nat.isDigit_of_mem_toDigits (by omega) (by omega) inside

theorem toDigits_cons {number : Nat} (positive : 0 < number) :
    ∃ first rest, Nat.toDigits 10 number = first :: rest ∧ first ≠ '0' := by
  induction number using Nat.strongRecOn with
  | _ number smaller =>
      rw [Nat.toDigits_eq_if (by omega)]
      split
      · rename_i single
        refine ⟨number.digitChar, [], rfl, ?_⟩
        revert positive
        clear smaller
        revert number
        decide
      · obtain ⟨first, rest, split, nonzero⟩ := smaller (number / 10) (by omega) (by omega)
        exact ⟨first, rest ++ [(number % 10).digitChar], by rw [split]; rfl, nonzero⟩

theorem readWhole_digits (number : Nat) {rest : List Char}
    (stops : ∀ char ∈ rest.head?, char.isDigit = false) :
    readWhole (Nat.toDigits 10 number ++ rest) = some (Nat.toDigits 10 number, rest) := by
  cases number with
  | zero => rfl
  | succ number =>
      obtain ⟨first, more, split, nonzero⟩ := toDigits_cons (Nat.succ_pos number)
      have all := digits_isDigit (number + 1)
      rw [split] at all ⊢
      obtain ⟨taken, dropped⟩ := takeWhile_digits
        (fun char inside => all char (List.mem_cons_of_mem _ inside)) stops
      rw [List.cons_append, readWhole.eq_def]
      split
      · rename_i wrong
        cases wrong
      · rename_i same
        exact absurd (List.cons.inj same).1 nonzero
      · rename_i same
        cases same
        rw [if_pos (all first List.mem_cons_self), taken, dropped]

theorem digits_head (number : Nat) : ∃ first rest, Nat.toDigits 10 number = first :: rest ∧
    first.isDigit = true := by
  cases split : Nat.toDigits 10 number with
  | nil => exact absurd split Nat.toDigits_ne_nil
  | cons first rest =>
      exact ⟨first, rest, rfl, digits_isDigit number first (split ▸ List.mem_cons_self)⟩

theorem readMinus_digit {first : Char} (digit : first.isDigit = true) (rest : List Char) :
    readMinus (first :: rest) = (false, first :: rest) := by
  rw [readMinus.eq_def]
  split
  · rename_i same
    rw [(List.cons.inj same).1] at digit
    cases digit
  · rfl

theorem signed_digits (number : Nat) :
    signed false (Nat.toDigits 10 number) = number ∧
      signed true (Nat.toDigits 10 number) = -number := by
  unfold signed
  rw [Nat.ofDigitChars_ten_toDigits]
  exact ⟨rfl, rfl⟩

theorem readMinus_writeInt (number : Int) : ∃ negative magnitude,
    (∀ rest, readMinus (writeInt number ++ rest) =
      (negative, Nat.toDigits 10 magnitude ++ rest)) ∧
    signed negative (Nat.toDigits 10 magnitude) = number := by
  cases number with
  | ofNat magnitude =>
      refine ⟨false, magnitude, fun rest => ?_, (signed_digits magnitude).1⟩
      obtain ⟨first, more, split, digit⟩ := digits_head magnitude
      rw [writeInt, split, List.cons_append, readMinus_digit digit]
  | negSucc magnitude =>
      exact ⟨true, magnitude + 1, fun _ => rfl, (signed_digits _).2⟩

theorem readFraction_none {rest : List Char} (stops : ∀ char ∈ rest.head?, char ≠ '.') :
    readFraction rest = ([], rest) := by
  rw [readFraction.eq_def]
  split
  · exact absurd rfl (stops '.' rfl)
  · rfl

theorem readExponent_none {rest : List Char}
    (stops : ∀ char ∈ rest.head?, char ≠ 'e' ∧ char ≠ 'E') :
    readExponent rest = (none, rest) := by
  cases rest with
  | nil => rfl
  | cons char tail =>
      have stop := stops char rfl
      rw [readExponent, if_neg (not_or.mpr stop)]

theorem readNumber_int (number : Int) {rest : List Char} (stops : Stops rest) :
    readNumber (writeInt number ++ rest) = some (.int number, rest) := by
  obtain ⟨negative, magnitude, minus, same⟩ := readMinus_writeInt number
  have whole := readWhole_digits magnitude fun char first => (stops char first).1
  have fraction := readFraction_none fun char first => (stops char first).2.1
  have exponent := readExponent_none fun char first => (stops char first).2.2
  unfold readNumber
  rw [minus]
  simp only [whole, Option.bind_eq_bind, Option.bind_some, fraction, exponent, and_self, if_true,
    same]

theorem readSign_writeInt (number : Int) : ∃ negative magnitude,
    (∀ rest, readSign (writeInt number ++ rest) =
      (negative, Nat.toDigits 10 magnitude ++ rest)) ∧
    signed negative (Nat.toDigits 10 magnitude) = number := by
  cases number with
  | ofNat magnitude =>
      refine ⟨false, magnitude, fun rest => ?_, (signed_digits magnitude).1⟩
      obtain ⟨first, more, split, digit⟩ := digits_head magnitude
      rw [writeInt, split, List.cons_append, readSign.eq_def]
      split
      · rename_i same
        rw [(List.cons.inj same).1] at digit
        cases digit
      · rename_i same
        rw [(List.cons.inj same).1] at digit
        cases digit
      · rfl
  | negSucc magnitude =>
      exact ⟨true, magnitude + 1, fun _ => rfl, (signed_digits _).2⟩

theorem readExponent_written (number : Int) {rest : List Char}
    (stops : ∀ char ∈ rest.head?, char.isDigit = false) :
    readExponent ('e' :: writeInt number ++ rest) = (some number, rest) := by
  obtain ⟨negative, magnitude, sign, same⟩ := readSign_writeInt number
  obtain ⟨taken, dropped⟩ := takeWhile_digits (digits_isDigit magnitude) stops
  rw [List.cons_append, readExponent, if_pos (.inl rfl), sign]
  simp only [taken, dropped]
  rw [if_neg Nat.toDigits_ne_nil, same]

theorem readNumber_float (mantissa exponent : Int) {rest : List Char}
    (stops : ∀ char ∈ rest.head?, char.isDigit = false) :
    readNumber (writeInt mantissa ++ 'e' :: writeInt exponent ++ rest) =
      some (.float mantissa exponent, rest) := by
  obtain ⟨negative, magnitude, minus, same⟩ := readMinus_writeInt mantissa
  have whole : readWhole (Nat.toDigits 10 magnitude ++ ('e' :: writeInt exponent ++ rest)) = _ :=
    readWhole_digits magnitude fun char first => by cases first; rfl
  have fraction : readFraction ('e' :: writeInt exponent ++ rest) = _ := readFraction_none
    fun char first => by cases first; decide
  have power := readExponent_written exponent stops
  unfold readNumber
  rw [List.append_assoc, minus]
  simp only [whole, Option.bind_eq_bind, Option.bind_some, fraction, power, reduceCtorEq, and_false,
    if_false, List.append_nil, same, Option.getD_some, List.length_nil]
  exact congrArg (fun power => some (Json.float mantissa power, rest)) (Int.sub_zero exponent)

/-! Values. -/

end Json

mutual

def Json.Sound : Json → Prop
  | .str value => value.Joined
  | .array items => items.Sound
  | .object members => members.Sound ∧ members.keys.Nodup
  | _ => True

def Items.Sound : Items → Prop
  | .nil => True
  | .cons head tail => head.Sound ∧ tail.Sound

def Members.Sound : Members → Prop
  | .nil => True
  | .cons key value tail => key.Joined ∧ value.Sound ∧ tail.Sound

end

namespace Members

def append : Members → Members → Members
  | .nil, others => others
  | .cons key value tail, others => .cons key value (tail.append others)

theorem append_nil : ∀ members : Members, members.append .nil = members
  | .nil => rfl
  | .cons key value tail => by rw [append, append_nil tail]

theorem append_assoc : ∀ first second third : Members,
    (first.append second).append third = first.append (second.append third)
  | .nil, _, _ => rfl
  | .cons key value tail, second, third => by
      rw [append, append, append, append_assoc tail second third]

theorem keys_append : ∀ first second : Members,
    (first.append second).keys = first.keys ++ second.keys
  | .nil, _ => rfl
  | .cons key _ tail, second => congrArg (fun keys => key :: keys) (keys_append tail second)

theorem insert_absent {key : Str} {value : Json} : ∀ {members : Members},
    key ∉ members.keys → members.insert key value = members.append (.cons key value .nil)
  | .nil, _ => rfl
  | .cons other old tail, absent => by
      have different : other ≠ key := fun same => absent (same ▸ List.mem_cons_self)
      have later : key ∉ tail.keys := fun inside => absent (List.mem_cons_of_mem _ inside)
      rw [insert, if_neg different, insert_absent later, append]

end Members

namespace Json

theorem skip_cons {char : Char} (visible : isSpace char = false) (rest : List Char) :
    skip (char :: rest) = char :: rest := by
  rw [skip, List.dropWhile_cons_of_neg (by simp [visible])]

theorem skip_blank (rest : List Char) : skip (' ' :: rest) = skip rest := rfl

theorem digit_visible {char : Char} (digit : char.isDigit = true) :
    isSpace char = false ∧ char ≠ ']' ∧ char ≠ '}' := by
  refine ⟨?_, ?_, ?_⟩
  · simp only [isSpace, decide_eq_false_iff_not, not_or]
    refine ⟨?_, ?_, ?_, ?_⟩ <;> rintro rfl <;> cases digit
  · rintro rfl
    cases digit
  · rintro rfl
    cases digit

theorem writeInt_cons (number : Int) : ∃ first rest, writeInt number = first :: rest ∧
    (first.isDigit = true ∨ first = '-' ∧ ∃ digit more, rest = digit :: more ∧
      digit.isDigit = true) := by
  cases number with
  | ofNat magnitude =>
      obtain ⟨first, rest, split, digit⟩ := digits_head magnitude
      exact ⟨first, rest, split, .inl digit⟩
  | negSucc magnitude =>
      obtain ⟨first, rest, split, digit⟩ := digits_head (magnitude + 1)
      exact ⟨'-', _, rfl, .inr ⟨rfl, first, rest, split, digit⟩⟩

/-- A written value starts with neither a blank nor a closing bracket. -/
theorem dumps_cons (written : Json) : ∃ first rest, dumps written = first :: rest ∧
    isSpace first = false ∧ first ≠ ']' := by
  have number : ∀ (value : Int) (more : List Char), ∃ first rest,
      writeInt value ++ more = first :: rest ∧ isSpace first = false ∧ first ≠ ']' := by
    intro value more
    obtain ⟨first, rest, split, digit | ⟨rfl, _⟩⟩ := writeInt_cons value
    · exact ⟨first, rest ++ more, by rw [split]; rfl, (digit_visible digit).1,
        (digit_visible digit).2.1⟩
    · exact ⟨'-', rest ++ more, by rw [split]; rfl, by decide, by decide⟩
  cases written with
  | null => exact ⟨_, _, dumps.eq_1, by decide, by decide⟩
  | bool value =>
      cases value with
      | true => exact ⟨_, _, dumps.eq_2, by decide, by decide⟩
      | false => exact ⟨_, _, dumps.eq_3, by decide, by decide⟩
  | int value =>
      rw [dumps, ← List.append_nil (writeInt value)]
      exact number value []
  | float mantissa exponent =>
      rw [dumps]
      exact number mantissa _
  | nonFinite value =>
      rw [dumps]
      cases value with
      | nan => exact ⟨_, _, rfl, by decide, by decide⟩
      | infinity => exact ⟨_, _, rfl, by decide, by decide⟩
      | negativeInfinity => exact ⟨_, _, rfl, by decide, by decide⟩
  | str value =>
      rw [dumps]
      exact ⟨_, _, rfl, by decide, by decide⟩
  | array items =>
      rw [dumps]
      exact ⟨_, _, rfl, by decide, by decide⟩
  | object members =>
      rw [dumps]
      exact ⟨_, _, rfl, by decide, by decide⟩

theorem value_number {first : Char} {rest : List Char} (fuel : Nat)
    (starts : first.isDigit = true ∨ first = '-' ∧ ∃ digit more, rest = digit :: more ∧
      digit.isDigit = true) : value (fuel + 1) (first :: rest) = readNumber (first :: rest) := by
  rw [value.eq_def]
  dsimp only
  split
  all_goals first
    | rfl
    | (rename_i same
       obtain ⟨rfl, rfl⟩ := List.cons.inj same
       rcases starts with digit | ⟨sign, digit, more, split, isDigit⟩
       · cases digit
       · cases sign <;> cases split <;> cases isDigit)

theorem stops_cons {char : Char} (other : char.isDigit = false) (point : char ≠ '.')
    (lower : char ≠ 'e') (upper : char ≠ 'E') (rest : List Char) : Stops (char :: rest) := by
  intro first same
  cases same
  exact ⟨other, point, lower, upper⟩

theorem value_string {written : Str} (joined : written.Joined) (fuel : Nat) (rest : List Char) :
    value (fuel + 1) (writeString written ++ rest) = some (.str written, rest) := by
  have read := readString_written joined rest
  simp only [writeString, List.cons_append, List.append_assoc, List.nil_append]
  rw [value, read]
  rfl

theorem value_array {first : Char} (visible : isSpace first = false) (other : first ≠ ']')
    (fuel : Nat) (more : List Char) : value (fuel + 1) ('[' :: first :: more) =
      (items fuel (first :: more)).map fun read => (.array read.1, read.2) := by
  rw [value, skip_cons visible]
  split
  · rename_i same
    exact absurd (List.cons.inj same).1 other
  · rfl

theorem value_object (fuel : Nat) (more : List Char) : value (fuel + 1) ('{' :: '"' :: more) =
    (members fuel ('"' :: more) .nil).map fun read => (.object read.1, read.2) := by
  rw [value, skip_cons (by decide)]
  rfl

theorem dumpsItems_cons (head : Json) (tail : Items) : ∃ first rest,
    dumpsItems (.cons head tail) = first :: rest ∧ isSpace first = false ∧ first ≠ ']' := by
  obtain ⟨first, rest, split, visible, other⟩ := dumps_cons head
  cases tail with
  | nil => exact ⟨first, rest ++ [']'], by rw [dumpsItems, split]; rfl, visible, other⟩
  | cons next tail =>
      exact ⟨first, rest ++ ',' :: ' ' :: dumpsItems (.cons next tail),
        by rw [dumpsItems, split]; rfl, visible, other⟩

theorem items_last {fuel : Nat} {text rest : List Char} {head : Json}
    (read : value fuel text = some (head, ']' :: rest)) :
    items (fuel + 1) text = some (.cons head .nil, rest) := by
  rw [items, read]
  rfl

theorem items_next {fuel : Nat} {text rest after : List Char} {head : Json} {tail : Items}
    (read : value fuel text = some (head, ',' :: ' ' :: rest))
    (later : items fuel (skip rest) = some (tail, after)) :
    items (fuel + 1) text = some (.cons head tail, after) := by
  rw [items, read]
  simp only [Option.bind_eq_bind, Option.bind_some]
  rw [skip_cons (by decide)]
  simp only [skip_blank, later, Option.bind_some]

theorem members_last {fuel : Nat} {text rest : List Char} {key : Str} {member : Json}
    {before : Members} (joined : key.Joined)
    (read : value fuel (skip text) = some (member, '}' :: rest)) :
    members (fuel + 1) (writeString key ++ ':' :: ' ' :: text) before =
      some (before.insert key member, rest) := by
  have keyed := readString_written joined (':' :: ' ' :: text)
  simp only [writeString, List.cons_append, List.append_assoc, List.nil_append]
  rw [members, keyed]
  simp only [Option.bind_eq_bind, Option.bind_some]
  rw [skip_cons (by decide)]
  simp only [skip_blank, read, Option.bind_some]
  rw [skip_cons (by decide)]
  rfl

theorem members_next {fuel : Nat} {text rest : List Char} {key : Str} {member : Json}
    {before : Members} (joined : key.Joined)
    (read : value fuel (skip text) = some (member, ',' :: ' ' :: rest)) :
    members (fuel + 1) (writeString key ++ ':' :: ' ' :: text) before =
      members fuel (skip rest) (before.insert key member) := by
  have keyed := readString_written joined (':' :: ' ' :: text)
  simp only [writeString, List.cons_append, List.append_assoc, List.nil_append]
  rw [members, keyed]
  simp only [Option.bind_eq_bind, Option.bind_some]
  rw [skip_cons (by decide)]
  simp only [skip_blank, read, Option.bind_some]
  rw [skip_cons (by decide)]
  simp only [skip_blank]

theorem skip_dumps (written : Json) (rest : List Char) :
    skip (dumps written ++ rest) = dumps written ++ rest := by
  obtain ⟨first, more, split, visible, _⟩ := dumps_cons written
  rw [split, List.cons_append, skip_cons visible]

theorem skip_dumpsItems (head : Json) (tail : Items) (rest : List Char) :
    skip (dumpsItems (.cons head tail) ++ rest) = dumpsItems (.cons head tail) ++ rest := by
  obtain ⟨first, more, split, visible, _⟩ := dumpsItems_cons head tail
  rw [split, List.cons_append, skip_cons visible]

theorem dumpsMembers_cons (key : Str) (member : Json) (tail : Members) : ∃ more,
    dumpsMembers (.cons key member tail) = '"' :: more := by
  cases tail with
  | nil => exact ⟨_, by rw [dumpsMembers, writeString]; rfl⟩
  | cons next second tail => exact ⟨_, by rw [dumpsMembers, writeString]; rfl⟩

theorem skip_dumpsMembers (key : Str) (member : Json) (tail : Members) (rest : List Char) :
    skip (dumpsMembers (.cons key member tail) ++ rest) =
      dumpsMembers (.cons key member tail) ++ rest := by
  obtain ⟨more, split⟩ := dumpsMembers_cons key member tail
  rw [split, List.cons_append, skip_cons (by decide)]

mutual

theorem value_dumps : ∀ (written : Json) (fuel : Nat) (rest : List Char), written.Sound →
    (dumps written).length ≤ fuel → Stops rest →
    value fuel (dumps written ++ rest) = some (written, rest)
  | written, 0, _, _, enough, _ => by
      obtain ⟨first, rest, split, _⟩ := dumps_cons written
      rw [split] at enough
      cases enough
  | .null, fuel + 1, rest, _, _, _ => by rw [dumps]; rfl
  | .bool true, fuel + 1, rest, _, _, _ => by rw [dumps]; rfl
  | .bool false, fuel + 1, rest, _, _, _ => by rw [dumps]; rfl
  | .int number, fuel + 1, rest, _, _, stops => by
      obtain ⟨first, more, split, starts⟩ := writeInt_cons number
      have read := readNumber_int number stops
      rw [dumps]
      rw [split, List.cons_append] at read ⊢
      rw [value_number fuel, read]
      exact starts.imp_right fun ⟨sign, digit, tail, same, isDigit⟩ =>
        ⟨sign, digit, tail ++ rest, by rw [same]; rfl, isDigit⟩
  | .float mantissa exponent, fuel + 1, rest, _, _, stops => by
      obtain ⟨first, more, split, starts⟩ := writeInt_cons mantissa
      have read := readNumber_float mantissa exponent fun char first => (stops char first).1
      rw [dumps]
      rw [split, List.cons_append, List.cons_append] at read ⊢
      rw [value_number fuel, read]
      exact starts.imp_right fun ⟨sign, digit, tail, same, isDigit⟩ =>
        ⟨sign, digit, tail ++ 'e' :: writeInt exponent ++ rest, by rw [same]; rfl, isDigit⟩
  | .nonFinite number, fuel + 1, rest, _, _, _ => by
      rw [dumps]
      cases number with
      | nan => rfl
      | infinity => rfl
      | negativeInfinity => rfl
  | .str written, fuel + 1, rest, sound, _, _ => by
      rw [dumps]
      exact value_string sound fuel rest
  | .array .nil, fuel + 1, rest, _, _, _ => by rw [dumps, dumpsItems]; rfl
  | .array (.cons head tail), fuel + 1, rest, sound, enough, _ => by
      rw [dumps, List.length_cons] at enough
      have read := items_dumps head tail fuel rest sound (by omega)
      obtain ⟨first, more, split, visible, other⟩ := dumpsItems_cons head tail
      rw [dumps, List.cons_append]
      rw [split, List.cons_append] at read ⊢
      rw [value_array visible other, read]
      rfl
  | .object .nil, fuel + 1, rest, _, _, _ => by rw [dumps, dumpsMembers]; rfl
  | .object (.cons key member tail), fuel + 1, rest, sound, enough, _ => by
      rw [dumps, List.length_cons] at enough
      have read := members_dumps key member tail fuel rest .nil sound.1 sound.2 (by omega)
      obtain ⟨more, split⟩ := dumpsMembers_cons key member tail
      rw [dumps, List.cons_append]
      rw [split, List.cons_append] at read ⊢
      rw [value_object, read]
      rfl

theorem items_dumps : ∀ (head : Json) (tail : Items) (fuel : Nat) (rest : List Char),
    (Items.cons head tail).Sound → (dumpsItems (.cons head tail)).length ≤ fuel →
    items fuel (dumpsItems (.cons head tail) ++ rest) = some (.cons head tail, rest)
  | head, tail, 0, rest, _, enough => by
      obtain ⟨first, more, split, _⟩ := dumpsItems_cons head tail
      rw [split] at enough
      cases enough
  | head, .nil, fuel + 1, rest, sound, enough => by
      rw [dumpsItems, List.length_append, List.length_singleton] at enough
      rw [dumpsItems, List.append_assoc, List.singleton_append]
      apply items_last
      exact value_dumps head fuel (']' :: rest) sound.1 (by omega)
        (stops_cons (by decide) (by decide) (by decide) (by decide) rest)
  | head, .cons next tail, fuel + 1, rest, sound, enough => by
      rw [dumpsItems, List.length_append, List.length_cons, List.length_cons] at enough
      rw [dumpsItems, List.append_assoc, List.cons_append, List.cons_append]
      refine items_next (value_dumps head fuel _ sound.1 (by omega)
        (stops_cons (by decide) (by decide) (by decide) (by decide) _)) ?_
      rw [skip_dumpsItems]
      exact items_dumps next tail fuel rest sound.2 (by omega)

theorem members_dumps : ∀ (key : Str) (member : Json) (tail : Members) (fuel : Nat)
    (rest : List Char) (before : Members), (Members.cons key member tail).Sound →
    (before.append (.cons key member tail)).keys.Nodup →
    (dumpsMembers (.cons key member tail)).length ≤ fuel →
    members fuel (dumpsMembers (.cons key member tail) ++ rest) before =
      some (before.append (.cons key member tail), rest)
  | key, member, tail, 0, rest, before, _, _, enough => by
      obtain ⟨more, split⟩ := dumpsMembers_cons key member tail
      rw [split] at enough
      cases enough
  | key, member, .nil, fuel + 1, rest, before, sound, distinct, enough => by
      have absent : key ∉ before.keys := by
        rw [Members.keys_append] at distinct
        exact fun inside =>
          (List.nodup_append.mp distinct).2.2 key inside key List.mem_cons_self rfl
      simp only [dumpsMembers, List.length_append, List.length_cons] at enough
      simp only [dumpsMembers, List.append_assoc, List.cons_append, List.nil_append]
      rw [members_last sound.1, Members.insert_absent absent]
      rw [skip_dumps]
      exact value_dumps member fuel ('}' :: rest) sound.2.1 (by omega)
        (stops_cons (by decide) (by decide) (by decide) (by decide) rest)
  | key, member, .cons next second tail, fuel + 1, rest, before, sound, distinct, enough => by
      have absent : key ∉ before.keys := by
        rw [Members.keys_append] at distinct
        exact fun inside =>
          (List.nodup_append.mp distinct).2.2 key inside key List.mem_cons_self rfl
      have regrouped : (before.append (.cons key member .nil)).append (.cons next second tail) =
          before.append (.cons key member (.cons next second tail)) :=
        Members.append_assoc _ _ _
      simp only [dumpsMembers, List.length_append, List.length_cons] at enough
      simp only [dumpsMembers, List.append_assoc, List.cons_append]
      rw [members_next sound.1, Members.insert_absent absent, skip_dumpsMembers,
        members_dumps next second tail fuel rest _ sound.2.2 (regrouped ▸ distinct) (by omega),
        regrouped]
      rw [skip_dumps]
      exact value_dumps member fuel _ sound.2.1 (by omega)
        (stops_cons (by decide) (by decide) (by decide) (by decide) _)

end

theorem loads_dumps {written : Json} (sound : written.Sound) :
    loads (dumps written) = some written := by
  have read := value_dumps written (2 * (dumps written).length + 1) [] sound (by omega)
    (fun _ wrong => by cases wrong)
  have start := skip_dumps written []
  rw [List.append_nil] at read start
  rw [loads, start, read]
  rfl

/-! One line. -/

theorem digit_ne_newline {char : Char} (digit : char.isDigit = true) : char ≠ '\n' := by
  rintro rfl
  cases digit

theorem writeInt_oneLine (number : Int) : '\n' ∉ writeInt number := by
  intro inside
  cases number with
  | ofNat magnitude => exact digit_ne_newline (digits_isDigit magnitude _ inside) rfl
  | negSucc magnitude =>
      rcases List.mem_cons.mp inside with sign | digit
      · cases sign
      · exact digit_ne_newline (digits_isDigit (magnitude + 1) _ digit) rfl

theorem hexDigit_ne_newline : ∀ digit < 16, hexDigit digit ≠ '\n' := by
  decide

theorem writeUnit_oneLine {unit : Nat} (small : unit < 65536) : '\n' ∉ writeUnit unit := by
  unfold writeUnit
  split
  · rename_i letter short
    unfold shortEscape at short
    split at short <;> cases short <;> decide
  · rename_i plain
    split
    · rename_i printable
      intro inside
      have back := toNat_ofNat_of_small (show unit < 55296 by omega)
      rw [← List.mem_singleton.mp inside] at back
      have low : '\n'.toNat = 10 := rfl
      omega
    · intro inside
      simp only [escapeUnit, List.mem_cons, List.not_mem_nil, or_false, Char.reduceEq,
        false_or] at inside
      rcases inside with same | same | same | same
      · exact hexDigit_ne_newline (unit / 4096) (by omega) same.symm
      · exact hexDigit_ne_newline (unit / 256 % 16) (by omega) same.symm
      · exact hexDigit_ne_newline (unit / 16 % 16) (by omega) same.symm
      · exact hexDigit_ne_newline (unit % 16) (by omega) same.symm

theorem writeString_oneLine {written : Str} (joined : written.Joined) :
    '\n' ∉ writeString written := by
  intro inside
  simp only [writeString, List.cons_append, List.mem_cons, Char.reduceEq, List.mem_append,
    List.mem_flatMap, List.not_mem_nil, or_false, false_or] at inside
  obtain ⟨unit, ⟨point, member, unitOf⟩, inside⟩ := inside
  exact writeUnit_oneLine (unitsOf_small (joined.bounded point member) unit unitOf) inside

mutual

theorem dumps_oneLine : ∀ written : Json, written.Sound → '\n' ∉ dumps written
  | .null, _ => by rw [dumps]; decide
  | .bool true, _ => by rw [dumps]; decide
  | .bool false, _ => by rw [dumps]; decide
  | .int number, _ => by
      rw [dumps]
      exact writeInt_oneLine number
  | .float mantissa exponent, _ => by
      rw [dumps]
      intro inside
      rcases List.mem_append.mp inside with first | second
      · exact writeInt_oneLine mantissa first
      · rcases List.mem_cons.mp second with letter | digit
        · cases letter
        · exact writeInt_oneLine exponent digit
  | .nonFinite number, _ => by
      rw [dumps]
      cases number <;> decide
  | .str written, sound => by
      rw [dumps]
      exact writeString_oneLine sound
  | .array items, sound => by
      rw [dumps]
      intro inside
      rcases List.mem_cons.mp inside with bracket | item
      · cases bracket
      · exact dumpsItems_oneLine items sound item
  | .object members, sound => by
      rw [dumps]
      intro inside
      rcases List.mem_cons.mp inside with bracket | member
      · cases bracket
      · exact dumpsMembers_oneLine members sound.1 member

theorem dumpsItems_oneLine : ∀ written : Items, written.Sound → '\n' ∉ dumpsItems written
  | .nil, _ => by rw [dumpsItems]; decide
  | .cons head .nil, sound => by
      rw [dumpsItems]
      intro inside
      simp only [List.mem_append, List.mem_singleton, Char.reduceEq, or_false] at inside
      exact dumps_oneLine head sound.1 inside
  | .cons head (.cons next tail), sound => by
      rw [dumpsItems]
      intro inside
      simp only [List.mem_append, List.mem_cons, Char.reduceEq, false_or] at inside
      rcases inside with first | later
      · exact dumps_oneLine head sound.1 first
      · exact dumpsItems_oneLine (.cons next tail) sound.2 later

theorem dumpsMembers_oneLine : ∀ written : Members, written.Sound →
    '\n' ∉ dumpsMembers written
  | .nil, _ => by rw [dumpsMembers]; decide
  | .cons key member .nil, sound => by
      rw [dumpsMembers]
      intro inside
      simp only [List.mem_append, List.mem_cons, List.not_mem_nil, Char.reduceEq, or_false,
        false_or] at inside
      rcases inside with keyed | valued
      · exact writeString_oneLine sound.1 keyed
      · exact dumps_oneLine member sound.2.1 valued
  | .cons key member (.cons next second tail), sound => by
      rw [dumpsMembers]
      intro inside
      simp only [List.mem_append, List.mem_cons, Char.reduceEq, false_or] at inside
      rcases inside with (keyed | valued) | later
      · exact writeString_oneLine sound.1 keyed
      · exact dumps_oneLine member sound.2.1 valued
      · exact dumpsMembers_oneLine (.cons next second tail) sound.2.2 later

end

/-! What is read is sound. -/

theorem hexValue_lt {char : Char} {digit : Nat} (read : hexValue char = some digit) :
    digit < 16 := by
  unfold hexValue at read
  split_ifs at read with decimal lower upper
  · cases read
    have bound : char.toNat ≤ 57 := decimal.2
    omega
  · cases read
    have bound : char.toNat ≤ 102 := lower.2
    omega
  · cases read
    have bound : char.toNat ≤ 70 := upper.2
    omega

theorem unescape_lt {letter : Char} {unit : Nat} (read : unescape letter = some unit) :
    unit < 1114112 := by
  unfold unescape at read
  split at read <;> cases read <;> decide

theorem toNat_lt (char : Char) : char.toNat < 1114112 := by
  rcases char.valid with low | high
  · exact Nat.lt_trans low (by decide)
  · exact high.2

theorem scan_bounded (text : List Char) : ∀ units rest, scan text = some (units, rest) →
    ∀ unit ∈ units, unit < 1114112 := by
  fun_induction scan text with
  | case1 =>
      intro units rest read
      cases read
  | case2 =>
      intro units rest read
      cases read
      simp
  | case3 a b c d rest shorter =>
      intro units after read
      simp only [Option.bind_eq_bind, Option.bind_eq_some_iff, Option.some.injEq,
        Prod.mk.injEq] at read
      obtain ⟨first, readFirst, second, readSecond, third, readThird, fourth, readFourth,
        ⟨more, _⟩, scanned, rfl, rfl⟩ := read
      have boundFirst := hexValue_lt readFirst
      have boundSecond := hexValue_lt readSecond
      have boundThird := hexValue_lt readThird
      have boundFourth := hexValue_lt readFourth
      rintro unit (_ | ⟨_, inside⟩)
      · omega
      · exact shorter _ _ scanned unit inside
  | case4 letter rest _ shorter =>
      intro units after read
      simp only [Option.bind_eq_bind, Option.bind_eq_some_iff, Option.some.injEq,
        Prod.mk.injEq] at read
      obtain ⟨unit, unescaped, ⟨more, _⟩, scanned, rfl, rfl⟩ := read
      rintro other (_ | ⟨_, inside⟩)
      · exact unescape_lt unescaped
      · exact shorter _ _ scanned other inside
  | case5 =>
      intro units rest read
      cases read
  | case6 char rest _ _ _ _ shorter =>
      intro units after read
      simp only [Option.bind_eq_bind, Option.bind_eq_some_iff, Option.some.injEq,
        Prod.mk.injEq] at read
      obtain ⟨⟨more, _⟩, scanned, rfl, rfl⟩ := read
      rintro other (_ | ⟨_, inside⟩)
      · exact toNat_lt char
      · exact shorter _ _ scanned other inside

theorem merge_head (units : List Nat) :
    ∀ point ∈ (merge units).head?, 65536 ≤ point ∨ point ∈ units.head? := by
  fun_induction merge units with
  | case1 high low rest pair =>
      intro point first
      rw [List.head?_cons, Option.mem_some_iff] at first
      exact .inl (by omega)
  | case2 high low rest =>
      intro point first
      exact .inr first
  | case3 =>
      intro point first
      exact .inr first

theorem merge_joined (units : List Nat) (bounded : ∀ unit ∈ units, unit < 1114112) :
    Str.Joined (merge units) := by
  fun_induction merge units with
  | case1 high low rest pair shorter =>
      have smaller := shorter fun unit inside =>
        bounded unit (List.mem_cons_of_mem _ (List.mem_cons_of_mem _ inside))
      unfold IsHigh IsLow at pair
      refine ⟨List.isChain_cons.mpr ⟨fun next _ both => ?_, smaller.apart⟩, ?_⟩
      · unfold IsHigh at both
        omega
      · intro point inside
        rcases List.mem_cons.mp inside with same | later
        · omega
        · exact smaller.bounded point later
  | case2 high low rest pair shorter =>
      have smaller := shorter fun unit inside => bounded unit (List.mem_cons_of_mem _ inside)
      refine ⟨List.isChain_cons.mpr ⟨fun next first both => ?_, smaller.apart⟩, ?_⟩
      · rcases merge_head (low :: rest) next first with large | same
        · have bound := both.2
          unfold IsLow at bound
          omega
        · cases same
          exact pair both
      · rintro point (_ | ⟨_, inside⟩)
        · exact bounded high List.mem_cons_self
        · exact smaller.bounded point inside
  | case3 rest single =>
      refine ⟨?_, bounded⟩
      match rest, single with
      | [], _ => exact .nil
      | [point], _ => exact .singleton point
      | high :: low :: more, single => exact (single high low more rfl).elim

theorem readString_joined {text rest : List Char} {read : Str}
    (done : readString text = some (read, rest)) : read.Joined := by
  unfold readString at done
  obtain ⟨⟨units, after⟩, scanned, same⟩ := Option.map_eq_some_iff.mp done
  cases same
  exact merge_joined units (scan_bounded text units rest scanned)

theorem readNumber_sound {text rest : List Char} {read : Json}
    (done : readNumber text = some (read, rest)) : read.Sound := by
  unfold readNumber at done
  simp only [Option.bind_eq_bind, Option.bind_eq_some_iff] at done
  obtain ⟨_, _, done⟩ := done
  split at done
  · cases done
    trivial
  · cases done
    trivial

end Json

namespace Members

theorem keys_insert (key : Str) (value : Json) : ∀ members : Members,
    ∀ other ∈ (members.insert key value).keys, other = key ∨ other ∈ members.keys
  | .nil, other, inside => by
      rw [insert] at inside
      exact .inl (List.mem_singleton.mp inside)
  | .cons first old tail, other, inside => by
      rw [insert] at inside
      split at inside
      · rename_i same
        rcases List.mem_cons.mp inside with here | later
        · exact .inl here
        · exact .inr (List.mem_cons_of_mem _ later)
      · rcases List.mem_cons.mp inside with here | later
        · exact .inr (here ▸ List.mem_cons_self)
        · exact (keys_insert key value tail other later).imp_right (List.mem_cons_of_mem _)

theorem nodup_insert (key : Str) (value : Json) : ∀ members : Members, members.keys.Nodup →
    (members.insert key value).keys.Nodup
  | .nil, _ => List.nodup_singleton key
  | .cons first old tail, distinct => by
      obtain ⟨absent, rest⟩ := List.nodup_cons.mp distinct
      rw [insert]
      split
      · rename_i same
        subst same
        exact distinct
      · rename_i different
        refine List.nodup_cons.mpr ⟨fun inside => ?_, nodup_insert key value tail rest⟩
        rcases keys_insert key value tail first inside with same | later
        · exact different same
        · exact absent later

theorem sound_insert {key : Str} {value : Json} (joined : key.Joined) (valued : value.Sound) :
    ∀ members : Members, members.Sound → (members.insert key value).Sound
  | .nil, _ => ⟨joined, valued, trivial⟩
  | .cons first old tail, sound => by
      rw [insert]
      split
      · exact ⟨joined, valued, sound.2.2⟩
      · exact ⟨sound.1, sound.2.1, sound_insert joined valued tail sound.2.2⟩

end Members

namespace Json

theorem parse_sound (fuel : Nat) :
    (∀ text read rest, value fuel text = some (read, rest) → read.Sound) ∧
      (∀ text read rest, items fuel text = some (read, rest) → read.Sound) ∧
      ∀ text before read rest, members fuel text before = some (read, rest) →
        before.Sound ∧ before.keys.Nodup → read.Sound ∧ read.keys.Nodup := by
  induction fuel with
  | zero =>
      refine ⟨?_, ?_, ?_⟩
      · intro text read rest done
        cases done
      · intro text read rest done
        cases done
      · intro text before read rest done
        cases done
  | succ fuel smaller =>
      obtain ⟨valueSound, itemsSound, membersSound⟩ := smaller
      refine ⟨?_, ?_, ?_⟩
      · intro text read rest done
        rw [value.eq_def] at done
        dsimp only at done
        split at done
        · obtain ⟨⟨string, _⟩, scanned, same⟩ := Option.map_eq_some_iff.mp done
          cases same
          exact readString_joined scanned
        · split at done
          · cases done
            trivial
          · obtain ⟨⟨list, _⟩, parsed, same⟩ := Option.map_eq_some_iff.mp done
            cases same
            exact itemsSound _ _ _ parsed
        · split at done
          · cases done
            exact ⟨trivial, List.nodup_nil⟩
          · obtain ⟨⟨list, _⟩, parsed, same⟩ := Option.map_eq_some_iff.mp done
            cases same
            exact membersSound _ .nil _ _ parsed ⟨trivial, List.nodup_nil⟩
        · cases done
          trivial
        · cases done
          trivial
        · cases done
          trivial
        · cases done
          trivial
        · cases done
          trivial
        · cases done
          trivial
        · exact readNumber_sound done
      · intro text read rest done
        rw [items] at done
        simp only [Option.bind_eq_bind, Option.bind_eq_some_iff] at done
        obtain ⟨⟨head, after⟩, parsed, done⟩ := done
        split at done
        · obtain ⟨⟨tail, _⟩, later, same⟩ := Option.bind_eq_some_iff.mp done
          cases same
          exact ⟨valueSound _ _ _ parsed, itemsSound _ _ _ later⟩
        · cases done
          exact ⟨valueSound _ _ _ parsed, trivial⟩
        · cases done
      · intro text before read rest done sound
        rw [members.eq_def] at done
        dsimp only at done
        split at done
        · simp only [Option.bind_eq_bind, Option.bind_eq_some_iff] at done
          obtain ⟨⟨key, after⟩, keyed, done⟩ := done
          split at done
          · obtain ⟨⟨member, _⟩, parsed, done⟩ := Option.bind_eq_some_iff.mp done
            have inserted := fun before' : Members => Members.sound_insert
              (readString_joined keyed) (valueSound _ _ _ parsed) before'
            have extended : (before.insert key member).Sound ∧
                (before.insert key member).keys.Nodup :=
              ⟨inserted before sound.1, Members.nodup_insert key member before sound.2⟩
            dsimp only at done
            split at done
            · exact membersSound _ _ _ _ done extended
            · cases done
              exact extended
            · cases done
          · cases done
        · cases done

theorem loads_sound {text : List Char} {read : Json} (done : loads text = some read) :
    read.Sound := by
  unfold loads at done
  obtain ⟨⟨written, rest⟩, parsed, done⟩ := Option.bind_eq_some_iff.mp done
  obtain ⟨_, same⟩ := Option.ite_none_right_eq_some.mp done
  cases same
  exact (parse_sound _).1 _ _ _ parsed

end Json

end Daq
