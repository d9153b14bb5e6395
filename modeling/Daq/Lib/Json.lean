import Mathlib.Data.List.Basic

namespace Daq

/-! Python's `json` module: its values, `loads` and `dumps`.  A string is a list
of code points, which may be surrogates.  A float is the decimal it is written
as, which Python rounds to a double: where that is another number, zero or an
infinity, the two differ. -/

abbrev Str := List Nat

def Str.ofChars (chars : List Char) : Str := chars.map Char.toNat

inductive NonFinite
  | nan
  | infinity
  | negativeInfinity
deriving DecidableEq, Repr

mutual

inductive Json
  | null
  | bool (value : Bool)
  | int (value : Int)
  | float (mantissa exponent : Int)
  | nonFinite (value : NonFinite)
  | str (value : Str)
  | array (items : Items)
  | object (members : Members)

inductive Items
  | nil
  | cons (head : Json) (tail : Items)

inductive Members
  | nil
  | cons (key : Str) (value : Json) (tail : Members)

end

deriving instance DecidableEq for Json, Items, Members

namespace Members

def get? (key : Str) : Members → Option Json
  | .nil => none
  | .cons other value tail => if other = key then some value else tail.get? key

/-- A key that is there already keeps its place. -/
def insert (key : Str) (value : Json) : Members → Members
  | .nil => .cons key value .nil
  | .cons other old tail =>
      if other = key then .cons key value tail else .cons other old (tail.insert key value)

def toList : Members → List (Str × Json)
  | .nil => []
  | .cons key value tail => (key, value) :: tail.toList

def keys (members : Members) : List Str := members.toList.map Prod.fst

end Members

namespace Json

/-! Writing. -/

def hexDigit (digit : Nat) : Char :=
  if digit < 10 then Char.ofNat (48 + digit) else Char.ofNat (87 + digit)

def escapeUnit (unit : Nat) : List Char :=
  ['\\', 'u', hexDigit (unit / 4096), hexDigit (unit / 256 % 16), hexDigit (unit / 16 % 16),
    hexDigit (unit % 16)]

/-- The escapes that have a letter of their own. -/
def shortEscape : Nat → Option Char
  | 34 => some '"'
  | 92 => some '\\'
  | 10 => some 'n'
  | 13 => some 'r'
  | 9 => some 't'
  | 12 => some 'f'
  | 8 => some 'b'
  | _ => none

def writeUnit (unit : Nat) : List Char :=
  match shortEscape unit with
  | some letter => ['\\', letter]
  | none => if 32 ≤ unit ∧ unit ≤ 126 then [Char.ofNat unit] else escapeUnit unit

/-- A code point outside the basic plane is written as a surrogate pair. -/
def unitsOf (point : Nat) : List Nat :=
  if point < 65536 then [point]
  else [55296 + (point - 65536) / 1024, 56320 + (point - 65536) % 1024]

def writeString (value : Str) : List Char :=
  '"' :: (value.flatMap unitsOf).flatMap writeUnit ++ ['"']

def writeInt (value : Int) : List Char :=
  match value with
  | .ofNat number => Nat.toDigits 10 number
  | .negSucc number => '-' :: Nat.toDigits 10 (number + 1)

def writeNonFinite : NonFinite → List Char
  | .nan => ['N', 'a', 'N']
  | .infinity => ['I', 'n', 'f', 'i', 'n', 'i', 't', 'y']
  | .negativeInfinity => ['-', 'I', 'n', 'f', 'i', 'n', 'i', 't', 'y']

mutual

def dumps : Json → List Char
  | .null => ['n', 'u', 'l', 'l']
  | .bool true => ['t', 'r', 'u', 'e']
  | .bool false => ['f', 'a', 'l', 's', 'e']
  | .int value => writeInt value
  | .float mantissa exponent => writeInt mantissa ++ 'e' :: writeInt exponent
  | .nonFinite value => writeNonFinite value
  | .str value => writeString value
  | .array items => '[' :: dumpsItems items
  | .object members => '{' :: dumpsMembers members

def dumpsItems : Items → List Char
  | .nil => [']']
  | .cons head .nil => dumps head ++ [']']
  | .cons head (.cons next tail) => dumps head ++ ',' :: ' ' :: dumpsItems (.cons next tail)

def dumpsMembers : Members → List Char
  | .nil => ['}']
  | .cons key value .nil => writeString key ++ ':' :: ' ' :: dumps value ++ ['}']
  | .cons key value (.cons next second tail) =>
      writeString key ++ ':' :: ' ' :: dumps value ++ ',' :: ' ' ::
        dumpsMembers (.cons next second tail)

end

/-! Reading. -/

def isSpace (char : Char) : Bool :=
  char = ' ' ∨ char = '\t' ∨ char = '\n' ∨ char = '\r'

def skip (text : List Char) : List Char := text.dropWhile isSpace

def hexValue (char : Char) : Option Nat :=
  if '0' ≤ char ∧ char ≤ '9' then some (char.toNat - 48)
  else if 'a' ≤ char ∧ char ≤ 'f' then some (char.toNat - 87)
  else if 'A' ≤ char ∧ char ≤ 'F' then some (char.toNat - 55)
  else none

def unescape : Char → Option Nat
  | '"' => some 34
  | '\\' => some 92
  | '/' => some 47
  | 'b' => some 8
  | 'f' => some 12
  | 'n' => some 10
  | 'r' => some 13
  | 't' => some 9
  | _ => none

/-- The code units up to the closing quote; control characters have to be
escaped. -/
def scan : List Char → Option (List Nat × List Char)
  | [] => none
  | '"' :: rest => some ([], rest)
  | '\\' :: 'u' :: a :: b :: c :: d :: rest => do
      let first ← hexValue a
      let second ← hexValue b
      let third ← hexValue c
      let fourth ← hexValue d
      let (units, rest) ← scan rest
      some ((first * 4096 + second * 256 + third * 16 + fourth) :: units, rest)
  | '\\' :: letter :: rest => do
      let unit ← unescape letter
      let (units, rest) ← scan rest
      some (unit :: units, rest)
  | char :: rest =>
      if char.toNat < 32 then none
      else do
        let (units, rest) ← scan rest
        some (char.toNat :: units, rest)

def IsHigh (unit : Nat) : Prop := 55296 ≤ unit ∧ unit ≤ 56319

def IsLow (unit : Nat) : Prop := 56320 ≤ unit ∧ unit ≤ 57343

instance (unit : Nat) : Decidable (IsHigh unit) := inferInstanceAs (Decidable (_ ∧ _))

instance (unit : Nat) : Decidable (IsLow unit) := inferInstanceAs (Decidable (_ ∧ _))

/-- Surrogate pairs become one code point. -/
def merge : List Nat → Str
  | high :: low :: rest =>
      if IsHigh high ∧ IsLow low then
        (65536 + (high - 55296) * 1024 + (low - 56320)) :: merge rest
      else high :: merge (low :: rest)
  | rest => rest

def readString (text : List Char) : Option (Str × List Char) :=
  (scan text).map fun (units, rest) => (merge units, rest)

def readWhole : List Char → Option (List Char × List Char)
  | [] => none
  | '0' :: rest => some (['0'], rest)
  | char :: rest =>
      if char.isDigit then some (char :: rest.takeWhile Char.isDigit, rest.dropWhile Char.isDigit)
      else none

/-- The digits after a point; a point without digits is not part of the number. -/
def readFraction (text : List Char) : List Char × List Char :=
  match text with
  | '.' :: rest =>
      let digits := rest.takeWhile Char.isDigit
      if digits = [] then ([], text) else (digits, rest.dropWhile Char.isDigit)
  | _ => ([], text)

def readSign : List Char → Bool × List Char
  | '-' :: rest => (true, rest)
  | '+' :: rest => (false, rest)
  | rest => (false, rest)

def signed (negative : Bool) (digits : List Char) : Int :=
  let magnitude : Int := Nat.ofDigitChars 10 digits 0
  if negative then -magnitude else magnitude

def readExponent (text : List Char) : Option Int × List Char :=
  match text with
  | letter :: rest =>
      if letter = 'e' ∨ letter = 'E' then
        let (negative, unsigned) := readSign rest
        let digits := unsigned.takeWhile Char.isDigit
        if digits = [] then (none, text)
        else (some (signed negative digits), unsigned.dropWhile Char.isDigit)
      else (none, text)
  | [] => (none, text)

def readMinus : List Char → Bool × List Char
  | '-' :: rest => (true, rest)
  | rest => (false, rest)

def readNumber (text : List Char) : Option (Json × List Char) := do
  let (negative, unsigned) := readMinus text
  let (whole, rest) ← readWhole unsigned
  let (fraction, rest) := readFraction rest
  let (exponent, rest) := readExponent rest
  if fraction = [] ∧ exponent = none then some (.int (signed negative whole), rest)
  else some (.float (signed negative (whole ++ fraction))
    (exponent.getD 0 - fraction.length), rest)

mutual

/-- A value at the start of the text, with the text after it.  Every nested
value takes one unit of fuel, and so does every further member. -/
def value : Nat → List Char → Option (Json × List Char)
  | 0, _ => none
  | fuel + 1, text =>
      match text with
      | '"' :: rest => (readString rest).map fun (value, rest) => (.str value, rest)
      | '[' :: rest =>
          match skip rest with
          | ']' :: rest => some (.array .nil, rest)
          | rest => (items fuel rest).map fun (items, rest) => (.array items, rest)
      | '{' :: rest =>
          match skip rest with
          | '}' :: rest => some (.object .nil, rest)
          | rest => (members fuel rest .nil).map fun (members, rest) => (.object members, rest)
      | 'n' :: 'u' :: 'l' :: 'l' :: rest => some (.null, rest)
      | 't' :: 'r' :: 'u' :: 'e' :: rest => some (.bool true, rest)
      | 'f' :: 'a' :: 'l' :: 's' :: 'e' :: rest => some (.bool false, rest)
      | 'N' :: 'a' :: 'N' :: rest => some (.nonFinite .nan, rest)
      | 'I' :: 'n' :: 'f' :: 'i' :: 'n' :: 'i' :: 't' :: 'y' :: rest =>
          some (.nonFinite .infinity, rest)
      | '-' :: 'I' :: 'n' :: 'f' :: 'i' :: 'n' :: 'i' :: 't' :: 'y' :: rest =>
          some (.nonFinite .negativeInfinity, rest)
      | _ => readNumber text

def items : Nat → List Char → Option (Items × List Char)
  | 0, _ => none
  | fuel + 1, text => do
      let (head, rest) ← value fuel text
      match skip rest with
      | ',' :: rest => do
          let (tail, rest) ← items fuel (skip rest)
          some (.cons head tail, rest)
      | ']' :: rest => some (.cons head .nil, rest)
      | _ => none

/-- The members from here on, added to those before. -/
def members : Nat → List Char → Members → Option (Members × List Char)
  | 0, _, _ => none
  | fuel + 1, text, before =>
      match text with
      | '"' :: rest => do
          let (key, rest) ← readString rest
          match skip rest with
          | ':' :: rest => do
              let (value, rest) ← value fuel (skip rest)
              match skip rest with
              | ',' :: rest => members fuel (skip rest) (before.insert key value)
              | '}' :: rest => some (before.insert key value, rest)
              | _ => none
          | _ => none
      | _ => none

end

/-- A text that holds one value; none when it cannot be parsed.  Floats are not
rounded. -/
def loads (text : List Char) : Option Json := do
  let (value, rest) ← value (2 * text.length + 1) (skip text)
  if skip rest = [] then some value else none

end Json

end Daq
