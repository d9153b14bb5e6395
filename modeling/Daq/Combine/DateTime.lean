import Daq.Lib.Numeral
import Mathlib.Data.List.Lex
import Mathlib.Data.String.Basic
import Mathlib.Order.Basic

namespace Daq.Combine

open Numeral

/-! Times without a time zone, and the two ways in which they are written. -/

def daysInMonth (year month : Nat) : Nat :=
  if month = 2 then
    if year % 4 = 0 ∧ (year % 100 ≠ 0 ∨ year % 400 = 0) then 29 else 28
  else if month ∈ [4, 6, 9, 11] then 30 else 31

/-- A day of the calendar and a time of the day. -/
structure DateTime where
  year : Nat
  month : Nat
  day : Nat
  hour : Nat
  minute : Nat
  second : Nat
  microsecond : Nat
  years : 1 ≤ year ∧ year ≤ 9999
  months : 1 ≤ month ∧ month ≤ 12
  days : 1 ≤ day ∧ day ≤ daysInMonth year month
  hours : hour < 24
  minutes : minute < 60
  seconds : second < 60
  microseconds : microsecond < 1000000
deriving DecidableEq

theorem daysInMonth_le (year month : Nat) : daysInMonth year month ≤ 31 := by
  unfold daysInMonth
  split
  · split <;> decide
  · split <;> decide

namespace DateTime

/-- The time to the second. -/
def clock (time : DateTime) : List Nat :=
  [time.year, time.month, time.day, time.hour, time.minute, time.second]

def fields (time : DateTime) : List Nat := time.clock ++ [time.microsecond]

theorem fields_injective : Function.Injective fields := by
  intro first second same
  simp only [fields, clock, List.cons_append, List.nil_append, List.cons.injEq] at same
  obtain ⟨year, month, day, hour, minute, second, microsecond, _⟩ := same
  cases first
  cases second
  simp_all

instance : LinearOrder DateTime := LinearOrder.lift' fields fields_injective

theorem lt_iff_fields {first second : DateTime} : first < second ↔ first.fields < second.fields :=
  Iff.rfl

/-- What is written after each field. -/
def isoShape (colon : List Char) : List (Nat × List Char) :=
  [(4, ['-']), (2, ['-']), (2, ['T']), (2, colon), (2, colon), (2, [])]

def stampShape (colon : List Char) : List (Nat × List Char) :=
  [(4, ['-']), (2, ['-']), (2, ['T']), (2, colon), (2, colon), (2, ['.']), (6, [])]

/-- `isoformat`, which leaves out a fraction of zero. -/
def isoformat (time : DateTime) : List Char :=
  format (isoShape [':']) time.clock ++
    if time.microsecond = 0 then [] else '.' :: fixed 6 time.microsecond

/-- `strftime` with `TIMESTAMP_FORMAT`. -/
def strftime (time : DateTime) : List Char := format (stampShape [':']) time.fields

end DateTime

/-- The colons are taken out. -/
def isoToFname (timestamp : DateTime) : String :=
  .ofList (timestamp.isoformat.filter fun char => char ≠ ':')

/-- The last three digits of the fraction are cut off. -/
def toTimestamp (timestamp : DateTime) : String :=
  .ofList (timestamp.strftime.take (timestamp.strftime.length - 3) ++ ['Z'])

namespace DateTime

/-- Whatever is written after each field. -/
theorem clock_fits (time : DateTime) {year month day hour minute second : List Char} :
    Fits [(4, year), (2, month), (2, day), (2, hour), (2, minute), (2, second)] time.clock := by
  have := time.years
  have := time.months
  have := time.days
  have := daysInMonth_le time.year time.month
  have := time.hours
  have := time.minutes
  have := time.seconds
  refine .cons ?_ (.cons ?_ (.cons ?_ (.cons ?_ (.cons ?_ (.cons ?_ .nil))))) <;> dsimp only <;> omega

theorem lt_iff {first second : DateTime} :
    first < second ↔ first.clock < second.clock ∨
      first.clock = second.clock ∧ first.microsecond < second.microsecond := by
  have same : first.clock.length = second.clock.length := rfl
  rw [lt_iff_fields, fields, fields, append_lt_append_iff same, List.cons_lt_cons_iff]
  simp

end DateTime

open DateTime

theorem isoToFname_eq (time : DateTime) :
    isoToFname time = .ofList (format (isoShape []) time.clock ++
      if time.microsecond = 0 then [] else '.' :: fixed 6 time.microsecond) := by
  have digits : ∀ char : Char, char.isDigit = true → decide (char ≠ ':') = true := by
    intro char digit
    rw [decide_eq_true_iff]
    rintro rfl
    cases digit
  have fraction : ∀ char ∈ (if time.microsecond = 0 then [] else '.' :: fixed 6 time.microsecond),
      decide (char ≠ ':') = true := by
    split
    · exact List.forall_mem_nil _
    · rw [List.forall_mem_cons]
      exact ⟨by decide, fun char member => digits char (isDigit_of_mem_fixed member)⟩
  rw [isoToFname, isoformat, List.filter_append, filter_format digits, List.filter_eq_self.mpr fraction]
  rfl

/-- The order of the texts in the names of the files is the order of the times. -/
theorem isoToFname_lt_iff {first second : DateTime} :
    isoToFname first < isoToFname second ↔ first < second := by
  have firstFits := first.microseconds
  have secondFits := second.microseconds
  have firstClock : Fits (isoShape []) first.clock := first.clock_fits
  have secondClock : Fits (isoShape []) second.clock := second.clock_fits
  rw [isoToFname_eq, isoToFname_eq, String.lt_iff, String.toList_ofList, String.toList_ofList,
    append_lt_append_iff (length_format_eq firstClock secondClock),
    format_lt_format_iff firstClock secondClock, format_inj firstClock secondClock,
    DateTime.lt_iff]
  refine or_congr Iff.rfl (and_congr_right fun _ => ?_)
  split
  · split
    · simp_all
    · simp only [List.nil_lt_cons, true_iff]
      omega
  · split
    · simp_all
    · rw [List.cons_lt_cons_iff, fixed_lt_fixed_iff firstFits secondFits]
      simp

/-- The time without what is below a millisecond. -/
def DateTime.truncated (time : DateTime) : DateTime :=
  { time with
    microsecond := time.microsecond / 1000 * 1000
    microseconds := Nat.lt_of_le_of_lt (Nat.div_mul_le_self _ _) time.microseconds }

def millisShape : List (Nat × List Char) :=
  [(4, ['-']), (2, ['-']), (2, ['T']), (2, [':']), (2, [':']), (2, ['.']), (3, ['Z'])]

theorem millis_fits (time : DateTime) :
    Fits millisShape (time.clock ++ [time.microsecond / 1000]) := by
  have := time.microseconds
  have fraction : Fits [(3, ['Z'])] [time.microsecond / 1000] :=
    .cons (by dsimp only; omega) .nil
  exact List.rel_append time.clock_fits fraction

theorem toTimestamp_eq (time : DateTime) :
    toTimestamp time =
      .ofList (format millisShape (time.clock ++ [time.microsecond / 1000])) := by
  obtain ⟨digits, fraction, length⟩ := fixed_add 3 3 time.microsecond
  have cut : time.strftime = format (isoShape [':']) time.clock ++
      ('.' :: fixed 3 (time.microsecond / 1000)) ++ digits := by
    simp [strftime, stampShape, isoShape, fields, clock, format, fraction]
  rw [toTimestamp, cut, List.length_append, length, Nat.add_sub_cancel, List.take_left]
  simp [millisShape, isoShape, clock, format]

/-- In a query, what is below a millisecond does not count. -/
theorem toTimestamp_lt_iff {first second : DateTime} :
    toTimestamp first < toTimestamp second ↔ first.truncated < second.truncated := by
  have same : first.clock.length = second.clock.length := rfl
  rw [toTimestamp_eq, toTimestamp_eq, String.lt_iff, String.toList_ofList, String.toList_ofList,
    format_lt_format_iff (millis_fits first) (millis_fits second), append_lt_append_iff same,
    List.cons_lt_cons_iff, DateTime.lt_iff]
  refine or_congr Iff.rfl (and_congr_right fun _ => ?_)
  simp only [List.not_lt_nil, and_false, or_false, DateTime.truncated]
  omega

end Daq.Combine
