import Mathlib.Data.Nat.Digits.Defs
import Mathlib.Data.List.Forall2

namespace Daq.Numeral

/-! Numbers of a fixed width, and the order of texts that are made of them. -/

section Lists

variable {α : Type} [LT α]

theorem append_lt_append_iff [Std.Irrefl (α := α) (· < ·)] {first second : List α}
    (same : first.length = second.length) (rest others : List α) :
    first ++ rest < second ++ others ↔ first < second ∨ first = second ∧ rest < others := by
  induction first generalizing second with
  | nil =>
      obtain rfl : second = [] := List.length_eq_zero_iff.mp same.symm
      simp
  | cons head tail later =>
      cases second with
      | nil => cases same
      | cons other more =>
          rw [List.cons_append, List.cons_append, List.cons_lt_cons_iff, List.cons_lt_cons_iff,
            later (Nat.succ.inj same), List.cons.injEq]
          grind

end Lists

/-- The last digits of a number. -/
def fixed : Nat → Nat → List Char
  | 0, _ => []
  | width + 1, value => fixed width (value / 10) ++ [Nat.digitChar (value % 10)]

@[simp] theorem length_fixed (width value : Nat) : (fixed width value).length = width := by
  induction width generalizing value with
  | zero => rfl
  | succ width later => rw [fixed, List.length_append, later, List.length_singleton]

theorem digitChar_lt_digitChar_iff :
    ∀ {first : Nat}, first < 10 → ∀ {second : Nat}, second < 10 →
      (Nat.digitChar first < Nat.digitChar second ↔ first < second) := by
  decide

theorem digitChar_inj :
    ∀ {first : Nat}, first < 10 → ∀ {second : Nat}, second < 10 →
      (Nat.digitChar first = Nat.digitChar second ↔ first = second) := by
  decide

theorem isDigit_digitChar : ∀ {value : Nat}, value < 10 → (Nat.digitChar value).isDigit = true := by
  decide

theorem isDigit_of_mem_fixed {width value : Nat} {char : Char} (member : char ∈ fixed width value) :
    char.isDigit = true := by
  induction width generalizing value with
  | zero => cases member
  | succ width later =>
      rcases List.mem_append.mp member with member | member
      · exact later member
      · obtain rfl := List.mem_singleton.mp member
        exact isDigit_digitChar (Nat.mod_lt value (by decide))

theorem fixed_inj {width first second : Nat} (firstFits : first < 10 ^ width)
    (secondFits : second < 10 ^ width) : fixed width first = fixed width second ↔ first = second := by
  induction width generalizing first second with
  | zero =>
      rw [Nat.pow_zero] at firstFits secondFits
      exact iff_of_true rfl (by omega)
  | succ width later =>
      rw [Nat.pow_succ] at firstFits secondFits
      rw [fixed, fixed, List.append_eq_append_iff_of_size_eq_right (by simp), List.singleton_inj,
        later (by omega) (by omega), digitChar_inj (by omega) (by omega)]
      omega

theorem fixed_lt_fixed_iff {width first second : Nat} (firstFits : first < 10 ^ width)
    (secondFits : second < 10 ^ width) : fixed width first < fixed width second ↔ first < second := by
  induction width generalizing first second with
  | zero =>
      rw [Nat.pow_zero] at firstFits secondFits
      exact iff_of_false (List.not_lt_nil _) (by omega)
  | succ width later =>
      rw [Nat.pow_succ] at firstFits secondFits
      rw [fixed, fixed, append_lt_append_iff (by simp), later (by omega) (by omega),
        fixed_inj (by omega) (by omega), List.cons_lt_cons_iff,
        digitChar_lt_digitChar_iff (by omega) (by omega)]
      simp only [List.not_lt_nil, and_false, or_false]
      omega

theorem fixed_add (more width value : Nat) :
    ∃ digits, fixed (width + more) value = fixed width (value / 10 ^ more) ++ digits ∧
      digits.length = more := by
  induction more generalizing value with
  | zero => exact ⟨[], by simp, rfl⟩
  | succ more later =>
      obtain ⟨digits, parts, length⟩ := later (value / 10)
      refine ⟨digits ++ [Nat.digitChar (value % 10)], ?_, by simp [length]⟩
      rw [← Nat.add_assoc, fixed, parts, List.append_assoc, Nat.div_div_eq_div_mul, Nat.pow_succ']

/-! A text of numbers, each with its width and with what is written after it. -/

def format : List (Nat × List Char) → List Nat → List Char
  | (width, mark) :: shape, value :: values => fixed width value ++ mark ++ format shape values
  | _, _ => []

/-- What is taken out of such a text, if it is no digit. -/
theorem filter_format {test : Char → Bool} (digits : ∀ char, char.isDigit = true → test char = true)
    (shape : List (Nat × List Char)) (values : List Nat) :
    (format shape values).filter test =
      format (shape.map fun field => (field.1, field.2.filter test)) values := by
  fun_induction format shape values with
  | case1 width mark shape value values later =>
      have kept : (fixed width value).filter test = fixed width value := by
        rw [List.filter_eq_self]
        intro char member
        exact digits char (isDigit_of_mem_fixed member)
      rw [List.filter_append, List.filter_append, kept, later, List.map_cons, format]
  | case2 shape values nothing =>
      cases shape with
      | nil => rfl
      | cons field shape =>
          cases values with
          | nil => rfl
          | cons value values => exact absurd rfl (nothing field.1 field.2 shape value values rfl)

/-- The numbers have their widths. -/
def Fits (shape : List (Nat × List Char)) (values : List Nat) : Prop :=
  List.Forall₂ (fun field value => value < 10 ^ field.1) shape values

section Fits

variable {shape : List (Nat × List Char)} {first second : List Nat}

theorem format_inj (firstFits : Fits shape first) (secondFits : Fits shape second) :
    format shape first = format shape second ↔ first = second := by
  induction firstFits generalizing second with
  | nil =>
      cases secondFits
      exact iff_of_true rfl rfl
  | cons fits _ later =>
      cases secondFits with
      | cons otherFits others =>
          rw [format, format, List.append_eq_append_iff_of_size_eq_left (by simp),
            List.append_left_inj, fixed_inj fits otherFits, later others, List.cons.injEq]

theorem format_lt_format_iff (firstFits : Fits shape first) (secondFits : Fits shape second) :
    format shape first < format shape second ↔ first < second := by
  induction firstFits generalizing second with
  | nil =>
      cases secondFits
      exact iff_of_false (List.not_lt_nil _) (List.not_lt_nil _)
  | cons fits _ later =>
      cases secondFits with
      | cons otherFits others =>
          rw [format, format, append_lt_append_iff (by simp), append_lt_append_iff (by simp),
            List.append_left_inj, fixed_lt_fixed_iff fits otherFits, fixed_inj fits otherFits,
            later others, List.cons_lt_cons_iff, iff_false_intro (List.lt_irrefl _), and_false,
            or_false]

theorem length_format_eq (firstFits : Fits shape first) (secondFits : Fits shape second) :
    (format shape first).length = (format shape second).length := by
  induction firstFits generalizing second with
  | nil =>
      cases secondFits
      rfl
  | cons _ _ later =>
      cases secondFits with
      | cons _ others =>
          rw [format, format, List.length_append, List.length_append, later others,
            List.length_append, List.length_append, length_fixed, length_fixed]

end Fits

end Daq.Numeral
