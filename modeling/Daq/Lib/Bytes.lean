import Mathlib.Algebra.BigOperators.Group.List.Basic
import Mathlib.Algebra.Order.Ring.Nat
import Mathlib.Data.List.Induction

namespace Daq

abbrev Bytes := List UInt8

namespace Bytes

/-- The number a byte string spells, most significant byte first. -/
def toNat (bytes : Bytes) : Nat :=
  bytes.foldl (fun value byte => value * 256 + byte.toNat) 0

/-- The last `width` base-256 digits of a number, most significant first. -/
def ofNat : Nat → Nat → Bytes
  | 0, _ => []
  | width + 1, value => ofNat width (value / 256) ++ [UInt8.ofNat value]

@[simp] theorem length_ofNat (width value : Nat) : (ofNat width value).length = width := by
  induction width generalizing value with
  | zero => rfl
  | succ width shorter => simp [ofNat, shorter]

@[simp] theorem toNat_append (bytes : Bytes) (byte : UInt8) :
    toNat (bytes ++ [byte]) = toNat bytes * 256 + byte.toNat := by
  simp [toNat]

theorem toNat_lt (bytes : Bytes) : toNat bytes < 256 ^ bytes.length := by
  induction bytes using List.reverseRecOn with
  | nil => decide
  | append_singleton bytes byte shorter =>
      have bound := byte.toNat_lt
      rw [toNat_append, List.length_append, List.length_singleton, Nat.pow_succ]
      omega

@[simp] theorem ofNat_toNat (bytes : Bytes) : ofNat bytes.length (toNat bytes) = bytes := by
  induction bytes using List.reverseRecOn with
  | nil => rfl
  | append_singleton bytes byte shorter =>
      have bound := byte.toNat_lt
      have quotient : (toNat bytes * 256 + byte.toNat) / 256 = toNat bytes := by omega
      have digit : UInt8.ofNat (toNat bytes * 256 + byte.toNat) = byte := by
        apply UInt8.toNat_inj.mp
        rw [UInt8.toNat_ofNat']
        omega
      simp [ofNat, quotient, digit, shorter]

theorem toNat_ofNat {width value : Nat} (fits : value < 256 ^ width) :
    toNat (ofNat width value) = value := by
  induction width generalizing value with
  | zero =>
      have zero : value = 0 := by omega
      simp [ofNat, toNat, zero]
  | succ width shorter =>
      have fewer : value / 256 < 256 ^ width := by
        apply Nat.div_lt_of_lt_mul
        rwa [Nat.mul_comm, ← Nat.pow_succ]
      rw [ofNat, toNat_append, shorter fewer, UInt8.toNat_ofNat']
      omega

/-- The bytes from `start` up to `stop`; empty when `stop` comes first. -/
def slice (bytes : Bytes) (start stop : Nat) : Bytes := (bytes.take stop).drop start

theorem length_slice_le (bytes : Bytes) (start stop : Nat) :
    (bytes.slice start stop).length ≤ bytes.length - start := by
  simp only [slice, List.length_drop, List.length_take]
  omega

theorem length_slice_le_width (bytes : Bytes) (start stop : Nat) :
    (bytes.slice start stop).length ≤ stop - start := by
  simp only [slice, List.length_drop, List.length_take]
  omega

/-- Continue a UTF-8 text in which `owed` continuation bytes are outstanding and
the next one has to lie between `low` and `high`. -/
def utf8From : Nat → UInt8 → UInt8 → Bytes → Bool
  | 0, _, _, [] => true
  | _ + 1, _, _, [] => false
  | owed + 1, low, high, byte :: rest =>
      decide (low ≤ byte ∧ byte ≤ high) && utf8From owed 0x80 0xBF rest
  | 0, _, _, byte :: rest =>
      if byte ≤ 0x7F then utf8From 0 0x80 0xBF rest
      else if 0xC2 ≤ byte ∧ byte ≤ 0xDF then utf8From 1 0x80 0xBF rest
      else if byte = 0xE0 then utf8From 2 0xA0 0xBF rest
      -- The surrogate code points are not characters.
      else if byte = 0xED then utf8From 2 0x80 0x9F rest
      else if 0xE1 ≤ byte ∧ byte ≤ 0xEF then utf8From 2 0x80 0xBF rest
      else if byte = 0xF0 then utf8From 3 0x90 0xBF rest
      else if 0xF1 ≤ byte ∧ byte ≤ 0xF3 then utf8From 3 0x80 0xBF rest
      else if byte = 0xF4 then utf8From 3 0x80 0x8F rest
      else false

/-- Whether a byte string is the UTF-8 encoding of some text. -/
def isUtf8 (bytes : Bytes) : Bool := utf8From 0 0x80 0xBF bytes

end Bytes

end Daq
