/-
# Big-endian digit strings

A fixed-width unsigned integer travels as its base-256 digits, most significant
first. This module relates a number to its digit string of a chosen width,
without fixing the width: reading the digits of a number returns the number
modulo the range of the width, and writing the value of a string of that width
returns the string.
-/

import Mathlib.Data.List.Induction
import Mathlib.Tactic.Ring

namespace LiteIM.Foundation

open List

/-- A string of octets. -/
abbrev Bytes := List UInt8

namespace BigEndian

/-- The `width` low base-256 digits of a number, most significant first. -/
def digits : Nat → Nat → Bytes
  | 0, _ => []
  | width + 1, n => digits width (n / 256) ++ [UInt8.ofNat n]

/-- The number a digit string denotes. -/
def value (bytes : Bytes) : Nat :=
  bytes.foldl (fun high byte => high * 256 + byte.toNat) 0

@[simp]
theorem value_nil : value [] = 0 := rfl

@[simp]
theorem value_concat (bytes : Bytes) (byte : UInt8) :
    value (bytes ++ [byte]) = value bytes * 256 + byte.toNat := by
  simp [value]

@[simp]
theorem length_digits (width n : Nat) : (digits width n).length = width := by
  induction width generalizing n with
  | zero => rfl
  | succ width ih => simp [digits, ih]

/-- Reading back the digits of a number loses only what does not fit. -/
theorem value_digits (width n : Nat) : value (digits width n) = n % 256 ^ width := by
  induction width generalizing n with
  | zero => simp [digits, Nat.mod_one]
  | succ width ih =>
    have hsplit : n % 256 ^ (width + 1) = n / 256 % 256 ^ width * 256 + n % 256 := by
      rw [pow_succ, mul_comm (256 ^ width), Nat.mod_mul]
      ring
    rw [digits, value_concat, ih, hsplit, UInt8.toNat_ofNat']

theorem value_digits_of_lt {width n : Nat} (hn : n < 256 ^ width) :
    value (digits width n) = n := by
  rw [value_digits, Nat.mod_eq_of_lt hn]

theorem value_lt (bytes : Bytes) : value bytes < 256 ^ bytes.length := by
  induction bytes using reverseRecOn with
  | nil => simp
  | append_singleton bytes byte =>
    have hbyte := byte.toNat_lt
    rw [value_concat, length_append, length_singleton, pow_succ]
    omega

/-- A string is the digit string, at its own width, of the number it denotes. -/
theorem digits_value (bytes : Bytes) : digits bytes.length (value bytes) = bytes := by
  induction bytes using reverseRecOn with
  | nil => rfl
  | append_singleton bytes byte ih =>
    have hbyte := byte.toNat_lt
    have hhigh : (value bytes * 256 + byte.toNat) / 256 = value bytes := by omega
    have hlow : UInt8.ofNat (value bytes * 256 + byte.toNat) = byte := by
      apply UInt8.toNat_inj.mp
      rw [UInt8.toNat_ofNat']
      omega
    rw [length_append, length_singleton, value_concat, digits, hhigh, hlow, ih]

theorem digits_value_of_length {width : Nat} {bytes : Bytes} (hlength : bytes.length = width) :
    digits width (value bytes) = bytes := by
  subst hlength
  exact digits_value bytes

/-! ## Digits as bit operations -/

/-- Masking a digit with all ones does nothing. -/
theorem mod_and_mask (n : Nat) : n % 256 &&& 255 = n % 256 := by
  rw [Nat.and_two_pow_sub_one_eq_mod (n % 256) 8, Nat.mod_mod]

/-- Joining a digit below a number shifted up by one digit. -/
theorem shiftLeft_or (high : Nat) (byte : UInt8) :
    high <<< 8 ||| byte.toNat = high * 256 + byte.toNat := by
  rw [← Nat.shiftLeft_add_eq_or_of_lt byte.toNat_lt, Nat.shiftLeft_eq]

end BigEndian

end LiteIM.Foundation
