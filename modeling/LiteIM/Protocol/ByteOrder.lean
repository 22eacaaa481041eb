/-
# Network byte order

The fixed-width reads and writes of `ByteOrder.hpp`, written with the shifts and
masks of the source. A read takes a pointer there; here it takes the bytes from
that pointer on, and a byte past their end, which no caller reads, is zero.

Each write appends the big-endian digits of its value and each read returns the
number that the digits in front denote. Packet and field codecs use only those
two facts.
-/

import LiteIM.Foundation.BigEndian

namespace LiteIM

open Foundation BigEndian List

/-- `data[index]`. -/
def byteAt (data : Bytes) (index : Nat) : UInt8 := data.getD index 0

def appendUint16BE (output : Bytes) (value : UInt16) : Bytes :=
  output ++ [((value >>> 8) &&& 0xFF).toUInt8, (value &&& 0xFF).toUInt8]

def appendUint32BE (output : Bytes) (value : UInt32) : Bytes :=
  output ++ [((value >>> 24) &&& 0xFF).toUInt8, ((value >>> 16) &&& 0xFF).toUInt8,
    ((value >>> 8) &&& 0xFF).toUInt8, (value &&& 0xFF).toUInt8]

/-- The shifts run through 56, 48, …, 0 as in the source's loop. -/
def appendUint64BE (output : Bytes) (value : UInt64) : Bytes :=
  ([56, 48, 40, 32, 24, 16, 8, 0] : List UInt64).foldl
    (fun output shift => output ++ [((value >>> shift) &&& 0xFF).toUInt8]) output

def readUint16BE (data : Bytes) : UInt16 :=
  ((byteAt data 0).toUInt16 <<< 8) ||| (byteAt data 1).toUInt16

def readUint32BE (data : Bytes) : UInt32 :=
  ((byteAt data 0).toUInt32 <<< 24) ||| ((byteAt data 1).toUInt32 <<< 16) |||
    ((byteAt data 2).toUInt32 <<< 8) ||| (byteAt data 3).toUInt32

def readUint64BE (data : Bytes) : UInt64 :=
  (range 8).foldl (fun value index => (value <<< 8) ||| (byteAt data index).toUInt64) 0

/-! ## Writes append digits -/

theorem appendUint16BE_eq (output : Bytes) (value : UInt16) :
    appendUint16BE output value = output ++ digits 2 value.toNat := by
  rw [appendUint16BE]
  congr 1
  simp only [digits, nil_append, cons_append, cons.injEq, and_true]
  refine ⟨?_, ?_⟩ <;>
  · apply UInt8.toNat_inj.mp
    simp [Nat.shiftRight_eq_div_pow, mod_and_mask]

theorem appendUint32BE_eq (output : Bytes) (value : UInt32) :
    appendUint32BE output value = output ++ digits 4 value.toNat := by
  rw [appendUint32BE]
  congr 1
  simp only [digits, nil_append, cons_append, cons.injEq, and_true]
  refine ⟨?_, ?_, ?_, ?_⟩ <;>
  · apply UInt8.toNat_inj.mp
    simp [Nat.shiftRight_eq_div_pow, Nat.div_div_eq_div_mul, mod_and_mask]

theorem appendUint64BE_eq (output : Bytes) (value : UInt64) :
    appendUint64BE output value = output ++ digits 8 value.toNat := by
  simp only [appendUint64BE, foldl_cons, foldl_nil, append_assoc]
  congr 1
  simp only [digits, nil_append, cons_append, cons.injEq, and_true]
  refine ⟨?_, ?_, ?_, ?_, ?_, ?_, ?_, ?_⟩ <;>
  · apply UInt8.toNat_inj.mp
    simp [Nat.shiftRight_eq_div_pow, Nat.div_div_eq_div_mul, mod_and_mask]

/-! ## Reads return the number in front -/

theorem readUint16BE_cons (a b : UInt8) (rest : Bytes) :
    (readUint16BE (a :: b :: rest)).toNat = value [a, b] := by
  have ha := a.toNat_lt
  have hfit : a.toNat <<< 8 % 2 ^ 16 = a.toNat <<< 8 :=
    Nat.mod_eq_of_lt (by rw [Nat.shiftLeft_eq]; omega)
  calc
    (readUint16BE (a :: b :: rest)).toNat = a.toNat <<< 8 % 2 ^ 16 ||| b.toNat := by
      simp [readUint16BE, byteAt]
    _ = a.toNat * 256 + b.toNat := by rw [hfit, shiftLeft_or]
    _ = value [a, b] := by simp [value]

theorem readUint32BE_cons (a b c d : UInt8) (rest : Bytes) :
    (readUint32BE (a :: b :: c :: d :: rest)).toNat = value [a, b, c, d] := by
  have fits : ∀ (byte : UInt8) (shift : Nat), shift ≤ 24 →
      byte.toNat <<< shift % 2 ^ 32 = byte.toNat <<< shift := by
    intro byte shift hshift
    have hbyte := byte.toNat_lt
    refine Nat.mod_eq_of_lt ?_
    calc
      byte.toNat <<< shift < 2 ^ 8 * 2 ^ shift := by
        rw [Nat.shiftLeft_eq]
        exact Nat.mul_lt_mul_of_pos_right hbyte (Nat.two_pow_pos shift)
      _ ≤ 2 ^ 32 := by
        rw [← Nat.pow_add]
        exact Nat.pow_le_pow_right (by decide) (by omega)
  calc
    (readUint32BE (a :: b :: c :: d :: rest)).toNat =
        a.toNat <<< 24 % 2 ^ 32 ||| b.toNat <<< 16 % 2 ^ 32 ||| c.toNat <<< 8 % 2 ^ 32 |||
          d.toNat := by
      simp [readUint32BE, byteAt]
    _ = ((a.toNat <<< 8 ||| b.toNat) <<< 8 ||| c.toNat) <<< 8 ||| d.toNat := by
      rw [fits a 24 (by omega), fits b 16 (by omega), fits c 8 (by omega)]
      simp only [Nat.shiftLeft_or_distrib, ← Nat.shiftLeft_add]
    _ = value [a, b, c, d] := by
      simp [shiftLeft_or, value]

/-- One turn of the loop that reads eight bytes. -/
theorem shiftLeft_or_toUInt64 (value : UInt64) (byte : UInt8) (hvalue : value.toNat < 256 ^ 7) :
    (value <<< 8 ||| byte.toUInt64).toNat = value.toNat * 256 + byte.toNat := by
  have hfit : value.toNat <<< 8 % 2 ^ 64 = value.toNat <<< 8 :=
    Nat.mod_eq_of_lt (by rw [Nat.shiftLeft_eq]; omega)
  calc
    (value <<< 8 ||| byte.toUInt64).toNat = value.toNat <<< 8 % 2 ^ 64 ||| byte.toNat := by simp
    _ = value.toNat * 256 + byte.toNat := by rw [hfit, shiftLeft_or]

variable {data : Bytes}

theorem foldl_shiftLeft_or (data : Bytes) {count : Nat} (hcount : count ≤ 8)
    (hlength : count ≤ data.length) :
    ((range count).foldl
      (fun (value : UInt64) index => (value <<< 8) ||| (byteAt data index).toUInt64) 0).toNat =
      value (data.take count) := by
  induction count with
  | zero => simp
  | succ count ih =>
    have hlt : count < data.length := hlength
    have hprior := ih (by omega) (by omega)
    have hsmall : value (data.take count) < 256 ^ 7 :=
      calc
        value (data.take count) < 256 ^ (data.take count).length :=
          value_lt _
        _ ≤ 256 ^ 7 := Nat.pow_le_pow_right (by decide) (by rw [length_take]; omega)
    rw [range_succ, foldl_append, foldl_cons, foldl_nil,
      shiftLeft_or_toUInt64 _ _ (by rw [hprior]; exact hsmall), hprior,
      take_succ_eq_append_getElem hlt,
      value_concat]
    simp [byteAt, hlt]

theorem readUint16BE_toNat (hlength : 2 ≤ data.length) :
    (readUint16BE data).toNat = value (data.take 2) := by
  match data, hlength with
  | a :: b :: rest, _ => exact readUint16BE_cons a b rest

theorem readUint32BE_toNat (hlength : 4 ≤ data.length) :
    (readUint32BE data).toNat = value (data.take 4) := by
  match data, hlength with
  | a :: b :: c :: d :: rest, _ => exact readUint32BE_cons a b c d rest

theorem readUint64BE_toNat (hlength : 8 ≤ data.length) :
    (readUint64BE data).toNat = value (data.take 8) :=
  foldl_shiftLeft_or data (Nat.le_refl 8) hlength

/-! ## Round trips -/

theorem readUint16BE_digits (value : UInt16) (rest : Bytes) :
    readUint16BE (digits 2 value.toNat ++ rest) = value := by
  apply UInt16.toNat_inj.mp
  rw [readUint16BE_toNat (by simp), take_left' (length_digits _ _),
    value_digits_of_lt value.toNat_lt]

theorem readUint32BE_digits (value : UInt32) (rest : Bytes) :
    readUint32BE (digits 4 value.toNat ++ rest) = value := by
  apply UInt32.toNat_inj.mp
  rw [readUint32BE_toNat (by simp), take_left' (length_digits _ _),
    value_digits_of_lt value.toNat_lt]

theorem readUint64BE_digits (value : UInt64) (rest : Bytes) :
    readUint64BE (digits 8 value.toNat ++ rest) = value := by
  apply UInt64.toNat_inj.mp
  rw [readUint64BE_toNat (by simp), take_left' (length_digits _ _),
    value_digits_of_lt value.toNat_lt]

theorem digits_readUint16BE (hlength : 2 ≤ data.length) :
    digits 2 (readUint16BE data).toNat = data.take 2 := by
  rw [readUint16BE_toNat hlength]
  exact digits_value_of_length (length_take_of_le hlength)

theorem digits_readUint32BE (hlength : 4 ≤ data.length) :
    digits 4 (readUint32BE data).toNat = data.take 4 := by
  rw [readUint32BE_toNat hlength]
  exact digits_value_of_length (length_take_of_le hlength)

theorem digits_readUint64BE (hlength : 8 ≤ data.length) :
    digits 8 (readUint64BE data).toNat = data.take 8 := by
  rw [readUint64BE_toNat hlength]
  exact digits_value_of_length (length_take_of_le hlength)

end LiteIM
