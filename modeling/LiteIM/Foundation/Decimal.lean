/-
# Decimal numerals

Numbers as decimal text, and the numbers that `strtoull` and its relatives read off a text.
These skip blanks, take a sign, and then read digits for as long as there are any; the caller
learns how many bytes that was. A value that does not fit is refused, but an unsigned reader
also takes a minus sign, and then returns the negated value modulo its range.

One theorem says which texts are read to their end, and everything about printing a number
and reading it again follows from it.
-/

import LiteIM.Foundation.Text

namespace LiteIM.Foundation

open List UInt64

/-! ## Digits -/

def isDigit (byte : UInt8) : Bool := 0x30 ≤ byte && byte ≤ 0x39

def digitsValue (digits : Bytes) : Nat :=
  digits.foldl (fun value digit => 10 * value + (digit.toNat - 48)) 0

/-- The decimal digits of a number, as `std::to_string` prints them. -/
def decimal (n : Nat) : Bytes := (Nat.toDigits 10 n).map fun digit => UInt8.ofNat digit.toNat

variable {byte : UInt8}

theorem isDigit_iff : isDigit byte ↔ 48 ≤ byte.toNat ∧ byte.toNat ≤ 57 := by
  rw [isDigit, Bool.and_eq_true, decide_eq_true_eq, decide_eq_true_eq, UInt8.le_iff_toNat_le,
    UInt8.le_iff_toNat_le]
  rfl

variable {n : Nat}

theorem toNat_digit {digit : Char} (hdigit : digit ∈ Nat.toDigits 10 n) :
    (UInt8.ofNat digit.toNat).toNat = digit.toNat ∧ 48 ≤ digit.toNat ∧ digit.toNat ≤ 57 := by
  have hrange := Char.isDigit_iff_toNat.mp
    (Nat.isDigit_of_mem_toDigits (by decide) (by decide) hdigit)
  have hlow : 48 ≤ digit.toNat := hrange.1
  have hhigh : digit.toNat ≤ 57 := hrange.2
  refine ⟨?_, hlow, hhigh⟩
  rw [UInt8.toNat_ofNat', Nat.mod_eq_of_lt (Nat.lt_of_le_of_lt hhigh (by decide))]

theorem isDigit_of_mem_decimal (hbyte : byte ∈ decimal n) : isDigit byte := by
  obtain ⟨digit, hdigit, rfl⟩ := mem_map.mp hbyte
  obtain ⟨heq, hrange⟩ := toNat_digit hdigit
  rw [isDigit_iff, heq]
  exact hrange

theorem decimal_ne_nil (n : Nat) : decimal n ≠ [] := by
  rw [decimal, Ne, map_eq_nil_iff]
  exact Nat.toDigits_ne_nil

theorem digitsValue_decimal (n : Nat) : digitsValue (decimal n) = n := by
  have hfold : digitsValue (decimal n) = Nat.ofDigitChars 10 (Nat.toDigits 10 n) 0 := by
    rw [digitsValue, decimal, foldl_map, Nat.ofDigitChars_eq_foldl]
    apply foldl_ext
    intro value digit hdigit
    rw [(toNat_digit hdigit).1]
    rfl
  rw [hfold, Nat.ofDigitChars_ten_toDigits]

theorem decimal_injective : Function.Injective decimal :=
  Function.LeftInverse.injective digitsValue_decimal

/-- What is no digit can separate printed numbers. -/
theorem notMem_decimal (hbyte : isDigit byte = false) (n : Nat) : byte ∉ decimal n := by
  intro hmem
  rw [isDigit_of_mem_decimal hmem] at hbyte
  cases hbyte

/-- A signed number, as `std::to_string` prints it. -/
def decimalInt (n : Int) : Bytes :=
  if n < 0 then 0x2D :: decimal n.natAbs else decimal n.natAbs

/-! ## Reading a number off a text -/

/-- What a reader found at the start of a text, and how many bytes that was. -/
structure Scanned where
  negative : Bool
  magnitude : Nat
  consumed : Nat
  deriving DecidableEq, Repr

/-- Takes a sign off a text: whether it is a minus sign, and the text after it. -/
def readSign (text : Bytes) : Bool × Bytes :=
  if text.head? = some 0x2D then (true, text.tail)
  else if text.head? = some 0x2B then (false, text.tail)
  else (false, text)

/-- Blanks, a sign that may be missing, and at least one digit. -/
def scanInteger (text : Bytes) : Option Scanned :=
  let signed := readSign (text.dropWhile isSpace)
  if signed.2.takeWhile isDigit = [] then none
  else
    some
      { negative := signed.1
        magnitude := digitsValue (signed.2.takeWhile isDigit)
        consumed := text.length - (signed.2.dropWhile isDigit).length }

/-- `std::stoull` in base ten, and `std::stoul` where `unsigned long` has 64 bits: the number and
how many bytes were read. `none` stands for the exceptions. -/
def stoull (text : Bytes) : Option (UInt64 × Nat) :=
  (scanInteger text).bind fun scanned =>
    if scanned.magnitude < 2 ^ 64 then
      let value := ofNat scanned.magnitude
      some (if scanned.negative then -value else value, scanned.consumed)
    else none

/-- `std::stoll` in base ten. -/
def stoll (text : Bytes) : Option (Int × Nat) :=
  (scanInteger text).bind fun scanned =>
    let value : Int := if scanned.negative then -scanned.magnitude else scanned.magnitude
    if -2 ^ 63 ≤ value ∧ value < 2 ^ 63 then some (value, scanned.consumed) else none

/-! ## The texts that are read to their end -/

/-- The texts of a sign. -/
def IsSign (negative : Bool) (sign : Bytes) : Prop :=
  if negative then sign = [0x2D] else sign = [] ∨ sign = [0x2B]

/-- The texts of a number without a sign. -/
structure IsDigits (digits : Bytes) : Prop where
  ne_nil : digits ≠ []
  isDigit : ∀ byte ∈ digits, isDigit byte

theorem isDigits_decimal (n : Nat) : IsDigits (decimal n) where
  ne_nil := decimal_ne_nil n
  isDigit _ hbyte := isDigit_of_mem_decimal hbyte

variable {negative : Bool} {text : Bytes}

theorem readSign_eq {rest : Bytes} (hread : readSign text = (negative, rest)) :
    ∃ sign, IsSign negative sign ∧ text = sign ++ rest := by
  rw [readSign] at hread
  split_ifs at hread with hminus hplus
  · cases hread
    exact ⟨[0x2D], rfl, (cons_head?_tail hminus).symm⟩
  · cases hread
    exact ⟨[0x2B], Or.inr rfl, (cons_head?_tail hplus).symm⟩
  · cases hread
    exact ⟨[], Or.inl rfl, rfl⟩

theorem readSign_append {sign digits : Bytes} (hsign : IsSign negative sign)
    (hdigits : IsDigits digits) : readSign (sign ++ digits) = (negative, digits) := by
  cases negative with
  | true =>
    have hminus : sign = [0x2D] := hsign
    subst hminus
    rfl
  | false =>
    obtain rfl | rfl : sign = [] ∨ sign = [0x2B] := hsign
    · -- The first digit is no sign.
      obtain ⟨digit, rest, rfl⟩ := exists_cons_of_ne_nil hdigits.ne_nil
      have hdigit := hdigits.isDigit digit mem_cons_self
      have hminus : digit ≠ 0x2D := fun h => absurd (h ▸ hdigit) (by decide)
      have hplus : digit ≠ 0x2B := fun h => absurd (h ▸ hdigit) (by decide)
      simp [readSign, hminus, hplus]
    · rfl

/-- No blank begins a number. -/
theorem dropWhile_isSpace_append {sign digits : Bytes} (hsign : IsSign negative sign)
    (hdigits : IsDigits digits) : (sign ++ digits).dropWhile isSpace = sign ++ digits := by
  obtain ⟨digit, rest, rfl⟩ := exists_cons_of_ne_nil hdigits.ne_nil
  have hdigit : isSpace digit = false := by
    have hrange := isDigit_iff.mp (hdigits.isDigit digit mem_cons_self)
    rw [Bool.eq_false_iff, Ne, isSpace_iff]
    omega
  cases negative with
  | true =>
    have hminus : sign = [0x2D] := hsign
    subst hminus
    rfl
  | false =>
    obtain rfl | rfl : sign = [] ∨ sign = [0x2B] := hsign
    · exact dropWhile_cons_of_neg (Bool.eq_false_iff.mp hdigit)
    · rfl

/-- A reader gets to the end of a text that is blanks, a sign and digits, and of no other. -/
theorem scanInteger_whole_iff {magnitude : Nat} :
    scanInteger text = some ⟨negative, magnitude, text.length⟩ ↔
      ∃ blanks sign digits, text = blanks ++ (sign ++ digits) ∧
        (∀ byte ∈ blanks, isSpace byte) ∧ IsSign negative sign ∧ IsDigits digits ∧
        digitsValue digits = magnitude := by
  refine ⟨fun hscan => ?_, ?_⟩
  · obtain ⟨signed, hsigned⟩ : ∃ signed, readSign (text.dropWhile isSpace) = signed := ⟨_, rfl⟩
    obtain ⟨sign, hsign, hdrop⟩ := readSign_eq hsigned
    rw [scanInteger, hsigned] at hscan
    split_ifs at hscan with hnone
    obtain ⟨hnegative, hvalue, hconsumed⟩ := Scanned.mk.inj (Option.some.inj hscan)
    have htext : text = text.takeWhile isSpace ++
        (sign ++ (signed.2.takeWhile isDigit ++ signed.2.dropWhile isDigit)) := by
      rw [takeWhile_append_dropWhile, ← hdrop, takeWhile_append_dropWhile]
    -- All was consumed, so nothing follows the digits.
    have hrest : signed.2.dropWhile isDigit = [] := by
      have hlength := congrArg length htext
      have hpositive := length_pos_iff.mpr hnone
      simp only [length_append] at hlength
      apply eq_nil_of_length_eq_zero
      omega
    rw [hrest, append_nil] at htext
    exact ⟨_, sign, _, htext, fun byte hbyte => mem_takeWhile_imp hbyte, hnegative ▸ hsign,
      ⟨hnone, fun byte hbyte => mem_takeWhile_imp hbyte⟩, hvalue⟩
  · rintro ⟨blanks, sign, digits, rfl, hblanks, hsign, hdigits, hvalue⟩
    have hdrop : (blanks ++ (sign ++ digits)).dropWhile isSpace = sign ++ digits := by
      rw [dropWhile_append_of_pos hblanks, dropWhile_isSpace_append hsign hdigits]
    have htake : digits.takeWhile isDigit = digits := takeWhile_eq_self_iff.mpr hdigits.isDigit
    have hrest : digits.dropWhile isDigit = [] := dropWhile_eq_nil_iff.mpr hdigits.isDigit
    simp only [scanInteger, hdrop, readSign_append hsign hdigits, htake, hrest, hvalue,
      if_neg hdigits.ne_nil, length_nil, Nat.sub_zero]

/-- The unsigned numerals of a number: digits, perhaps after a plus sign. -/
def IsNumeral (text : Bytes) (n : Nat) : Prop :=
  ∃ sign digits, text = sign ++ digits ∧ IsSign false sign ∧ IsDigits digits ∧
    digitsValue digits = n

theorem not_isNumeral_minus (rest : Bytes) (n : Nat) : ¬IsNumeral (0x2D :: rest) n := by
  rintro ⟨sign, digits, htext, hsign, hdigits, -⟩
  have hread := readSign_append hsign hdigits
  rw [← htext] at hread
  cases hread

theorem IsNumeral.unique {text : Bytes} {n n' : Nat} (hn : IsNumeral text n)
    (hn' : IsNumeral text n') : n = n' := by
  obtain ⟨sign, digits, htext, hsign, hdigits, hvalue⟩ := hn
  obtain ⟨sign', digits', htext', hsign', hdigits', hvalue'⟩ := hn'
  have hread : readSign (sign ++ digits) = readSign (sign' ++ digits') :=
    congrArg readSign (htext.symm.trans htext')
  rw [readSign_append hsign hdigits, readSign_append hsign' hdigits', Prod.mk.injEq] at hread
  rw [← hvalue, ← hvalue', hread.2]

/-- Digits after a minus sign, and the number that an unsigned reader makes of them. -/
def IsWrapped (text : Bytes) (n : Nat) : Prop :=
  ∃ digits, text = 0x2D :: digits ∧ IsDigits digits ∧ digitsValue digits < 2 ^ 64 ∧
    (2 ^ 64 - digitsValue digits) % 2 ^ 64 = n

/-- What an unsigned reader takes. -/
def IsRead (text : Bytes) (n : Nat) : Prop := IsNumeral text n ∨ IsWrapped text n

theorem IsWrapped.not_isNumeral {n' : Nat} (hwrapped : IsWrapped text n) : ¬IsNumeral text n' := by
  obtain ⟨digits, rfl, -⟩ := hwrapped
  exact not_isNumeral_minus digits n'

theorem IsRead.unique {n' : Nat} (hn : IsRead text n) (hn' : IsRead text n') : n = n' := by
  rcases hn with hn | hn <;> rcases hn' with hn' | hn'
  · exact hn.unique hn'
  · exact absurd hn hn'.not_isNumeral
  · exact absurd hn' hn.not_isNumeral
  · obtain ⟨digits, rfl, -, -, rfl⟩ := hn
    obtain ⟨digits', htext, -, -, rfl⟩ := hn'
    rw [(cons.inj htext).2]

/-- The unsigned reader gets to the end of a text that begins with no blank exactly when the text
is a numeral in its range, or digits in its range after a minus sign. -/
theorem stoull_whole_iff (hblank : ∀ byte, text.head? = some byte → ¬isSpace byte)
    {value : UInt64} : stoull text = some (value, text.length) ↔ IsRead text value.toNat := by
  refine ⟨fun hread => ?_, ?_⟩
  · obtain ⟨⟨negative, magnitude, consumed⟩, hscan, hvalue⟩ := Option.bind_eq_some_iff.mp hread
    by_cases hfits : magnitude < 2 ^ 64
    · simp only [if_pos hfits, Option.some.injEq, Prod.mk.injEq] at hvalue
      obtain ⟨hvalue, rfl⟩ := hvalue
      obtain ⟨blanks, sign, digits, rfl, hblanks, hsign, hdigits, rfl⟩ :=
        scanInteger_whole_iff.mp hscan
      have htoNat : (ofNat (digitsValue digits)).toNat = digitsValue digits :=
        toNat_ofNat_of_lt' hfits
      cases blanks with
      | cons blank =>
        exact absurd (hblanks blank mem_cons_self) (hblank blank rfl)
      | nil =>
        cases negative with
        | true =>
          have hsign : sign = [0x2D] := hsign
          subst hsign
          refine Or.inr ⟨digits, rfl, hdigits, hfits, ?_⟩
          rw [← hvalue, if_pos rfl, toNat_neg, htoNat]
          rfl
        | false =>
          rw [if_neg Bool.false_ne_true] at hvalue
          exact Or.inl ⟨sign, digits, rfl, hsign, hdigits, by rw [← hvalue, htoNat]⟩
    · rw [if_neg hfits] at hvalue
      cases hvalue
  · rintro (⟨sign, digits, htext, hsign, hdigits, hvalue⟩ | ⟨digits, rfl, hdigits, hfits, hvalue⟩)
    · have hscan : scanInteger text = some ⟨false, value.toNat, text.length⟩ :=
        scanInteger_whole_iff.mpr ⟨[], sign, digits, htext, forall_mem_nil _, hsign, hdigits,
          hvalue⟩
      rw [stoull, hscan]
      simp only [Option.bind_some, if_pos value.toNat_lt, UInt64.ofNat_toNat]
      rfl
    · have hscan : scanInteger (0x2D :: digits) =
          some ⟨true, digitsValue digits, (0x2D :: digits).length⟩ :=
        scanInteger_whole_iff.mpr ⟨[], [0x2D], digits, rfl, forall_mem_nil _, rfl, hdigits,
          rfl⟩
      have hnegated : -ofNat (digitsValue digits) = value := by
        rw [← UInt64.toNat_inj, UInt64.toNat_neg, UInt64.toNat_ofNat_of_lt' hfits]
        exact hvalue
      rw [stoull, hscan]
      simp only [Option.bind_some, if_pos hfits, if_pos, hnegated]

theorem stoull_decimal (hn : n < 2 ^ 64) :
    stoull (decimal n) = some (ofNat n, (decimal n).length) := by
  have hscan : scanInteger (decimal n) = some ⟨false, n, (decimal n).length⟩ :=
    scanInteger_whole_iff.mpr ⟨[], [], decimal n, rfl, forall_mem_nil _, Or.inl rfl,
      isDigits_decimal n, digitsValue_decimal n⟩
  rw [stoull, hscan]
  exact if_pos hn

theorem stoll_decimalInt {n : Int} (hlow : -2 ^ 63 ≤ n) (hhigh : n < 2 ^ 63) :
    stoll (decimalInt n) = some (n, (decimalInt n).length) := by
  obtain ⟨negative, hvalue, hscan⟩ : ∃ negative : Bool,
      (if negative then -(n.natAbs : Int) else n.natAbs) = n ∧
        scanInteger (decimalInt n) = some ⟨negative, n.natAbs, (decimalInt n).length⟩ := by
    rw [decimalInt]
    split_ifs with hnegative
    · exact ⟨true, (if_pos rfl).trans (by omega), scanInteger_whole_iff.mpr ⟨[], [0x2D],
        decimal n.natAbs, rfl, forall_mem_nil _, rfl, isDigits_decimal _,
        digitsValue_decimal _⟩⟩
    · exact ⟨false, (if_neg Bool.false_ne_true).trans (by omega), scanInteger_whole_iff.mpr
        ⟨[], [], decimal n.natAbs, rfl, forall_mem_nil _, Or.inl rfl, isDigits_decimal _,
        digitsValue_decimal _⟩⟩
  rw [stoll, hscan]
  simp only [Option.bind_some, hvalue]
  exact if_pos ⟨hlow, hhigh⟩

end LiteIM.Foundation
