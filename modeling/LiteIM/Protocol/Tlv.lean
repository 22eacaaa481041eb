/-
# Fields of a packet body

The body of a packet is a sequence of typed fields, each with the length of its
value in front. `TlvCodec.cpp` appends fields to a body, parses a body into a map
from types to the values that occurred, and reads single fields from that map.

Appending fields one after another builds the layout `encodeFields`; parsing that
layout returns every value under its type, in order.
-/

import LiteIM.Base.Status
import LiteIM.Protocol.ByteOrder
import Mathlib.Logic.Function.Basic

namespace LiteIM

open Foundation BigEndian Status List UInt32

/-- A field type is any 16-bit value: the parser casts what it reads. -/
structure TlvType where
  raw : UInt16
  deriving DecidableEq, Repr

namespace TlvType

def unknown : TlvType := ⟨0⟩
def username : TlvType := ⟨1⟩
def password : TlvType := ⟨2⟩
def userId : TlvType := ⟨3⟩
def nickname : TlvType := ⟨4⟩
def sessionId : TlvType := ⟨6⟩
def friendId : TlvType := ⟨20⟩
def targetUserId : TlvType := ⟨21⟩
def onlineStatus : TlvType := ⟨22⟩
def friendRequestStatus : TlvType := ⟨23⟩
def groupId : TlvType := ⟨30⟩
def groupName : TlvType := ⟨31⟩
def conversationType : TlvType := ⟨40⟩
def conversationId : TlvType := ⟨41⟩
def messageId : TlvType := ⟨42⟩
def messageText : TlvType := ⟨43⟩
def senderId : TlvType := ⟨44⟩
def receiverId : TlvType := ⟨45⟩
def timestampMs : TlvType := ⟨46⟩
def limit : TlvType := ⟨48⟩
def deliveryStatus : TlvType := ⟨50⟩
def clientMessageId : TlvType := ⟨51⟩
def errorCode : TlvType := ⟨90⟩
def errorMessage : TlvType := ⟨91⟩

end TlvType

def kTlvHeaderSize : Nat := 6
def kMaxTlvValueLength : UInt32 := 1024 * 1024

/-- The values of each type, in the order in which they occurred. -/
abbrev TlvMap := TlvType → Option (List Bytes)

/-- `output[type].emplace_back(value)`. -/
def TlvMap.push (map : TlvMap) (type : TlvType) (value : Bytes) : TlvMap :=
  Function.update map type (some ((map type).getD [] ++ [value]))

/-! ## Appending -/

/-- `appendValue`; the callers' pointers are never null. -/
def appendValue (type : TlvType) (value output : Bytes) : Except Error Bytes :=
  if type = .unknown then error .invalidArgument "cannot encode unknown tlv type"
  else if value.length > kMaxTlvValueLength.toNat then
    error .invalidArgument "tlv value is too large"
  else
    let output := appendUint16BE output type.raw
    let output := appendUint32BE output (ofNat value.length)
    .ok (output ++ value)

def appendString (type : TlvType) (value output : Bytes) : Except Error Bytes :=
  appendValue type value output

def appendUint64 (type : TlvType) (value : UInt64) (output : Bytes) : Except Error Bytes :=
  appendValue type (appendUint64BE [] value) output

/-! ## Parsing -/

/-- The loop of `parseTlvMap`. -/
def parseTlvLoop (data : Bytes) (offset : Nat) (output : TlvMap) : Except Error TlvMap :=
  if _hend : offset < data.length then
    if data.length - offset < kTlvHeaderSize then
      error .parseError "tlv header is incomplete"
    else
      let type : TlvType := ⟨readUint16BE (data.drop offset)⟩
      let valueLen := readUint32BE (data.drop (offset + 2))
      let start := offset + kTlvHeaderSize
      if valueLen > kMaxTlvValueLength then
        error .parseError "tlv value is too large"
      else if valueLen.toNat > data.length - start then
        error .parseError "tlv length exceeds body size"
      else
        parseTlvLoop data (start + valueLen.toNat)
          (output.push type ((data.drop start).take valueLen.toNat))
  else .ok output
termination_by data.length - offset
decreasing_by
  have hsize : kTlvHeaderSize = 6 := rfl
  omega

def parseTlvMap (body : Bytes) : Except Error TlvMap := parseTlvLoop body 0 fun _ => none

/-- The parser fails with one of three texts. -/
theorem parseTlvLoop_error {data : Bytes} {offset : Nat} {output : TlvMap} {status : Error}
    (hparse : parseTlvLoop data offset output = .error status) :
    status = ⟨.parseError, "tlv header is incomplete"⟩ ∨
      status = ⟨.parseError, "tlv value is too large"⟩ ∨
      status = ⟨.parseError, "tlv length exceeds body size"⟩ := by
  fun_induction parseTlvLoop data offset output with
  | case1 => exact Or.inl (Except.error.inj hparse).symm
  | case2 => exact Or.inr (Or.inl (Except.error.inj hparse).symm)
  | case3 => exact Or.inr (Or.inr (Except.error.inj hparse).symm)
  | case4 offset output _ _ _ _ _ _ _ ih => exact ih hparse
  | case5 => exact nomatch hparse

/-- The first value of a type. -/
def findValue (map : TlvMap) (type : TlvType) : Option Bytes :=
  (map type).bind head?

def getString (map : TlvMap) (type : TlvType) : Except Error Bytes :=
  match findValue map type with
  | none => error .notFound "missing required string field"
  | some value => .ok value

def getUint64 (map : TlvMap) (type : TlvType) : Except Error UInt64 :=
  match findValue map type with
  | none => error .notFound "missing required uint64 field"
  | some value =>
    if value.length ≠ 8 then error .parseError "uint64 tlv field must be 8 bytes"
    else .ok (readUint64BE value)

/-- All values of a type; without the field there are none. -/
def findValues (map : TlvMap) (type : TlvType) : List Bytes := (map type).getD []

def getRepeatedString (map : TlvMap) (type : TlvType) : Except Error (List Bytes) :=
  if findValues map type = [] then
    error .notFound "missing required repeated string field"
  else .ok (findValues map type)

def getRepeatedUint64 (map : TlvMap) (type : TlvType) : Except Error (List UInt64) :=
  if findValues map type = [] then
    error .notFound "missing required repeated uint64 field"
  else (findValues map type).mapM fun value =>
    if value.length ≠ 8 then error .parseError "uint64 tlv field must be 8 bytes"
    else .ok (readUint64BE value)

/-! ## The layout of a body -/

/-- The bytes of one field. -/
def fieldBytes (type : TlvType) (value : Bytes) : Bytes :=
  digits 2 type.raw.toNat ++ (digits 4 value.length ++ value)

/-- The bytes of fields in order. -/
def encodeFields (fields : List (TlvType × Bytes)) : Bytes :=
  fields.flatMap fun field => fieldBytes field.1 field.2

/-- The map that holds the values of fields in order. -/
def collectFields (map : TlvMap) (fields : List (TlvType × Bytes)) : TlvMap :=
  fields.foldl (fun map field => map.push field.1 field.2) map

/-- The fields `appendValue` accepts. -/
def Encodable (field : TlvType × Bytes) : Prop :=
  field.1 ≠ .unknown ∧ field.2.length ≤ kMaxTlvValueLength.toNat

variable {value : Bytes}

theorem length_lt_of_le_max (hlength : value.length ≤ kMaxTlvValueLength.toNat) :
    value.length < 2 ^ 32 :=
  Nat.lt_of_le_of_lt hlength kMaxTlvValueLength.toNat_lt

variable {type : TlvType}

theorem appendValue_eq_ok_iff {output bytes : Bytes} : appendValue type value output = .ok bytes ↔
      Encodable (type, value) ∧ bytes = output ++ fieldBytes type value := by
  by_cases htype : type = .unknown
  · simp [appendValue, htype, Encodable, error]
  · by_cases hlength : value.length > kMaxTlvValueLength.toNat
    · simp [appendValue, htype, hlength, Encodable, error, Nat.not_le.mpr hlength]
    · have hle := Nat.not_lt.mp hlength
      have hdigits : (ofNat value.length).toNat = value.length :=
        toNat_ofNat_of_lt (length_lt_of_le_max hle)
      rw [appendValue, if_neg htype, if_neg hlength]
      simp [appendUint16BE_eq, appendUint32BE_eq, hdigits, Encodable, htype, hle, fieldBytes,
        eq_comm]

theorem readUint32BE_digits_length (hlength : value.length ≤ kMaxTlvValueLength.toNat)
    (rest : Bytes) :
    (readUint32BE (digits 4 value.length ++ rest)).toNat = value.length := by
  have hdigits : (ofNat value.length).toNat = value.length :=
    toNat_ofNat_of_lt (length_lt_of_le_max hlength)
  have hread := readUint32BE_digits (ofNat value.length) rest
  rw [hdigits] at hread
  rw [hread, hdigits]

/-- One turn of the loop takes one field off the unread bytes. -/
theorem parseTlvLoop_field {before rest : Bytes}
    (hlength : value.length ≤ kMaxTlvValueLength.toNat) (map : TlvMap) :
    parseTlvLoop (before ++ (fieldBytes type value ++ rest)) before.length map =
      parseTlvLoop (before ++ (fieldBytes type value ++ rest))
        (before ++ fieldBytes type value).length (map.push type value) := by
  have hfield : (fieldBytes type value).length = kTlvHeaderSize + value.length := by
    simp [fieldBytes, kTlvHeaderSize]
    omega
  have htotal : (before ++ (fieldBytes type value ++ rest)).length =
      before.length + (kTlvHeaderSize + value.length) + rest.length := by
    rw [length_append, length_append, hfield]
    omega
  have htype : (before ++ (fieldBytes type value ++ rest)).drop before.length =
      digits 2 type.raw.toNat ++ (digits 4 value.length ++ value ++ rest) := by
    rw [drop_left]
    simp [fieldBytes]
  have hlen : (before ++ (fieldBytes type value ++ rest)).drop (before.length + 2) =
      digits 4 value.length ++ (value ++ rest) := by
    rw [← drop_drop, htype, drop_left' (length_digits _ _),
      append_assoc]
  have hvalue : (before ++ (fieldBytes type value ++ rest)).drop
      (before.length + kTlvHeaderSize) = value ++ rest := by
    rw [show before.length + kTlvHeaderSize = before.length + 2 + 4 from rfl, ← drop_drop,
      hlen, drop_left' (length_digits _ _)]
  have hread := readUint32BE_digits_length hlength (value ++ rest)
  rw [parseTlvLoop, dif_pos (by rw [htotal, kTlvHeaderSize]; omega),
    if_neg (by rw [htotal]; omega)]
  simp only [htype, hlen, hvalue, readUint16BE_digits, hread]
  rw [if_neg (by rw [gt_iff_lt, lt_iff_toNat_lt, hread]; omega),
    if_neg (by rw [htotal]; omega), take_left, length_append, hfield, Nat.add_assoc]

variable {fields : List (TlvType × Bytes)}

theorem parseTlvLoop_encodeFields
    (hlength : ∀ field ∈ fields, field.2.length ≤ kMaxTlvValueLength.toNat) (before : Bytes)
    (map : TlvMap) : parseTlvLoop (before ++ encodeFields fields) before.length map =
      .ok (collectFields map fields) := by
  induction fields generalizing before map with
  | nil => simp [encodeFields, parseTlvLoop, collectFields]
  | cons field fields ih =>
    have hrest := ih (fun other hmem => hlength other (mem_cons_of_mem _ hmem))
      (before ++ fieldBytes field.1 field.2) (map.push field.1 field.2)
    rw [append_assoc] at hrest
    rw [show encodeFields (field :: fields) =
      fieldBytes field.1 field.2 ++ encodeFields fields from flatMap_cons,
      parseTlvLoop_field (hlength field mem_cons_self), hrest]
    rfl

/-- Parsing the layout of fields returns their values. -/
theorem parseTlvMap_encodeFields
    (hlength : ∀ field ∈ fields, field.2.length ≤ kMaxTlvValueLength.toNat) :
    parseTlvMap (encodeFields fields) = .ok (collectFields (fun _ => none) fields) :=
  parseTlvLoop_encodeFields hlength [] _

/-! ## Appending a list of fields -/

def appendFields (fields : List (TlvType × Bytes)) (output : Bytes) : Except Error Bytes :=
  fields.foldlM (fun output field => appendValue field.1 field.2 output) output

theorem appendFields_eq_ok_iff {output bytes : Bytes} : appendFields fields output = .ok bytes ↔
      (∀ field ∈ fields, Encodable field) ∧ bytes = output ++ encodeFields fields := by
  induction fields generalizing output with
  | nil => simp [appendFields, encodeFields, pure, Except.pure, eq_comm]
  | cons field fields ih =>
    have hcons : appendFields (field :: fields) output =
        (appendValue field.1 field.2 output).bind (appendFields fields) := rfl
    cases hfirst : appendValue field.1 field.2 output with
    | error =>
      have hnot : ¬ Encodable field := by
        intro hencodable
        have hok : appendValue field.1 field.2 output =
            .ok (output ++ fieldBytes field.1 field.2) :=
          appendValue_eq_ok_iff.mpr ⟨hencodable, rfl⟩
        rw [hfirst] at hok
        cases hok
      simp [hcons, hfirst, Except.bind, hnot]
    | ok =>
      obtain ⟨hencodable, rfl⟩ := appendValue_eq_ok_iff.mp hfirst
      simp [hcons, hfirst, Except.bind, ih, hencodable, encodeFields]

/-! ## How long a body is -/

theorem length_fieldBytes (type : TlvType) (value : Bytes) :
    (fieldBytes type value).length = kTlvHeaderSize + value.length := by
  simp only [fieldBytes, length_append, length_digits, kTlvHeaderSize]
  omega

@[simp]
theorem encodeFields_nil : encodeFields [] = [] := rfl

@[simp]
theorem encodeFields_cons (field : TlvType × Bytes) (fields : List (TlvType × Bytes)) :
    encodeFields (field :: fields) = fieldBytes field.1 field.2 ++ encodeFields fields := rfl

theorem encodeFields_append (first second : List (TlvType × Bytes)) :
    encodeFields (first ++ second) = encodeFields first ++ encodeFields second := by
  simp [encodeFields, flatMap_append]

/-- Entries of bounded length, one after another. -/
theorem length_encodeFields_flatMap_le {α : Type} {entries : List α}
    {fieldsOf : α → List (TlvType × Bytes)} {bound : Nat}
    (hbound : ∀ entry ∈ entries, (encodeFields (fieldsOf entry)).length ≤ bound) :
    (encodeFields (entries.flatMap fieldsOf)).length ≤ entries.length * bound := by
  induction entries with
  | nil => simp
  | cons entry entries ih =>
    rw [forall_mem_cons] at hbound
    have hrest := ih hbound.2
    rw [flatMap_cons, encodeFields_append, length_append, length_cons,
      Nat.succ_mul]
    omega

/-- Entries of one length, one after another. -/
theorem length_encodeFields_flatMap_eq {α : Type} {entries : List α}
    {fieldsOf : α → List (TlvType × Bytes)} {size : Nat}
    (hsize : ∀ entry ∈ entries, (encodeFields (fieldsOf entry)).length = size) :
    (encodeFields (entries.flatMap fieldsOf)).length = entries.length * size := by
  induction entries with
  | nil => simp
  | cons entry entries ih =>
    rw [forall_mem_cons] at hsize
    rw [flatMap_cons, encodeFields_append, length_append, length_cons,
      Nat.succ_mul, ih hsize.2, hsize.1, Nat.add_comm]

/-! ## The first value of a type -/

variable {map : TlvMap}

theorem findValue_push_of_some (hfound : findValue map type = some value) (other : TlvType)
    (added : Bytes) : findValue (map.push other added) type = some value := by
  by_cases hsame : type = other
  · subst hsame
    obtain ⟨values, hvalues, hhead⟩ := Option.bind_eq_some_iff.mp hfound
    obtain ⟨rest, rfl⟩ := head?_eq_some_iff.mp hhead
    simp [findValue, TlvMap.push, hvalues]
  · simpa [findValue, TlvMap.push, hsame] using hfound

theorem findValue_collectFields_of_some (hfound : findValue map type = some value)
    (fields : List (TlvType × Bytes)) : findValue (collectFields map fields) type = some value := by
  induction fields generalizing map with
  | nil => exact hfound
  | cons field fields ih => exact ih (findValue_push_of_some hfound field.1 field.2)

/-- The first field of a body is the first of its type. -/
theorem findValue_collectFields_cons (type : TlvType) (value : Bytes)
    (fields : List (TlvType × Bytes)) :
    findValue (collectFields (fun _ => none) ((type, value) :: fields)) type = some value := by
  show findValue (collectFields (TlvMap.push (fun _ => none) type value) fields) type = some value
  apply findValue_collectFields_of_some
  simp [findValue, TlvMap.push]

/-! ## All values of a type -/

/-- The values of a type among fields, in order. -/
def valuesOf (type : TlvType) (fields : List (TlvType × Bytes)) : List Bytes :=
  (fields.filter fun field => field.1 = type).map Prod.snd

theorem valuesOf_append (type : TlvType) (first second : List (TlvType × Bytes)) :
    valuesOf type (first ++ second) = valuesOf type first ++ valuesOf type second := by
  rw [valuesOf, filter_append, map_append, ← valuesOf, ← valuesOf]

/-- Entries with one field of a type each, one after another. -/
theorem valuesOf_flatMap {α : Type} {fieldsOf : α → List (TlvType × Bytes)} {value : α → Bytes}
    (hone : ∀ entry, valuesOf type (fieldsOf entry) = [value entry]) (entries : List α) :
    valuesOf type (entries.flatMap fieldsOf) = entries.map value := by
  induction entries with
  | nil => rfl
  | cons entry entries ih =>
    rw [flatMap_cons, valuesOf_append, hone, ih]
    rfl

theorem findValues_push (map : TlvMap) (type other : TlvType) (value : Bytes) :
    findValues (map.push other value) type =
      findValues map type ++ valuesOf type [(other, value)] := by
  by_cases hsame : type = other
  · subst hsame
    simp [findValues, TlvMap.push, valuesOf]
  · simp [findValues, TlvMap.push, valuesOf, hsame, Ne.symm hsame]

theorem findValues_collectFields (map : TlvMap) (type : TlvType) (fields : List (TlvType × Bytes)) :
    findValues (collectFields map fields) type = findValues map type ++ valuesOf type fields := by
  induction fields generalizing map with
  | nil => simp [collectFields, valuesOf]
  | cons field fields ih =>
    have hrest := ih (map.push field.1 field.2)
    rw [findValues_push, append_assoc] at hrest
    rw [← singleton_append, valuesOf_append]
    exact hrest

/-- Numbers appended as fields are read back. -/
theorem getRepeatedUint64_of_findValues {values : List UInt64}
    (hvalues : findValues map type = values.map (appendUint64BE [])) (hsome : values ≠ []) :
    getRepeatedUint64 map type = .ok values := by
  have hread : ∀ value : UInt64, (if (appendUint64BE [] value).length ≠ 8 then
      error .parseError "uint64 tlv field must be 8 bytes"
      else .ok (readUint64BE (appendUint64BE [] value))) = (.ok value : Except Error UInt64) := by
    intro value
    have hdigits : appendUint64BE [] value = digits 8 value.toNat := by
      rw [appendUint64BE_eq, nil_append]
    have hback := readUint64BE_digits value []
    rw [append_nil] at hback
    simp [hdigits, hback]
  rw [getRepeatedUint64, hvalues, if_neg (by simpa using hsome), mapM_map]
  have hall : ∀ values : List UInt64,
      (values.mapM fun value => (.ok value : Except Error UInt64)) = .ok values := by
    intro values
    induction values with
    | nil => rfl
    | cons value values ih =>
      rw [mapM_cons, ih]
      rfl
  rw [← hall values]
  exact congrArg values.mapM (funext hread)

theorem getUint64_of_findValue {value : UInt64}
    (hfound : findValue map type = some (appendUint64BE [] value)) :
    getUint64 map type = .ok value := by
  have hdigits : appendUint64BE [] value = digits 8 value.toNat := by
    rw [appendUint64BE_eq, nil_append]
  have hread := readUint64BE_digits value []
  rw [append_nil] at hread
  simp [getUint64, hfound, hdigits, hread]

end LiteIM
