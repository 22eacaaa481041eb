/-
# What the field codec accepts

The parser accepts exactly the layouts of fields, and the map it returns holds exactly the
values of those fields, each type with its own in order. What a sequence of appends builds is
such a layout, so what was appended is what is read.

An append works on an output that it is given by reference. `appendValueTo` is the append
with that output as its state; a failing one has to return before it writes.
-/

import LiteIM.Protocol.Tlv

namespace LiteIM

open Foundation List

/-! ## Parsing -/

/-- A header in front of a value is the layout of a field. -/
theorem drop_eq_fieldBytes {data : Bytes} {offset length : Nat}
    (hheader : offset + kTlvHeaderSize + length ≤ data.length)
    (hlength : (readUint32BE (data.drop (offset + 2))).toNat = length) :
    data.drop offset =
      fieldBytes ⟨readUint16BE (data.drop offset)⟩
        ((data.drop (offset + kTlvHeaderSize)).take length) ++
      data.drop (offset + kTlvHeaderSize + length) := by
  have htype : BigEndian.digits 2 (readUint16BE (data.drop offset)).toNat =
      (data.drop offset).take 2 := by
    apply digits_readUint16BE
    rw [length_drop, kTlvHeaderSize] at *
    omega
  have hdigits : BigEndian.digits 4 (readUint32BE (data.drop (offset + 2))).toNat =
      (data.drop (offset + 2)).take 4 := by
    apply digits_readUint32BE
    rw [length_drop, kTlvHeaderSize] at *
    omega
  have hvalue : ((data.drop (offset + kTlvHeaderSize)).take length).length = length := by
    rw [length_take, length_drop]
    omega
  rw [hlength] at hdigits
  rw [fieldBytes, hvalue, htype, hdigits]
  have hsplit : ∀ start count,
      data.drop start = (data.drop start).take count ++ data.drop (start + count) := by
    intro start count
    rw [← drop_drop, take_append_drop]
  calc
    data.drop offset = (data.drop offset).take 2 ++ data.drop (offset + 2) := hsplit offset 2
    _ = (data.drop offset).take 2 ++
        ((data.drop (offset + 2)).take 4 ++ data.drop (offset + kTlvHeaderSize)) :=
      congrArg _ (hsplit (offset + 2) 4)
    _ = (data.drop offset).take 2 ++ ((data.drop (offset + 2)).take 4 ++
        ((data.drop (offset + kTlvHeaderSize)).take length ++
          data.drop (offset + kTlvHeaderSize + length))) :=
      congrArg _ (congrArg _ (hsplit (offset + kTlvHeaderSize) length))
    _ = _ := by simp only [append_assoc]

/-- The unread bytes of a loop that succeeds are a layout of fields, which it collects. -/
theorem parseTlvLoop_ok {data : Bytes} {offset : Nat} {output map : TlvMap}
    (hoffset : offset ≤ data.length) (hparse : parseTlvLoop data offset output = .ok map) :
    ∃ fields, (∀ field ∈ fields, field.2.length ≤ kMaxTlvValueLength.toNat) ∧
      data.drop offset = encodeFields fields ∧ map = collectFields output fields := by
  fun_induction parseTlvLoop data offset output with
  | case1 => cases hparse
  | case2 => cases hparse
  | case3 => cases hparse
  | case5 offset output hend =>
    refine ⟨[], by simp, ?_, (Except.ok.inj hparse).symm⟩
    rw [drop_eq_nil_of_le (Nat.not_lt.mp hend), encodeFields_nil]
  | case4 offset output hend hheader type valueLen start hlarge hlong ih =>
    have hsize : start + valueLen.toNat ≤ data.length := by
      have hstart : start = offset + kTlvHeaderSize := rfl
      omega
    obtain ⟨fields, hbounds, hdrop, hmap⟩ := ih hsize hparse
    refine ⟨(type, (data.drop start).take valueLen.toNat) :: fields, ?_, ?_, hmap⟩
    · rw [forall_mem_cons]
      refine ⟨?_, hbounds⟩
      rw [length_take]
      exact Nat.le_trans (Nat.min_le_left _ _)
        (UInt32.le_iff_toNat_le.mp (UInt32.not_lt.mp hlarge))
    · rw [encodeFields_cons, ← hdrop]
      exact drop_eq_fieldBytes hsize rfl

/-- What a map holds of a type: a type without values has no entry. -/
def entryOf (type : TlvType) (fields : List (TlvType × Bytes)) : Option (List Bytes) :=
  if valuesOf type fields = [] then none else some (valuesOf type fields)

/-- No entry is empty. -/
theorem collectFields_eq_entryOf (fields : List (TlvType × Bytes)) (type : TlvType) :
    collectFields (fun _ => none) fields type = entryOf type fields := by
  induction fields using reverseRecOn with
  | nil => simp [collectFields, entryOf, valuesOf]
  | append_singleton fields field ih =>
    have hlast : collectFields (fun _ => none) (fields ++ [field]) =
        (collectFields (fun _ => none) fields).push field.1 field.2 := by
      simp [collectFields]
    have hvalues : (entryOf type fields).getD [] = valuesOf type fields := by
      rw [entryOf]
      split_ifs with hnone
      · rw [hnone]
        rfl
      · rfl
    by_cases hsame : field.1 = type
    · subst hsame
      rw [hlast, TlvMap.push, Function.update_self, ih, hvalues]
      simp [entryOf, valuesOf]
    · have hnone : valuesOf type [field] = [] := by simp [valuesOf, hsame]
      rw [hlast, TlvMap.push, Function.update_of_ne (Ne.symm hsame), ih, entryOf, entryOf,
        valuesOf_append, hnone, append_nil]

theorem parseTlvMap_ok_iff {body : Bytes} {map : TlvMap} :
    parseTlvMap body = .ok map ↔
      ∃ fields, (∀ field ∈ fields, field.2.length ≤ kMaxTlvValueLength.toNat) ∧
        body = encodeFields fields ∧ ∀ type, map type = entryOf type fields := by
  apply Iff.intro
  · intro hparse
    obtain ⟨fields, hbounds, hbody, rfl⟩ := parseTlvLoop_ok (Nat.zero_le _) hparse
    exact ⟨fields, hbounds, hbody, collectFields_eq_entryOf fields⟩
  · rintro ⟨fields, hbounds, rfl, hmap⟩
    rw [parseTlvMap_encodeFields hbounds]
    refine congrArg Except.ok (funext fun type => ?_)
    rw [hmap type, collectFields_eq_entryOf]

/-! ## Appending by reference -/

/-- `appendValue`, with the bytes it leaves in `output`. -/
def appendValueTo (type : TlvType) (value : Bytes) : StateM Bytes (Except Error Unit) := do
  if type = .unknown then
    return Status.error .invalidArgument "cannot encode unknown tlv type"
  else if value.length > kMaxTlvValueLength.toNat then
    return Status.error .invalidArgument "tlv value is too large"
  else
    modify fun output => appendUint16BE output type.raw
    modify fun output => appendUint32BE output (UInt32.ofNat value.length)
    modify fun output => output ++ value
    return .ok ()

/-- A call of `appendString` or `appendUint64`. -/
inductive Append where
  | string (type : TlvType) (value : Bytes)
  | uint64 (type : TlvType) (value : UInt64)

namespace Append

def type : Append → TlvType
  | .string type _ => type
  | .uint64 type _ => type

/-- The bytes that are appended as a value. -/
def bytes : Append → Bytes
  | .string _ value => value
  | .uint64 _ value => appendUint64BE [] value

def number : Append → Option UInt64
  | .string _ _ => none
  | .uint64 _ value => some value

def run (call : Append) : StateM Bytes (Except Error Unit) := appendValueTo call.type call.bytes

def field (call : Append) : TlvType × Bytes := (call.type, call.bytes)

/-- An append adds a field, or it fails and adds nothing. -/
theorem run_cases (call : Append) (output : Bytes) :
    (Encodable call.field ∧
      call.run.run output = (.ok (), output ++ fieldBytes call.type call.bytes)) ∨
    ∃ status, call.run.run output = (.error status, output) := by
  by_cases htype : call.type = .unknown
  · exact Or.inr ⟨_, by rw [run, appendValueTo, if_pos htype]; rfl⟩
  · by_cases hlong : call.bytes.length > kMaxTlvValueLength.toNat
    · exact Or.inr ⟨_, by rw [run, appendValueTo, if_neg htype, if_pos hlong]; rfl⟩
    · refine Or.inl ⟨⟨htype, Nat.not_lt.mp hlong⟩, ?_⟩
      have hfield := (appendValue_eq_ok_iff.mpr ⟨⟨htype, Nat.not_lt.mp hlong⟩, rfl⟩ :
        appendValue call.type call.bytes output = .ok _)
      rw [appendValue, if_neg htype, if_neg hlong] at hfield
      rw [run, appendValueTo, if_neg htype, if_neg hlong, ← Except.ok.inj hfield]
      rfl

/-- Calls one after another, on one output. -/
def runAll (calls : List Append) : StateM Bytes (List (Except Error Unit)) := calls.mapM run

/-- Calls that all succeed append their fields. -/
theorem runAll_ok {calls : List Append} {output : Bytes}
    (hok : ∀ result ∈ ((runAll calls).run output).1, result = .ok ()) :
    (∀ appended ∈ calls.map field, Encodable appended) ∧
      ((runAll calls).run output).2 = output ++ encodeFields (calls.map field) := by
  induction calls generalizing output with
  | nil => exact ⟨by simp, (append_nil output).symm⟩
  | cons call calls ih =>
    have hcons : (runAll (call :: calls)).run output =
        ((call.run.run output).1 :: ((runAll calls).run (call.run.run output).2).1,
          ((runAll calls).run (call.run.run output).2).2) := by
      rw [runAll, mapM_cons]
      rfl
    rw [hcons, forall_mem_cons] at hok
    rcases call.run_cases output with ⟨hencodable, hrun⟩ | ⟨status, hrun⟩
    · obtain ⟨hfields, houtput⟩ := ih hok.2
      rw [hcons, houtput, hrun, map_cons, forall_mem_cons, encodeFields_cons,
        append_assoc]
      exact ⟨⟨hencodable, hfields⟩, rfl⟩
    · rw [hrun] at hok
      cases hok.1

/-- The values that calls append under a type, in order. -/
def valuesFor (type : TlvType) (calls : List Append) : List Bytes :=
  (calls.filter fun call => call.type = type).map bytes

/-- The numbers that calls append under a type, in order. -/
def numbersFor (type : TlvType) (calls : List Append) : List UInt64 :=
  (calls.filter fun call => call.type = type).filterMap number

theorem valuesOf_map_field (type : TlvType) (calls : List Append) :
    valuesOf type (calls.map field) = valuesFor type calls := by
  rw [valuesOf, filter_map, map_map]
  rfl

/-- A type that is appended as a number only has the digits of its numbers as values. -/
theorem valuesFor_eq_numbers {type : TlvType} {calls : List Append}
    (hnumbers : ∀ call ∈ calls, call.type = type → call.number.isSome) :
    valuesFor type calls = (numbersFor type calls).map (appendUint64BE []) := by
  induction calls with
  | nil => rfl
  | cons call calls ih =>
    rw [forall_mem_cons] at hnumbers
    have hrest := ih hnumbers.2
    rw [valuesFor, numbersFor] at hrest ⊢
    by_cases hsame : call.type = type
    · cases call with
      | string => cases hnumbers.1 hsame
      | uint64 => simp [hsame, hrest, bytes, number]
    · simpa [hsame] using hrest

end Append

/-! ## Reading what was appended -/

theorem findValue_of_findValues {map : TlvMap} {type : TlvType} {first : Bytes}
    {rest : List Bytes} (hvalues : findValues map type = first :: rest) :
    findValue map type = some first := by
  cases hentry : map type with
  | none => simp [findValues, hentry] at hvalues
  | some values =>
    obtain rfl : values = first :: rest := by simpa [findValues, hentry] using hvalues
    simp [findValue, hentry]

theorem getString_of_findValues {map : TlvMap} {type : TlvType} {first : Bytes}
    {rest : List Bytes} (hvalues : findValues map type = first :: rest) :
    getString map type = .ok first ∧ getRepeatedString map type = .ok (first :: rest) := by
  refine ⟨?_, ?_⟩
  · rw [getString, findValue_of_findValues hvalues]
  · rw [getRepeatedString, hvalues, if_neg (cons_ne_nil _ _)]

theorem getUint64_of_findValues {map : TlvMap} {type : TlvType} {first : UInt64}
    {rest : List UInt64} (hvalues : findValues map type = (first :: rest).map (appendUint64BE [])) :
    getUint64 map type = .ok first ∧ getRepeatedUint64 map type = .ok (first :: rest) :=
  ⟨getUint64_of_findValue (findValue_of_findValues hvalues),
    getRepeatedUint64_of_findValues hvalues (cons_ne_nil _ _)⟩

/-- What is parsed from a body that was built by appends. -/
theorem parseTlvMap_runAll {calls : List Append}
    (hok : ∀ result ∈ ((Append.runAll calls).run []).1, result = .ok ()) :
    ∃ map, parseTlvMap ((Append.runAll calls).run []).2 = .ok map ∧
      ∀ type, findValues map type = Append.valuesFor type calls := by
  obtain ⟨hencodable, hbody⟩ := Append.runAll_ok hok
  refine ⟨collectFields (fun _ => none) (calls.map Append.field), ?_, ?_⟩
  · rw [hbody, nil_append]
    exact parseTlvMap_encodeFields fun field hmem => (hencodable field hmem).2
  · intro type
    rw [findValues_collectFields, Append.valuesOf_map_field]
    rfl

/-- The codec is exact. A body is parsed exactly if it is a sequence of fields whose values are
no longer than the limit, and each type then has its values in their order; what was appended
without an error is read back by the getters; and an append that fails leaves the body as it
was. -/
theorem tlvCodec_exact :
    (∀ body map, parseTlvMap body = .ok map ↔
      ∃ fields, (∀ field ∈ fields, field.2.length ≤ kMaxTlvValueLength.toNat) ∧
        body = encodeFields fields ∧ ∀ type, map type = entryOf type fields) ∧
    (∀ calls : List Append,
      (∀ result ∈ ((Append.runAll calls).run []).1, result = .ok ()) →
      ∃ map, parseTlvMap ((Append.runAll calls).run []).2 = .ok map ∧
        (∀ type first rest, Append.valuesFor type calls = first :: rest →
          getString map type = .ok first ∧ getRepeatedString map type = .ok (first :: rest)) ∧
        ∀ type first rest, (∀ call ∈ calls, call.type = type → call.number.isSome) →
          Append.numbersFor type calls = first :: rest →
          getUint64 map type = .ok first ∧ getRepeatedUint64 map type = .ok (first :: rest)) ∧
    ∀ (call : Append) (body : Bytes) (status : Error),
      (call.run.run body).1 = .error status → (call.run.run body).2 = body := by
  refine ⟨fun body map => parseTlvMap_ok_iff, ?_, ?_⟩
  · intro calls hok
    obtain ⟨map, hparse, hvalues⟩ := parseTlvMap_runAll hok
    refine ⟨map, hparse, ?_, ?_⟩
    · intro type first rest hfirst
      exact getString_of_findValues ((hvalues type).trans hfirst)
    · intro type first rest hnumbers hfirst
      apply getUint64_of_findValues
      rw [hvalues type, Append.valuesFor_eq_numbers hnumbers, hfirst]
  · intro call body status herror
    rcases call.run_cases body with ⟨_, hrun⟩ | ⟨_, hrun⟩
    · rw [hrun] at herror
      cases herror
    · rw [hrun]

end LiteIM
