/-
# The output buffer

`Buffer`: a vector with a read index and a write index, the bytes between them being the
readable ones. Room for more is found behind the write index, then by moving the readable
bytes to the front, then by growing the vector. Seen from outside it is a queue of bytes:
`append` adds at the end, `retrieve` drops from the front, and moving the bytes is not
seen.
-/

import LiteIM.Base.Status
import LiteIM.Foundation.BigEndian
import Mathlib.Tactic.SplitIfs

namespace LiteIM

open Foundation List

/-- The indices are in order and inside the vector. -/
structure Buffer where
  buffer : Bytes
  readIndex : Nat := 0
  writeIndex : Nat := 0
  read_le_write : readIndex ≤ writeIndex
  write_le_size : writeIndex ≤ buffer.length

namespace Buffer

def kDefaultBufferSize : Nat := 1024

/-- `Buffer(initial_size)`. -/
def ofSize (initialSize : Nat) : Buffer where
  buffer := replicate (if initialSize = 0 then 1 else initialSize) 0
  read_le_write := Nat.le_refl 0
  write_le_size := Nat.zero_le _

def readableBytes (buffer : Buffer) : Nat := buffer.writeIndex - buffer.readIndex

def writableBytes (buffer : Buffer) : Nat := buffer.buffer.length - buffer.writeIndex

/-- What the pointer `peek()` points to. -/
def peek (buffer : Buffer) : Bytes := buffer.buffer.drop buffer.readIndex

/-- The bytes a reader may read. -/
def readable (buffer : Buffer) : Bytes := buffer.peek.take buffer.readableBytes

theorem length_readable (buffer : Buffer) : buffer.readable.length = buffer.readableBytes := by
  have hsize := buffer.write_le_size
  simp only [readable, peek, readableBytes, length_take, length_drop]
  omega

def retrieveAll (buffer : Buffer) : Buffer where
  buffer := buffer.buffer
  read_le_write := Nat.le_refl 0
  write_le_size := Nat.zero_le _

def retrieve (buffer : Buffer) (len : Nat) : Except Error Buffer :=
  if hmore : len > buffer.readableBytes then
    Status.error .invalidArgument "buffer retrieve exceeds readable bytes"
  else if len = buffer.readableBytes then .ok buffer.retrieveAll
  else .ok { buffer with
    readIndex := buffer.readIndex + len
    read_le_write := by
      have hindex := buffer.read_le_write
      simp only [readableBytes] at hmore
      omega }

/-- The readable bytes are moved to the front; what they do not cover keeps its value. -/
def moveToFront (buffer : Buffer) : Buffer where
  buffer := buffer.readable ++ buffer.buffer.drop buffer.readableBytes
  readIndex := 0
  writeIndex := buffer.readableBytes
  read_le_write := Nat.zero_le _
  write_le_size := by
    rw [length_append, length_readable]
    exact Nat.le_add_right _ _

/-- `buffer_.resize(write_index_ + len)` of a vector that is not longer. -/
def resize (buffer : Buffer) (len : Nat) : Buffer where
  buffer := buffer.buffer ++
    replicate (buffer.writeIndex + len - buffer.buffer.length) 0
  readIndex := buffer.readIndex
  writeIndex := buffer.writeIndex
  read_le_write := buffer.read_le_write
  write_le_size := by
    rw [length_append]
    exact Nat.le_add_right_of_le buffer.write_le_size

def ensureWritableBytes (buffer : Buffer) (len : Nat) : Buffer :=
  if buffer.writableBytes ≥ len then buffer
  else if buffer.readIndex + buffer.writableBytes ≥ len then buffer.moveToFront
  else if buffer.readIndex ≠ 0 then buffer.moveToFront.resize len
  else buffer.resize len

/-! ## Making room -/

theorem readable_retrieveAll (buffer : Buffer) : buffer.retrieveAll.readable = [] := rfl

theorem readable_moveToFront (buffer : Buffer) :
    buffer.moveToFront.readable = buffer.readable := by
  show take buffer.readableBytes (buffer.readable ++ _) = buffer.readable
  rw [← length_readable, take_left]

theorem readable_resize (buffer : Buffer) (len : Nat) :
    (buffer.resize len).readable = buffer.readable := by
  have hsize := buffer.write_le_size
  have hindex := buffer.read_le_write
  simp only [readable, peek, resize, readableBytes]
  rw [drop_append_of_le_length (by omega),
    take_append_of_le_length (by rw [length_drop]; omega)]

theorem readable_ensureWritableBytes (buffer : Buffer) (len : Nat) :
    (buffer.ensureWritableBytes len).readable = buffer.readable := by
  rw [ensureWritableBytes]
  split_ifs with hroom hmoved hfront
  · rfl
  · exact buffer.readable_moveToFront
  · rw [readable_resize, readable_moveToFront]
  · exact buffer.readable_resize len

theorem length_moveToFront (buffer : Buffer) :
    buffer.moveToFront.buffer.length = buffer.buffer.length := by
  have hsize := buffer.write_le_size
  simp only [moveToFront, length_append, length_readable, length_drop, readableBytes]
  omega

theorem le_writableBytes_resize (buffer : Buffer) (len : Nat) :
    len ≤ (buffer.resize len).writableBytes := by
  simp only [writableBytes, resize, length_append, length_replicate]
  omega

theorem le_writableBytes_ensureWritableBytes (buffer : Buffer) (len : Nat) :
    len ≤ (buffer.ensureWritableBytes len).writableBytes := by
  rw [ensureWritableBytes]
  split_ifs with hroom hmoved hfront
  · exact hroom
  · have hlength := buffer.length_moveToFront
    have hwrite : buffer.moveToFront.writeIndex = buffer.writeIndex - buffer.readIndex := rfl
    have hindex := buffer.read_le_write
    have hsize := buffer.write_le_size
    rw [writableBytes] at hmoved
    rw [writableBytes, hlength, hwrite]
    omega
  · exact le_writableBytes_resize _ len
  · exact le_writableBytes_resize _ len

/-! ## Appending and retrieving -/

/-- `memcpy` to the write index, which then moves behind the bytes; there has to be room. -/
def store (buffer : Buffer) (data : Bytes) (_hroom : data.length ≤ buffer.writableBytes) :
    Buffer where
  buffer := buffer.buffer.take buffer.writeIndex ++ data ++
    buffer.buffer.drop (buffer.writeIndex + data.length)
  readIndex := buffer.readIndex
  writeIndex := buffer.writeIndex + data.length
  read_le_write := Nat.le_add_right_of_le buffer.read_le_write
  write_le_size := by
    have hsize := buffer.write_le_size
    simp only [length_append, length_take, length_drop]
    omega

/-- `append(data, len)`. A null pointer with a length that is not zero is `none`. -/
def append (buffer : Buffer) : Option Bytes → Except Error Buffer
  | none => Status.error .invalidArgument "buffer append input is null"
  | some data =>
    if data.length = 0 then .ok buffer
    else .ok ((buffer.ensureWritableBytes data.length).store data
      (le_writableBytes_ensureWritableBytes buffer data.length))

theorem readable_store (buffer : Buffer) (data : Bytes)
    (hroom : data.length ≤ buffer.writableBytes) :
    (buffer.store data hroom).readable = buffer.readable ++ data := by
  have hsize := buffer.write_le_size
  have hindex := buffer.read_le_write
  have hfront : (buffer.buffer.take buffer.writeIndex).drop buffer.readIndex =
      buffer.readable := by
    rw [drop_take]
    rfl
  have hcount : buffer.writeIndex + data.length - buffer.readIndex =
      (buffer.readable ++ data).length := by
    rw [length_append, length_readable, readableBytes]
    omega
  simp only [readable, peek, store, readableBytes] at hfront ⊢
  rw [append_assoc, drop_append_of_le_length (by rw [length_take]; omega), hfront,
    ← append_assoc]
  rw [hcount]
  exact take_left

/-- Appended bytes follow the readable ones. -/
theorem append_some (buffer : Buffer) (data : Bytes) :
    ∃ after, buffer.append (some data) = .ok after ∧
      after.readable = buffer.readable ++ data := by
  by_cases hempty : data.length = 0
  · refine ⟨buffer, if_pos hempty, ?_⟩
    rw [eq_nil_of_length_eq_zero hempty, append_nil]
  · refine ⟨_, if_neg hempty, ?_⟩
    rw [readable_store, readable_ensureWritableBytes]

/-- At most the readable bytes can be retrieved, and those retrieved are the first ones. -/
theorem retrieve_of_le {buffer : Buffer} {len : Nat} (hlen : len ≤ buffer.readable.length) :
    ∃ after, buffer.retrieve len = .ok after ∧ after.readable = buffer.readable.drop len := by
  rw [length_readable] at hlen
  rw [retrieve, dif_neg (Nat.not_lt.mpr hlen)]
  by_cases hall : len = buffer.readableBytes
  · refine ⟨_, if_pos hall, ?_⟩
    rw [readable_retrieveAll, hall, ← length_readable, drop_length]
  · refine ⟨_, if_neg hall, ?_⟩
    simp only [readable, peek, readableBytes, drop_take, drop_drop]
    rw [Nat.sub_sub]

theorem retrieve_of_lt {buffer : Buffer} {len : Nat} (hlen : buffer.readable.length < len) :
    buffer.retrieve len =
      Status.error .invalidArgument "buffer retrieve exceeds readable bytes" := by
  rw [length_readable] at hlen
  exact dif_pos hlen

/-- Growing moves nothing the reader sees: seven bytes, of which four were read, and
three more in a vector of eight. -/
example :
    (((ofSize 8).append (some [1, 2, 3, 4, 5, 6, 7])).bind fun full =>
      (full.retrieve 4).bind fun read => read.append (some [8, 9, 10])).map readable =
        .ok [5, 6, 7, 8, 9, 10] := rfl

end Buffer

end LiteIM
