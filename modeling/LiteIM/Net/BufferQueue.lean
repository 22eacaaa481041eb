/-
# The buffer as a queue

Whatever is done with a buffer, it answers as a queue of bytes does and holds the bytes that
the queue holds. Its vector grows only when all of it would be filled, so it is never longer
than it was at first or than the most bytes it had to hold at once.
-/

import LiteIM.Foundation.Queue
import LiteIM.Net.Buffer

namespace LiteIM.Buffer

open Foundation

/-- The operations that change a buffer. -/
inductive Op where
  | append (data : Option Bytes)
  | retrieve (len : Nat)
  | retrieveAll
  | retrieveAllAsString

/-- An operation with the string it returns. One that fails returns before it changes the
buffer. -/
def perform (buffer : Buffer) : Op → Except Error Bytes × Buffer
  | .append data =>
    match buffer.append data with
    | .ok after => (.ok [], after)
    | .error status => (.error status, buffer)
  | .retrieve len =>
    match buffer.retrieve len with
    | .ok after => (.ok [], after)
    | .error status => (.error status, buffer)
  | .retrieveAll => (.ok [], buffer.retrieveAll)
  | .retrieveAllAsString => (.ok buffer.readable, buffer.retrieveAll)

/-- Operations one after another, with what they returned. -/
def performAll (buffer : Buffer) : List Op → List (Except Error Bytes) × Buffer
  | [] => ([], buffer)
  | op :: ops =>
    let (result, after) := buffer.perform op
    let (results, last) := after.performAll ops
    (result :: results, last)

end LiteIM.Buffer

namespace LiteIM.Foundation.Queue

/-- What a queue of bytes does at an operation. -/
def perform (queue : Queue UInt8) : Buffer.Op → Except Error Bytes × Queue UInt8
  | .append none => (Status.error .invalidArgument "buffer append input is null", queue)
  | .append (some data) => (.ok [], queue.append data)
  | .retrieve len =>
    match queue.retrieve? len with
    | some after => (.ok [], after)
    | none => (Status.error .invalidArgument "buffer retrieve exceeds readable bytes", queue)
  | .retrieveAll => (.ok [], queue.retrieveAll)
  | .retrieveAllAsString => (.ok queue.contents, queue.retrieveAll)

def performAll (queue : Queue UInt8) : List Buffer.Op →
    List (Except Error Bytes) × Queue UInt8
  | [] => ([], queue)
  | op :: ops =>
    let (result, after) := queue.perform op
    let (results, last) := after.performAll ops
    (result :: results, last)

end LiteIM.Foundation.Queue

namespace LiteIM.Buffer

open Foundation

/-! ## The size of the vector -/

/-- Making room lengthens the vector only to what it has to hold. -/
theorem length_ensureWritableBytes (buffer : Buffer) (len : Nat) :
    (buffer.ensureWritableBytes len).buffer.length ≤
      max buffer.buffer.length (buffer.readable.length + len) := by
  have hsize := buffer.write_le_size
  have hindex := buffer.read_le_write
  rw [length_readable, ensureWritableBytes]
  split_ifs with hroom hmoved hfront
  · exact Nat.le_max_left _ _
  · rw [length_moveToFront]
    exact Nat.le_max_left _ _
  · have hwrite : buffer.moveToFront.writeIndex = buffer.readableBytes := rfl
    rw [resize, List.length_append, length_moveToFront, List.length_replicate, hwrite]
    omega
  · rw [resize, List.length_append, List.length_replicate]
    simp only [readableBytes, writableBytes] at *
    omega

theorem length_store (buffer : Buffer) (data : Bytes)
    (hroom : data.length ≤ buffer.writableBytes) :
    (buffer.store data hroom).buffer.length = buffer.buffer.length := by
  have hsize := buffer.write_le_size
  rw [writableBytes] at hroom
  simp only [store, List.length_append, List.length_take, List.length_drop]
  omega

variable {buffer after : Buffer}

theorem length_append {data : Bytes} (happend : buffer.append (some data) = .ok after) :
    after.buffer.length ≤ max buffer.buffer.length (buffer.readable ++ data).length := by
  rw [append] at happend
  split_ifs at happend with hempty
  · rw [← Except.ok.inj happend]
    exact Nat.le_max_left _ _
  · rw [← Except.ok.inj happend, length_store, List.length_append]
    exact buffer.length_ensureWritableBytes data.length

theorem length_retrieve {len : Nat} (hretrieve : buffer.retrieve len = .ok after) :
    after.buffer.length = buffer.buffer.length := by
  rw [retrieve] at hretrieve
  split_ifs at hretrieve with hmore hall
  · cases hretrieve
  · rw [← Except.ok.inj hretrieve]
    rfl
  · rw [← Except.ok.inj hretrieve]

/-! ## One operation -/

/-- The buffer holds what the queue holds, in a vector that is not longer than `initial` or
the most that the queue held. -/
structure Refines (initial : Nat) (buffer : Buffer) (queue : Queue UInt8) : Prop where
  readable : buffer.readable = queue.contents
  size : buffer.buffer.length ≤ max initial queue.peak

variable {initial : Nat} {queue : Queue UInt8}

theorem Refines.append (hrefines : Refines initial buffer queue) {data : Bytes}
    (happend : buffer.append (some data) = .ok after) :
    Refines initial after (queue.append data) := by
  obtain ⟨found, hfound, hreadable⟩ := buffer.append_some data
  obtain rfl := Except.ok.inj (happend.symm.trans hfound)
  refine ⟨?_, ?_⟩
  · rw [hreadable, hrefines.readable, Queue.contents_append]
  · have hgrown := length_append happend
    have hsize := hrefines.size
    rw [hrefines.readable] at hgrown
    rw [Queue.peak_append]
    omega

theorem Refines.retrieveAll (hrefines : Refines initial buffer queue) :
    Refines initial buffer.retrieveAll queue.retrieveAll where
  readable := by rw [readable_retrieveAll, Queue.contents_retrieveAll]
  size := hrefines.size

/-- An operation answers as on the queue. -/
theorem Refines.perform (hrefines : Refines initial buffer queue) (op : Op) :
    (buffer.perform op).1 = (queue.perform op).1 ∧
      Refines initial (buffer.perform op).2 (queue.perform op).2 := by
  cases op with
  | append data =>
    cases data with
    | none => exact ⟨rfl, hrefines⟩
    | some data =>
      obtain ⟨after, happend, -⟩ := buffer.append_some data
      rw [Buffer.perform, happend]
      exact ⟨rfl, hrefines.append happend⟩
  | retrieve len =>
    by_cases hlen : len ≤ buffer.readable.length
    · obtain ⟨after, hretrieve, hreadable⟩ := retrieve_of_le hlen
      rw [hrefines.readable] at hlen
      obtain ⟨rest, hrest, hcontents, hpeak⟩ := Queue.retrieve?_of_le hlen
      rw [Buffer.perform, Queue.perform, hretrieve, hrest]
      refine ⟨rfl, ?_, ?_⟩
      · rw [hreadable, hrefines.readable, hcontents]
      · rw [length_retrieve hretrieve, hpeak]
        exact hrefines.size
    · have hmore := Nat.not_le.mp hlen
      have hretrieve := retrieve_of_lt hmore
      rw [hrefines.readable] at hmore
      rw [Buffer.perform, Queue.perform, hretrieve, Queue.retrieve?_of_lt hmore]
      exact ⟨rfl, hrefines⟩
  | retrieveAll => exact ⟨rfl, hrefines.retrieveAll⟩
  | retrieveAllAsString => exact ⟨congrArg Except.ok hrefines.readable, hrefines.retrieveAll⟩

theorem perform_error {op : Op} {status : Error} (herror : (buffer.perform op).1 = .error status) :
    (buffer.perform op).2 = buffer := by
  cases op with
  | append data =>
    cases happend : buffer.append data with
    | error => simp [perform, happend]
    | ok => simp [perform, happend] at herror
  | retrieve len =>
    cases hretrieve : buffer.retrieve len with
    | error => simp [perform, hretrieve]
    | ok => simp [perform, hretrieve] at herror
  | retrieveAll | retrieveAllAsString => cases herror

/-! ## Any number of operations -/

theorem Refines.performAll (hrefines : Refines initial buffer queue) (ops : List Op) :
    (buffer.performAll ops).1 = (queue.performAll ops).1 ∧
      Refines initial (buffer.performAll ops).2 (queue.performAll ops).2 := by
  induction ops generalizing buffer queue with
  | nil => exact ⟨rfl, hrefines⟩
  | cons op ops ih =>
    obtain ⟨hresult, hafter⟩ := hrefines.perform op
    obtain ⟨hresults, hlast⟩ := ih hafter
    exact ⟨congrArg₂ List.cons hresult hresults, hlast⟩

theorem refines_ofSize (initialSize : Nat) :
    Refines (max initialSize 1) (ofSize initialSize) {} where
  readable := rfl
  size := by
    rw [ofSize, List.length_replicate]
    split_ifs <;> omega

/-- A buffer is a queue of bytes in bounded memory. -/
theorem buffer_refines_queue (initialSize : Nat) (ops : List Op) :
    let (results, buffer) := (ofSize initialSize).performAll ops
    let (answers, queue) := Queue.performAll {} ops
    results = answers ∧
      buffer.readIndex ≤ buffer.writeIndex ∧ buffer.writeIndex ≤ buffer.buffer.length ∧
      buffer.readable = queue.contents ∧
      buffer.buffer.length ≤ max (max initialSize 1) queue.peak ∧
      ∀ op status, (buffer.perform op).1 = .error status → (buffer.perform op).2 = buffer := by
  obtain ⟨hresults, hrefines⟩ := (refines_ofSize initialSize).performAll ops
  exact ⟨hresults, Buffer.read_le_write _, Buffer.write_le_size _, hrefines.readable,
    hrefines.size, fun op status => perform_error⟩

end LiteIM.Buffer
