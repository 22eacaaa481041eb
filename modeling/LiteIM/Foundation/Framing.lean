/-
# Self-delimiting frames in a stream

A framing says, of the unread part of a stream, whether it begins with a
complete frame, cannot begin with one, or needs more input before that is
decided. The two decided answers must survive further input: this is the only
property a decoder needs in order not to notice how its input was cut.

Draining a buffer takes complete frames off its front until one of the other
answers is reached. A decoder keeps what draining leaves over, and stops for
good at the first malformed frame.
-/

import Mathlib.Data.List.Induction

namespace LiteIM.Foundation

open List

universe u v w x

/-- What can be said of the unread part of a stream. -/
inductive Scan (ε : Type u) (π : Type v) where
  /-- Not enough input to decide. -/
  | incomplete
  /-- No continuation makes the input begin with a frame. -/
  | malformed (reason : ε)
  /-- The first `size` symbols are a frame carrying `item`. -/
  | item (item : π) (size : Nat)

/-- The answer that stops a drain, by whether it is a failure. -/
def Scan.stop {ε : Type u} {π : Type v} : Option ε → Scan ε π
  | none => .incomplete
  | some reason => .malformed reason

/-- A way of recognizing frames whose decided answers survive further input. -/
structure Framing (β : Type w) (ε : Type u) (π : Type v) where
  scan : List β → Scan ε π
  size_pos : ∀ {input item size}, scan input = .item item size → 0 < size
  size_le : ∀ {input item size}, scan input = .item item size → size ≤ input.length
  item_append : ∀ {input item size} (more : List β),
    scan input = .item item size → scan (input ++ more) = .item item size
  malformed_append : ∀ {input reason} (more : List β),
    scan input = .malformed reason → scan (input ++ more) = .malformed reason

/-- The outcome of taking frames off the front of an input. -/
@[ext]
structure Drained (β : Type w) (ε : Type u) (π : Type v) where
  items : List π
  rest : List β
  failure : Option ε

namespace Framing

variable {β : Type w} {ε : Type u} {π : Type v} (F : Framing β ε π)

/-- Take frames off the front of an input for as long as it begins with one. -/
def drain (input : List β) : Drained β ε π :=
  match _hscan : F.scan input with
  | .incomplete => ⟨[], input, none⟩
  | .malformed reason => ⟨[], input, some reason⟩
  | .item item size =>
    let tail := drain (input.drop size)
    ⟨item :: tail.items, tail.rest, tail.failure⟩
termination_by input.length
decreasing_by
  have hpos := F.size_pos _hscan
  have hle := F.size_le _hscan
  rw [length_drop]
  omega

variable {F}

variable {input : List β}

theorem drain_of_incomplete (hscan : F.scan input = .incomplete) :
    F.drain input = ⟨[], input, none⟩ := by
  rw [drain]
  split <;> simp_all

theorem drain_of_malformed {reason : ε} (hscan : F.scan input = .malformed reason) :
    F.drain input = ⟨[], input, some reason⟩ := by
  rw [drain]
  split <;> simp_all

theorem drain_of_item {item : π} {size : Nat} (hscan : F.scan input = .item item size) :
    F.drain input =
      ⟨item :: (F.drain (input.drop size)).items, (F.drain (input.drop size)).rest,
        (F.drain (input.drop size)).failure⟩ := by
  rw [drain]
  split <;> simp_all

/-- Induction along a drain: the input either stops it or loses its first frame. -/
theorem drain_induction {motive : List β → Prop}
    (incomplete : ∀ input, F.scan input = .incomplete → motive input)
    (malformed : ∀ input reason, F.scan input = .malformed reason → motive input)
    (item : ∀ input item size, F.scan input = .item item size →
      motive (input.drop size) → motive input) (input : List β) : motive input := by
  induction hlength : input.length using Nat.strongRecOn generalizing input with
  | ind length ih =>
    cases hscan : F.scan input with
    | incomplete => exact incomplete input hscan
    | malformed reason => exact malformed input reason hscan
    | item frame size =>
      have hpos := F.size_pos hscan
      have hle := F.size_le hscan
      refine item input frame size hscan (ih (input.length - size) ?_ _ ?_)
      · omega
      · exact length_drop

/-- What draining leaves over is exactly what stopped it. -/
theorem scan_drain_rest (input : List β) :
    F.scan (F.drain input).rest = .stop (F.drain input).failure := by
  induction input using F.drain_induction with
  | incomplete input hscan => simp [drain_of_incomplete hscan, hscan, Scan.stop]
  | malformed input reason hscan => simp [drain_of_malformed hscan, hscan, Scan.stop]
  | item input item size hscan ih => simpa only [drain_of_item hscan] using ih

/-- Draining an input and then what follows it is draining both at once. -/
theorem drain_append_of_no_failure (input more : List β)
    (hfailure : (F.drain input).failure = none) :
    F.drain (input ++ more) =
      ⟨(F.drain input).items ++ (F.drain ((F.drain input).rest ++ more)).items,
        (F.drain ((F.drain input).rest ++ more)).rest,
        (F.drain ((F.drain input).rest ++ more)).failure⟩ := by
  induction input using F.drain_induction with
  | incomplete input hscan => simp [drain_of_incomplete hscan]
  | malformed input reason hscan => simp [drain_of_malformed hscan] at hfailure
  | item input item size hscan ih =>
    have hle := F.size_le hscan
    rw [drain_of_item hscan] at hfailure
    rw [drain_of_item (F.item_append more hscan), drop_append_of_le_length hle,
      ih hfailure, drain_of_item hscan]
    rfl

/-- A failure is final: what follows a malformed frame is never looked at. -/
theorem drain_append_of_failure (input more : List β) {reason : ε}
    (hfailure : (F.drain input).failure = some reason) :
    F.drain (input ++ more) =
      ⟨(F.drain input).items, (F.drain input).rest ++ more, some reason⟩ := by
  induction input using F.drain_induction with
  | incomplete input hscan => simp [drain_of_incomplete hscan] at hfailure
  | malformed input found hscan =>
    rw [drain_of_malformed (F.malformed_append more hscan), drain_of_malformed hscan]
    simpa [drain_of_malformed hscan] using hfailure
  | item input item size hscan ih =>
    have hle := F.size_le hscan
    rw [drain_of_item hscan] at hfailure
    rw [drain_of_item (F.item_append more hscan), drop_append_of_le_length hle,
      ih hfailure, drain_of_item hscan]

/-! ## Decoders -/

/-- A decoder between two pieces of input. -/
structure Decoder (β : Type w) where
  pending : List β
  failed : Bool

/-- A decoder that has seen nothing. -/
def Decoder.fresh : Decoder β := ⟨[], false⟩

variable (F) in
/-- Hand one piece of input to a decoder. -/
def push (decoder : Decoder β) (chunk : List β) : List π × Decoder β :=
  if decoder.failed then ([], decoder)
  else
    let outcome := F.drain (decoder.pending ++ chunk)
    (outcome.items, ⟨outcome.rest, outcome.failure.isSome⟩)

variable (F) in
/-- Hand over several pieces in order, collecting all items. -/
def pushAll (decoder : Decoder β) (chunks : List (List β)) : List π × Decoder β :=
  chunks.foldl
    (fun (collected, decoder) chunk =>
      let (items, next) := F.push decoder chunk
      (collected ++ items, next))
    ([], decoder)

theorem pushAll_concat (decoder : Decoder β) (chunks : List (List β)) (chunk : List β) :
    F.pushAll decoder (chunks ++ [chunk]) =
      ((F.pushAll decoder chunks).1 ++ (F.push (F.pushAll decoder chunks).2 chunk).1,
        (F.push (F.pushAll decoder chunks).2 chunk).2) := by
  simp [pushAll, foldl_append]

/-- A decoder that was handed an input in pieces stands where draining the whole
input ends. After a failure the kept input is no longer determined by the whole. -/
structure Decodes (F : Framing β ε π) (input : List β) (result : List π × Decoder β) : Prop where
  items : result.1 = (F.drain input).items
  failed : result.2.failed = (F.drain input).failure.isSome
  pending : result.2.failed = false → result.2.pending = (F.drain input).rest

theorem Decodes.push {chunk : List β} {result : List π × Decoder β}
    (hdecodes : Decodes F input result) : Decodes F (input ++ chunk)
      (result.1 ++ (F.push result.2 chunk).1, (F.push result.2 chunk).2) := by
  cases hfailure : (F.drain input).failure with
  | none =>
    have hfailed : result.2.failed = false := by simp [hdecodes.failed, hfailure]
    have hpending := hdecodes.pending hfailed
    rw [Framing.push, if_neg (by simp [hfailed])]
    constructor
    · simp [drain_append_of_no_failure input chunk hfailure, hdecodes.items, hpending]
    · simp [drain_append_of_no_failure input chunk hfailure, hpending]
    · simp [drain_append_of_no_failure input chunk hfailure, hpending]
  | some =>
    have hfailed : result.2.failed = true := by simp [hdecodes.failed, hfailure]
    rw [Framing.push, if_pos hfailed]
    constructor
    · simp [drain_append_of_failure input chunk hfailure, hdecodes.items]
    · simp [drain_append_of_failure input chunk hfailure, hfailed]
    · intro hopen
      simp [hfailed] at hopen

/-- However an input is cut, a fresh decoder ends where draining it whole ends. -/
theorem pushAll_fresh (hempty : F.scan [] = .incomplete) (chunks : List (List β)) :
    Decodes F chunks.flatten (F.pushAll Decoder.fresh chunks) := by
  induction chunks using reverseRecOn with
  | nil =>
    have hdrain : F.drain [] = ⟨[], [], none⟩ := drain_of_incomplete hempty
    constructor <;> simp [pushAll, Decoder.fresh, hdrain]
  | append_singleton chunks chunk ih =>
    rw [pushAll_concat, flatten_append, flatten_singleton]
    exact ih.push

/-- What holds of every recognized item holds of the items drained. -/
theorem forall_mem_drain_items {property : π → Prop}
    (hproperty : ∀ input item size, F.scan input = .item item size → property item)
    (input : List β) : ∀ item ∈ (F.drain input).items, property item := by
  induction input using F.drain_induction with
  | incomplete input hscan => simp [drain_of_incomplete hscan]
  | malformed input reason hscan => simp [drain_of_malformed hscan]
  | item input item size hscan ih =>
    intro other hmem
    rw [drain_of_item hscan, mem_cons] at hmem
    rcases hmem with rfl | hmem
    · exact hproperty input other size hscan
    · exact ih other hmem

/-! ## Framings with an encoder -/

/-- If every recognized frame is the encoding of its item, an input is the
encodings of the items drained from it, followed by what was left over. -/
theorem flatMap_drain {encode : π → List β}
    (hencode : ∀ input item size, F.scan input = .item item size →
      input.take size = encode item) (input : List β) :
    input = (F.drain input).items.flatMap encode ++ (F.drain input).rest := by
  induction input using F.drain_induction with
  | incomplete input hscan => simp [drain_of_incomplete hscan]
  | malformed input reason hscan => simp [drain_of_malformed hscan]
  | item input item size hscan ih =>
    calc
      input = input.take size ++ input.drop size := (take_append_drop size input).symm
      _ = encode item ++ ((F.drain (input.drop size)).items.flatMap encode ++
            (F.drain (input.drop size)).rest) := by
          rw [hencode input item size hscan, ← ih]
      _ = _ := by
          rw [drain_of_item hscan, flatMap_cons, append_assoc]

/-- If the encoding of each source is recognized whatever follows it, draining
concatenated encodings yields what was encoded and leaves nothing. -/
theorem drain_flatMap {σ : Type x} {encode : σ → List β} {decoded : σ → π}
    (hempty : F.scan [] = .incomplete) {sources : List σ} (hscan : ∀ source ∈ sources, ∀ more,
      F.scan (encode source ++ more) = .item (decoded source) (encode source).length) :
    F.drain (sources.flatMap encode) = ⟨sources.map decoded, [], none⟩ := by
  induction sources with
  | nil => simp [drain_of_incomplete hempty]
  | cons source sources ih =>
    have hhead := hscan source (by simp) (sources.flatMap encode)
    have htail := ih fun other hmem => hscan other (by simp [hmem])
    rw [flatMap_cons, drain_of_item hhead, drop_left, htail, map_cons]

end Framing

end LiteIM.Foundation
