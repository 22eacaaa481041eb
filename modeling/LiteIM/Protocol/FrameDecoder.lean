/-
# The frame decoder

`FrameDecoder` turns the bytes of a connection back into packets. It keeps what
it has not consumed, validates a header as soon as all of it has arrived, and
refuses everything after the first invalid header.

The loop of `feed` walks an index through its buffer. Seen from the unread part
of the buffer it drains a framing: a complete valid header decides how long the
frame is, an invalid one is final. How the stream was cut into reads and how it
relates to `encodePacket` then follow from the general facts about framings.
-/

import LiteIM.Foundation.Framing
import LiteIM.Protocol.Packet

namespace LiteIM

open Foundation Packet Framing List

structure FrameDecoder where
  buffer : Bytes := []
  error : Bool := false
  deriving DecidableEq, Repr

/-- What one `feed` returns: its status, its output vector and the decoder. -/
structure FeedResult where
  status : Except Error Unit
  output : List Packet
  decoder : FrameDecoder

namespace FrameDecoder

/-- The lambda `compact_consumed` of `feed`. -/
def compactConsumed (buffer : Bytes) (consumed : Nat) : Bytes :=
  if consumed = 0 then buffer
  else if consumed = buffer.length then []
  else buffer.drop consumed

/-- The loop of `feed`, from a read index and the packets output so far to the
status it stops with, all packets output and the final read index. `parse` reads
the header at a pointer. -/
def feedLoop (parse : Bytes → Except Error PacketHeader) (buffer : Bytes) (readIndex : Nat)
    (output : List Packet) : Except Error Unit × List Packet × Nat :=
  if _hshort : buffer.length - readIndex < kPacketHeaderSize then (.ok (), output, readIndex)
  else
    match parse (buffer.drop readIndex) with
    | .error status => (.error status, output, readIndex)
    | .ok header =>
      let frameSize := kPacketHeaderSize + header.bodyLen.toNat
      if buffer.length - readIndex < frameSize then (.ok (), output, readIndex)
      else
        let body := (buffer.drop (readIndex + kPacketHeaderSize)).take header.bodyLen.toNat
        feedLoop parse buffer (readIndex + frameSize) (output ++ [{ header, body }])
termination_by buffer.length - readIndex
decreasing_by
  have hsize : kPacketHeaderSize = 20 := rfl
  omega

/-- `feed(data, len, output)`; `data` is `none` when the pointer is null. -/
def feed (decoder : FrameDecoder) (data : Option Bytes) (len : Nat) : FeedResult :=
  if decoder.error then
    ⟨Status.error .parseError "frame decoder is in error state", [], decoder⟩
  else if data = none ∧ len ≠ 0 then
    ⟨Status.error .invalidArgument "frame decoder input is null", [], decoder⟩
  else
    let buffer := if len ≠ 0 then decoder.buffer ++ (data.getD []).take len else decoder.buffer
    match feedLoop (fun data => parseHeader (some data) kPacketHeaderSize) buffer 0 [] with
    | (.error status, output, readIndex) =>
      ⟨.error status, output, ⟨compactConsumed buffer readIndex, true⟩⟩
    | (.ok (), output, readIndex) =>
      ⟨.ok (), output, ⟨compactConsumed buffer readIndex, decoder.error⟩⟩

/-- `feed(data, output)`. -/
def feedBytes (decoder : FrameDecoder) (data : Bytes) : FeedResult :=
  decoder.feed (some data) data.length

def hasError (decoder : FrameDecoder) : Bool := decoder.error

def bufferedBytes (decoder : FrameDecoder) : Nat := decoder.buffer.length

def reset (decoder : FrameDecoder) : FrameDecoder :=
  { decoder with buffer := [], error := false }

/-- Feed chunks in order, concatenating the output vectors. -/
def feedAll (decoder : FrameDecoder) (chunks : List Bytes) : List Packet × FrameDecoder :=
  chunks.foldl
    (fun (collected, decoder) chunk =>
      let result := decoder.feedBytes chunk
      (collected ++ result.output, result.decoder))
    ([], decoder)

/-! ## The framing of packets -/

/-- What the loop decides from the unread part of its buffer. -/
def scanPacket (unread : Bytes) : Scan Error Packet :=
  if unread.length < kPacketHeaderSize then .incomplete
  else
    match parseHeader (some unread) kPacketHeaderSize with
    | .error status => .malformed status
    | .ok header =>
      if unread.length < kPacketHeaderSize + header.bodyLen.toNat then .incomplete
      else
        .item { header, body := (unread.drop kPacketHeaderSize).take header.bodyLen.toNat }
          (kPacketHeaderSize + header.bodyLen.toNat)

theorem parseHeader_eq_ok_iff {data : Bytes} {header : PacketHeader} :
    parseHeader (some data) kPacketHeaderSize = .ok header ↔
      validateHeader (readHeader data) = .ok () ∧ header = readHeader data := by
  simp only [parseHeader, Nat.lt_irrefl, if_false]
  cases hvalid : validateHeader (readHeader data) with
  | error => simp
  | ok => simp [eq_comm]

theorem parseHeader_append {data : Bytes} (hlength : kPacketHeaderSize ≤ data.length)
    (more : Bytes) : parseHeader (some (data ++ more)) kPacketHeaderSize =
      parseHeader (some data) kPacketHeaderSize := by
  simp only [parseHeader, readHeader_append hlength more]

variable {unread : Bytes} {packet : Packet} {size : Nat}

/-- Everything a recognized frame says about the unread bytes it was found in. -/
theorem scanPacket_eq_item_iff : scanPacket unread = .item packet size ↔
      kPacketHeaderSize ≤ unread.length ∧ validateHeader (readHeader unread) = .ok () ∧
      size = kPacketHeaderSize + (readHeader unread).bodyLen.toNat ∧ size ≤ unread.length ∧
      packet = ⟨readHeader unread,
        (unread.drop kPacketHeaderSize).take (readHeader unread).bodyLen.toNat⟩ := by
  by_cases hshort : unread.length < kPacketHeaderSize
  · simp [scanPacket, hshort, Nat.not_le.mpr hshort]
  · have hlong := Nat.not_lt.mp hshort
    rw [scanPacket, if_neg hshort]
    cases hparse : parseHeader (some unread) kPacketHeaderSize with
    | error =>
      have hinvalid : validateHeader (readHeader unread) ≠ .ok () := fun hvalid => by
        simp [parseHeader_eq_ok_iff.mpr ⟨hvalid, rfl⟩] at hparse
      simp [hinvalid]
    | ok =>
      obtain ⟨hvalid, rfl⟩ := parseHeader_eq_ok_iff.mp hparse
      by_cases hbody :
          unread.length < kPacketHeaderSize + (readHeader unread).bodyLen.toNat
      · simp [hbody, hvalid, hlong]
        omega
      · simp [hbody, hvalid, hlong]
        grind

/-- A malformed scan is a complete header that does not parse. -/
theorem scanPacket_eq_malformed_iff {status : Error} : scanPacket unread = .malformed status ↔
      kPacketHeaderSize ≤ unread.length ∧
      parseHeader (some unread) kPacketHeaderSize = .error status := by
  by_cases hshort : unread.length < kPacketHeaderSize
  · simp [scanPacket, hshort, Nat.not_le.mpr hshort]
  · rw [scanPacket, if_neg hshort]
    cases hparse : parseHeader (some unread) kPacketHeaderSize with
    | error => simp [Nat.not_lt.mp hshort]
    | ok header =>
      by_cases hbody : unread.length < kPacketHeaderSize + header.bodyLen.toNat
      · simp [hbody]
      · simp [hbody]

theorem scanPacket_size_pos (hscan : scanPacket unread = .item packet size) : 0 < size := by
  have hsize := (scanPacket_eq_item_iff.mp hscan).2.2.1
  simp only [kPacketHeaderSize] at hsize
  omega

theorem scanPacket_size_le (hscan : scanPacket unread = .item packet size) : size ≤ unread.length :=
  (scanPacket_eq_item_iff.mp hscan).2.2.2.1

/-- A frame at the front of the unread bytes is found whatever follows. -/
theorem scanPacket_append_of_item (more : Bytes) (hscan : scanPacket unread = .item packet size) :
    scanPacket (unread ++ more) = .item packet size := by
  obtain ⟨hlength, hvalid, hsize, hle, hitem⟩ := scanPacket_eq_item_iff.mp hscan
  have hheader := readHeader_append hlength more
  have hbody : (unread.drop kPacketHeaderSize ++ more).take (readHeader unread).bodyLen.toNat =
      (unread.drop kPacketHeaderSize).take (readHeader unread).bodyLen.toNat := by
    apply take_append_of_le_length
    rw [length_drop]
    omega
  refine scanPacket_eq_item_iff.mpr ⟨?_, ?_, ?_, ?_, ?_⟩
  · simp only [length_append]
    omega
  · rw [hheader, hvalid]
  · rw [hheader, hsize]
  · simp only [length_append]
    omega
  · rw [hheader, drop_append_of_le_length hlength, hbody, hitem]

theorem scanPacket_append_of_malformed {status : Error} (more : Bytes)
    (hscan : scanPacket unread = .malformed status) :
    scanPacket (unread ++ more) = .malformed status := by
  obtain ⟨hlength, hparse⟩ := scanPacket_eq_malformed_iff.mp hscan
  refine scanPacket_eq_malformed_iff.mpr ⟨?_, ?_⟩
  · simp only [length_append]
    omega
  · rw [parseHeader_append hlength, hparse]

/-- The framing of a stream of packets. -/
def packetFraming : Framing UInt8 Error Packet where
  scan := scanPacket
  size_pos := scanPacket_size_pos
  size_le := scanPacket_size_le
  item_append := scanPacket_append_of_item
  malformed_append := scanPacket_append_of_malformed

@[simp]
theorem packetFraming_scan : packetFraming.scan = scanPacket := rfl

theorem scanPacket_nil : packetFraming.scan [] = .incomplete := rfl

/-! ## The loop drains the framing -/

theorem compactConsumed_eq_drop (buffer : Bytes) (consumed : Nat) :
    compactConsumed buffer consumed = buffer.drop consumed := by
  by_cases hzero : consumed = 0
  · simp [compactConsumed, hzero]
  · by_cases hall : consumed = buffer.length
    · simp [compactConsumed, hall]
    · simp [compactConsumed, hzero, hall]

/-- The status of a loop that stopped for a reason, or for want of input. -/
def statusOf : Option Error → Except Error Unit
  | none => .ok ()
  | some status => .error status

/-- From a read index on, the loop outputs what draining the unread part yields,
and stops at the index where its rest begins. -/
theorem feedLoop_drain (buffer : Bytes) (readIndex : Nat) (output : List Packet)
    (hindex : readIndex ≤ buffer.length) :
    ∃ stop, feedLoop (fun data => parseHeader (some data) kPacketHeaderSize) buffer readIndex
        output = (statusOf (packetFraming.drain (buffer.drop readIndex)).failure,
          output ++ (packetFraming.drain (buffer.drop readIndex)).items, stop) ∧
      buffer.drop stop = (packetFraming.drain (buffer.drop readIndex)).rest := by
  induction hremaining : buffer.length - readIndex using Nat.strongRecOn
    generalizing readIndex output with
  | ind remaining ih =>
    have hunread : (buffer.drop readIndex).length = buffer.length - readIndex :=
      length_drop
    rw [feedLoop]
    by_cases hshort : buffer.length - readIndex < kPacketHeaderSize
    · have hscan : packetFraming.scan (buffer.drop readIndex) = .incomplete := by
        rw [packetFraming_scan, scanPacket, if_pos (by omega)]
      rw [dif_pos hshort, drain_of_incomplete hscan]
      exact ⟨readIndex, by simp [statusOf], rfl⟩
    · rw [dif_neg hshort]
      cases hparse : parseHeader (some (buffer.drop readIndex)) kPacketHeaderSize with
      | error status =>
        have hscan : packetFraming.scan (buffer.drop readIndex) = .malformed status :=
          scanPacket_eq_malformed_iff.mpr ⟨by omega, hparse⟩
        rw [drain_of_malformed hscan]
        exact ⟨readIndex, by simp [statusOf], rfl⟩
      | ok header =>
        by_cases hbody : buffer.length - readIndex < kPacketHeaderSize + header.bodyLen.toNat
        · have hscan : packetFraming.scan (buffer.drop readIndex) = .incomplete := by
            rw [packetFraming_scan, scanPacket, if_neg (by omega), hparse]
            exact if_pos (by omega)
          rw [drain_of_incomplete hscan]
          exact ⟨readIndex, by simp [hbody, statusOf], rfl⟩
        · have hscan : packetFraming.scan (buffer.drop readIndex) =
              .item ⟨header, (buffer.drop (readIndex + kPacketHeaderSize)).take
                header.bodyLen.toNat⟩ (kPacketHeaderSize + header.bodyLen.toNat) := by
            rw [packetFraming_scan, scanPacket, if_neg (by omega), hparse,
              ← drop_drop]
            exact if_neg (by omega)
          have hpos := packetFraming.size_pos hscan
          obtain ⟨stop, hloop, hstop⟩ := ih
            (buffer.length - (readIndex + (kPacketHeaderSize + header.bodyLen.toNat)))
            (by omega) (readIndex + (kPacketHeaderSize + header.bodyLen.toNat))
            (output ++ [⟨header, (buffer.drop (readIndex + kPacketHeaderSize)).take
              header.bodyLen.toNat⟩]) (by omega) rfl
          rw [drain_of_item hscan, drop_drop]
          refine ⟨stop, ?_, hstop⟩
          simp only [if_neg hbody]
          rw [hloop]
          simp

theorem feedBytes_of_open {decoder : FrameDecoder} (hopen : decoder.error = false) (data : Bytes) :
    decoder.feedBytes data =
      ⟨statusOf (packetFraming.drain (decoder.buffer ++ data)).failure,
        (packetFraming.drain (decoder.buffer ++ data)).items,
        ⟨(packetFraming.drain (decoder.buffer ++ data)).rest,
          (packetFraming.drain (decoder.buffer ++ data)).failure.isSome⟩⟩ := by
  have hbuffer : (if data.length ≠ 0 then decoder.buffer ++ data.take data.length
      else decoder.buffer) = decoder.buffer ++ data := by
    by_cases hdata : data = []
    · simp [hdata]
    · simp [hdata]
  obtain ⟨stop, hloop, hstop⟩ := feedLoop_drain (decoder.buffer ++ data) 0 [] (by simp)
  simp only [drop_zero, nil_append] at hloop hstop
  rw [feedBytes, feed, hopen]
  simp only [Bool.false_eq_true, if_false, reduceCtorEq, false_and, Option.getD_some, hbuffer,
    hloop, compactConsumed_eq_drop]
  cases (packetFraming.drain (decoder.buffer ++ data)).failure with
  | none | some => simp [statusOf, hstop]

theorem feedBytes_of_error {decoder : FrameDecoder} (herror : decoder.error = true) (data : Bytes) :
    decoder.feedBytes data =
      ⟨Status.error .parseError "frame decoder is in error state", [], decoder⟩ := by
  rw [feedBytes, feed, if_pos herror]

/-- The decoder as a decoder of the framing. -/
def asDecoder (decoder : FrameDecoder) : Decoder UInt8 := ⟨decoder.buffer, decoder.error⟩

/-- One feed is one push, whatever state the decoder is in. -/
theorem push_asDecoder (decoder : FrameDecoder) (data : Bytes) :
    packetFraming.push decoder.asDecoder data =
      ((decoder.feedBytes data).output, (decoder.feedBytes data).decoder.asDecoder) := by
  cases herror : decoder.error with
  | false => simp [feedBytes_of_open herror, push, asDecoder, herror]
  | true => simp [feedBytes_of_error herror, push, asDecoder, herror]

theorem pushAll_asDecoder (decoder : FrameDecoder) (chunks : List Bytes) :
    packetFraming.pushAll decoder.asDecoder chunks =
      ((decoder.feedAll chunks).1, (decoder.feedAll chunks).2.asDecoder) := by
  induction chunks using reverseRecOn with
  | nil => rfl
  | append_singleton chunks chunk ih =>
    rw [pushAll_concat, ih, push_asDecoder]
    simp [feedAll]

/-- However a stream is cut, the decoder ends where draining the stream ends. -/
theorem decodes_feedAll (chunks : List Bytes) :
    Decodes packetFraming chunks.flatten
      ((feedAll {} chunks).1, (feedAll {} chunks).2.asDecoder) := by
  rw [← pushAll_asDecoder]
  exact pushAll_fresh scanPacket_nil chunks

/-- **Chunk independence.** The packets a stream is decoded to and whether it is
refused do not depend on how it was cut into reads, and neither does the amount
kept of a stream that is not refused. -/
theorem feedAll_eq_feedBytes_flatten (chunks : List Bytes) :
    (feedAll {} chunks).1 = (feedBytes {} chunks.flatten).output ∧
    (feedAll {} chunks).2.hasError = (feedBytes {} chunks.flatten).decoder.hasError ∧
    ((feedAll {} chunks).2.hasError = false →
      (feedAll {} chunks).2.bufferedBytes =
        (feedBytes {} chunks.flatten).decoder.bufferedBytes) := by
  have hpieces := decodes_feedAll chunks
  rw [feedBytes_of_open rfl]
  refine ⟨hpieces.items, hpieces.failed, fun hopen => ?_⟩
  exact congrArg length (hpieces.pending hopen)

/-! ## The decoder inverts the encoder -/

/-- A packet that was decoded is one the encoder accepts, with the length of its
body already in its header. -/
theorem encodePacket_of_scanPacket (hscan : scanPacket unread = .item packet size) :
    encodePacket packet = .ok (unread.take size) := by
  obtain ⟨hlength, hvalid, hsize, hle, rfl⟩ := scanPacket_eq_item_iff.mp hscan
  have hbody : ((unread.drop kPacketHeaderSize).take (readHeader unread).bodyLen.toNat).length =
      (readHeader unread).bodyLen.toNat := by
    rw [length_take, length_drop]
    omega
  have hsame : (Packet.mk (readHeader unread)
      ((unread.drop kPacketHeaderSize).take (readHeader unread).bodyLen.toNat)).withBodyLen =
      ⟨readHeader unread,
        (unread.drop kPacketHeaderSize).take (readHeader unread).bodyLen.toNat⟩ := by
    simp only [withBodyLen, hbody, UInt32.ofNat_toNat]
  refine encodePacket_eq_ok_iff.mpr ⟨⟨?_, ?_⟩, ?_⟩
  · rw [hbody]
    exact UInt32.le_iff_toNat_le.mp (validateHeader_eq_ok_iff.mp hvalid).2.2.2
  · rw [hsame, hvalid]
  · rw [frame, hsame, bytes_readHeader hlength, hsize, take_add]

/-- The encoding of an accepted packet is recognized, whatever follows it. -/
theorem scanPacket_encodePacket {frame : Bytes} (hencode : encodePacket packet = .ok frame)
    (more : Bytes) : scanPacket (frame ++ more) = .item packet.withBodyLen frame.length := by
  obtain ⟨hencodable, rfl⟩ := encodePacket_eq_ok_iff.mp hencode
  have hheader : readHeader (packet.frame ++ more) = packet.withBodyLen.header := by
    rw [frame, append_assoc, readHeader_bytes]
  have hsmall : packet.body.length < 2 ^ 32 := by
    have := hencodable.body_le
    have := kMaxPacketBodyLength.toNat_lt
    omega
  have hlen : packet.withBodyLen.header.bodyLen.toNat = packet.body.length := by
    rw [withBodyLen, UInt32.toNat_ofNat', Nat.mod_eq_of_lt hsmall]
  refine scanPacket_eq_item_iff.mpr ⟨?_, ?_, ?_, ?_, ?_⟩
  · simp [frame]
  · rw [hheader, hencodable.header_valid]
  · rw [hheader, hlen, frame, length_append, PacketHeader.length_bytes]
  · simp
  · rw [hheader, hlen, frame, append_assoc,
      drop_left' (PacketHeader.length_bytes _), take_left]
    rfl

/-- A complete valid header that lacks some of its body begins a frame. -/
theorem exists_frame_of_incomplete (hlength : kPacketHeaderSize ≤ unread.length)
    (hscan : scanPacket unread = .incomplete) :
    ∃ packet frame, encodePacket packet = .ok frame ∧ unread <+: frame ∧ unread ≠ frame := by
  rw [scanPacket, if_neg (Nat.not_lt.mpr hlength)] at hscan
  cases hparse : parseHeader (some unread) kPacketHeaderSize with
  | error => simp [hparse] at hscan
  | ok =>
    obtain ⟨hvalid, rfl⟩ := parseHeader_eq_ok_iff.mp hparse
    by_cases hbody : unread.length < kPacketHeaderSize + (readHeader unread).bodyLen.toNat
    · -- Any completion of the body will do; zeroes complete it here.
      let missing := replicate
        (kPacketHeaderSize + (readHeader unread).bodyLen.toNat - unread.length) (0 : UInt8)
      have hmissing : missing.length =
          kPacketHeaderSize + (readHeader unread).bodyLen.toNat - unread.length :=
        length_replicate
      have hheader := readHeader_append hlength missing
      have hitem : scanPacket (unread ++ missing) = .item
          ⟨readHeader unread, ((unread ++ missing).drop kPacketHeaderSize).take
            (readHeader unread).bodyLen.toNat⟩
          (kPacketHeaderSize + (readHeader unread).bodyLen.toNat) := by
        refine scanPacket_eq_item_iff.mpr ⟨?_, ?_, ?_, ?_, ?_⟩
        · rw [length_append]
          omega
        · rw [hheader, hvalid]
        · rw [hheader]
        · rw [length_append]
          omega
        · rw [hheader]
      have hwhole : (unread ++ missing).take
          (kPacketHeaderSize + (readHeader unread).bodyLen.toNat) = unread ++ missing := by
        apply take_of_length_le
        rw [length_append]
        omega
      have hencode := encodePacket_of_scanPacket hitem
      rw [hwhole] at hencode
      refine ⟨_, unread ++ missing, hencode, prefix_append _ _, fun hsame => ?_⟩
      have := congrArg length hsame
      rw [length_append] at this
      omega
    · simp [hparse, hbody] at hscan

/-- Draining packets splits a stream into encodings of the packets and a rest. -/
theorem eq_flatMap_frame_append_rest (stream : Bytes) :
    stream = (packetFraming.drain stream).items.flatMap frame ++
      (packetFraming.drain stream).rest := by
  apply flatMap_drain
  intro input item size hscan
  exact (encodePacket_eq_ok_iff.mp (encodePacket_of_scanPacket hscan)).2

theorem encodePacket_of_mem_drain {stream : Bytes} :
    ∀ packet ∈ (packetFraming.drain stream).items, encodePacket packet = .ok packet.frame := by
  refine forall_mem_drain_items (F := packetFraming) ?_ stream
  intro input item size hscan
  have hencode := encodePacket_of_scanPacket hscan
  rw [hencode, (encodePacket_eq_ok_iff.mp hencode).2]

/-- The stream a decoder was fed is the encodings of the packets it output,
followed by what it keeps. -/
theorem exists_frames_feedBytes (stream : Bytes) :
    ∃ frames : List Bytes,
      (feedBytes {} stream).output.map encodePacket = frames.map .ok ∧
      stream = frames.flatten ++ (feedBytes {} stream).decoder.buffer := by
  rw [feedBytes_of_open rfl]
  refine ⟨(packetFraming.drain stream).items.map frame, ?_, ?_⟩
  · rw [map_map]
    exact map_congr_left encodePacket_of_mem_drain
  · rw [← flatMap_def]
    exact eq_flatMap_frame_append_rest stream

/-- The scan of what a decoder keeps tells why it stopped. -/
theorem scanPacket_feedBytes_buffer (stream : Bytes) :
    scanPacket (feedBytes {} stream).decoder.buffer =
      .stop (packetFraming.drain stream).failure := by
  rw [feedBytes_of_open rfl, ← packetFraming_scan]
  exact packetFraming.scan_drain_rest stream

theorem hasError_feedBytes_eq (stream : Bytes) :
    (feedBytes {} stream).decoder.hasError = (packetFraming.drain stream).failure.isSome := by
  rw [feedBytes_of_open rfl]
  rfl

/-- A stream is refused exactly for a complete header that does not parse. -/
theorem hasError_feedBytes_iff (stream : Bytes) :
    (feedBytes {} stream).decoder.hasError = true ↔
      kPacketHeaderSize ≤ (feedBytes {} stream).decoder.buffer.length ∧
      ∃ status, parseHeader (some (feedBytes {} stream).decoder.buffer) kPacketHeaderSize =
        .error status := by
  have hscan := scanPacket_feedBytes_buffer stream
  rw [hasError_feedBytes_eq, Option.isSome_iff_exists, ← exists_and_left]
  refine exists_congr fun status => ?_
  rw [← scanPacket_eq_malformed_iff, hscan]
  cases (packetFraming.drain stream).failure with
  | none | some => simp [Scan.stop]

/-- Otherwise what is kept is short of a header or is short of a frame. -/
theorem buffer_feedBytes_of_no_error {stream : Bytes}
    (hopen : (feedBytes {} stream).decoder.hasError = false) :
    (feedBytes {} stream).decoder.buffer.length < kPacketHeaderSize ∨
      ∃ packet frame, encodePacket packet = .ok frame ∧
        (feedBytes {} stream).decoder.buffer <+: frame ∧
        (feedBytes {} stream).decoder.buffer ≠ frame := by
  have hscan := scanPacket_feedBytes_buffer stream
  rw [hasError_feedBytes_eq, Option.isSome_eq_false_iff, Option.isNone_iff_eq_none] at hopen
  rw [hopen] at hscan
  by_cases hshort : (feedBytes {} stream).decoder.buffer.length < kPacketHeaderSize
  · exact Or.inl hshort
  · exact Or.inr (exists_frame_of_incomplete (Nat.not_lt.mp hshort) hscan)

theorem frames_eq_map_frame {sources : List Packet} {frames : List Bytes}
    (hframes : sources.map encodePacket = frames.map .ok) :
    frames = sources.map frame ∧
      ∀ source ∈ sources, encodePacket source = .ok source.frame := by
  induction sources generalizing frames with
  | nil => simpa [eq_comm] using hframes
  | cons source sources ih =>
    cases frames with
    | nil => simp at hframes
    | cons =>
      simp only [map_cons, cons.injEq] at hframes
      obtain ⟨hhead, htail⟩ := hframes
      obtain ⟨hrest, hall⟩ := ih htail
      have hframe := (encodePacket_eq_ok_iff.mp hhead).2
      subst hframe
      refine ⟨by rw [hrest, map_cons], fun other hmem => ?_⟩
      rcases mem_cons.mp hmem with rfl | hmem
      · exact hhead
      · exact hall other hmem

/-- A stream of encodings is decoded to what was encoded. -/
theorem feedBytes_flatten_frames {sources : List Packet} {frames : List Bytes}
    (hframes : sources.map encodePacket = frames.map .ok) :
    feedBytes {} frames.flatten = ⟨.ok (), sources.map withBodyLen, {}⟩ := by
  obtain ⟨rfl, hall⟩ := frames_eq_map_frame hframes
  have hdrain : packetFraming.drain (sources.flatMap frame) =
      ⟨sources.map withBodyLen, [], none⟩ := by
    apply drain_flatMap scanPacket_nil
    intro source hmem more
    rw [packetFraming_scan, scanPacket_encodePacket (hall source hmem)]
  rw [feedBytes_of_open rfl, ← flatMap_def, nil_append, hdrain]
  rfl

/-- An encoding is no longer than a header and the longest body. -/
theorem length_le_of_encodePacket {frame : Bytes} (hencode : encodePacket packet = .ok frame) :
    frame.length ≤ kPacketHeaderSize + kMaxPacketBodyLength.toNat := by
  obtain ⟨hencodable, rfl⟩ := encodePacket_eq_ok_iff.mp hencode
  have hbody := hencodable.body_le
  rw [frame, length_append, PacketHeader.length_bytes]
  omega

/-- **The decoder inverts the encoder.** A stream is the encodings of the packets
output followed by a rest, which is kept verbatim. The decoder is in error exactly
if the rest holds a complete header that does not parse; otherwise the rest is
shorter than a header, or a proper prefix of one frame. Conversely, the encodings
of any packets decode to those packets. -/
theorem feedBytes_inverts_encodePacket :
    (∀ stream : Bytes, ∃ (frames : List Bytes) (rest : Bytes),
      (feedBytes {} stream).output.map encodePacket = frames.map .ok ∧
      stream = frames.flatten ++ rest ∧
      (feedBytes {} stream).decoder.buffer = rest ∧
      ((feedBytes {} stream).decoder.hasError = true ↔
        kPacketHeaderSize ≤ rest.length ∧
        ∃ status, parseHeader (some rest) kPacketHeaderSize = .error status) ∧
      ((feedBytes {} stream).decoder.hasError = false →
        (rest.length < kPacketHeaderSize ∨
          ∃ packet frame, encodePacket packet = .ok frame ∧ rest <+: frame ∧ rest ≠ frame) ∧
        rest.length < kPacketHeaderSize + kMaxPacketBodyLength.toNat)) ∧
    (∀ (sources : List Packet) (frames : List Bytes),
      sources.map encodePacket = frames.map .ok →
      (feedBytes {} frames.flatten).output = sources.map withBodyLen ∧
      (feedBytes {} frames.flatten).decoder.hasError = false ∧
      (feedBytes {} frames.flatten).decoder.buffer = []) := by
  refine ⟨fun stream => ?_, fun sources frames hframes => ?_⟩
  · obtain ⟨frames, houtput, hstream⟩ := exists_frames_feedBytes stream
    refine ⟨frames, _, houtput, hstream, rfl, hasError_feedBytes_iff stream, fun hopen => ?_⟩
    have hrest := buffer_feedBytes_of_no_error hopen
    refine ⟨hrest, ?_⟩
    rcases hrest with hshort | ⟨packet, frame, hencode, hbegins, hne⟩
    · omega
    · have hlength := length_le_of_encodePacket hencode
      have hproper := hbegins.length_le.lt_of_ne fun heq => hne (hbegins.eq_of_length heq)
      omega
  · rw [feedBytes_flatten_frames hframes]
    exact ⟨rfl, rfl, rfl⟩

/-- A rest shorter than a header has not been looked at: a byte that begins no
frame is kept like any other, without an error. -/
theorem feedBytes_keeps_unchecked_rest :
    (feedBytes {} [0xFF]).output = [] ∧
    (feedBytes {} [0xFF]).decoder.hasError = false ∧
    (feedBytes {} [0xFF]).decoder.buffer = [0xFF] ∧
    ¬ ∃ packet frame, encodePacket packet = .ok frame ∧ [0xFF] <+: frame := by
  have hdrain : packetFraming.drain [0xFF] = ⟨[], [0xFF], none⟩ :=
    drain_of_incomplete rfl
  rw [feedBytes_of_open rfl, nil_append, hdrain]
  refine ⟨rfl, rfl, rfl, ?_⟩
  rintro ⟨packet, frame, hencode, hbegins⟩
  obtain ⟨hencodable, rfl⟩ := encodePacket_eq_ok_iff.mp hencode
  have hmagic := (validateHeader_eq_ok_iff.mp hencodable.header_valid).1
  have hdigits : BigEndian.digits 4 kPacketMagic.toNat = [0x4C, 0x49, 0x4D, 0x31] := by decide
  rw [frame, PacketHeader.bytes, hmagic, hdigits] at hbegins
  simp at hbegins

end FrameDecoder

end LiteIM
