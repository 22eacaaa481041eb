/-
# Packets

A packet is a fixed header followed by a body. `encodePacket` and `parseHeader`
are the codec of `Packet.cpp`: both validate the header they handle, and the
encoder overwrites the body length with the size of the body it is given.

The header layout is stated once, as the byte string `PacketHeader.bytes`. The
encoder writes that string, the reads of the parser invert it, and every string
of header length is the layout of the header read from it.
-/

import LiteIM.Base.Status
import LiteIM.Protocol.ByteOrder
import Mathlib.Tactic.SplitIfs

namespace LiteIM

open Foundation BigEndian Status List UInt32

/-- A message type is any 16-bit value: the parser casts what it reads. The
named types are the enumerators. -/
structure MessageType where
  raw : UInt16
  deriving DecidableEq, Repr

namespace MessageType

def unknown : MessageType := ⟨0⟩
def heartbeatRequest : MessageType := ⟨1⟩
def heartbeatResponse : MessageType := ⟨2⟩
def registerRequest : MessageType := ⟨100⟩
def registerResponse : MessageType := ⟨101⟩
def loginRequest : MessageType := ⟨102⟩
def loginResponse : MessageType := ⟨103⟩
def logoutRequest : MessageType := ⟨104⟩
def logoutResponse : MessageType := ⟨105⟩
def addFriendRequest : MessageType := ⟨200⟩
def addFriendResponse : MessageType := ⟨201⟩
def listFriendsRequest : MessageType := ⟨202⟩
def listFriendsResponse : MessageType := ⟨203⟩
def acceptFriendRequest : MessageType := ⟨204⟩
def acceptFriendResponse : MessageType := ⟨205⟩
def rejectFriendRequest : MessageType := ⟨206⟩
def rejectFriendResponse : MessageType := ⟨207⟩
def privateMessageRequest : MessageType := ⟨300⟩
def privateMessageResponse : MessageType := ⟨301⟩
def privateMessagePush : MessageType := ⟨302⟩
def createGroupRequest : MessageType := ⟨400⟩
def createGroupResponse : MessageType := ⟨401⟩
def joinGroupRequest : MessageType := ⟨402⟩
def joinGroupResponse : MessageType := ⟨403⟩
def listGroupsRequest : MessageType := ⟨404⟩
def listGroupsResponse : MessageType := ⟨405⟩
def groupMessageRequest : MessageType := ⟨406⟩
def groupMessageResponse : MessageType := ⟨407⟩
def groupMessagePush : MessageType := ⟨408⟩
def offlineMessagesRequest : MessageType := ⟨500⟩
def offlineMessagesResponse : MessageType := ⟨501⟩
def historyRequest : MessageType := ⟨502⟩
def historyResponse : MessageType := ⟨503⟩
def offlineMessagesAckRequest : MessageType := ⟨504⟩
def offlineMessagesAckResponse : MessageType := ⟨505⟩
def deliveryAckRequest : MessageType := ⟨506⟩
def deliveryAckResponse : MessageType := ⟨507⟩
def errorResponse : MessageType := ⟨900⟩

end MessageType

/-- `"LIM1"`. -/
def kPacketMagic : UInt32 := 0x4C494D31
def kPacketVersion : UInt8 := 1
def kPacketFlagsNone : UInt8 := 0
def kPacketHeaderSize : Nat := 20
def kMaxPacketBodyLength : UInt32 := 1024 * 1024

@[ext]
structure PacketHeader where
  magic : UInt32 := kPacketMagic
  version : UInt8 := kPacketVersion
  flags : UInt8 := kPacketFlagsNone
  msgType : MessageType := .unknown
  seqId : UInt64 := 0
  bodyLen : UInt32 := 0
  deriving DecidableEq, Repr

structure Packet where
  header : PacketHeader := {}
  body : Bytes := []
  deriving DecidableEq, Repr

def validateHeader (header : PacketHeader) : Except Error Unit :=
  if header.magic ≠ kPacketMagic then
    error .parseError "invalid packet magic"
  else if header.version ≠ kPacketVersion then
    error .parseError "unsupported packet version"
  else if header.flags ≠ kPacketFlagsNone then
    error .parseError "unsupported packet flags"
  else if header.bodyLen > kMaxPacketBodyLength then
    error .parseError "packet body is too large"
  else .ok ()

def encodePacket (packet : Packet) : Except Error Bytes :=
  if packet.body.length > kMaxPacketBodyLength.toNat then
    error .invalidArgument "packet body is too large"
  else
    let header := { packet.header with bodyLen := ofNat packet.body.length }
    match validateHeader header with
    | .error status => .error status
    | .ok () =>
      let output := appendUint32BE [] header.magic
      let output := output ++ [header.version]
      let output := output ++ [header.flags]
      let output := appendUint16BE output header.msgType.raw
      let output := appendUint64BE output header.seqId
      let output := appendUint32BE output header.bodyLen
      .ok (output ++ packet.body)

/-- The header fields at their offsets. -/
def readHeader (data : Bytes) : PacketHeader where
  magic := readUint32BE data
  version := byteAt data 4
  flags := byteAt data 5
  msgType := ⟨readUint16BE (data.drop 6)⟩
  seqId := readUint64BE (data.drop 8)
  bodyLen := readUint32BE (data.drop 16)

/-- `data` is the pointer, `none` when it is null. -/
def parseHeader (data : Option Bytes) (len : Nat) : Except Error PacketHeader :=
  match data with
  | none => error .invalidArgument "packet header data is null"
  | some bytes =>
    if len < kPacketHeaderSize then
      error .parseError "packet header is incomplete"
    else
      match validateHeader (readHeader bytes) with
      | .error status => .error status
      | .ok () => .ok (readHeader bytes)

theorem validateHeader_eq_ok_iff {header : PacketHeader} :
    validateHeader header = .ok () ↔
      header.magic = kPacketMagic ∧ header.version = kPacketVersion ∧
      header.flags = kPacketFlagsNone ∧ header.bodyLen ≤ kMaxPacketBodyLength := by
  simp only [validateHeader, error]
  split_ifs with hmagic hversion hflags hlength
  · simp [hmagic]
  · simp [hversion]
  · simp [hflags]
  · simp [UInt32.not_le.mpr hlength]
  · simp_all [UInt32.not_lt]

/-! ## The header layout -/

/-- The bytes of a header, field after field. -/
def PacketHeader.bytes (header : PacketHeader) : Bytes :=
  digits 4 header.magic.toNat ++ ([header.version, header.flags] ++
    (digits 2 header.msgType.raw.toNat ++
      (digits 8 header.seqId.toNat ++ digits 4 header.bodyLen.toNat)))

@[simp]
theorem PacketHeader.length_bytes (header : PacketHeader) :
    header.bytes.length = kPacketHeaderSize := by
  simp [bytes, kPacketHeaderSize]

open PacketHeader

/-- A packet with the body length its encoding carries. -/
def Packet.withBodyLen (packet : Packet) : Packet :=
  { packet with header.bodyLen := ofNat packet.body.length }

/-- The bytes of a packet that is accepted. -/
def Packet.frame (packet : Packet) : Bytes :=
  packet.withBodyLen.header.bytes ++ packet.body

/-- The packets `encodePacket` accepts. -/
structure Packet.Encodable (packet : Packet) : Prop where
  body_le : packet.body.length ≤ kMaxPacketBodyLength.toNat
  header_valid : validateHeader packet.withBodyLen.header = .ok ()

variable {packet : Packet}

theorem encodePacket_eq_ok_iff {bytes : Bytes} : encodePacket packet = .ok bytes ↔
      packet.Encodable ∧ bytes = packet.frame := by
  have hlayout : packet.withBodyLen.header.bytes =
      appendUint32BE (appendUint64BE (appendUint16BE
        (appendUint32BE [] packet.header.magic ++ [packet.header.version] ++
          [packet.header.flags]) packet.header.msgType.raw) packet.header.seqId)
        (ofNat packet.body.length) := by
    simp [PacketHeader.bytes, Packet.withBodyLen, appendUint16BE_eq, appendUint32BE_eq,
      appendUint64BE_eq]
  by_cases hbody : packet.body.length > kMaxPacketBodyLength.toNat
  · have hrefused : ¬ packet.Encodable := fun hencodable => by
      have := hencodable.body_le
      omega
    simp [encodePacket, hbody, hrefused, error]
  · rw [encodePacket, if_neg hbody, Packet.frame, hlayout]
    cases hvalid : validateHeader packet.withBodyLen.header with
    | error =>
      have hrefused : ¬ packet.Encodable := fun hencodable => by
        simp [hencodable.header_valid] at hvalid
      simp only [Packet.withBodyLen] at hvalid
      simp [hvalid, hrefused]
    | ok =>
      have haccepted : packet.Encodable := ⟨by omega, hvalid⟩
      simp only [Packet.withBodyLen] at hvalid
      simp [hvalid, haccepted, eq_comm]

/-- A packet with an ordinary header is accepted if its body is not too long. -/
theorem Packet.encodable_of_body_le (hmagic : packet.header.magic = kPacketMagic)
    (hversion : packet.header.version = kPacketVersion)
    (hflags : packet.header.flags = kPacketFlagsNone)
    (hbody : packet.body.length ≤ kMaxPacketBodyLength.toNat) : packet.Encodable where
  body_le := hbody
  header_valid := by
    refine validateHeader_eq_ok_iff.mpr ⟨hmagic, hversion, hflags, ?_⟩
    have hlength : (ofNat packet.body.length).toNat = packet.body.length :=
      toNat_ofNat_of_lt (Nat.lt_of_le_of_lt hbody kMaxPacketBodyLength.toNat_lt)
    show ofNat packet.body.length ≤ kMaxPacketBodyLength
    rw [le_iff_toNat_le, hlength]
    exact hbody

/-- A packet could be built, and `encodePacket` accepts it. -/
def Sendable (built : Except Error Packet) : Prop :=
  ∃ packet bytes, built = .ok packet ∧ packet.body.length ≤ kMaxPacketBodyLength.toNat ∧
    encodePacket packet = .ok bytes

theorem Packet.Encodable.sendable (hencodable : packet.Encodable) : Sendable (.ok packet) :=
  ⟨packet, packet.frame, rfl, hencodable.body_le,
    encodePacket_eq_ok_iff.mpr ⟨hencodable, rfl⟩⟩

/-- The reads of the parser invert the layout, whatever follows the header. -/
theorem readHeader_bytes (header : PacketHeader) (more : Bytes) :
    readHeader (header.bytes ++ more) = header := by
  apply PacketHeader.ext
  · show readUint32BE (header.bytes ++ more) = header.magic
    rw [bytes, append_assoc, readUint32BE_digits]
  · simp [readHeader, bytes, byteAt]
  · simp [readHeader, bytes, byteAt, getElem?_append]
  · have hdrop : (header.bytes ++ more).drop 6 = digits 2 header.msgType.raw.toNat ++
        (digits 8 header.seqId.toNat ++ digits 4 header.bodyLen.toNat ++
          more) := by
      simp [bytes, drop_append, drop_eq_nil_of_le]
    simp only [readHeader]
    rw [hdrop, readUint16BE_digits]
  · have hdrop : (header.bytes ++ more).drop 8 = digits 8 header.seqId.toNat ++
        (digits 4 header.bodyLen.toNat ++ more) := by
      simp [bytes, drop_append, drop_eq_nil_of_le]
    simp only [readHeader]
    rw [hdrop, readUint64BE_digits]
  · have hdrop : (header.bytes ++ more).drop 16 =
        digits 4 header.bodyLen.toNat ++ more := by
      simp [bytes, drop_append, drop_eq_nil_of_le]
    simp only [readHeader]
    rw [hdrop, readUint32BE_digits]

/-- Any string long enough to hold a header begins with the layout of the header
read from it. -/
theorem bytes_readHeader {data : Bytes} (hlength : kPacketHeaderSize ≤ data.length) :
    (readHeader data).bytes = data.take kPacketHeaderSize := by
  have hlong : 20 ≤ data.length := hlength
  have hmiddle : (data.drop 4).take 2 = [byteAt data 4, byteAt data 5] := by
    rw [drop_eq_getElem_cons (by omega), take_succ_cons,
      drop_eq_getElem_cons (by omega), take_succ_cons, take_zero]
    simp [byteAt, show 4 < data.length by omega, show 5 < data.length by omega]
  have hsplit : data.take 20 = data.take 4 ++ ((data.drop 4).take 2 ++ ((data.drop 6).take 2 ++
      ((data.drop 8).take 8 ++ (data.drop 16).take 4))) := by
    rw [show 20 = 4 + (2 + (2 + (8 + 4))) from rfl, take_add, take_add, take_add,
      take_add, drop_drop, drop_drop, drop_drop]
  rw [kPacketHeaderSize, hsplit, bytes, hmiddle]
  simp only [readHeader]
  rw [digits_readUint32BE (by omega), digits_readUint16BE (by rw [length_drop]; omega),
    digits_readUint64BE (by rw [length_drop]; omega),
    digits_readUint32BE (by rw [length_drop]; omega)]

/-- Only the first bytes are read. -/
theorem readHeader_append {data : Bytes} (hlength : kPacketHeaderSize ≤ data.length)
    (more : Bytes) : readHeader (data ++ more) = readHeader data := by
  calc
    readHeader (data ++ more) =
        readHeader ((readHeader data).bytes ++ (data.drop kPacketHeaderSize ++ more)) := by
      rw [bytes_readHeader hlength, ← append_assoc, take_append_drop]
    _ = readHeader data := readHeader_bytes _ _

end LiteIM
