import XServer.Net.Serialization

/-!
# Packets

`net/PacketHeader.h`, `net/message/MessageIds.h` and
`net/message/PacketCodec.cpp`: a 20-byte header in network byte order, then a
payload whose length the header declares. A buffer is accepted only when it is
exactly one packet.
-/

namespace XServer.Net
open XServer.Lib.Wire

/-! ## Constants -/

def packetMagic : UInt32 := 0x47535052
def packetVersion : UInt16 := 1
def packetHeaderSize : Nat := 20
def packetSeqNone : UInt32 := 0

/-- `PacketFlag`. -/
def flagResponse : UInt16 := 1
def flagCompressed : UInt16 := 2
def flagError : UInt16 := 4
def packetDefinedFlagMask : UInt16 := flagResponse ||| flagCompressed ||| flagError

def innerRegisterMsgId : UInt32 := 1000
def innerHeartbeatMsgId : UInt32 := 1100
def innerClusterReadyNotifyMsgId : UInt32 := 1201
def innerServerStubOwnershipSyncMsgId : UInt32 := 1202
def innerGameServiceReadyReportMsgId : UInt32 := 1203
def innerClusterNodesOnlineNotifyMsgId : UInt32 := 1204
def innerGameGateMeshReadyReportMsgId : UInt32 := 1205
def relayPushToClientMsgId : UInt32 := 2001
def relayForwardMailboxCallMsgId : UInt32 := 2002
def gateCreateAvatarEntityMsgId : UInt32 := 2003
def gameAvatarEntityCreateResultMsgId : UInt32 := 2004
def relayForwardProxyCallMsgId : UInt32 := 2005
def clientSelectAvatarMsgId : UInt32 := 45013
def clientEntityRpcMsgId : UInt32 := 6302

/-! ## Header and codec -/

structure PacketHeader where
  magic : UInt32
  version : UInt16
  flags : UInt16
  length : UInt32
  msgId : UInt32
  seq : UInt32
  deriving DecidableEq, Repr

/-- `PacketView`. -/
structure Packet where
  header : PacketHeader
  payload : Bytes
  deriving DecidableEq, Repr

/-- `PacketCodecErrorCode`, without `None`. -/
inductive PacketCodecErrorCode where
  | bufferTooSmall
  | lengthOverflow
  | invalidMagic
  | unsupportedVersion
  | invalidFlags
  | lengthMismatch
  | invalidArgument
  deriving DecidableEq, Repr

def packetCodecErrorMessage : PacketCodecErrorCode → Bytes
  | .bufferTooSmall => text "Buffer does not contain enough bytes for the requested packet operation."
  | .lengthOverflow => text "Packet payload length exceeds the supported range."
  | .invalidMagic => text "Packet header magic does not match the protocol constant."
  | .unsupportedVersion => text "Packet header version is not supported."
  | .invalidFlags => text "Packet header contains undefined flag bits."
  | .lengthMismatch => text "Packet header length does not match the provided payload bytes."
  | .invalidArgument => text "Packet codec argument must not be null."

def SerializationErrorCode.toPacket : SerializationErrorCode → PacketCodecErrorCode
  | .bufferTooSmall => .bufferTooSmall
  | .lengthOverflow => .lengthOverflow
  | .invalidArgument => .invalidArgument
  | .invalidBoolValue => .invalidArgument

def hasPacketFlag (flags flag : UInt16) : Bool := flags &&& flag != 0

def isValidPacketFlags (flags : UInt16) : Bool := flags &&& ~~~packetDefinedFlagMask == 0

def makePacketHeader (msgId seq : UInt32) (flags : UInt16) (payloadLength : UInt32) : PacketHeader :=
  { magic := packetMagic, version := packetVersion, flags, length := payloadLength, msgId, seq }

def validatePacketHeader (header : PacketHeader) : Except PacketCodecErrorCode Unit :=
  if header.magic ≠ packetMagic then .error .invalidMagic
  else if header.version ≠ packetVersion then .error .unsupportedVersion
  else if !isValidPacketFlags header.flags then .error .invalidFlags
  else .ok ()

/-- `GetPacketWireSize`; its second overflow test cannot fail on a 64-bit `size_t`. -/
def getPacketWireSize (payloadSize : Nat) : Except PacketCodecErrorCode Nat :=
  if payloadSize > 4294967295 then .error .lengthOverflow else .ok (packetHeaderSize + payloadSize)

def writeHeaderFields (header : PacketHeader) : BinaryWriter := do
  writeUInt32 header.magic
  writeUInt16 header.version
  writeUInt16 header.flags
  writeUInt32 header.length
  writeUInt32 header.msgId
  writeUInt32 header.seq

def readHeaderFields : BinaryReader PacketHeader := do
  let magic ← readUInt32
  let version ← readUInt16
  let flags ← readUInt16
  let length ← readUInt32
  let msgId ← readUInt32
  let seq ← readUInt32
  pure { magic, version, flags, length, msgId, seq }

/-- The header fields of the first 20 bytes, before any validation: what
`ReadRawHeader` of the node handlers dispatches on. -/
def readRawHeader (buffer : Bytes) : Option PacketHeader :=
  match readHeaderFields (buffer.take packetHeaderSize) with
  | .ok (header, _) => some header
  | .error _ => none

def readPacketHeader (buffer : Bytes) : Except PacketCodecErrorCode PacketHeader :=
  if buffer.length < packetHeaderSize then .error .bufferTooSmall
  else
    match readHeaderFields (buffer.take packetHeaderSize) with
    | .error e => .error e.toPacket
    | .ok (header, _) =>
      match validatePacketHeader header with
      | .error e => .error e
      | .ok () => .ok header

/-- `EncodePacket` into a buffer of `capacity` bytes: the bytes written. -/
def encodePacket (header : PacketHeader) (payload : Bytes) (capacity : Nat) :
    Except PacketCodecErrorCode Bytes :=
  match validatePacketHeader header with
  | .error e => .error e
  | .ok () =>
    if payload.length > 4294967295 then .error .lengthOverflow
    else if header.length ≠ UInt32.ofNat payload.length then .error .lengthMismatch
    else
      match getPacketWireSize payload.length with
      | .error e => .error e
      | .ok wireSize =>
        if capacity < wireSize then .error .bufferTooSmall
        else
          match encodeInto (writeHeaderFields header) packetHeaderSize with
          | .error e => .error e.toPacket
          | .ok written => .ok (written ++ payload)

/-- `DecodePacket`. -/
def decodePacket (buffer : Bytes) : Except PacketCodecErrorCode Packet :=
  match readPacketHeader buffer with
  | .error e => .error e
  | .ok header =>
    match getPacketWireSize header.length.toNat with
    | .error e => .error e
    | .ok expectedWireSize =>
      if buffer.length ≠ expectedWireSize then .error .lengthMismatch
      else .ok { header, payload := (buffer.drop packetHeaderSize).take header.length.toNat }

/-! ## The codec is an inverse pair -/

/-- The 20 header bytes. -/
def headerBytes (header : PacketHeader) : Bytes :=
  bigEndian 4 header.magic.toNat ++ (bigEndian 2 header.version.toNat ++
    (bigEndian 2 header.flags.toNat ++ (bigEndian 4 header.length.toNat ++
      (bigEndian 4 header.msgId.toNat ++ bigEndian 4 header.seq.toNat))))

@[simp] theorem headerBytes_length (header : PacketHeader) : (headerBytes header).length = packetHeaderSize := by
  simp [headerBytes, packetHeaderSize]

theorem emits_header (header : PacketHeader) : Emits (writeHeaderFields header) (headerBytes header) :=
  (emits_uint32 _).seq <| (emits_uint16 _).seq <| (emits_uint16 _).seq <| (emits_uint32 _).seq <|
    (emits_uint32 _).seq (emits_uint32 _)

theorem reads_header (header : PacketHeader) : Reads readHeaderFields (headerBytes header) header :=
  (reads_uint32 _).bind <| (reads_uint16 _).bind <| (reads_uint16 _).bind <| (reads_uint32 _).bind <|
    (reads_uint32 _).bind <| (reads_uint32 _).last rfl

theorem readHeaderFields_headerBytes (header : PacketHeader) (payload : Bytes) :
    readHeaderFields ((headerBytes header ++ payload).take packetHeaderSize) = .ok (header, []) := by
  rw [List.take_left' (headerBytes_length header)]
  simpa using reads_header header []

/-- What a successful `EncodePacket` wrote. -/
theorem encodePacket_ok {header : PacketHeader} {payload bytes : Bytes} {capacity : Nat}
    (h : encodePacket header payload capacity = .ok bytes) :
    validatePacketHeader header = .ok () ∧ header.length = UInt32.ofNat payload.length ∧
      payload.length ≤ 4294967295 ∧ bytes = headerBytes header ++ payload := by
  unfold encodePacket at h
  split at h
  · cases h
  · rename_i valid
    split at h
    · cases h
    · rename_i short
      split at h
      · cases h
      · rename_i declared
        rw [getPacketWireSize, if_neg short] at h
        simp only at h
        split at h
        · cases h
        · rw [(emits_header header).encodeInto (by simp)] at h
          cases h
          exact ⟨valid, not_not.mp declared, by omega, rfl⟩

/-- A packet that fits the length field is encoded. -/
theorem encodePacket_make {msgId seq : UInt32} {flags : UInt16} {body : Bytes} (valid : isValidPacketFlags flags = true)
    (short : body.length ≤ 4294967295) :
    encodePacket (makePacketHeader msgId seq flags (UInt32.ofNat body.length)) body (packetHeaderSize + body.length) =
      .ok (headerBytes (makePacketHeader msgId seq flags (UInt32.ofNat body.length)) ++ body) := by
  have header : validatePacketHeader (makePacketHeader msgId seq flags (UInt32.ofNat body.length)) = .ok () := by
    simp [validatePacketHeader, makePacketHeader, valid]
  have wire : getPacketWireSize body.length = .ok (packetHeaderSize + body.length) := by
    rw [getPacketWireSize, if_neg (by omega)]
  unfold encodePacket
  simp only [header, wire]
  rw [if_neg (by omega), if_neg (by simp [makePacketHeader]), if_neg (by omega),
    (emits_header _).encodeInto (by simp)]

/-- **Round trip.** A successfully encoded packet decodes to its header and payload. -/
theorem decodePacket_encodePacket {header : PacketHeader} {payload bytes : Bytes} {capacity : Nat}
    (h : encodePacket header payload capacity = .ok bytes) :
    decodePacket bytes = .ok { header, payload } := by
  obtain ⟨valid, declared, short, rfl⟩ := encodePacket_ok h
  have length : header.length.toNat = payload.length := by rw [declared]; simp; omega
  have size : ¬ (headerBytes header ++ payload).length < packetHeaderSize := by simp
  have read : readPacketHeader (headerBytes header ++ payload) = .ok header := by
    rw [readPacketHeader, if_neg size, readHeaderFields_headerBytes]
    simp only [valid]
  have wire : getPacketWireSize header.length.toNat = .ok (packetHeaderSize + payload.length) := by
    rw [length, getPacketWireSize, if_neg (by omega)]
  simp only [decodePacket, read, wire]
  rw [if_neg (by simp), List.drop_left' (headerBytes_length header), length, List.take_length]

/-- The dispatch header of an encoded packet is its header. -/
theorem readRawHeader_encodePacket {header : PacketHeader} {payload bytes : Bytes} {capacity : Nat}
    (h : encodePacket header payload capacity = .ok bytes) : readRawHeader bytes = some header := by
  obtain ⟨-, -, -, rfl⟩ := encodePacket_ok h
  simp only [readRawHeader, readHeaderFields_headerBytes]

/-- A packet that decodes dispatches on the header it decodes to. -/
theorem readRawHeader_of_decodePacket {bytes : Bytes} {packet : Packet} (h : decodePacket bytes = .ok packet) :
    readRawHeader bytes = some packet.header := by
  unfold decodePacket at h
  split at h
  · cases h
  · rename_i header read
    have dispatched : readRawHeader bytes = some header := by
      unfold readPacketHeader at read
      split at read
      · cases read
      · split at read
        · cases read
        · rename_i fields
          split at read
          · cases read
          · cases read
            simp only [readRawHeader, fields]
    split at h
    · cases h
    · split at h
      · cases h
      · cases h
        exact dispatched

/-- A packet with this dispatch id. -/
def HasMsgId (packet : Bytes) (msgId : UInt32) : Prop :=
  ∃ header, readRawHeader packet = some header ∧ header.msgId = msgId

instance (packet : Bytes) (msgId : UInt32) : Decidable (HasMsgId packet msgId) :=
  decidable_of_iff ((readRawHeader packet).any (·.msgId == msgId) = true) (by simp [HasMsgId, Option.any_eq_true])

/-- A dispatch id is unique. -/
theorem HasMsgId.unique {packet : Bytes} {msgId msgId' : UInt32} (h : HasMsgId packet msgId)
    (h' : HasMsgId packet msgId') : msgId = msgId' := by
  obtain ⟨header, read, rfl⟩ := h
  obtain ⟨header', read', rfl⟩ := h'
  rw [read] at read'
  cases read'
  rfl

/-- A packet with the given body. -/
def samplePacket {ε : Type} (msgId seq : UInt32) (flags : UInt16) (body : Except ε Bytes) : Bytes :=
  match body with
  | .error _ => []
  | .ok body =>
    match encodePacket (makePacketHeader msgId seq flags (UInt32.ofNat body.length)) body
        (packetHeaderSize + body.length) with
    | .error _ => []
    | .ok packet => packet

end XServer.Net
