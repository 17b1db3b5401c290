import XServer.Net.Packet

/-!
# The managed packet codec

`Foundation/Protocol/PacketCodec.cs` and `PacketHeader.cs`, the second
implementation of the packet format: spans at fixed offsets where the native one
has a cursor, and `int` sizes where the native one has `size_t`. Both accept the
same buffers and write the same bytes; they differ in one error code, for a
declared length that no `int` buffer can hold.
-/

namespace XServer.Managed.PacketCodec
open XServer.Lib.Wire
open XServer.Net (Packet PacketHeader PacketCodecErrorCode headerBytes)

/-! ## Constants and spans -/

def magic : UInt32 := 0x47535052
def version : UInt16 := 1
def headerSize : Nat := 20
/-- `PacketFlags.Response | PacketFlags.Compressed | PacketFlags.Error`. -/
def definedFlagMask : UInt16 := 1 ||| 2 ||| 4
def intMaxValue : Int := 2147483647

/-- `Span.Slice(start, length)`, within the span. -/
def slice (span : Bytes) (start length : Nat) : Bytes := (span.drop start).take length

/-- Replace the bytes of the span from `start` on. -/
def overwrite (span : Bytes) (start : Nat) (bytes : Bytes) : Bytes :=
  span.take start ++ (bytes ++ span.drop (start + bytes.length))

def readUInt16BigEndian (span : Bytes) : UInt16 := UInt16.ofNat (ofBigEndian span)
def readUInt32BigEndian (span : Bytes) : UInt32 := UInt32.ofNat (ofBigEndian span)

/-! ## Codec -/

def isValidFlags (flags : UInt16) : Bool := flags &&& ~~~definedFlagMask == 0

def validateHeader (header : PacketHeader) : Except PacketCodecErrorCode Unit :=
  if header.magic ≠ magic then .error .invalidMagic
  else if header.version ≠ version then .error .unsupportedVersion
  else if !isValidFlags header.flags then .error .invalidFlags
  else .ok ()

def getWireSize (payloadSize : Int) : Except PacketCodecErrorCode Int :=
  if payloadSize < 0 then .error .lengthOverflow
  else if payloadSize > intMaxValue - headerSize then .error .lengthOverflow
  else .ok (headerSize + payloadSize)

/-- `WriteHeader`: the span after the six writes. -/
def writeHeader (header : PacketHeader) (buffer : Bytes) : Except PacketCodecErrorCode Bytes :=
  match validateHeader header with
  | .error e => .error e
  | .ok () =>
    if buffer.length < headerSize then .error .bufferTooSmall
    else
      let buffer := overwrite buffer 0 (bigEndian 4 header.magic.toNat)
      let buffer := overwrite buffer 4 (bigEndian 2 header.version.toNat)
      let buffer := overwrite buffer 6 (bigEndian 2 header.flags.toNat)
      let buffer := overwrite buffer 8 (bigEndian 4 header.length.toNat)
      let buffer := overwrite buffer 12 (bigEndian 4 header.msgId.toNat)
      .ok (overwrite buffer 16 (bigEndian 4 header.seq.toNat))

def readHeader (buffer : Bytes) : Except PacketCodecErrorCode PacketHeader :=
  if buffer.length < headerSize then .error .bufferTooSmall
  else
    let parsedHeader : PacketHeader :=
      { magic := readUInt32BigEndian (slice buffer 0 4)
        version := readUInt16BigEndian (slice buffer 4 2)
        flags := readUInt16BigEndian (slice buffer 6 2)
        length := readUInt32BigEndian (slice buffer 8 4)
        msgId := readUInt32BigEndian (slice buffer 12 4)
        seq := readUInt32BigEndian (slice buffer 16 4) }
    match validateHeader parsedHeader with
    | .error e => .error e
    | .ok () => .ok parsedHeader

/-- `EncodePacket`: what the buffer holds afterwards. -/
def encodePacket (header : PacketHeader) (payload buffer : Bytes) : Except PacketCodecErrorCode Bytes :=
  match validateHeader header with
  | .error e => .error e
  | .ok () =>
    if header.length ≠ UInt32.ofNat payload.length then .error .lengthMismatch
    else
      match getWireSize payload.length with
      | .error e => .error e
      | .ok wireSize =>
        if (buffer.length : Int) < wireSize then .error .bufferTooSmall
        else
          match writeHeader header (buffer.take headerSize) with
          | .error e => .error e
          | .ok written => .ok (overwrite (written ++ buffer.drop headerSize) headerSize payload)

def decodePacket (buffer : Bytes) : Except PacketCodecErrorCode Packet :=
  match readHeader buffer with
  | .error e => .error e
  | .ok header =>
    if (header.length.toNat : Int) > intMaxValue then .error .lengthOverflow
    else
      match getWireSize header.length.toNat with
      | .error e => .error e
      | .ok wireSize =>
        if (buffer.length : Int) ≠ wireSize then .error .lengthMismatch
        else .ok { header, payload := slice buffer headerSize header.length.toNat }

/-! ## One header -/

theorem validateHeader_eq (header : PacketHeader) : validateHeader header = Net.validatePacketHeader header := rfl

/-- Reading `n` bytes of a long enough input. -/
theorem readWord_ok {α : Type} (f : Bytes → α) {n : Nat} {bs : Bytes} (enough : n ≤ bs.length) :
    (f <$> Net.readBytes n) bs = .ok (f (bs.take n), bs.drop n) := by
  simp only [Functor.map, StateT.map, Net.readBytes, readTake, if_pos enough, Bind.bind, Except.bind]
  rfl

/-- The native cursor reads the fields at the managed offsets. -/
theorem readHeaderFields_slices {buffer : Bytes} (long : headerSize ≤ buffer.length) :
    Net.readHeaderFields (buffer.take Net.packetHeaderSize) = .ok
      ({ magic := readUInt32BigEndian (slice buffer 0 4)
         version := readUInt16BigEndian (slice buffer 4 2)
         flags := readUInt16BigEndian (slice buffer 6 2)
         length := readUInt32BigEndian (slice buffer 8 4)
         msgId := readUInt32BigEndian (slice buffer 12 4)
         seq := readUInt32BigEndian (slice buffer 16 4) }, []) := by
  have enough : (buffer.take 20).length = 20 := by simpa [headerSize] using long
  have word : ∀ {α : Type} (f : Bytes → α) (start n : Nat), start + n ≤ 20 →
      (f <$> Net.readBytes n) ((buffer.take 20).drop start) =
        .ok (f (slice buffer start n), (buffer.take 20).drop (start + n)) := by
    intro α f start n bound
    rw [readWord_ok f (by rw [List.length_drop]; omega), List.drop_drop, List.drop_take, List.take_take,
      Nat.min_eq_left (by omega)]
    rfl
  have first := word (fun bs => UInt32.ofNat (ofBigEndian bs)) 0 4 (by omega)
  rw [List.drop_zero] at first
  have last : (buffer.take 20).drop 20 = [] := List.drop_eq_nil_of_le (by omega)
  simp only [Net.readHeaderFields, Net.packetHeaderSize, Net.readUInt32, Net.readUInt16, Bind.bind, StateT.bind, first,
    Except.bind, word _ 4 2 (by omega), word _ 6 2 (by omega), word _ 8 4 (by omega), word _ 12 4 (by omega),
    word _ 16 4 (by omega), last]
  rfl

theorem readHeader_eq (buffer : Bytes) : readHeader buffer = Net.readPacketHeader buffer := by
  unfold readHeader Net.readPacketHeader
  by_cases short : buffer.length < headerSize
  · have short' : buffer.length < Net.packetHeaderSize := short
    rw [if_pos short, if_pos short']
  · have long : ¬ buffer.length < Net.packetHeaderSize := short
    rw [if_neg short, if_neg long, readHeaderFields_slices (by omega)]
    rfl

/-- A write behind the bytes already in place. -/
theorem overwrite_append (done bytes rest : Bytes) (start : Nat) (placed : done.length = start) :
    overwrite (done ++ rest) start bytes = (done ++ bytes) ++ rest.drop bytes.length := by
  subst placed
  simp [overwrite]

/-- The six writes at their offsets are the header bytes. -/
theorem writeHeader_ok {header : PacketHeader} (valid : validateHeader header = .ok ()) {buffer : Bytes}
    (size : buffer.length = headerSize) : writeHeader header buffer = .ok (headerBytes header) := by
  have room : ¬ buffer.length < headerSize := by omega
  have nothing : buffer.drop 20 = [] := List.drop_eq_nil_of_le (by rw [size]; decide)
  have first := overwrite_append [] (bigEndian 4 header.magic.toNat) buffer 0 rfl
  simp only [List.nil_append, bigEndian_length] at first
  simp only [writeHeader, valid, if_neg room, first]
  rw [overwrite_append _ _ _ 4 (by simp), overwrite_append _ _ _ 6 (by simp), overwrite_append _ _ _ 8 (by simp),
    overwrite_append _ _ _ 12 (by simp), overwrite_append _ _ _ 16 (by simp)]
  simp only [bigEndian_length, List.drop_drop, nothing, List.append_nil, headerBytes, List.append_assoc]

/-! ## One format -/

theorem getWireSize_ok {n : Nat} (fits : n < 2147483628) : getWireSize n = .ok (headerSize + n : Nat) := by
  have small : ¬ (n : Int) < 0 := by omega
  have below : ¬ (n : Int) > intMaxValue - headerSize := by simp only [intMaxValue, headerSize]; omega
  rw [getWireSize, if_neg small, if_neg below]
  rfl

theorem getWireSize_overflow {n : Nat} (big : 2147483628 ≤ n) : getWireSize n = .error .lengthOverflow := by
  have small : ¬ (n : Int) < 0 := by omega
  have above : (n : Int) > intMaxValue - headerSize := by simp only [intMaxValue, headerSize]; omega
  rw [getWireSize, if_neg small, if_pos above]

/-- The error the managed decoder reports where the native one reports `e`: a
declared length that no `int` wire size can reach is an overflow. -/
def managedError (buffer : Bytes) (e : PacketCodecErrorCode) : PacketCodecErrorCode :=
  match Net.readRawHeader buffer with
  | some header => if e = .lengthMismatch ∧ 2 ^ 31 - 20 ≤ header.length.toNat then .lengthOverflow else e
  | none => e

theorem managedError_of_ne {buffer : Bytes} {e : PacketCodecErrorCode} (other : e ≠ .lengthMismatch) :
    managedError buffer e = e := by
  unfold managedError
  split
  · rw [if_neg fun both => other both.1]
  · rfl

theorem managedError_mismatch {buffer : Bytes} {header : PacketHeader} (read : Net.readRawHeader buffer = some header) :
    managedError buffer .lengthMismatch =
      if 2147483628 ≤ header.length.toNat then .lengthOverflow else .lengthMismatch := by
  simp [managedError, read]

theorem readPacketHeader_error {buffer : Bytes} {e : PacketCodecErrorCode}
    (h : Net.readPacketHeader buffer = .error e) : e ≠ .lengthMismatch := by
  rintro rfl
  unfold Net.readPacketHeader at h
  split at h
  · cases h
  · split at h
    · rename_i code _
      cases code <;> cases h
    · split at h
      · rename_i refused
        cases h
        unfold Net.validatePacketHeader at refused
        split at refused
        · cases refused
        split at refused
        · cases refused
        split at refused <;> cases refused
      · cases h

theorem readPacketHeader_raw {buffer : Bytes} {header : PacketHeader}
    (h : Net.readPacketHeader buffer = .ok header) : Net.readRawHeader buffer = some header := by
  unfold Net.readPacketHeader at h
  split at h
  · cases h
  · split at h
    · cases h
    · rename_i fields
      split at h
      · cases h
      · cases h
        simp only [Net.readRawHeader, fields]

/-- The managed decoder, from the native one. -/
theorem decodePacket_eq {buffer : Bytes} (int : buffer.length < 2 ^ 31) :
    decodePacket buffer =
      match Net.decodePacket buffer with
      | .ok packet => .ok packet
      | .error e => .error (managedError buffer e) := by
  unfold decodePacket Net.decodePacket
  rw [readHeader_eq]
  cases read : Net.readPacketHeader buffer with
  | error e => simp only [managedError_of_ne (readPacketHeader_error read)]
  | ok header =>
    have bound : header.length.toNat < 4294967296 := header.length.toNat_lt
    have native : Net.getPacketWireSize header.length.toNat = .ok (headerSize + header.length.toNat) := by
      rw [Net.getPacketWireSize, if_neg (by omega)]
      rfl
    simp only [native]
    by_cases fits : header.length.toNat < 2147483628
    · have below : ¬ (header.length.toNat : Int) > intMaxValue := by simp only [intMaxValue]; omega
      simp only [if_neg below, getWireSize_ok fits]
      by_cases exact_ : buffer.length = headerSize + header.length.toNat
      · simp only [ne_eq, exact_, not_true, if_false, slice]
        rfl
      · have cast : ¬ (buffer.length : Int) = (headerSize + header.length.toNat : Nat) := by omega
        have mismatch := managedError_mismatch (readPacketHeader_raw read)
        rw [if_neg (by omega)] at mismatch
        simp only [ne_eq, exact_, cast, not_false_eq_true, if_true, mismatch]
    · have off : buffer.length ≠ headerSize + header.length.toNat := by simp only [headerSize]; omega
      have mismatch := managedError_mismatch (readPacketHeader_raw read)
      rw [if_pos (by omega)] at mismatch
      simp only [if_pos off, mismatch, getWireSize_overflow (by omega : 2147483628 ≤ header.length.toNat), ite_self]

/-- The managed encoder, from the native one: the same bytes, then what the
buffer held beyond them. -/
theorem encodePacket_eq {header : PacketHeader} {payload : Bytes} (int : payload.length < 2 ^ 31 - 20) (buffer : Bytes) :
    encodePacket header payload buffer =
      match Net.encodePacket header payload buffer.length with
      | .ok written => .ok (written ++ buffer.drop (headerSize + payload.length))
      | .error e => .error e := by
  unfold encodePacket Net.encodePacket
  rw [← validateHeader_eq]
  cases valid : validateHeader header with
  | error e => rfl
  | ok u =>
    have short : ¬ payload.length > 4294967295 := by omega
    have native : Net.getPacketWireSize payload.length = .ok (headerSize + payload.length) := by
      rw [Net.getPacketWireSize, if_neg (by omega)]
      rfl
    simp only [if_neg short, native, getWireSize_ok (by omega : payload.length < 2147483628)]
    by_cases declared : header.length = UInt32.ofNat payload.length
    · simp only [ne_eq, declared, not_true, if_false]
      by_cases room : buffer.length < headerSize + payload.length
      · have cast : (buffer.length : Int) < (headerSize + payload.length : Nat) := by omega
        simp only [if_pos room, if_pos cast]
      · have cast : ¬ (buffer.length : Int) < (headerSize + payload.length : Nat) := by omega
        have front : (buffer.take headerSize).length = headerSize := by rw [List.length_take]; omega
        have nativeHeader : encodeInto (Net.writeHeaderFields header) Net.packetHeaderSize = .ok (headerBytes header) :=
          (Net.emits_header header).encodeInto (by simp)
        have placed : (headerBytes header).length = headerSize := Net.headerBytes_length header
        simp only [if_neg room, if_neg cast, writeHeader_ok valid front, nativeHeader]
        rw [overwrite_append _ _ _ _ placed, List.drop_drop]
    · simp only [ne_eq, declared, not_false_eq_true, if_true]

/-- **One format.** Below the `int` limits the two decoders accept the same
buffers with the same packet and fail at the same check, an unreachable declared
length apart; the two encoders succeed together, with the same bytes. -/
theorem codecs_agree :
    (∀ buffer : Bytes, buffer.length < 2 ^ 31 →
      (∀ packet, Net.decodePacket buffer = .ok packet ↔ decodePacket buffer = .ok packet) ∧
      ∀ e, Net.decodePacket buffer = .error e → decodePacket buffer = .error (managedError buffer e)) ∧
    ∀ (header : PacketHeader) (payload : Bytes), payload.length < 2 ^ 31 - 20 → ∀ buffer : Bytes,
      (∀ e, Net.encodePacket header payload buffer.length = .error e ↔ encodePacket header payload buffer = .error e) ∧
      (buffer.length = headerSize + payload.length →
        encodePacket header payload buffer = Net.encodePacket header payload buffer.length) := by
  refine ⟨fun buffer int => ?_, fun header payload int buffer => ?_⟩
  · rw [decodePacket_eq int]
    cases Net.decodePacket buffer with
    | error e => simp
    | ok packet => simp
  · rw [encodePacket_eq int]
    cases Net.encodePacket header payload buffer.length with
    | error e => simp
    | ok written =>
      refine ⟨by simp, fun size => ?_⟩
      simp only
      rw [List.drop_eq_nil_of_le (by omega), List.append_nil]

/-- A header that declares the first unreachable length, and nothing behind it. -/
def sampleOverlong : Bytes := headerBytes (Net.makePacketHeader Net.innerHeartbeatMsgId 1 0 2147483628)

theorem codecs_agree_overlong :
    Net.decodePacket sampleOverlong = .error .lengthMismatch ∧ decodePacket sampleOverlong = .error .lengthOverflow ∧
      encodePacket (Net.makePacketHeader 1 0 0 1) [7] (List.replicate 21 0) =
        Net.encodePacket (Net.makePacketHeader 1 0 0 1) [7] 21 := by
  have native : Net.decodePacket sampleOverlong = .error .lengthMismatch := by decide +kernel
  have code : managedError sampleOverlong .lengthMismatch = .lengthOverflow := by decide +kernel
  have managed := (codecs_agree.1 sampleOverlong (by decide +kernel)).2 _ native
  rw [code] at managed
  exact ⟨native, managed, (codecs_agree.2 _ [7] (by decide) (List.replicate 21 0)).2 rfl⟩

end XServer.Managed.PacketCodec
