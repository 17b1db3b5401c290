import XServer.Net.Packet

/-!
# The packet codec is an exact inverse pair

What `DecodePacket` accepts is the header it read, written again, and then the payload,
and nothing else: the length of a packet is in its first 20 bytes, so that no packet
begins another.
-/

namespace XServer.Net
open XServer.Lib.Wire

theorem parses_header : Parses readHeaderFields fun header used => used = headerBytes header := by
  refine parses_uint32.bind fun magic _ one => parses_uint16.bind fun version _ two =>
    parses_uint16.bind fun flags _ three => parses_uint32.bind fun length _ four =>
    parses_uint32.bind fun msgId _ five => parses_uint32.bind fun seq _ six => Parses.pure ?_
  rw [one, two, three, four, five, six, List.append_nil]
  rfl

/-- A header that is read is the first 20 bytes, and passed its validation. -/
theorem readPacketHeader_ok {buffer : Bytes} {header : PacketHeader} (read : readPacketHeader buffer = .ok header) :
    validatePacketHeader header = .ok () ∧ buffer = headerBytes header ++ buffer.drop packetHeaderSize := by
  unfold readPacketHeader at read
  split at read
  · cases read
  · rename_i long
    split at read
    · cases read
    · rename_i parsed rest fields
      split at read
      · cases read
      · rename_i valid
        cases read
        obtain ⟨used, split, is⟩ := parses_header _ _ _ fields
        have length := congrArg List.length split
        rw [List.length_take, List.length_append, is, headerBytes_length] at length
        have none : rest = [] := List.length_eq_zero_iff.mp (by omega)
        rw [none, List.append_nil, is] at split
        refine ⟨valid, ?_⟩
        rw [← split]
        exact (List.take_append_drop _ _).symm

/-- What an accepted buffer consists of. -/
theorem decodePacket_ok {buffer : Bytes} {packet : Packet} (decoded : decodePacket buffer = .ok packet) :
    validatePacketHeader packet.header = .ok () ∧ packet.header.length.toNat = packet.payload.length ∧
      buffer = headerBytes packet.header ++ packet.payload := by
  unfold decodePacket at decoded
  split at decoded
  · cases decoded
  · rename_i header read
    obtain ⟨valid, split⟩ := readPacketHeader_ok read
    split at decoded
    · cases decoded
    · rename_i expected wire
      split at decoded
      · cases decoded
      · rename_i exact_
        cases decoded
        have size : expected = packetHeaderSize + header.length.toNat := by
          unfold getPacketWireSize at wire
          split at wire <;> cases wire
          rfl
        have rest : (buffer.drop packetHeaderSize).length = header.length.toNat := by
          rw [List.length_drop]
          omega
        have payload : (buffer.drop packetHeaderSize).take header.length.toNat = buffer.drop packetHeaderSize := by
          rw [← rest, List.take_length]
        simp only [payload]
        exact ⟨valid, rest.symm, split⟩

/-- A validated header and its payload are encoded into a buffer of the wire size, and fill it. -/
theorem encodePacket_of_valid {header : PacketHeader} {payload : Bytes} (valid : validatePacketHeader header = .ok ())
    (length : header.length.toNat = payload.length) :
    getPacketWireSize payload.length = .ok (packetHeaderSize + payload.length) ∧
      encodePacket header payload (packetHeaderSize + payload.length) = .ok (headerBytes header ++ payload) := by
  have short := UInt32.toNat_lt header.length
  have declared : header.length = UInt32.ofNat payload.length := by
    rw [← length, UInt32.ofNat_toNat]
  have wire : getPacketWireSize payload.length = .ok (packetHeaderSize + payload.length) := by
    rw [getPacketWireSize, if_neg (by omega)]
  refine ⟨wire, ?_⟩
  unfold encodePacket
  simp only [valid, wire]
  rw [if_neg (by omega), if_neg (not_not.mpr declared), if_neg (by omega), (emits_header header).encodeInto (by simp)]

/-- The header determines where a packet ends. -/
theorem headerBytes_injective {header header' : PacketHeader} {rest rest' : Bytes}
    (same : headerBytes header ++ rest = headerBytes header' ++ rest') : header = header' := by
  have read := readHeaderFields_headerBytes header rest
  rw [same, readHeaderFields_headerBytes] at read
  cases read
  rfl

/-- An accepted buffer that begins another is the other. -/
theorem decodePacket_begins {buffer buffer' : Bytes} {packet packet' : Packet}
    (decoded : decodePacket buffer = .ok packet) (decoded' : decodePacket buffer' = .ok packet')
    (begins : buffer <+: buffer') : buffer = buffer' := by
  obtain ⟨-, length, split⟩ := decodePacket_ok decoded
  obtain ⟨-, length', split'⟩ := decodePacket_ok decoded'
  obtain ⟨rest, whole⟩ := begins
  have same : headerBytes packet.header ++ (packet.payload ++ rest) = headerBytes packet'.header ++ packet'.payload := by
    rw [← List.append_assoc, ← split, ← split']
    exact whole
  have header := headerBytes_injective same
  have total := congrArg List.length same
  simp only [List.length_append, headerBytes_length, ← length, ← length', header] at total
  have none : rest = [] := List.length_eq_zero_iff.mp (by omega)
  rw [← whole, none, List.append_nil]

/-- **Exact inverses.** A valid header and its payload come back from their encoding, which has the wire size;
what is accepted is the encoding of the result; and it neither begins nor extends anything else that is. -/
theorem packet_codec_exact :
    (∀ (header : PacketHeader) (payload : Bytes), validatePacketHeader header = .ok () → payload.length < 2 ^ 32 →
      header.length.toNat = payload.length → ∃ wireSize buffer, getPacketWireSize payload.length = .ok wireSize ∧
        encodePacket header payload wireSize = .ok buffer ∧ buffer.length = wireSize ∧
        decodePacket buffer = .ok ⟨header, payload⟩) ∧
    (∀ (buffer : Bytes) (packet : Packet), decodePacket buffer = .ok packet →
      encodePacket packet.header packet.payload buffer.length = .ok buffer) ∧
    (∀ (buffer buffer' : Bytes) (packet packet' : Packet), decodePacket buffer = .ok packet →
      decodePacket buffer' = .ok packet' → buffer <+: buffer' → buffer = buffer') := by
  refine ⟨fun header payload valid _ length => ?_, fun buffer packet decoded => ?_, fun buffer buffer' packet packet' => ?_⟩
  · obtain ⟨wire, encoded⟩ := encodePacket_of_valid valid length
    refine ⟨_, _, wire, encoded, ?_, decodePacket_encodePacket encoded⟩
    rw [List.length_append, headerBytes_length]
  · obtain ⟨valid, length, split⟩ := decodePacket_ok decoded
    have size : buffer.length = packetHeaderSize + packet.payload.length := by
      rw [split, List.length_append, headerBytes_length]
    obtain ⟨-, encoded⟩ := encodePacket_of_valid valid length
    rw [size, encoded, ← split]
  · exact decodePacket_begins

end XServer.Net
