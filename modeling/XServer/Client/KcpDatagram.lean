import XServer.Lib.Wire

/-!
# KCP datagrams

`KcpDatagramCodec` of the client: a datagram is a row of segments, each a header of 24
bytes and a payload. A length or an offset is an `int`: a segment whose wire size does
not fit ends the decoder with an exception, whatever the datagram holds.
-/

namespace XServer.Client
open XServer.Lib.Wire

inductive KcpCommand where
  | push
  | ack
  | windowProbeAsk
  | windowProbeTell
  deriving DecidableEq, Repr

namespace KcpCommand

def value : KcpCommand → Nat
  | .push => 81
  | .ack => 82
  | .windowProbeAsk => 83
  | .windowProbeTell => 84

def ofValue : Nat → Option KcpCommand
  | 81 => some .push
  | 82 => some .ack
  | 83 => some .windowProbeAsk
  | 84 => some .windowProbeTell
  | _ => none

@[simp] theorem ofValue_value (command : KcpCommand) : ofValue command.value = some command := by
  cases command <;> rfl

theorem value_lt (command : KcpCommand) : command.value < 256 := by
  cases command <;> decide

end KcpCommand

structure KcpSegment where
  conversation : UInt32
  command : KcpCommand
  fragment : UInt8
  window : UInt16
  timestamp : UInt32
  sequenceNumber : UInt32
  unacknowledgedSequenceNumber : UInt32
  payload : Bytes
  deriving DecidableEq, Repr

def kcpOverheadBytes : Nat := 24

/-- The largest `int`. -/
def maxInt : Nat := 2 ^ 31 - 1

def KcpSegment.wireSize (segment : KcpSegment) : Nat := kcpOverheadBytes + segment.payload.length

/-- The header that `EncodeSegment` writes. -/
def encodeHeader (segment : KcpSegment) : Bytes :=
  littleEndian 4 segment.conversation.toNat ++ (littleEndian 1 segment.command.value ++
    (littleEndian 1 segment.fragment.toNat ++ (littleEndian 2 segment.window.toNat ++
    (littleEndian 4 segment.timestamp.toNat ++ (littleEndian 4 segment.sequenceNumber.toNat ++
    (littleEndian 4 segment.unacknowledgedSequenceNumber.toNat ++ littleEndian 4 segment.payload.length))))))

/-- `EncodeSegment` of a segment whose wire size is an `int`. -/
def encodeSegment (segment : KcpSegment) : Bytes := encodeHeader segment ++ segment.payload

/-- How decoding ends without segments: it returns false with an error, or throws. -/
inductive KcpFailure where
  | refused (error : String)
  | threw
  deriving DecidableEq, Repr

/-- The first segment of what remains of a datagram. -/
def readSegment (remaining : Bytes) : Except KcpFailure KcpSegment :=
  let field (offset size : Nat) : Nat := ofLittleEndian ((remaining.drop offset).take size)
  let payloadLength := field 20 4
  if remaining.length < kcpOverheadBytes then
    .error (.refused "KCP datagram does not contain enough bytes for a full segment header.")
  else
    match KcpCommand.ofValue (field 4 1) with
    | none =>
      .error (.refused ("KCP datagram contains an unsupported command byte '" ++ toString (field 4 1) ++ "'."))
    | some command =>
      if maxInt < payloadLength then
        .error (.refused "KCP segment payload length exceeds the supported managed range.")
      else if maxInt < kcpOverheadBytes + payloadLength then .error .threw
      else if remaining.length < kcpOverheadBytes + payloadLength then
        .error (.refused "KCP datagram payload length does not match the remaining datagram bytes.")
      else
        .ok {
          conversation := .ofNat (field 0 4), command := command, fragment := .ofNat (field 5 1)
          window := .ofNat (field 6 2), timestamp := .ofNat (field 8 4), sequenceNumber := .ofNat (field 12 4)
          unacknowledgedSequenceNumber := .ofNat (field 16 4)
          payload := (remaining.drop kcpOverheadBytes).take payloadLength }

/-- The segments of what remains, which is at most so many bytes. -/
def decodeFrom : Nat → Bytes → Except KcpFailure (List KcpSegment)
  | _, [] => .ok []
  | 0, _ :: _ => .error .threw
  | count + 1, byte :: rest =>
    match readSegment (byte :: rest) with
    | .error failure => .error failure
    | .ok segment =>
      match decodeFrom count ((byte :: rest).drop segment.wireSize) with
      | .error failure => .error failure
      | .ok segments => .ok (segment :: segments)

def decodeDatagram (datagram : Bytes) : Except KcpFailure (List KcpSegment) := decodeFrom datagram.length datagram

/-! ## What is encoded is decoded -/

theorem encodeHeader_length (segment : KcpSegment) : (encodeHeader segment).length = kcpOverheadBytes := by
  simp only [encodeHeader, kcpOverheadBytes, List.length_append, littleEndian_length]

theorem encodeSegment_length (segment : KcpSegment) : (encodeSegment segment).length = segment.wireSize := by
  rw [encodeSegment, List.length_append, encodeHeader_length, KcpSegment.wireSize]

theorem wireSize_le (segment : KcpSegment) : kcpOverheadBytes ≤ segment.wireSize := Nat.le_add_right _ _

/-- A field of a byte string that starts with others. -/
theorem field_append {before field after : Bytes} {offset size : Nat} (at_offset : before.length = offset)
    (of_size : field.length = size) : ((before ++ (field ++ after)).drop offset).take size = field := by
  rw [← at_offset, List.drop_left, ← of_size, List.take_left]

/-- Fields of a width and a value each, one after the other. -/
def fieldBytes (fields : List (Nat × Nat)) : Bytes := fields.flatMap fun field => littleEndian field.1 field.2

theorem fieldBytes_length (fields : List (Nat × Nat)) : (fieldBytes fields).length = (fields.map (·.1)).sum := by
  induction fields with
  | nil => rfl
  | cons field fields ih =>
    rw [List.map_cons, List.sum_cons, ← ih, fieldBytes, List.flatMap_cons, List.length_append, littleEndian_length]
    rfl

/-- A field stands behind those before it, whatever follows. -/
theorem field_fieldBytes {fields : List (Nat × Nat)} {offset width value : Nat} (rest : Bytes) (index : Nat)
    (at_index : fields[index]? = some (width, value)) (at_offset : ((fields.take index).map (·.1)).sum = offset)
    (fits : value < 256 ^ width) :
    ofLittleEndian (((fieldBytes fields ++ rest).drop offset).take width) = value := by
  have split : fieldBytes fields ++ rest =
      fieldBytes (fields.take index) ++ (littleEndian width value ++ (fieldBytes (fields.drop (index + 1)) ++ rest)) := by
    obtain ⟨short, is⟩ := List.getElem?_eq_some_iff.mp at_index
    have parts : fields = fields.take index ++ (width, value) :: fields.drop (index + 1) := by
      rw [← is, ← List.drop_eq_getElem_cons short, List.take_append_drop]
    have bytes := congrArg fieldBytes parts
    simp only [fieldBytes, List.flatMap_append, List.flatMap_cons] at bytes ⊢
    rw [bytes, List.append_assoc, List.append_assoc]
  have length : (fieldBytes (fields.take index)).length = offset := by
    rw [fieldBytes_length, at_offset]
  rw [split, field_append length (littleEndian_length width value), ofLittleEndian_littleEndian _ _ fits]

theorem encodeHeader_fields (segment : KcpSegment) :
    encodeHeader segment = fieldBytes [(4, segment.conversation.toNat), (1, segment.command.value),
      (1, segment.fragment.toNat), (2, segment.window.toNat), (4, segment.timestamp.toNat),
      (4, segment.sequenceNumber.toNat), (4, segment.unacknowledgedSequenceNumber.toNat),
      (4, segment.payload.length)] := by
  simp only [fieldBytes, encodeHeader, List.flatMap_cons, List.flatMap_nil, List.append_nil]

/-- The fields of a header, whatever follows it. -/
theorem field_encodeHeader (segment : KcpSegment) (rest : Bytes) (small : segment.payload.length < 256 ^ 4) :
    let field (offset size : Nat) : Nat := ofLittleEndian (((encodeHeader segment ++ rest).drop offset).take size)
    field 0 4 = segment.conversation.toNat ∧ field 4 1 = segment.command.value ∧ field 5 1 = segment.fragment.toNat ∧
    field 6 2 = segment.window.toNat ∧ field 8 4 = segment.timestamp.toNat ∧ field 12 4 = segment.sequenceNumber.toNat ∧
    field 16 4 = segment.unacknowledgedSequenceNumber.toNat ∧ field 20 4 = segment.payload.length := by
  rw [encodeHeader_fields]
  refine ⟨?_, ?_, ?_, ?_, ?_, ?_, ?_, ?_⟩
  · exact field_fieldBytes rest 0 rfl rfl (UInt32.toNat_lt _)
  · exact field_fieldBytes rest 1 rfl rfl (KcpCommand.value_lt _)
  · exact field_fieldBytes rest 2 rfl rfl (UInt8.toNat_lt _)
  · exact field_fieldBytes rest 3 rfl rfl (UInt16.toNat_lt _)
  · exact field_fieldBytes rest 4 rfl rfl (UInt32.toNat_lt _)
  · exact field_fieldBytes rest 5 rfl rfl (UInt32.toNat_lt _)
  · exact field_fieldBytes rest 6 rfl rfl (UInt32.toNat_lt _)
  · exact field_fieldBytes rest 7 rfl rfl small

theorem readSegment_encodeSegment (segment : KcpSegment) (rest : Bytes) (bound : segment.wireSize ≤ maxInt) :
    readSegment (encodeSegment segment ++ rest) = .ok segment := by
  have size : (encodeSegment segment ++ rest).length = kcpOverheadBytes + segment.payload.length + rest.length := by
    rw [List.length_append, encodeSegment_length, KcpSegment.wireSize]
  have payload : ((encodeSegment segment ++ rest).drop kcpOverheadBytes).take segment.payload.length =
      segment.payload := by
    rw [encodeSegment, List.append_assoc]
    exact field_append (encodeHeader_length segment) rfl
  rw [KcpSegment.wireSize] at bound
  have small : segment.payload.length < 256 ^ 4 := by
    simp only [kcpOverheadBytes, maxInt] at bound
    omega
  have fields := field_encodeHeader segment (segment.payload ++ rest) small
  rw [← List.append_assoc, ← encodeSegment] at fields
  obtain ⟨conversation, command, fragment, window, timestamp, sequenceNumber, unacknowledged, payloadLength⟩ := fields
  unfold readSegment
  simp only [conversation, command, fragment, window, timestamp, sequenceNumber, unacknowledged, payloadLength,
    KcpCommand.ofValue_value, payload, UInt32.ofNat_toNat, UInt8.ofNat_toNat, UInt16.ofNat_toNat]
  rw [if_neg (by omega), if_neg (by omega), if_neg (by omega), if_neg (by omega)]

theorem decodeFrom_append {count : Nat} {segment : KcpSegment} {rest : Bytes} {segments : List KcpSegment}
    (bound : segment.wireSize ≤ maxInt) (tail : decodeFrom count rest = .ok segments) :
    decodeFrom (count + 1) (encodeSegment segment ++ rest) = .ok (segment :: segments) := by
  have head := readSegment_encodeSegment segment rest bound
  have after : (encodeSegment segment ++ rest).drop segment.wireSize = rest := by
    rw [← encodeSegment_length, List.drop_left]
  generalize whole : encodeSegment segment ++ rest = bytes at head after ⊢
  cases bytes with
  | nil =>
    have length := congrArg List.length whole
    simp only [List.length_append, encodeSegment_length, KcpSegment.wireSize, kcpOverheadBytes, List.length_nil] at length
    omega
  | cons byte bytes =>
    rw [decodeFrom]
    simp only [head, after, tail]

/-- The concatenation of encoded segments is decoded into them. -/
theorem decodeFrom_encode (segments : List KcpSegment) {count : Nat}
    (enough : (segments.flatMap encodeSegment).length ≤ count) (bound : (segments.flatMap encodeSegment).length ≤ maxInt) :
    decodeFrom count (segments.flatMap encodeSegment) = .ok segments := by
  induction segments generalizing count with
  | nil => cases count <;> rfl
  | cons segment segments ih =>
    rw [List.flatMap_cons] at enough bound ⊢
    have positive := wireSize_le segment
    simp only [List.length_append, encodeSegment_length, kcpOverheadBytes] at enough bound positive
    cases count with
    | zero => omega
    | succ count => exact decodeFrom_append (by omega) (ih (by omega) (by omega))

theorem decodeDatagram_encode (segments : List KcpSegment) (bound : (segments.flatMap encodeSegment).length ≤ maxInt) :
    decodeDatagram (segments.flatMap encodeSegment) = .ok segments := decodeFrom_encode segments (Nat.le_refl _) bound

theorem readSegment_wireSize {remaining : Bytes} {segment : KcpSegment} (read : readSegment remaining = .ok segment) :
    segment.wireSize ≤ remaining.length := by
  unfold readSegment at read
  simp only at read
  split at read
  · cases read
  · split at read
    · cases read
    · split at read
      · cases read
      · split at read
        · cases read
        · split at read
          · cases read
          · rename_i short
            cases read
            simp only [KcpSegment.wireSize, List.length_take, List.length_drop]
            omega

/-! ## What is decoded is what was encoded -/

theorem KcpCommand.ofValue_some {value : Nat} {command : KcpCommand} (named : KcpCommand.ofValue value = some command) :
    command.value = value := by
  unfold KcpCommand.ofValue at named
  split at named <;> cases named <;> rfl

/-- The bytes of a field are the little-endian number in it. -/
theorem littleEndian_field {bytes : Bytes} {offset size : Nat} (within : offset + size ≤ bytes.length) :
    littleEndian size (ofLittleEndian ((bytes.drop offset).take size)) = (bytes.drop offset).take size := by
  have length : ((bytes.drop offset).take size).length = size := by
    rw [List.length_take, List.length_drop]
    omega
  have same := littleEndian_ofLittleEndian ((bytes.drop offset).take size)
  rwa [length] at same

/-- Fields that follow one another are one field. -/
theorem take_append_take_drop (bytes : Bytes) (offset size size' : Nat) :
    (bytes.drop offset).take size ++ (bytes.drop (offset + size)).take size' =
      (bytes.drop offset).take (size + size') := by
  rw [List.take_add, List.drop_drop]

/-- A field of `size` bytes is less than `256 ^ size`. -/
theorem field_lt (bytes : Bytes) (offset size : Nat) :
    ofLittleEndian ((bytes.drop offset).take size) < 256 ^ size := by
  have bound := ofLittleEndian_lt ((bytes.drop offset).take size)
  have short : 256 ^ ((bytes.drop offset).take size).length ≤ 256 ^ size :=
    Nat.pow_le_pow_right (by decide) (List.length_take_le _ _)
  omega

theorem toNat_field32 {bytes : Bytes} {offset : Nat} :
    (UInt32.ofNat (ofLittleEndian ((bytes.drop offset).take 4))).toNat = ofLittleEndian ((bytes.drop offset).take 4) := by
  have bound := field_lt bytes offset 4
  rw [UInt32.toNat_ofNat']
  omega

theorem toNat_field16 {bytes : Bytes} {offset : Nat} :
    (UInt16.ofNat (ofLittleEndian ((bytes.drop offset).take 2))).toNat = ofLittleEndian ((bytes.drop offset).take 2) := by
  have bound := field_lt bytes offset 2
  rw [UInt16.toNat_ofNat']
  omega

theorem toNat_field8 {bytes : Bytes} {offset : Nat} :
    (UInt8.ofNat (ofLittleEndian ((bytes.drop offset).take 1))).toNat = ofLittleEndian ((bytes.drop offset).take 1) := by
  have bound := field_lt bytes offset 1
  rw [UInt8.toNat_ofNat']
  omega

/-- A segment that is read starts the bytes it is read from. -/
theorem readSegment_ok {remaining : Bytes} {segment : KcpSegment} (read : readSegment remaining = .ok segment) :
    remaining = encodeSegment segment ++ remaining.drop segment.wireSize := by
  unfold readSegment at read
  simp only at read
  split at read
  · cases read
  · rename_i long
    split at read
    · cases read
    · rename_i command named
      split at read
      · cases read
      · split at read
        · cases read
        · split at read
          · cases read
          · rename_i enough
            cases read
            have value := KcpCommand.ofValue_some named
            have payload : ((remaining.drop kcpOverheadBytes).take
                (ofLittleEndian ((remaining.drop 20).take 4))).length =
                ofLittleEndian ((remaining.drop 20).take 4) := by
              rw [List.length_take, List.length_drop]
              omega
            have fits {offset size : Nat} (within : offset + size ≤ kcpOverheadBytes) :
                offset + size ≤ remaining.length := by omega
            simp only [encodeSegment, encodeHeader, KcpSegment.wireSize, payload, value, toNat_field32, toNat_field16,
              toNat_field8]
            -- Each field of the header is the bytes it was read from, and these are the first 24 in their order.
            rw [littleEndian_field (fits (by decide)), littleEndian_field (fits (by decide)),
              littleEndian_field (fits (by decide)), littleEndian_field (fits (by decide)),
              littleEndian_field (fits (by decide)), littleEndian_field (fits (by decide)),
              littleEndian_field (fits (by decide)), littleEndian_field (fits (by decide))]
            rw [take_append_take_drop remaining 16, take_append_take_drop remaining 12, take_append_take_drop remaining 8,
              take_append_take_drop remaining 6, take_append_take_drop remaining 5, take_append_take_drop remaining 4,
              take_append_take_drop remaining 0, List.drop_zero, List.append_assoc, ← List.drop_drop, List.take_append_drop]
            exact (List.take_append_drop _ _).symm

theorem decodeFrom_ok {count : Nat} {bytes : Bytes} {segments : List KcpSegment}
    (decoded : decodeFrom count bytes = .ok segments) : bytes = segments.flatMap encodeSegment := by
  induction count generalizing bytes segments with
  | zero =>
    cases bytes <;> cases decoded
    rfl
  | succ count ih =>
    cases bytes with
    | nil =>
      cases decoded
      rfl
    | cons byte bytes =>
      rw [decodeFrom] at decoded
      split at decoded
      · cases decoded
      · rename_i segment head
        split at decoded
        · cases decoded
        · rename_i rest tail
          cases decoded
          have first := readSegment_ok head
          have later := ih tail
          rw [List.flatMap_cons, ← later]
          exact first

/-- A datagram has no more segments than its length allows. -/
theorem decodeFrom_length {count : Nat} {bytes : Bytes} {segments : List KcpSegment}
    (decoded : decodeFrom count bytes = .ok segments) : segments.length * kcpOverheadBytes ≤ bytes.length := by
  induction count generalizing bytes segments with
  | zero =>
    cases bytes <;> cases decoded
    exact Nat.zero_le _
  | succ count ih =>
    cases bytes with
    | nil =>
      cases decoded
      exact Nat.zero_le _
    | cons byte bytes =>
      rw [decodeFrom] at decoded
      split at decoded
      · cases decoded
      · rename_i segment head
        split at decoded
        · cases decoded
        · rename_i rest tail
          cases decoded
          have size := readSegment_wireSize head
          have positive := wireSize_le segment
          have rest_size := ih tail
          rw [List.length_drop] at rest_size
          rw [List.length_cons, Nat.succ_mul]
          omega

end XServer.Client
