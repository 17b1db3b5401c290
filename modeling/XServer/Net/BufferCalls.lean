import XServer.Net.BinaryBuffer

/-!
# Calls of `BinaryWriter` and `BinaryReader`

What one call does to its buffer, against the readers and writers of `Serialization`: a
write puts the encoding of its item at the offset or changes nothing but the error code, and
a read takes from the rest of the buffer what the abstract reader takes. From that, what a
sequence of calls does, with failing ones among them.
-/

namespace XServer.Net.Buffer
open XServer.Lib.Wire

/-! ## What a write does -/

/-- The writer of `Serialization` for an item. -/
def writeItem : Item → Net.BinaryWriter
  | .uint8 value => Net.writeUInt8 value
  | .uint16 value => Net.writeUInt16 value
  | .uint32 value => Net.writeUInt32 value
  | .uint64 value => Net.writeUInt64 value
  | .int32 value => Net.writeInt32 value
  | .bool value => Net.writeBool value
  | .bytes value => Net.writeBytes value.bytes
  | .bytes16 value => Net.writeLengthPrefixedBytes16 value.bytes
  | .bytes32 value => Net.writeLengthPrefixedBytes32 value.bytes
  | .string16 value => Net.writeString16 value.bytes

/-- What an item is on the wire. -/
def Item.encoding : Item → Bytes
  | .uint8 value => [value]
  | .uint16 value => bigEndian 2 value.toNat
  | .uint32 value => bigEndian 4 value.toNat
  | .uint64 value => bigEndian 8 value.toNat
  | .int32 value => bigEndian 4 value.toUInt32.toNat
  | .bool value => [if value then 1 else 0]
  | .bytes value => value.bytes
  | .bytes16 value | .string16 value => Net.string16 value.bytes
  | .bytes32 value => Net.bytes32 value.bytes

/-- The length fits its prefix. -/
def Item.Fits : Item → Prop
  | .bytes16 value | .string16 value => value.size ≤ 65535
  | .bytes32 value => value.size ≤ 4294967295
  | _ => True

instance decidableFits : (item : Item) → Decidable item.Fits
  | .bytes16 value | .string16 value => inferInstanceAs (Decidable (value.size ≤ 65535))
  | .bytes32 value => inferInstanceAs (Decidable (value.size ≤ 4294967295))
  | .uint8 _ | .uint16 _ | .uint32 _ | .uint64 _ | .int32 _ | .bool _ | .bytes _ => inferInstanceAs (Decidable True)

/-- `call` on `w` writes `bytes` at the offset when they fit there, and otherwise changes
nothing but the error code. -/
structure Puts (bytes : Bytes) (w : Cursor) (call : WriteCall) : Prop where
  room : w.offset + bytes.length ≤ w.buffer.size →
    call = ⟨true, ⟨w.buffer.store w.offset bytes, w.offset + bytes.length, none⟩, w.places bytes.length⟩
  full : w.buffer.size < w.offset + bytes.length → call = refuseWrite .bufferTooSmall w

theorem Cursor.put_eq {w : Cursor} {bytes : Bytes} (room : w.offset + bytes.length ≤ w.buffer.size) :
    w.put bytes = ⟨w.buffer.store w.offset bytes, w.offset + bytes.length, w.error⟩ := by
  have inside : w.offset + bytes.length ≤ (w.buffer.store w.offset bytes).size := by
    rw [Span.store_size]
    exact room
  exact @Cursor.advance_eq { w with buffer := w.buffer.store w.offset bytes } bytes.length inside

variable {w : Cursor}

theorem writeIntegral_puts (inside : w.Inside) {bytes sent : Bytes} (same : bytes = sent) :
    Puts sent w (writeIntegral bytes w) := by
  subst same
  have left := Cursor.remaining_eq inside
  have here : w.offset ≤ w.buffer.size := inside
  constructor
  · intro room
    rw [writeIntegral, if_neg (by omega), Cursor.put_eq room]
    rfl
  · intro full
    rw [writeIntegral, if_pos (by omega)]

theorem writeBytes_puts (inside : w.Inside) (value : Span) : Puts value.bytes w (writeBytes value w) := by
  have left := Cursor.remaining_eq inside
  have here : w.offset ≤ w.buffer.size := inside
  constructor
  · intro room
    rw [writeBytes, if_neg (by unfold Span.size at *; omega)]
    by_cases empty : value.bytes = []
    · rw [empty, if_pos (by decide), Span.store_nil here]
      rfl
    · rw [if_neg (by rw [List.isEmpty_iff]; exact empty), Cursor.put_eq room]
      rfl
  · intro full
    rw [writeBytes, if_pos (by unfold Span.size at *; omega)]

/-- Neither subtraction goes below zero: the room for the length is checked first. -/
theorem writeLengthPrefixed_puts (inside : w.Inside) {limit : Nat} (length : Bytes) {value : Span}
    (fits : value.size ≤ limit) :
    Puts (length ++ value.bytes) w (writeLengthPrefixed limit length.length length value w) := by
  have left := Cursor.remaining_eq inside
  have here : w.offset ≤ w.buffer.size := inside
  have small : w.buffer.size < 2 ^ 64 := w.buffer.small
  have sum : (length ++ value.bytes).length = length.length + value.size := List.length_append
  have body : length.length ≤ w.remaining → sizeSub w.remaining length.length = w.remaining - length.length :=
    fun room => sizeSub_eq room (by omega)
  constructor
  · intro room
    have first := @Cursor.put_eq w length (by omega)
    rw [writeLengthPrefixed, if_neg (by omega), if_neg (by omega), if_neg (by rw [body (by omega)]; omega)]
    by_cases empty : value.bytes = []
    · rw [empty, if_pos (by decide), first, List.append_nil]
      rfl
    · have rest : (w.put length).offset + value.bytes.length ≤ (w.put length).buffer.size := by
        rw [first]
        show w.offset + length.length + value.size ≤ (w.buffer.store w.offset length).size
        rw [Span.store_size]
        omega
      have both := @Span.store_store w.buffer w.offset length value.bytes (by unfold Span.size at *; omega)
      have behind :
          w.places length.length ++ (w.put length).places value.size = w.places (length ++ value.bytes).length := by
        rw [first, sum]
        exact List.range'_append_1 ..
      rw [if_neg (by rw [List.isEmpty_iff]; exact empty), behind, Cursor.put_eq rest, first, sum, ← Nat.add_assoc, ← both]
      rfl
  · intro full
    rw [writeLengthPrefixed, if_neg (by omega)]
    by_cases short : length.length > w.remaining
    · rw [if_pos short]
    · rw [if_neg short, if_pos (by rw [body (by omega)]; omega)]

/-- A length of the wrong size is refused before the buffer is looked at. -/
theorem writeLengthPrefixed_long {limit kPrefixSize : Nat} (length : Bytes) {value : Span} (long : limit < value.size) :
    writeLengthPrefixed limit kPrefixSize length value w = refuseWrite .lengthOverflow w := by
  rw [writeLengthPrefixed, if_pos long]

theorem writeLengthPrefixedBytes16_puts (host : Endian) (inside : w.Inside) {value : Span} (fits : value.size ≤ 65535) :
    Puts (string16 value.bytes) w (writeLengthPrefixedBytes16 host value w) := by
  have length :
      image host 2 (hostToNetwork16 host (UInt16.ofNat value.size)).toNat = bigEndian 2 value.bytes.length := by
    rw [image_hostToNetwork16, UInt16.toNat_ofNat_of_lt' (by show value.size < 65536; omega)]
    rfl
  have whole := writeLengthPrefixed_puts inside (bigEndian 2 value.bytes.length) fits
  rw [bigEndian_length] at whole
  rw [writeLengthPrefixedBytes16, length]
  exact whole

theorem writeLengthPrefixedBytes32_puts (host : Endian) (inside : w.Inside) {value : Span}
    (fits : value.size ≤ 4294967295) :
    Puts (bytes32 value.bytes) w (writeLengthPrefixedBytes32 host value w) := by
  have length :
      image host 4 (hostToNetwork32 host (UInt32.ofNat value.size)).toNat = bigEndian 4 value.bytes.length := by
    rw [image_hostToNetwork32, UInt32.toNat_ofNat_of_lt' (by show value.size < 4294967296; omega)]
    rfl
  have whole := writeLengthPrefixed_puts inside (bigEndian 4 value.bytes.length) fits
  rw [bigEndian_length] at whole
  rw [writeLengthPrefixedBytes32, length]
  exact whole

theorem write_puts (host : Endian) (inside : w.Inside) {item : Item} (fits : item.Fits) :
    Puts item.encoding w (write host item w) := by
  cases item with
  | uint8 value => exact writeIntegral_puts inside (image_one host value)
  | uint16 value => exact writeIntegral_puts inside (image_hostToNetwork16 host value)
  | uint32 value => exact writeIntegral_puts inside (image_hostToNetwork32 host value)
  | uint64 value => exact writeIntegral_puts inside (image_hostToNetwork64 host value)
  | int32 value => exact writeIntegral_puts inside (image_hostToNetworkInt32 host value)
  | bool value => exact writeIntegral_puts inside (image_one host _)
  | bytes value => exact writeBytes_puts inside value
  | bytes16 value => exact writeLengthPrefixedBytes16_puts host inside fits
  | bytes32 value => exact writeLengthPrefixedBytes32_puts host inside fits
  | string16 value => exact writeLengthPrefixedBytes16_puts host inside fits

/-- A length that its own type does not hold is refused. -/
theorem write_long (host : Endian) {item : Item} (long : ¬ item.Fits) :
    write host item w = refuseWrite .lengthOverflow w := by
  cases item with
  | uint8 | uint16 | uint32 | uint64 | int32 | bool | bytes => exact absurd trivial long
  | bytes16 value | string16 value => exact writeLengthPrefixed_long _ (Nat.lt_of_not_le long)
  | bytes32 value => exact writeLengthPrefixed_long _ (Nat.lt_of_not_le long)

/-- A write either puts the encoding of its item at the offset or changes the error code
alone, and touches nothing then. -/
theorem write_cases (host : Endian) (inside : w.Inside) (item : Item) :
    (item.Fits ∧ w.offset + item.encoding.length ≤ w.buffer.size ∧
      write host item w = ⟨true, ⟨w.buffer.store w.offset item.encoding, w.offset + item.encoding.length, none⟩,
        w.places item.encoding.length⟩) ∨
    ∃ code, write host item w = refuseWrite code w := by
  by_cases fits : item.Fits
  · have puts := write_puts host inside fits
    by_cases room : w.offset + item.encoding.length ≤ w.buffer.size
    · exact .inl ⟨fits, room, puts.room room⟩
    · exact .inr ⟨_, puts.full (by omega)⟩
  · exact .inr ⟨_, write_long host fits⟩

/-! ## The abstract writer -/

/-- The buffer as a sink: its front up to the offset. -/
def Cursor.sink (w : Cursor) : Sink := ⟨w.buffer.size, w.buffer.bytes.take w.offset⟩

theorem refused_above {α : Type} (size limit : Nat) (refused put : α) :
    (if size > limit then refused else put) = if size ≤ limit then put else refused := by
  by_cases fits : size ≤ limit
  · rw [if_neg (by omega), if_pos fits]
  · rw [if_pos (by omega), if_neg fits]

theorem writeItem_eq (item : Item) (s : Sink) :
    writeItem item s = if item.Fits then writePut .bufferTooSmall item.encoding s else .error .lengthOverflow := by
  cases item with
  | uint8 | uint16 | uint32 | uint64 | int32 | bool | bytes => exact (if_pos trivial).symm
  | bytes16 value | string16 value | bytes32 value => exact refused_above ..

/-- The writer on its buffer does what the writer of `Serialization` does on the sink. -/
theorem write_refines (host : Endian) (inside : w.Inside) (item : Item) :
    match writeItem item w.sink with
    | .ok (_, s) => (write host item w).succeeded = true ∧ (write host item w).after.sink = s
    | .error code => write host item w = refuseWrite code w := by
  have front : w.sink.written.length = w.offset := List.length_take_of_le inside
  have here : w.offset ≤ w.buffer.size := inside
  rw [writeItem_eq]
  by_cases fits : item.Fits
  · have puts := write_puts host inside fits
    rw [if_pos fits, writePut, front]
    by_cases room : item.encoding.length ≤ w.sink.capacity - w.offset
    · have fit : w.offset + item.encoding.length ≤ w.buffer.size := by
        have : w.sink.capacity = w.buffer.size := rfl
        omega
      rw [if_pos room, puts.room fit]
      refine ⟨rfl, ?_⟩
      unfold Cursor.sink
      rw [Span.take_store fit, Span.store_size]
    · rw [if_neg room]
      exact puts.full (by
        have : w.sink.capacity = w.buffer.size := rfl
        omega)
  · rw [if_neg fits]
    exact write_long host fits

/-! ## What a read does -/

/-- The reader of `Serialization` for a kind. -/
def readKind : (kind : Kind) → Net.BinaryReader kind.Value
  | .uint8 => Net.readUInt8
  | .uint16 => Net.readUInt16
  | .uint32 => Net.readUInt32
  | .uint64 => Net.readUInt64
  | .int32 => Net.readInt32
  | .bool => Net.readBool
  | .bytes size => Net.readBytes size.toNat
  | .bytes16 => Net.readLengthPrefixedBytes16
  | .bytes32 => Net.readLengthPrefixedBytes32
  | .string16 => Net.readString16

/-- How many bytes a read looks at before it knows that it fails. -/
def Kind.headSize : Kind → Nat
  | .bool => 1
  | .bytes16 | .string16 => 2
  | .bytes32 => 4
  | _ => 0

/-- `call` on `r`, with an argument that points at `old`, reads what `reader` reads from the
rest of the buffer; when it fails, it has looked at no more than `head` bytes. -/
structure Gets {α : Type} (reader : Net.BinaryReader α) (head : Nat) (old : α) (r : Cursor) (call : ReadCall α) :
    Prop where
  accepted : ∀ v rest, reader (r.buffer.bytes.drop r.offset) = .ok (v, rest) →
    ∃ n, r.offset + n ≤ r.buffer.size ∧ rest = r.buffer.bytes.drop (r.offset + n) ∧
      call = ⟨true, ⟨r.buffer, r.offset + n, none⟩, some v, r.places n⟩
  refused : ∀ code, reader (r.buffer.bytes.drop r.offset) = .error code →
    ∃ n ≤ head, r.offset + n ≤ r.buffer.size ∧ call = refuseRead code (some old) (r.places n) r

variable {r : Cursor}

theorem readBytes_drop (r : Cursor) (size : Nat) :
    Net.readBytes size (r.buffer.bytes.drop r.offset) =
      if size ≤ r.buffer.size - r.offset then .ok (r.buffer.load r.offset size, r.buffer.bytes.drop (r.offset + size))
      else .error .bufferTooSmall := by
  show (if size ≤ (r.buffer.bytes.drop r.offset).length then _ else _) = _
  rw [List.length_drop, List.drop_drop]
  rfl

theorem load_length {size : Nat} (room : size ≤ r.buffer.size - r.offset) :
    (r.buffer.load r.offset size).length = size := by
  have rest : (r.buffer.bytes.drop r.offset).length = r.buffer.size - r.offset := List.length_drop
  rw [Span.load, List.length_take, rest]
  omega

theorem Gets.of_ok {α : Type} {reader : Net.BinaryReader α} {head n : Nat} {old v : α} {call : ReadCall α}
    (read : reader (r.buffer.bytes.drop r.offset) = .ok (v, r.buffer.bytes.drop (r.offset + n)))
    (room : r.offset + n ≤ r.buffer.size) (made : call = ⟨true, ⟨r.buffer, r.offset + n, none⟩, some v, r.places n⟩) :
    Gets reader head old r call := by
  constructor
  · intro v' tail ok
    rw [read] at ok
    cases ok
    exact ⟨n, room, rfl, made⟩
  · intro code refused
    rw [read] at refused
    cases refused

theorem Gets.of_error {α : Type} {reader : Net.BinaryReader α} {head n : Nat} {old : α} {call : ReadCall α}
    {code : SerializationErrorCode} (read : reader (r.buffer.bytes.drop r.offset) = .error code) (looked : n ≤ head)
    (room : r.offset + n ≤ r.buffer.size) (made : call = refuseRead code (some old) (r.places n) r) :
    Gets reader head old r call := by
  constructor
  · intro v tail ok
    rw [read] at ok
    cases ok
  · intro code' refused
    rw [read] at refused
    cases refused
    exact ⟨n, looked, room, made⟩

theorem readIntegral_gets {α : Type} (inside : r.Inside) {size : Nat} {value sent : Bytes → α} (old : α)
    (same : ∀ bytes : Bytes, bytes.length = size → value bytes = sent bytes) :
    Gets (sent <$> Net.readBytes size) 0 old r (readIntegral size value (some old) r) := by
  have left := Cursor.remaining_eq inside
  have here : r.offset ≤ r.buffer.size := inside
  by_cases room : size ≤ r.buffer.size - r.offset
  · have call : readIntegral size value (some old) r =
        ⟨true, ⟨r.buffer, r.offset + size, none⟩, some (sent (r.buffer.load r.offset size)), r.places size⟩ := by
      simp only [readIntegral]
      rw [if_neg (by omega), Cursor.advance_eq (by omega), same _ (load_length room)]
      rfl
    refine Gets.of_ok ?_ (by omega) call
    simp only [Functor.map, StateT.map, readBytes_drop, if_pos room, Bind.bind, Except.bind]
    rfl
  · have call : readIntegral size value (some old) r = refuseRead .bufferTooSmall (some old) (r.places 0) r := by
      simp only [readIntegral]
      rw [if_pos (by omega)]
      rfl
    refine Gets.of_error ?_ (Nat.le_refl _) (by omega) call
    simp only [Functor.map, StateT.map, readBytes_drop, if_neg room, Bind.bind, Except.bind]

theorem headD_eq (bytes : Bytes) (one : bytes.length = 1) : bytes.headD 0 = UInt8.ofNat (ofBigEndian bytes) := by
  obtain ⟨byte, rfl⟩ := List.length_eq_one_iff.mp one
  apply UInt8.toNat_inj.mp
  show byte.toNat = (UInt8.ofNat (0 * 256 + byte.toNat)).toNat
  rw [Nat.zero_mul, Nat.zero_add, UInt8.ofNat_toNat]

theorem readBool_gets (inside : r.Inside) (old : Bool) : Gets Net.readBool 1 old r (readBool (some old) r) := by
  have left := Cursor.remaining_eq inside
  have here : r.offset ≤ r.buffer.size := inside
  by_cases room : 1 ≤ r.buffer.size - r.offset
  · have byte := headD_eq _ (load_length room)
    by_cases above : (r.buffer.load r.offset 1).headD 0 > 1
    · have call : readBool (some old) r = refuseRead .invalidBoolValue (some old) (r.places 1) r := by
        simp only [readBool]
        rw [if_neg (by omega), if_pos above]
      refine Gets.of_error ?_ (Nat.le_refl _) (by omega) call
      rw [byte] at above
      simp only [Net.readBool, Net.readUInt8, Functor.map, Bind.bind, StateT.bind, StateT.map, readBytes_drop,
        if_pos room, Except.bind, Pure.pure, Except.pure, readCheck, if_pos above]
    · have call : readBool (some old) r =
          ⟨true, ⟨r.buffer, r.offset + 1, none⟩, some ((r.buffer.load r.offset 1).headD 0 == 1), r.places 1⟩ := by
        simp only [readBool]
        rw [if_neg (by omega), if_neg above, Cursor.advance_eq (by omega)]
        rfl
      refine Gets.of_ok ?_ (by omega) call
      rw [byte] at above ⊢
      simp only [Net.readBool, Net.readUInt8, Functor.map, Bind.bind, StateT.bind, StateT.map, readBytes_drop,
        if_pos room, Except.bind, Pure.pure, Except.pure, readCheck, if_neg above]
      rfl
  · have call : readBool (some old) r = refuseRead .bufferTooSmall (some old) (r.places 0) r := by
      simp only [readBool]
      rw [if_pos (by omega)]
      rfl
    refine Gets.of_error ?_ (Nat.zero_le _) (by omega) call
    simp only [Net.readBool, Net.readUInt8, Functor.map, Bind.bind, StateT.bind, StateT.map, readBytes_drop, if_neg room,
      Except.bind]

/-- Neither sum nor difference wraps: the room for the length is checked first. -/
theorem readLengthPrefixed_gets {α : Type} (inside : r.Inside) {kPrefixSize : Nat} {peek : Bytes → Nat}
    {sent : Bytes → α} {toNat : α → Nat} (old : Bytes)
    (same : ∀ bytes : Bytes, bytes.length = kPrefixSize → peek bytes = toNat (sent bytes)) :
    Gets ((sent <$> Net.readBytes kPrefixSize) >>= fun length => Net.readBytes (toNat length)) kPrefixSize old r
      (readLengthPrefixed kPrefixSize peek (some old) r) := by
  have left := Cursor.remaining_eq inside
  have here : r.offset ≤ r.buffer.size := inside
  have small : r.buffer.size < 2 ^ 64 := r.buffer.small
  by_cases room : kPrefixSize ≤ r.buffer.size - r.offset
  · have length := same _ (load_length room)
    have body : sizeSub r.remaining kPrefixSize = r.remaining - kPrefixSize := sizeSub_eq (by omega) (by omega)
    let n := peek (r.buffer.load r.offset kPrefixSize)
    have behind := readBytes_drop ⟨r.buffer, r.offset + kPrefixSize, r.error⟩ n
    have whole : ((sent <$> Net.readBytes kPrefixSize) >>= fun length => Net.readBytes (toNat length))
        (r.buffer.bytes.drop r.offset) = Net.readBytes n (r.buffer.bytes.drop (r.offset + kPrefixSize)) := by
      simp only [Functor.map, Bind.bind, StateT.bind, StateT.map, readBytes_drop, if_pos room, Except.bind, n, length]
      rfl
    by_cases rest : n ≤ r.buffer.size - (r.offset + kPrefixSize)
    · have call : readLengthPrefixed kPrefixSize peek (some old) r =
          ⟨true, ⟨r.buffer, r.offset + (kPrefixSize + n), none⟩, some (r.buffer.load (r.offset + kPrefixSize) n),
            r.places (kPrefixSize + n)⟩ := by
        have first : r.advance kPrefixSize = ⟨r.buffer, r.offset + kPrefixSize, r.error⟩ := Cursor.advance_eq (by omega)
        have second : Cursor.advance ⟨r.buffer, r.offset + kPrefixSize, r.error⟩ n =
            ⟨r.buffer, r.offset + kPrefixSize + n, r.error⟩ :=
          Cursor.advance_eq (by show r.offset + kPrefixSize + n ≤ r.buffer.size; omega)
        have both : r.places kPrefixSize ++ List.range' (r.offset + kPrefixSize) n = r.places (kPrefixSize + n) :=
          List.range'_append_1 ..
        simp only [readLengthPrefixed]
        rw [if_neg (by omega), if_neg (by rw [body]; show ¬ n > _; omega), first, second, ← both, ← Nat.add_assoc]
        rfl
      refine Gets.of_ok ?_ (by omega) call
      rw [whole, behind, if_pos rest, Nat.add_assoc]
    · have call : readLengthPrefixed kPrefixSize peek (some old) r =
          refuseRead .bufferTooSmall (some old) (r.places kPrefixSize) r := by
        simp only [readLengthPrefixed]
        rw [if_neg (by omega), if_pos (by rw [body]; show n > _; omega)]
      refine Gets.of_error ?_ (Nat.le_refl _) (by omega) call
      rw [whole, behind, if_neg rest]
  · have call :
        readLengthPrefixed kPrefixSize peek (some old) r = refuseRead .bufferTooSmall (some old) (r.places 0) r := by
      simp only [readLengthPrefixed]
      rw [if_pos (by omega)]
      rfl
    refine Gets.of_error ?_ (Nat.zero_le _) (by omega) call
    simp only [Functor.map, Bind.bind, StateT.bind, StateT.map, readBytes_drop, if_neg room, Except.bind]

theorem readString16_gets {host : Endian} {old : Bytes} {reader : Net.BinaryReader Bytes} {head : Nat}
    (bytes : Gets reader head [] r (readLengthPrefixedBytes16 host (some []) r)) :
    Gets reader head old r (readString16 host (some old) r) := by
  constructor
  · intro v rest ok
    obtain ⟨n, room, behind, call⟩ := bytes.accepted v rest ok
    refine ⟨n, room, behind, ?_⟩
    simp only [readString16]
    rw [call]
    rfl
  · intro code refused
    obtain ⟨n, looked, room, call⟩ := bytes.refused code refused
    refine ⟨n, looked, room, ?_⟩
    simp only [readString16]
    rw [call]
    rfl

theorem read_gets (host : Endian) (inside : r.Inside) (kind : Kind) (old : kind.Value) :
    Gets (readKind kind) kind.headSize old r (read host kind (some old) r) := by
  cases kind with
  | uint8 => exact readIntegral_gets inside old headD_eq
  | uint16 => exact readIntegral_gets inside old fun _ => networkToHost16_ofImage host
  | uint32 => exact readIntegral_gets inside old fun _ => networkToHost32_ofImage host
  | uint64 => exact readIntegral_gets inside old fun _ => networkToHost64_ofImage host
  | int32 =>
    have whole : Net.readInt32 = (fun bytes => (UInt32.ofNat (ofBigEndian bytes)).toInt32) <$> Net.readBytes 4 :=
      Functor.map_map ..
    show Gets Net.readInt32 0 old r _
    rw [whole]
    exact readIntegral_gets inside old fun _ length => congrArg UInt32.toInt32 (networkToHost32_ofImage host length)
  | bool => exact readBool_gets inside old
  | bytes size =>
    show Gets (Net.readBytes size.toNat) 0 old r _
    rw [← id_map (Net.readBytes size.toNat)]
    exact readIntegral_gets inside old fun _ _ => rfl
  | bytes16 =>
    exact readLengthPrefixed_gets inside old fun _ length => congrArg UInt16.toNat (networkToHost16_ofImage host length)
  | bytes32 =>
    exact readLengthPrefixed_gets inside old fun _ length => congrArg UInt32.toNat (networkToHost32_ofImage host length)
  | string16 =>
    exact readString16_gets (readLengthPrefixed_gets inside [] fun _ length =>
      congrArg UInt16.toNat (networkToHost16_ofImage host length))

/-- A null argument is refused before the buffer is looked at. -/
theorem read_null (host : Endian) (kind : Kind) : read host kind none r = refuseRead .invalidArgument none [] r := by
  cases kind <;> rfl

/-! ## One call -/

theorem write_setError (host : Endian) (item : Item) (code : SerializationErrorCode) :
    write host item (w.setError code) = write host item w := by
  cases item <;> rfl

theorem read_setError (host : Endian) (kind : Kind) (target : Option kind.Value) (code : SerializationErrorCode) :
    read host kind target (r.setError code) = read host kind target r := by
  cases kind <;> cases target <;> rfl

/-- No later write depends on the error code. -/
theorem writeAll_setError (host : Endian) (items : List Item) (code : SerializationErrorCode) :
    writeAll host items (w.setError code) = writeAll host items w := by
  cases items with
  | nil => rfl
  | cons item items => rw [writeAll, writeAll, write_setError]

theorem readAll_setError (host : Endian) (requests : List Request) (code : SerializationErrorCode) :
    readAll host requests (r.setError code) = readAll host requests r := by
  cases requests with
  | nil => rfl
  | cons request requests => rw [readAll, readAll, read_setError]

/-- What a write may do: it touches bytes of the span alone; when it succeeds, only the ones
it advances over; when it fails, none, and nothing but the error code tells that it ran. -/
structure WriteFrame (host : Endian) (item : Item) (w : Cursor) : Prop where
  inSpan : ∀ place ∈ (write host item w).touched, place < w.buffer.size
  advanced : (write host item w).succeeded = true → ∀ place ∈ (write host item w).touched,
    w.offset ≤ place ∧ place < (write host item w).after.offset
  kept : ∀ i, ¬ (w.offset ≤ i ∧ i < (write host item w).after.offset) →
    (write host item w).after.buffer.bytes[i]? = w.buffer.bytes[i]?
  failed : (write host item w).succeeded = false → (write host item w).touched = [] ∧
    (∃ code, (write host item w).after = w.setError code) ∧
    ∀ later, writeAll host later (write host item w).after = writeAll host later w

/-- What a read may do. A failing one may have looked at the byte of a bool or at a length. -/
structure ReadFrame (host : Endian) (kind : Kind) (target : Option kind.Value) (r : Cursor) : Prop where
  inSpan : ∀ place ∈ (read host kind target r).touched, place < r.buffer.size
  advanced : (read host kind target r).succeeded = true → ∀ place ∈ (read host kind target r).touched,
    r.offset ≤ place ∧ place < (read host kind target r).after.offset
  kept : (read host kind target r).after.buffer = r.buffer
  looked : (read host kind target r).succeeded = false → ∀ place ∈ (read host kind target r).touched,
    r.offset ≤ place ∧ place < r.offset + kind.headSize
  failed : (read host kind target r).succeeded = false → (read host kind target r).target = target ∧
    (∃ code, (read host kind target r).after = r.setError code) ∧
    ∀ later, readAll host later (read host kind target r).after = readAll host later r

theorem mem_places {n place : Nat} : place ∈ w.places n ↔ w.offset ≤ place ∧ place < w.offset + n := List.mem_range'_1

theorem write_frame (host : Endian) (inside : w.Inside) (item : Item) : WriteFrame host item w := by
  rcases write_cases host inside item with ⟨-, room, made⟩ | ⟨code, made⟩
  · constructor <;> rw [made]
    · intro place touched
      have := mem_places.mp touched
      omega
    · intro _ place touched
      exact mem_places.mp touched
    · intro i outside
      apply Span.getElem?_store room
      show i < w.offset ∨ w.offset + item.encoding.length ≤ i
      by_cases before : i < w.offset
      · exact .inl before
      · exact .inr (Nat.le_of_not_lt fun within => outside ⟨Nat.le_of_not_lt before, within⟩)
    · intro refused
      cases refused
  · constructor <;> rw [made]
    · intro place touched
      cases touched
    · intro succeeded
      cases succeeded
    · intro i _
      rfl
    · intro _
      exact ⟨rfl, ⟨code, rfl⟩, fun later => writeAll_setError host later code⟩

theorem write_inside (host : Endian) (inside : w.Inside) (item : Item) : (write host item w).after.Inside := by
  rcases write_cases host inside item with ⟨-, room, made⟩ | ⟨code, made⟩
  · rw [made]
    show w.offset + item.encoding.length ≤ (w.buffer.store w.offset item.encoding).size
    rw [Span.store_size]
    exact room
  · rw [made]
    exact inside

/-- A read succeeds as the abstract one does, or it fails and has looked at `n` bytes. -/
theorem read_cases (host : Endian) (inside : r.Inside) (kind : Kind) (target : Option kind.Value) :
    (∃ v n, r.offset + n ≤ r.buffer.size ∧
      read host kind target r = ⟨true, ⟨r.buffer, r.offset + n, none⟩, some v, r.places n⟩) ∨
    ∃ code, ∃ n ≤ kind.headSize, r.offset + n ≤ r.buffer.size ∧
      read host kind target r = refuseRead code target (r.places n) r := by
  cases target with
  | none => exact .inr ⟨.invalidArgument, 0, Nat.zero_le _, inside, read_null host kind⟩
  | some old =>
    have gets := read_gets host inside kind old
    cases found : readKind kind (r.buffer.bytes.drop r.offset) with
    | ok p =>
      obtain ⟨n, room, -, made⟩ := gets.accepted p.1 p.2 found
      exact .inl ⟨p.1, n, room, made⟩
    | error code =>
      obtain ⟨n, looked, room, made⟩ := gets.refused code found
      exact .inr ⟨code, n, looked, room, made⟩

theorem read_frame (host : Endian) (inside : r.Inside) (kind : Kind) (target : Option kind.Value) :
    ReadFrame host kind target r := by
  rcases read_cases host inside kind target with ⟨v, n, room, made⟩ | ⟨code, n, looked, room, made⟩
  · constructor <;> rw [made]
    · intro place touched
      have := mem_places.mp touched
      omega
    · intro _ place touched
      exact mem_places.mp touched
    · intro refused
      cases refused
    · intro refused
      cases refused
  · constructor <;> rw [made]
    · intro place touched
      have := mem_places.mp touched
      omega
    · intro succeeded
      cases succeeded
    · rfl
    · intro _ place touched
      have := mem_places.mp touched
      omega
    · intro _
      exact ⟨rfl, ⟨code, rfl⟩, fun later => readAll_setError host later code⟩

theorem read_inside (host : Endian) (inside : r.Inside) (kind : Kind) (target : Option kind.Value) :
    (read host kind target r).after.Inside := by
  rcases read_cases host inside kind target with ⟨v, n, room, made⟩ | ⟨code, n, looked, room, made⟩
  · rw [made]
    exact room
  · rw [made]
    exact inside

/-! ## Sequences -/

theorem afterWrites_inside (host : Endian) (items : List Item) (inside : w.Inside) :
    (afterWrites host items w).Inside := by
  induction items generalizing w with
  | nil => exact inside
  | cons item items ih => exact ih (write_inside host inside item)

theorem afterReads_inside (host : Endian) (requests : List Request) (inside : r.Inside) :
    (afterReads host requests r).Inside := by
  induction requests generalizing r with
  | nil => exact inside
  | cons request requests ih => exact ih (read_inside host inside request.1 request.2)

/-- The writes of a sequence that succeed. -/
def done (host : Endian) : List Item → Cursor → List Item
  | [], _ => []
  | item :: items, w =>
    if (write host item w).succeeded then item :: done host items (write host item w).after
    else done host items (write host item w).after

theorem done_all (host : Endian) {items : List Item} (all : ∀ call ∈ writeAll host items w, call.succeeded = true) :
    done host items w = items := by
  induction items generalizing w with
  | nil => rfl
  | cons item items ih =>
    rw [done, if_pos (all _ List.mem_cons_self), ih fun call mem => all call (List.mem_cons_of_mem _ mem)]

/-- Up to its offset the buffer holds what it held and then the encodings of the writes
that succeeded. -/
theorem afterWrites_encodes (host : Endian) (items : List Item) (inside : w.Inside) :
    (afterWrites host items w).buffer.bytes.take (afterWrites host items w).offset =
        w.buffer.bytes.take w.offset ++ (done host items w).flatMap Item.encoding ∧
      ∀ item ∈ done host items w, item.Fits := by
  induction items generalizing w with
  | nil => exact ⟨(List.append_nil _).symm, fun item mem => absurd mem List.not_mem_nil⟩
  | cons item items ih =>
    obtain ⟨encoded, fit⟩ := ih (write_inside host inside item)
    rcases write_cases host inside item with ⟨fits, room, made⟩ | ⟨code, made⟩
    · have succeeded : (write host item w).succeeded = true := by rw [made]
      rw [afterWrites, done, if_pos succeeded, encoded]
      constructor
      · rw [made]
        show (w.buffer.store w.offset item.encoding).bytes.take (w.offset + item.encoding.length) ++ _ = _
        rw [Span.take_store room, List.flatMap_cons, List.append_assoc]
      · exact List.forall_mem_cons.mpr ⟨fits, fit⟩
    · have refused : ¬ (write host item w).succeeded = true := by
        rw [made]
        exact Bool.false_ne_true
      rw [afterWrites, done, if_neg refused, encoded]
      refine ⟨?_, fit⟩
      rw [made]
      rfl

theorem reads_item {item : Item} (fits : item.Fits) : Reads (readKind item.kind) item.encoding item.value := by
  cases item with
  | uint8 value => exact reads_uint8 value
  | uint16 value => exact reads_uint16 value
  | uint32 value => exact reads_uint32 value
  | uint64 value => exact reads_uint64 value
  | int32 value => exact reads_int32 value
  | bool value => exact reads_bool value
  | bytes value =>
    have size : (UInt64.ofNat value.size).toNat = value.bytes.length := UInt64.toNat_ofNat_of_lt' value.small
    show Reads (Net.readBytes (UInt64.ofNat value.size).toNat) value.bytes value.bytes
    rw [size]
    exact Reads.take _ _
  | bytes16 value => exact reads_string16 fits
  | bytes32 value => exact reads_bytes32 fits
  | string16 value => exact reads_string16 fits

/-- Reads with arguments that all point somewhere. -/
def pointing (arguments : List ((kind : Kind) × kind.Value)) : List Request := arguments.map fun a => ⟨a.1, some a.2⟩

/-- What the caller of a read sees of it. -/
def seen (call : (kind : Kind) × ReadCall kind.Value) : (kind : Kind) × Bool × Option kind.Value :=
  ⟨call.1, call.2.succeeded, call.2.target⟩

/-- A successful read that gives back an item. -/
def Item.givenBack (item : Item) : (kind : Kind) × Bool × Option kind.Value := ⟨item.kind, true, some item.value⟩

theorem readAll_decodes (host : Endian) {items : List Item} (fit : ∀ item ∈ items, item.Fits)
    {arguments : List ((kind : Kind) × kind.Value)} (same : arguments.map Sigma.fst = items.map Item.kind)
    (inside : r.Inside) {rest : Bytes} (holds : r.buffer.bytes.drop r.offset = items.flatMap Item.encoding ++ rest) :
    (readAll host (pointing arguments) r).map seen = items.map Item.givenBack ∧
      (afterReads host (pointing arguments) r).offset = r.offset + (items.flatMap Item.encoding).length := by
  induction items generalizing r arguments with
  | nil =>
    cases List.map_eq_nil_iff.mp same
    exact ⟨rfl, rfl⟩
  | cons item items ih =>
    cases arguments with
    | nil => cases same
    | cons argument arguments =>
      obtain ⟨kind, old⟩ := argument
      obtain ⟨rfl, others⟩ := List.cons.inj same
      rw [List.flatMap_cons, List.append_assoc] at holds
      have found := reads_item (fit item List.mem_cons_self) (items.flatMap Item.encoding ++ rest)
      rw [← holds] at found
      obtain ⟨n, room, behind, made⟩ := (read_gets host inside item.kind old).accepted _ _ found
      have moved : n = item.encoding.length := by
        have length := congrArg List.length holds
        have length' := congrArg List.length behind
        rw [List.length_drop, List.length_append] at length
        rw [List.length_drop] at length'
        unfold Span.size at room
        omega
      obtain ⟨values, offset⟩ := @ih ⟨r.buffer, r.offset + n, none⟩
        (fun item mem => fit item (List.mem_cons_of_mem _ mem)) arguments others room behind.symm
      constructor
      · show seen ⟨item.kind, read host item.kind (some old) r⟩ ::
          (readAll host (pointing arguments) (read host item.kind (some old) r).after).map seen = _
        rw [made, values]
        rfl
      · show (afterReads host (pointing arguments) (read host item.kind (some old) r).after).offset = _
        rw [made, offset, List.flatMap_cons, List.length_append, moved, Nat.add_assoc]

/-- The reads that belong to some writes, over what a writer wrote, give back their values and
end at the writer's offset. -/
def ReadsBack (host : Endian) (writer : Cursor) (items : List Item) : Prop :=
  ∀ arguments : List ((kind : Kind) × kind.Value), arguments.map Sigma.fst = items.map Item.kind →
    (readAll host (pointing arguments) (.construct writer.written)).map seen = items.map Item.givenBack ∧
      (afterReads host (pointing arguments) (.construct writer.written)).offset = writer.offset

/-- The writes that succeeded, whatever failed between them, are read back from the written bytes. -/
theorem done_readsBack (writing reading : Endian) (buffer : Span) (items : List Item) :
    ReadsBack reading (afterWrites writing items (.construct buffer)) (done writing items (.construct buffer)) := by
  intro arguments same
  obtain ⟨encoded, fit⟩ := afterWrites_encodes writing items (Cursor.construct_inside buffer)
  have inside := afterWrites_inside writing items (Cursor.construct_inside buffer)
  generalize afterWrites writing items (.construct buffer) = w at encoded inside ⊢
  have holds : w.written.bytes.drop 0 = (done writing items (.construct buffer)).flatMap Item.encoding ++ [] := by
    rw [List.append_nil]
    exact encoded
  obtain ⟨values, offset⟩ :=
    @readAll_decodes (.construct w.written) reading _ fit _ same (Cursor.construct_inside _) _ holds
  refine ⟨values, offset.trans ?_⟩
  have length := congrArg List.length encoded
  rw [List.length_append, List.length_take_of_le inside] at length
  simp only [Cursor.construct, List.take_zero, List.length_nil] at length ⊢
  exact length.symm

/-- A writer and a reader, on hosts of any endianness: writes that succeed are read back and
the reader ends at the writer's offset, also when others failed between them; and at any
point of any sequence a call keeps to its frame. -/
theorem sequences_exact (writing reading : Endian) :
    (∀ (buffer : Span) (items : List Item),
      (∀ call ∈ writeAll writing items (.construct buffer), call.succeeded = true) →
      ReadsBack reading (afterWrites writing items (.construct buffer)) items) ∧
    (∀ (buffer : Span) (items : List Item),
      ReadsBack reading (afterWrites writing items (.construct buffer)) (done writing items (.construct buffer))) ∧
    (∀ (buffer : Span) (before : List Item) (item : Item),
      WriteFrame writing item (afterWrites writing before (.construct buffer))) ∧
    ∀ (buffer : Span) (before : List Request) (kind : Kind) (target : Option kind.Value),
      ReadFrame reading kind target (afterReads reading before (.construct buffer)) := by
  refine ⟨fun buffer items all => ?_, done_readsBack writing reading, fun buffer before item => ?_,
    fun buffer before kind target => ?_⟩
  · have back := done_readsBack writing reading buffer items
    rwa [done_all writing all] at back
  · exact write_frame writing (afterWrites_inside writing before (Cursor.construct_inside buffer)) item
  · exact read_frame reading (afterReads_inside reading before (Cursor.construct_inside buffer)) kind target

/-- `ReadBool` looks at a byte that is neither 0 nor 1 and does not advance over it. -/
theorem refused_bool_touched :
    ¬ ∀ (host : Endian) (buffer : Span) (before : List Request) (kind : Kind) (target : Option kind.Value),
      ∀ place ∈ (read host kind target (afterReads host before (.construct buffer))).touched,
        (afterReads host before (.construct buffer)).offset ≤ place ∧
          place < (read host kind target (afterReads host before (.construct buffer))).after.offset := by
  intro all
  have within := all .little ⟨[2], by decide⟩ [] .bool (some false) 0 (by decide)
  exact absurd within (by decide)

end XServer.Net.Buffer
