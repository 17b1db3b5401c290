import XServer.Net.ByteOrder
import XServer.Net.Serialization

/-!
# `BinaryWriter` and `BinaryReader` on their buffers

The two classes of `net/BinarySerialization.cpp` as they run: an offset into a span whose
arithmetic is that of `std::size_t`, integers copied from and to the memory of a host of
either endianness, output arguments that may be null, and the places of the bytes that a
call touches. Over them the readers and writers of `Serialization`, which they refine.
-/

namespace XServer.Net.Buffer
open XServer.Lib.Wire

/-! ## Spans -/

/-- A `std::span` of bytes; its size is a `std::size_t`. -/
structure Span where
  bytes : Bytes
  small : bytes.length < 2 ^ 64

namespace Span

def size (span : Span) : Nat := span.bytes.length

/-- `std::memcpy` to `data() + place`: what lies past the end is no byte of the span. -/
def store (span : Span) (place : Nat) (bytes : Bytes) : Span where
  bytes := (span.bytes.take place ++ bytes ++ span.bytes.drop (place + bytes.length)).take span.size
  small := Nat.lt_of_le_of_lt (List.length_take_le ..) span.small

/-- `std::memcpy` from `data() + place`, and `subspan`. -/
def load (span : Span) (place size : Nat) : Bytes := (span.bytes.drop place).take size

end Span

/-- Differences and sums of `std::size_t`. -/
def sizeSub (a b : Nat) : Nat := (a + (2 ^ 64 - b)) % 2 ^ 64
def sizeAdd (a b : Nat) : Nat := (a + b) % 2 ^ 64

/-- The members that a `BinaryWriter` and a `BinaryReader` have alike. -/
structure Cursor where
  buffer : Span
  offset : Nat
  error : Option SerializationErrorCode

namespace Cursor

/-- The constructors. -/
def construct (buffer : Span) : Cursor := ⟨buffer, 0, none⟩

def remaining (c : Cursor) : Nat := sizeSub c.buffer.size c.offset
def setError (c : Cursor) (code : SerializationErrorCode) : Cursor := { c with error := some code }
def setSuccess (c : Cursor) : Cursor := { c with error := none }
def advance (c : Cursor) (size : Nat) : Cursor := { c with offset := sizeAdd c.offset size }

/-- Copy bytes to the offset and move it behind them. -/
def put (c : Cursor) (bytes : Bytes) : Cursor := { c with buffer := c.buffer.store c.offset bytes }.advance bytes.length

/-- The next `size` bytes, by their places in the span. -/
def places (c : Cursor) (size : Nat) : List Nat := List.range' c.offset size

/-- `written()`. -/
def written (c : Cursor) : Span where
  bytes := c.buffer.load 0 c.offset
  small := Nat.lt_of_le_of_lt (List.length_take_le' ..) c.buffer.small

end Cursor

/-! ## `BinaryWriter` -/

/-- A call of a writer: what it returns, the writer afterwards and the bytes touched. -/
structure WriteCall where
  succeeded : Bool
  after : Cursor
  touched : List Nat

def refuseWrite (code : SerializationErrorCode) (w : Cursor) : WriteCall := ⟨false, w.setError code, []⟩

/-- `CanWrite`, `WriteIntegral` and `SetSuccess` for a network value that lies in memory as `bytes`. -/
def writeIntegral (bytes : Bytes) (w : Cursor) : WriteCall :=
  if bytes.length > w.remaining then refuseWrite .bufferTooSmall w
  else ⟨true, (w.put bytes).setSuccess, w.places bytes.length⟩

section Writer
variable (host : Endian)

def writeUInt8 (value : UInt8) : Cursor → WriteCall := writeIntegral (image host 1 value.toNat)
def writeUInt16 (value : UInt16) : Cursor → WriteCall := writeIntegral (image host 2 (hostToNetwork16 host value).toNat)
def writeUInt32 (value : UInt32) : Cursor → WriteCall := writeIntegral (image host 4 (hostToNetwork32 host value).toNat)
def writeUInt64 (value : UInt64) : Cursor → WriteCall := writeIntegral (image host 8 (hostToNetwork64 host value).toNat)
def writeInt32 (value : Int32) : Cursor → WriteCall :=
  writeIntegral (image host 4 (hostToNetworkInt32 host value).toUInt32.toNat)
def writeBool (value : Bool) : Cursor → WriteCall := writeUInt8 host (if value then 1 else 0)

def writeBytes (value : Span) (w : Cursor) : WriteCall :=
  if value.size > w.remaining then refuseWrite .bufferTooSmall w
  else if value.bytes.isEmpty then ⟨true, w.setSuccess, []⟩
  else ⟨true, (w.put value.bytes).setSuccess, w.places value.size⟩

/-- A length of `kPrefixSize` bytes, in memory `length`, in front of the value; the room
for the value is what remains less the room for the length. -/
def writeLengthPrefixed (limit kPrefixSize : Nat) (length : Bytes) (value : Span) (w : Cursor) : WriteCall :=
  if value.size > limit then refuseWrite .lengthOverflow w
  else if kPrefixSize > w.remaining then refuseWrite .bufferTooSmall w
  else if value.size > sizeSub w.remaining kPrefixSize then refuseWrite .bufferTooSmall w
  else if value.bytes.isEmpty then ⟨true, (w.put length).setSuccess, w.places length.length⟩
  else ⟨true, ((w.put length).put value.bytes).setSuccess,
    w.places length.length ++ (w.put length).places value.size⟩

def writeLengthPrefixedBytes16 (value : Span) : Cursor → WriteCall :=
  writeLengthPrefixed 65535 2 (image host 2 (hostToNetwork16 host (UInt16.ofNat value.size)).toNat) value

def writeLengthPrefixedBytes32 (value : Span) : Cursor → WriteCall :=
  writeLengthPrefixed 4294967295 4 (image host 4 (hostToNetwork32 host (UInt32.ofNat value.size)).toNat) value

def writeString16 (value : Span) : Cursor → WriteCall := writeLengthPrefixedBytes16 host value

end Writer

/-! ## `BinaryReader` -/

/-- A call of a reader with an output argument: what it returns, the reader afterwards, what
the argument points at (nothing when it is null) and the bytes touched. A span that is
handed out counts as touched, and is its bytes. -/
structure ReadCall (α : Type) where
  succeeded : Bool
  after : Cursor
  target : Option α
  touched : List Nat

def refuseRead {α : Type} (code : SerializationErrorCode) (target : Option α) (touched : List Nat) (r : Cursor) :
    ReadCall α :=
  ⟨false, r.setError code, target, touched⟩

/-- The null check, `CanRead`, the value of the next `size` bytes, and `SetSuccess`. -/
def readIntegral {α : Type} (size : Nat) (value : Bytes → α) (target : Option α) (r : Cursor) : ReadCall α :=
  match target with
  | none => refuseRead .invalidArgument none [] r
  | some old =>
    if size > r.remaining then refuseRead .bufferTooSmall (some old) [] r
    else ⟨true, (r.advance size).setSuccess, some (value (r.buffer.load r.offset size)), r.places size⟩

section Reader
variable (host : Endian)

def peek16 (bytes : Bytes) : UInt16 := hostToNetwork16 host (UInt16.ofNat (ofImage host bytes))
def peek32 (bytes : Bytes) : UInt32 := hostToNetwork32 host (UInt32.ofNat (ofImage host bytes))
def peek64 (bytes : Bytes) : UInt64 := hostToNetwork64 host (UInt64.ofNat (ofImage host bytes))
def peekInt32 (bytes : Bytes) : Int32 := hostToNetworkInt32 host (UInt32.ofNat (ofImage host bytes)).toInt32

def readUInt8 : Option UInt8 → Cursor → ReadCall UInt8 := readIntegral 1 fun bytes => bytes.headD 0
def readUInt16 : Option UInt16 → Cursor → ReadCall UInt16 := readIntegral 2 (peek16 host)
def readUInt32 : Option UInt32 → Cursor → ReadCall UInt32 := readIntegral 4 (peek32 host)
def readUInt64 : Option UInt64 → Cursor → ReadCall UInt64 := readIntegral 8 (peek64 host)
def readInt32 : Option Int32 → Cursor → ReadCall Int32 := readIntegral 4 (peekInt32 host)

/-- The byte is looked at before the offset moves. -/
def readBool (target : Option Bool) (r : Cursor) : ReadCall Bool :=
  match target with
  | none => refuseRead .invalidArgument none [] r
  | some old =>
    if 1 > r.remaining then refuseRead .bufferTooSmall (some old) [] r
    else
      let rawValue := (r.buffer.load r.offset 1).headD 0
      if rawValue > 1 then refuseRead .invalidBoolValue (some old) (r.places 1) r
      else ⟨true, (r.advance 1).setSuccess, some (rawValue == 1), r.places 1⟩

def readBytes (size : UInt64) : Option Bytes → Cursor → ReadCall Bytes := readIntegral size.toNat id

/-- The length is looked at before the offset moves. -/
def readLengthPrefixed (kPrefixSize : Nat) (peek : Bytes → Nat) (target : Option Bytes) (r : Cursor) : ReadCall Bytes :=
  match target with
  | none => refuseRead .invalidArgument none [] r
  | some old =>
    if kPrefixSize > r.remaining then refuseRead .bufferTooSmall (some old) [] r
    else
      let length := peek (r.buffer.load r.offset kPrefixSize)
      if length > sizeSub r.remaining kPrefixSize then refuseRead .bufferTooSmall (some old) (r.places kPrefixSize) r
      else
        let body := r.advance kPrefixSize
        ⟨true, (body.advance length).setSuccess, some (body.buffer.load body.offset length),
          r.places kPrefixSize ++ body.places length⟩

def readLengthPrefixedBytes16 : Option Bytes → Cursor → ReadCall Bytes :=
  readLengthPrefixed 2 fun bytes => (peek16 host bytes).toNat

def readLengthPrefixedBytes32 : Option Bytes → Cursor → ReadCall Bytes :=
  readLengthPrefixed 4 fun bytes => (peek32 host bytes).toNat

def readString16 (target : Option Bytes) (r : Cursor) : ReadCall Bytes :=
  match target with
  | none => refuseRead .invalidArgument none [] r
  | some old =>
    let bytes := readLengthPrefixedBytes16 host (some []) r
    if bytes.succeeded then ⟨true, bytes.after.setSuccess, bytes.target, bytes.touched⟩
    else ⟨false, bytes.after, some old, bytes.touched⟩

end Reader

/-! ## Sequences of calls -/

/-- A typed write and its value. -/
inductive Item where
  | uint8 (value : UInt8)
  | uint16 (value : UInt16)
  | uint32 (value : UInt32)
  | uint64 (value : UInt64)
  | int32 (value : Int32)
  | bool (value : Bool)
  | bytes (value : Span)
  | bytes16 (value : Span)
  | bytes32 (value : Span)
  | string16 (value : Span)

/-- A typed read; raw bytes are read by their number. -/
inductive Kind where
  | uint8
  | uint16
  | uint32
  | uint64
  | int32
  | bool
  | bytes (size : UInt64)
  | bytes16
  | bytes32
  | string16

abbrev Kind.Value : Kind → Type
  | .uint8 => UInt8
  | .uint16 => UInt16
  | .uint32 => UInt32
  | .uint64 => UInt64
  | .int32 => Int32
  | .bool => Bool
  | .bytes _ | .bytes16 | .bytes32 | .string16 => Bytes

/-- The read that belongs to a write. -/
def Item.kind : Item → Kind
  | .uint8 _ => .uint8
  | .uint16 _ => .uint16
  | .uint32 _ => .uint32
  | .uint64 _ => .uint64
  | .int32 _ => .int32
  | .bool _ => .bool
  | .bytes value => .bytes (UInt64.ofNat value.size)
  | .bytes16 _ => .bytes16
  | .bytes32 _ => .bytes32
  | .string16 _ => .string16

def Item.value : (item : Item) → item.kind.Value
  | .uint8 value => value
  | .uint16 value => value
  | .uint32 value => value
  | .uint64 value => value
  | .int32 value => value
  | .bool value => value
  | .bytes value | .bytes16 value | .bytes32 value | .string16 value => value.bytes

def write (host : Endian) : Item → Cursor → WriteCall
  | .uint8 value => writeUInt8 host value
  | .uint16 value => writeUInt16 host value
  | .uint32 value => writeUInt32 host value
  | .uint64 value => writeUInt64 host value
  | .int32 value => writeInt32 host value
  | .bool value => writeBool host value
  | .bytes value => writeBytes value
  | .bytes16 value => writeLengthPrefixedBytes16 host value
  | .bytes32 value => writeLengthPrefixedBytes32 host value
  | .string16 value => writeString16 host value

def read (host : Endian) : (kind : Kind) → Option kind.Value → Cursor → ReadCall kind.Value
  | .uint8 => readUInt8
  | .uint16 => readUInt16 host
  | .uint32 => readUInt32 host
  | .uint64 => readUInt64 host
  | .int32 => readInt32 host
  | .bool => readBool
  | .bytes size => readBytes size
  | .bytes16 => readLengthPrefixedBytes16 host
  | .bytes32 => readLengthPrefixedBytes32 host
  | .string16 => readString16 host

/-- The calls of a sequence of writes, one after another whether they succeed or not. -/
def writeAll (host : Endian) : List Item → Cursor → List WriteCall
  | [], _ => []
  | item :: items, w => write host item w :: writeAll host items (write host item w).after

/-- The writer after a sequence of writes. -/
def afterWrites (host : Endian) : List Item → Cursor → Cursor
  | [], w => w
  | item :: items, w => afterWrites host items (write host item w).after

/-- A read and its output argument. -/
abbrev Request := (kind : Kind) × Option kind.Value

def readAll (host : Endian) : List Request → Cursor → List ((kind : Kind) × ReadCall kind.Value)
  | [], _ => []
  | ⟨kind, target⟩ :: requests, r =>
    ⟨kind, read host kind target r⟩ :: readAll host requests (read host kind target r).after

def afterReads (host : Endian) : List Request → Cursor → Cursor
  | [], r => r
  | ⟨kind, target⟩ :: requests, r => afterReads host requests (read host kind target r).after

/-! ## Room -/

theorem sizeSub_eq {a b : Nat} (le : b ≤ a) (small : a < 2 ^ 64) : sizeSub a b = a - b := by
  unfold sizeSub
  omega

theorem sizeAdd_eq {a b : Nat} (small : a + b < 2 ^ 64) : sizeAdd a b = a + b := Nat.mod_eq_of_lt small

namespace Cursor

/-- The offset never leaves the span. -/
def Inside (c : Cursor) : Prop := c.offset ≤ c.buffer.size

theorem construct_inside (buffer : Span) : (construct buffer).Inside := Nat.zero_le _

theorem remaining_eq {c : Cursor} (inside : c.Inside) : c.remaining = c.buffer.size - c.offset :=
  sizeSub_eq inside c.buffer.small

theorem advance_eq {c : Cursor} {size : Nat} (room : c.offset + size ≤ c.buffer.size) :
    c.advance size = { c with offset := c.offset + size } := by
  have small : c.buffer.size < 2 ^ 64 := c.buffer.small
  rw [advance, sizeAdd_eq (by omega)]

end Cursor

namespace Span

theorem ext_bytes {a b : Span} (same : a.bytes = b.bytes) : a = b := by
  obtain ⟨bytes, small⟩ := a
  obtain ⟨bytes', small'⟩ := b
  cases same
  rfl

variable {span : Span} {place : Nat} {bytes : Bytes}

theorem store_bytes (room : place + bytes.length ≤ span.size) :
    (span.store place bytes).bytes = span.bytes.take place ++ bytes ++ span.bytes.drop (place + bytes.length) := by
  apply List.take_of_length_le
  unfold size at room ⊢
  simp only [List.length_append, List.length_take, List.length_drop]
  omega

@[simp] theorem store_size : (span.store place bytes).size = span.size := by
  unfold size store
  simp only [List.length_take, List.length_append, List.length_drop, size]
  omega

/-- What is stored is found there again, behind what was there before. -/
theorem take_store (room : place + bytes.length ≤ span.size) :
    (span.store place bytes).bytes.take (place + bytes.length) = span.bytes.take place ++ bytes := by
  rw [store_bytes room, List.take_left']
  unfold size at room
  rw [List.length_append, List.length_take]
  omega

/-- Bytes outside the ones stored keep their values. -/
theorem getElem?_store (room : place + bytes.length ≤ span.size) {i : Nat} (outside : i < place ∨ place + bytes.length ≤ i) :
    (span.store place bytes).bytes[i]? = span.bytes[i]? := by
  have front : (span.bytes.take place).length = place := by
    unfold size at room
    rw [List.length_take]
    omega
  rw [store_bytes room]
  rcases outside with before | behind
  · rw [List.append_assoc, List.getElem?_append_left (by omega), List.getElem?_take_of_lt before]
  · rw [List.getElem?_append_right (by rw [List.length_append]; omega), List.getElem?_drop, List.length_append, front]
    congr 1
    omega

theorem store_nil (room : place ≤ span.size) : span.store place [] = span := by
  apply ext_bytes
  rw [store_bytes (by simpa using room), List.append_nil, List.length_nil, Nat.add_zero, List.take_append_drop]

theorem store_store {more : Bytes} (room : place + (bytes.length + more.length) ≤ span.size) :
    (span.store place bytes).store (place + bytes.length) more = span.store place (bytes ++ more) := by
  have first : place + bytes.length ≤ span.size := by omega
  have front : (span.bytes.take place ++ bytes).length = place + bytes.length := by
    unfold size at room
    rw [List.length_append, List.length_take]
    omega
  apply ext_bytes
  rw [store_bytes (by rw [store_size]; omega), take_store first, store_bytes first,
    @store_bytes span place (bytes ++ more) (by rw [List.length_append]; exact room), ← front,
    List.drop_length_add_append, List.drop_drop, front, List.length_append, ← List.append_assoc, ← Nat.add_assoc]

end Span

end XServer.Net.Buffer
