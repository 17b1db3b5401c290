import XServer.Lib.Wire

/-!
# `BinaryWriter` and `BinaryReader`

The typed reads and writes of `net/BinarySerialization.cpp`: fixed-width
integers in network byte order, a bool encoded as 0 or 1, raw bytes, and bytes
behind a 16-bit or 32-bit length. A `std::string` is its bytes.
-/

namespace XServer.Net
open XServer.Lib.Wire

/-- `SerializationErrorCode`, without `None`. -/
inductive SerializationErrorCode where
  | bufferTooSmall
  | lengthOverflow
  | invalidBoolValue
  | invalidArgument
  deriving DecidableEq, Repr

/-- The bytes of a string literal. -/
def text (s : String) : Bytes := s.toUTF8.data.toList

/-! ## Writer -/

/-- A write fails if what it writes does not fit the rest of the buffer. -/
abbrev BinaryWriter := Lib.Wire.Writer SerializationErrorCode Unit

def writeUInt8 (value : UInt8) : BinaryWriter := writePut .bufferTooSmall [value]
def writeUInt16 (value : UInt16) : BinaryWriter := writePut .bufferTooSmall (bigEndian 2 value.toNat)
def writeUInt32 (value : UInt32) : BinaryWriter := writePut .bufferTooSmall (bigEndian 4 value.toNat)
def writeUInt64 (value : UInt64) : BinaryWriter := writePut .bufferTooSmall (bigEndian 8 value.toNat)

/-- Signed numbers are written as their two's complement. -/
def writeInt32 (value : Int32) : BinaryWriter := writeUInt32 value.toUInt32
def writeBool (value : Bool) : BinaryWriter := writeUInt8 (if value then 1 else 0)
def writeBytes (value : Bytes) : BinaryWriter := writePut .bufferTooSmall value

/-- `WriteLengthPrefixedBytes16`: the length check comes before the room check. -/
def writeLengthPrefixedBytes16 (value : Bytes) : BinaryWriter := fun s =>
  if value.length > 65535 then .error .lengthOverflow
  else writePut .bufferTooSmall (bigEndian 2 value.length ++ value) s

/-- `WriteLengthPrefixedBytes32`. -/
def writeLengthPrefixedBytes32 (value : Bytes) : BinaryWriter := fun s =>
  if value.length > 4294967295 then .error .lengthOverflow
  else writePut .bufferTooSmall (bigEndian 4 value.length ++ value) s

def writeString16 (value : Bytes) : BinaryWriter := writeLengthPrefixedBytes16 value

/-! ## Reader -/

/-- A read fails if fewer bytes are left than it takes. -/
abbrev BinaryReader (α : Type) := Reader SerializationErrorCode α

/-- `CanRead(size)`, then the bytes. -/
def readBytes (size : Nat) : BinaryReader Bytes := readTake .bufferTooSmall size

def readUInt8 : BinaryReader UInt8 := (fun bs => UInt8.ofNat (ofBigEndian bs)) <$> readBytes 1
def readUInt16 : BinaryReader UInt16 := (fun bs => UInt16.ofNat (ofBigEndian bs)) <$> readBytes 2
def readUInt32 : BinaryReader UInt32 := (fun bs => UInt32.ofNat (ofBigEndian bs)) <$> readBytes 4
def readUInt64 : BinaryReader UInt64 := (fun bs => UInt64.ofNat (ofBigEndian bs)) <$> readBytes 8
def readInt32 : BinaryReader Int32 := UInt32.toInt32 <$> readUInt32

/-- `ReadBool`: a byte above 1 is refused. -/
def readBool : BinaryReader Bool := do
  let raw ← readUInt8
  readCheck (if raw > 1 then .error .invalidBoolValue else .ok ())
  pure (raw == 1)

/-- `ReadLengthPrefixedBytes16`. -/
def readLengthPrefixedBytes16 : BinaryReader Bytes := do
  let length ← readUInt16
  readBytes length.toNat

/-- `ReadLengthPrefixedBytes32`. -/
def readLengthPrefixedBytes32 : BinaryReader Bytes := do
  let length ← readUInt32
  readBytes length.toNat

def readString16 : BinaryReader Bytes := readLengthPrefixedBytes16

/-! ## Every typed read inverts its write -/

/-- The encoding of a string behind its 16-bit length. -/
def string16 (value : Bytes) : Bytes := bigEndian 2 value.length ++ value

/-- Where there is room for it, a write emits the bytes of its value. -/
theorem emits_uint16 (v : UInt16) : Emits (writeUInt16 v) (bigEndian 2 v.toNat) := Emits.put _
theorem emits_uint32 (v : UInt32) : Emits (writeUInt32 v) (bigEndian 4 v.toNat) := Emits.put _
theorem emits_uint64 (v : UInt64) : Emits (writeUInt64 v) (bigEndian 8 v.toNat) := Emits.put _
theorem emits_int32 (v : Int32) : Emits (writeInt32 v) (bigEndian 4 v.toUInt32.toNat) := Emits.put _
theorem emits_bool (v : Bool) : Emits (writeBool v) [if v then 1 else 0] := Emits.put _

/-- A string of up to 65535 bytes has a 16-bit length. -/
theorem emits_string16 {v : Bytes} (short : v.length ≤ 65535) : Emits (writeString16 v) (string16 v) := by
  intro s room
  have notLong : ¬ v.length > 65535 := by omega
  simp only [writeString16, writeLengthPrefixedBytes16, if_neg notLong]
  exact Emits.put (string16 v) s room

/-- A number of `n` bytes is read back if it fits them. -/
theorem reads_word {α : Type} (f : Nat → α) (n v : Nat) (bound : v < 256 ^ n) :
    Reads ((fun bs => f (ofBigEndian bs)) <$> readBytes n) (bigEndian n v) (f v) := by
  have taken : Reads (readBytes n) (bigEndian n v) (bigEndian n v) := by
    have h := Reads.take SerializationErrorCode.bufferTooSmall (bigEndian n v)
    rwa [bigEndian_length] at h
  have mapped := taken.map (f := fun bs => f (ofBigEndian bs))
  rwa [ofBigEndian_bigEndian n v bound] at mapped

theorem reads_uint8 (v : UInt8) : Reads readUInt8 [v] v := by
  have h := reads_word UInt8.ofNat 1 v.toNat (by have := v.toNat_lt; omega)
  simpa [bigEndian, readUInt8] using h

theorem reads_uint16 (v : UInt16) : Reads readUInt16 (bigEndian 2 v.toNat) v := by
  simpa [readUInt16] using reads_word UInt16.ofNat 2 v.toNat (by have := v.toNat_lt; omega)

theorem reads_uint32 (v : UInt32) : Reads readUInt32 (bigEndian 4 v.toNat) v := by
  simpa [readUInt32] using reads_word UInt32.ofNat 4 v.toNat (by have := v.toNat_lt; omega)

theorem reads_uint64 (v : UInt64) : Reads readUInt64 (bigEndian 8 v.toNat) v := by
  simpa [readUInt64] using reads_word UInt64.ofNat 8 v.toNat (by have := v.toNat_lt; omega)

theorem reads_int32 (v : Int32) : Reads readInt32 (bigEndian 4 v.toUInt32.toNat) v := by
  simpa [readInt32] using (reads_uint32 v.toUInt32).map (f := UInt32.toInt32)

/-- A bool is written as 0 or 1, which pass the check. -/
theorem reads_bool (v : Bool) : Reads readBool [if v then 1 else 0] v := by
  have h : Reads readBool ([if v then 1 else 0] ++ ([] ++ [])) ((if v then (1 : UInt8) else 0) == 1) :=
    (reads_uint8 _).bind ((Reads.check (by cases v <;> rfl)).bind (Reads.pure _))
  cases v <;> exact h

/-- The length that is read is that of the string, and then its bytes. -/
theorem reads_string16 {v : Bytes} (short : v.length ≤ 65535) : Reads readString16 (string16 v) v := by
  have length := reads_word UInt16.ofNat 2 v.length (by omega)
  have bytes := Reads.take SerializationErrorCode.bufferTooSmall v
  refine length.bind ?_
  have back : (UInt16.ofNat v.length).toNat = v.length := by simp; omega
  rw [back]
  exact bytes

/-! ## Every typed read accepts only what its write produces -/

/-- Whatever `n` bytes are taken, they are those of a number that fits them. -/
theorem parses_word {α : Type} (f : Nat → α) (n : Nat) :
    Parses ((fun bs => f (ofBigEndian bs)) <$> readBytes n)
      fun v used => ∃ k < 256 ^ n, v = f k ∧ used = bigEndian n k := by
  refine ((Parses.take SerializationErrorCode.bufferTooSmall n).mono ?_).map
  rintro bs used ⟨same, rfl⟩
  exact ⟨ofBigEndian bs, ofBigEndian_lt bs, rfl, same.trans (bigEndian_ofBigEndian bs).symm⟩

theorem parses_uint8 : Parses readUInt8 fun v used => used = [v] := by
  refine (parses_word UInt8.ofNat 1).mono ?_
  rintro _ _ ⟨k, -, rfl, rfl⟩
  rfl

theorem parses_uint16 : Parses readUInt16 fun v used => used = bigEndian 2 v.toNat := by
  refine (parses_word UInt16.ofNat 2).mono ?_
  rintro _ _ ⟨k, bound, rfl, rfl⟩
  rw [UInt16.toNat_ofNat', Nat.mod_eq_of_lt (by omega)]

theorem parses_uint32 : Parses readUInt32 fun v used => used = bigEndian 4 v.toNat := by
  refine (parses_word UInt32.ofNat 4).mono ?_
  rintro _ _ ⟨k, bound, rfl, rfl⟩
  rw [UInt32.toNat_ofNat', Nat.mod_eq_of_lt (by omega)]

theorem parses_int32 : Parses readInt32 fun v used => used = bigEndian 4 v.toUInt32.toNat := by
  refine (parses_uint32.mono ?_).map
  intro v used taken
  rw [taken]
  rfl

theorem parses_uint64 : Parses readUInt64 fun v used => used = bigEndian 8 v.toNat := by
  refine (parses_word UInt64.ofNat 8).mono ?_
  rintro _ _ ⟨k, bound, rfl, rfl⟩
  rw [UInt64.toNat_ofNat', Nat.mod_eq_of_lt (by omega)]

/-- A byte that passes the check is the one that a bool is written as. -/
theorem parses_bool : Parses readBool fun v used => used = [if v then 1 else 0] := by
  refine parses_uint8.bind fun raw used taken => (Parses.check _).bind fun _ used' checked => Parses.pure ?_
  obtain ⟨rfl, small⟩ := checked
  subst taken
  by_cases above : raw > 1
  · rw [if_pos above] at small
    cases small
  · have cases_ : raw = 0 ∨ raw = 1 := by
      have : ¬ (1 : UInt8).toNat < raw.toNat := above
      rcases (by simp only [UInt8.reduceToNat] at this; omega : raw.toNat = 0 ∨ raw.toNat = 1) with zero | one
      · exact .inl (UInt8.toNat_inj.mp zero)
      · exact .inr (UInt8.toNat_inj.mp one)
    rcases cases_ with rfl | rfl <;> rfl

/-- No string longer than its length field can say is read. -/
theorem parses_string16 : Parses readString16 fun v used => used = string16 v ∧ v.length ≤ 65535 := by
  refine parses_uint16.bind fun length used taken => (Parses.take _ _).mono ?_
  rintro v _ ⟨rfl, size⟩
  have bound := length.toNat_lt
  subst taken
  rw [← size]
  exact ⟨rfl, by omega⟩

/-- The encoding of bytes behind their 32-bit length. -/
def bytes32 (value : Bytes) : Bytes := bigEndian 4 value.length ++ value

theorem emits_bytes32 {v : Bytes} (short : v.length ≤ 4294967295) : Emits (writeLengthPrefixedBytes32 v) (bytes32 v) := by
  intro s room
  have notLong : ¬ v.length > 4294967295 := by omega
  simp only [writeLengthPrefixedBytes32, if_neg notLong]
  exact Emits.put (bytes32 v) s room

theorem reads_bytes32 {v : Bytes} (short : v.length ≤ 4294967295) :
    Reads readLengthPrefixedBytes32 (bytes32 v) v := by
  have length := reads_word UInt32.ofNat 4 v.length (by omega)
  have bytes := Reads.take SerializationErrorCode.bufferTooSmall v
  refine length.bind ?_
  have back : (UInt32.ofNat v.length).toNat = v.length := by simp; omega
  rw [back]
  exact bytes

theorem parses_bytes32 : Parses readLengthPrefixedBytes32 fun v used => used = bytes32 v ∧ v.length ≤ 4294967295 := by
  refine parses_uint32.bind fun length used taken => (Parses.take _ _).mono ?_
  rintro v _ ⟨rfl, size⟩
  have bound := length.toNat_lt
  subst taken
  rw [← size]
  exact ⟨rfl, by omega⟩

end XServer.Net
