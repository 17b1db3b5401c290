import XServer.Lib.Wire

/-!
# Byte order

`net/ByteOrder.h` over a host of either endianness: the swaps of 16, 32 and 64 bits, and
that a swapped integer lies in the host's memory in network byte order.
-/

namespace XServer.Net
open XServer.Lib.Wire

/-- `std::endian::native`; mixed platforms do not compile. -/
inductive Endian where
  | little
  | big
  deriving DecidableEq, Repr

def byteSwap16 (value : UInt16) : UInt16 := (value <<< 8) ||| (value >>> 8)

def byteSwap32 (value : UInt32) : UInt32 :=
  ((value &&& 0x000000FF) <<< 24) ||| ((value &&& 0x0000FF00) <<< 8) ||| ((value &&& 0x00FF0000) >>> 8) |||
    ((value &&& 0xFF000000) >>> 24)

def byteSwap64 (value : UInt64) : UInt64 :=
  ((value &&& 0x00000000000000FF) <<< 56) ||| ((value &&& 0x000000000000FF00) <<< 40) |||
    ((value &&& 0x0000000000FF0000) <<< 24) ||| ((value &&& 0x00000000FF000000) <<< 8) |||
    ((value &&& 0x000000FF00000000) >>> 8) ||| ((value &&& 0x0000FF0000000000) >>> 24) |||
    ((value &&& 0x00FF000000000000) >>> 40) ||| ((value &&& 0xFF00000000000000) >>> 56)

/-- `HostToNetwork`, and `NetworkToHost`, which calls it; one byte has no order. -/
def hostToNetwork16 (host : Endian) (value : UInt16) : UInt16 :=
  match host with
  | .little => byteSwap16 value
  | .big => value

def hostToNetwork32 (host : Endian) (value : UInt32) : UInt32 :=
  match host with
  | .little => byteSwap32 value
  | .big => value

def hostToNetwork64 (host : Endian) (value : UInt64) : UInt64 :=
  match host with
  | .little => byteSwap64 value
  | .big => value

/-- A signed value is swapped as the unsigned one of its bits. -/
def hostToNetworkInt32 (host : Endian) (value : Int32) : Int32 := (hostToNetwork32 host value.toUInt32).toInt32

/-- An integer of `n` bytes in the memory of the host. -/
def image (host : Endian) (n v : Nat) : Bytes :=
  match host with
  | .little => littleEndian n v
  | .big => bigEndian n v

def ofImage (host : Endian) (bytes : Bytes) : Nat :=
  match host with
  | .little => ofLittleEndian bytes
  | .big => ofBigEndian bytes

/-! ## Bytes of a number -/

/-- A byte, masked where it stands. -/
theorem and_byte (v k : Nat) : v &&& 2 ^ k * 255 = 2 ^ k * (v / 2 ^ k % 256) := by
  apply Nat.eq_of_testBit_eq
  intro i
  rw [Nat.testBit_and, show 255 = 2 ^ 8 - 1 from rfl, show 256 = 2 ^ 8 from rfl, Nat.testBit_two_pow_mul,
    Nat.testBit_two_pow_mul, Nat.testBit_two_pow_sub_one, Nat.testBit_mod_two_pow, Nat.testBit_div_two_pow]
  by_cases here : k ≤ i
  · rw [Nat.sub_add_cancel here, Bool.and_comm]
    simp only [ge_iff_le, here, decide_true, Bool.true_and]
  · simp only [ge_iff_le, here, decide_false, Bool.false_and, Bool.and_false]

/-- A number in front of another that stays below it. -/
theorem or_eq_add {i a b : Nat} (above : 2 ^ i ∣ a) (below : b < 2 ^ i) : a ||| b = a + b := by
  obtain ⟨c, rfl⟩ := above
  exact (Nat.two_pow_add_eq_or_of_lt below c).symm

theorem byteSwap16_toNat (value : UInt16) :
    (byteSwap16 value).toNat = 2 ^ 8 * (value.toNat % 256) + value.toNat / 256 := by
  have bound := value.toNat_lt
  have high : value.toNat <<< 8 % 2 ^ 16 = 2 ^ 8 * (value.toNat % 256) := by
    rw [Nat.shiftLeft_eq]
    omega
  show (value.toNat <<< 8 % 2 ^ 16) ||| (value.toNat >>> 8) = _
  rw [high, Nat.shiftRight_eq_div_pow]
  exact or_eq_add (Nat.dvd_mul_right ..) (by omega)

/-- A byte that a shift to the left moves from `k` to `k + s`, in a word of `w` bits. -/
theorem moved_left (v k s w : Nat) (fits : k + s + 8 ≤ w) :
    (v &&& 2 ^ k * 255) <<< s % 2 ^ w = 2 ^ (k + s) * (v / 2 ^ k % 256) := by
  have small : v / 2 ^ k % 256 < 2 ^ 8 := Nat.mod_lt _ (by decide)
  have room : 2 ^ (k + s) * (v / 2 ^ k % 256) < 2 ^ w :=
    calc 2 ^ (k + s) * (v / 2 ^ k % 256) < 2 ^ (k + s) * 2 ^ 8 := Nat.mul_lt_mul_of_pos_left small (Nat.two_pow_pos _)
      _ = 2 ^ (k + s + 8) := (Nat.pow_add ..).symm
      _ ≤ 2 ^ w := Nat.pow_le_pow_right (by decide) fits
  rw [and_byte, Nat.shiftLeft_eq, Nat.mul_right_comm, ← Nat.pow_add, Nat.mod_eq_of_lt room]

theorem moved_right (v k s : Nat) : (v &&& 2 ^ (k + s) * 255) >>> s = 2 ^ k * (v / 2 ^ (k + s) % 256) := by
  rw [and_byte, Nat.shiftRight_eq_div_pow, Nat.pow_add, Nat.mul_right_comm, Nat.mul_div_cancel _ (Nat.two_pow_pos s)]

theorem join_four {b0 b1 b2 b3 : Nat} (h1 : b1 < 256) (h2 : b2 < 256) (h3 : b3 < 256) :
    2 ^ 24 * b0 ||| 2 ^ 16 * b1 ||| 2 ^ 8 * b2 ||| 2 ^ 0 * b3 = 2 ^ 24 * b0 + 2 ^ 16 * b1 + 2 ^ 8 * b2 + 2 ^ 0 * b3 := by
  rw [@or_eq_add 24 (2 ^ 24 * b0) (2 ^ 16 * b1) (by omega) (by omega),
    @or_eq_add 16 (2 ^ 24 * b0 + 2 ^ 16 * b1) (2 ^ 8 * b2) (by omega) (by omega),
    @or_eq_add 8 (2 ^ 24 * b0 + 2 ^ 16 * b1 + 2 ^ 8 * b2) (2 ^ 0 * b3) (by omega) (by omega)]

theorem byteSwap32_toNat (value : UInt32) :
    (byteSwap32 value).toNat =
      2 ^ 24 * (value.toNat / 2 ^ 0 % 256) + 2 ^ 16 * (value.toNat / 2 ^ 8 % 256) +
        2 ^ 8 * (value.toNat / 2 ^ 16 % 256) + 2 ^ 0 * (value.toNat / 2 ^ 24 % 256) := by
  show ((value.toNat &&& 2 ^ 0 * 255) <<< 24 % 2 ^ 32) ||| ((value.toNat &&& 2 ^ 8 * 255) <<< 8 % 2 ^ 32) |||
    ((value.toNat &&& 2 ^ (8 + 8) * 255) >>> 8) ||| ((value.toNat &&& 2 ^ (0 + 24) * 255) >>> 24) = _
  rw [moved_left _ 0 24 32 (by decide), moved_left _ 8 8 32 (by decide), moved_right, moved_right]
  exact join_four (Nat.mod_lt _ (by decide)) (Nat.mod_lt _ (by decide)) (Nat.mod_lt _ (by decide))

theorem join_eight {b0 b1 b2 b3 b4 b5 b6 b7 : Nat} (h1 : b1 < 256) (h2 : b2 < 256) (h3 : b3 < 256) (h4 : b4 < 256)
    (h5 : b5 < 256) (h6 : b6 < 256) (h7 : b7 < 256) :
    2 ^ 56 * b0 ||| 2 ^ 48 * b1 ||| 2 ^ 40 * b2 ||| 2 ^ 32 * b3 ||| 2 ^ 24 * b4 ||| 2 ^ 16 * b5 ||| 2 ^ 8 * b6 ||| 2 ^ 0 * b7 =
      2 ^ 32 * (2 ^ 24 * b0 + 2 ^ 16 * b1 + 2 ^ 8 * b2 + 2 ^ 0 * b3) +
        (2 ^ 24 * b4 + 2 ^ 16 * b5 + 2 ^ 8 * b6 + 2 ^ 0 * b7) := by
  rw [@or_eq_add 56 (2 ^ 56 * b0) (2 ^ 48 * b1) (by omega) (by omega),
    @or_eq_add 48 (2 ^ 56 * b0 + 2 ^ 48 * b1) (2 ^ 40 * b2) (by omega) (by omega),
    @or_eq_add 40 (2 ^ 56 * b0 + 2 ^ 48 * b1 + 2 ^ 40 * b2) (2 ^ 32 * b3) (by omega) (by omega)]
  have high : 2 ^ 56 * b0 + 2 ^ 48 * b1 + 2 ^ 40 * b2 + 2 ^ 32 * b3 =
      2 ^ 32 * (2 ^ 24 * b0 + 2 ^ 16 * b1 + 2 ^ 8 * b2 + 2 ^ 0 * b3) := by omega
  generalize 2 ^ 24 * b0 + 2 ^ 16 * b1 + 2 ^ 8 * b2 + 2 ^ 0 * b3 = front at high ⊢
  rw [high, @or_eq_add 32 (2 ^ 32 * front) (2 ^ 24 * b4) (by omega) (by omega),
    @or_eq_add 24 (2 ^ 32 * front + 2 ^ 24 * b4) (2 ^ 16 * b5) (by omega) (by omega),
    @or_eq_add 16 (2 ^ 32 * front + 2 ^ 24 * b4 + 2 ^ 16 * b5) (2 ^ 8 * b6) (by omega) (by omega),
    @or_eq_add 8 (2 ^ 32 * front + 2 ^ 24 * b4 + 2 ^ 16 * b5 + 2 ^ 8 * b6) (2 ^ 0 * b7) (by omega) (by omega)]
  omega

theorem byteSwap64_toNat (value : UInt64) :
    (byteSwap64 value).toNat =
      2 ^ 32 * (2 ^ 24 * (value.toNat / 2 ^ 0 % 256) + 2 ^ 16 * (value.toNat / 2 ^ 8 % 256) +
          2 ^ 8 * (value.toNat / 2 ^ 16 % 256) + 2 ^ 0 * (value.toNat / 2 ^ 24 % 256)) +
        (2 ^ 24 * (value.toNat / 2 ^ 32 % 256) + 2 ^ 16 * (value.toNat / 2 ^ 40 % 256) +
          2 ^ 8 * (value.toNat / 2 ^ 48 % 256) + 2 ^ 0 * (value.toNat / 2 ^ 56 % 256)) := by
  show ((value.toNat &&& 2 ^ 0 * 255) <<< 56 % 2 ^ 64) ||| ((value.toNat &&& 2 ^ 8 * 255) <<< 40 % 2 ^ 64) |||
    ((value.toNat &&& 2 ^ 16 * 255) <<< 24 % 2 ^ 64) ||| ((value.toNat &&& 2 ^ 24 * 255) <<< 8 % 2 ^ 64) |||
    ((value.toNat &&& 2 ^ (24 + 8) * 255) >>> 8) ||| ((value.toNat &&& 2 ^ (16 + 24) * 255) >>> 24) |||
    ((value.toNat &&& 2 ^ (8 + 40) * 255) >>> 40) ||| ((value.toNat &&& 2 ^ (0 + 56) * 255) >>> 56) = _
  rw [moved_left _ 0 56 64 (by decide), moved_left _ 8 40 64 (by decide), moved_left _ 16 24 64 (by decide),
    moved_left _ 24 8 64 (by decide), moved_right, moved_right, moved_right, moved_right]
  exact join_eight (Nat.mod_lt _ (by decide)) (Nat.mod_lt _ (by decide)) (Nat.mod_lt _ (by decide))
    (Nat.mod_lt _ (by decide)) (Nat.mod_lt _ (by decide)) (Nat.mod_lt _ (by decide)) (Nat.mod_lt _ (by decide))

/-! ## In the memory of the host -/

theorem byte_congr {a b : Nat} (same : a % 256 = b % 256) : UInt8.ofNat a = UInt8.ofNat b := by
  apply UInt8.toNat_inj.mp
  rw [UInt8.toNat_ofNat', UInt8.toNat_ofNat']
  exact same

theorem bigEndian_join_two {b0 b1 : Nat} (h1 : b1 < 256) :
    bigEndian 2 (2 ^ 8 * b0 + b1) = [UInt8.ofNat b0, UInt8.ofNat b1] := by
  show [UInt8.ofNat ((2 ^ 8 * b0 + b1) / 256), UInt8.ofNat (2 ^ 8 * b0 + b1)] = _
  rw [@byte_congr ((2 ^ 8 * b0 + b1) / 256) b0 (by omega), @byte_congr (2 ^ 8 * b0 + b1) b1 (by omega)]

theorem bigEndian_join_four {b0 b1 b2 b3 : Nat} (h1 : b1 < 256) (h2 : b2 < 256) (h3 : b3 < 256) :
    bigEndian 4 (2 ^ 24 * b0 + 2 ^ 16 * b1 + 2 ^ 8 * b2 + 2 ^ 0 * b3) =
      [UInt8.ofNat b0, UInt8.ofNat b1, UInt8.ofNat b2, UInt8.ofNat b3] := by
  generalize whole : 2 ^ 24 * b0 + 2 ^ 16 * b1 + 2 ^ 8 * b2 + 2 ^ 0 * b3 = v
  show [UInt8.ofNat (v / 256 / 256 / 256), UInt8.ofNat (v / 256 / 256), UInt8.ofNat (v / 256), UInt8.ofNat v] = _
  rw [@byte_congr (v / 256 / 256 / 256) b0 (by omega), @byte_congr (v / 256 / 256) b1 (by omega),
    @byte_congr (v / 256) b2 (by omega), @byte_congr v b3 (by omega)]

theorem bigEndian_halves {high low : Nat} (bound : low < 2 ^ 32) :
    bigEndian 8 (2 ^ 32 * high + low) = bigEndian 4 high ++ bigEndian 4 low := by
  generalize whole : 2 ^ 32 * high + low = v
  have front : v / 256 / 256 / 256 / 256 = high := by omega
  show bigEndian 4 (v / 256 / 256 / 256 / 256) ++ [UInt8.ofNat (v / 256 / 256 / 256)] ++ [UInt8.ofNat (v / 256 / 256)] ++
    [UInt8.ofNat (v / 256)] ++ [UInt8.ofNat v] = bigEndian 4 high ++
      [UInt8.ofNat (low / 256 / 256 / 256), UInt8.ofNat (low / 256 / 256), UInt8.ofNat (low / 256), UInt8.ofNat low]
  rw [front, @byte_congr (v / 256 / 256 / 256) (low / 256 / 256 / 256) (by omega),
    @byte_congr (v / 256 / 256) (low / 256 / 256) (by omega), @byte_congr (v / 256) (low / 256) (by omega),
    @byte_congr v low (by omega)]
  simp only [List.append_assoc, List.cons_append, List.nil_append]

/-- A swapped integer lies in memory the other way round. -/
theorem bigEndian_byteSwap16 (value : UInt16) : bigEndian 2 (byteSwap16 value).toNat = littleEndian 2 value.toNat := by
  have bound := value.toNat_lt
  rw [byteSwap16_toNat, bigEndian_join_two (by omega)]
  show [UInt8.ofNat (value.toNat % 256), UInt8.ofNat (value.toNat / 256)] =
    [UInt8.ofNat value.toNat, UInt8.ofNat (value.toNat / 256)]
  rw [@byte_congr (value.toNat % 256) value.toNat (by omega)]

theorem littleEndian_four (v : Nat) :
    littleEndian 4 v = [UInt8.ofNat (v / 2 ^ 0 % 256), UInt8.ofNat (v / 2 ^ 8 % 256), UInt8.ofNat (v / 2 ^ 16 % 256),
      UInt8.ofNat (v / 2 ^ 24 % 256)] := by
  show [UInt8.ofNat v, UInt8.ofNat (v / 256), UInt8.ofNat (v / 256 / 256), UInt8.ofNat (v / 256 / 256 / 256)] = _
  rw [@byte_congr v (v / 2 ^ 0 % 256) (by omega), @byte_congr (v / 256) (v / 2 ^ 8 % 256) (by omega),
    @byte_congr (v / 256 / 256) (v / 2 ^ 16 % 256) (by omega),
    @byte_congr (v / 256 / 256 / 256) (v / 2 ^ 24 % 256) (by omega)]

theorem bigEndian_byteSwap32 (value : UInt32) : bigEndian 4 (byteSwap32 value).toNat = littleEndian 4 value.toNat := by
  rw [byteSwap32_toNat, littleEndian_four]
  exact bigEndian_join_four (Nat.mod_lt _ (by decide)) (Nat.mod_lt _ (by decide)) (Nat.mod_lt _ (by decide))

theorem bigEndian_byteSwap64 (value : UInt64) : bigEndian 8 (byteSwap64 value).toNat = littleEndian 8 value.toNat := by
  generalize whole : value.toNat = v
  have halves : v = 2 ^ 32 * (v / 2 ^ 32) + v % 2 ^ 32 := (Nat.div_add_mod ..).symm
  have little : littleEndian 8 v = littleEndian 4 (v % 2 ^ 32) ++ littleEndian 4 (v / 2 ^ 32) := by
    unfold littleEndian
    rw [← List.reverse_append, ← bigEndian_halves (Nat.mod_lt _ (by decide)), ← halves]
  have low : littleEndian 4 (v % 2 ^ 32) = littleEndian 4 v := by
    rw [littleEndian_four, littleEndian_four, @byte_congr (v % 2 ^ 32 / 2 ^ 0 % 256) (v / 2 ^ 0 % 256) (by omega),
      @byte_congr (v % 2 ^ 32 / 2 ^ 8 % 256) (v / 2 ^ 8 % 256) (by omega),
      @byte_congr (v % 2 ^ 32 / 2 ^ 16 % 256) (v / 2 ^ 16 % 256) (by omega),
      @byte_congr (v % 2 ^ 32 / 2 ^ 24 % 256) (v / 2 ^ 24 % 256) (by omega)]
  have high : littleEndian 4 (v / 2 ^ 32) = [UInt8.ofNat (v / 2 ^ 32 % 256), UInt8.ofNat (v / 2 ^ 40 % 256),
      UInt8.ofNat (v / 2 ^ 48 % 256), UInt8.ofNat (v / 2 ^ 56 % 256)] := by
    rw [littleEndian_four, Nat.div_div_eq_div_mul, Nat.div_div_eq_div_mul, Nat.div_div_eq_div_mul, Nat.div_div_eq_div_mul]
    rfl
  rw [byteSwap64_toNat, bigEndian_halves (by omega), little, low, high, littleEndian_four, whole,
    bigEndian_join_four (by omega) (by omega) (by omega), bigEndian_join_four (by omega) (by omega) (by omega)]

/-- A value that stands swapped on one kind of host and as it is on the other stands in
network byte order on both. -/
theorem image_of_swap {n v swapped : Nat} (swap : bigEndian n swapped = littleEndian n v) (host : Endian) :
    image host n (if host = .little then swapped else v) = bigEndian n v := by
  cases host with
  | big => exact congrArg _ (if_neg (by decide))
  | little =>
    show (bigEndian n (if Endian.little = .little then swapped else v)).reverse = _
    rw [if_pos rfl, swap, littleEndian, List.reverse_reverse]

theorem image_hostToNetwork16 (host : Endian) (value : UInt16) :
    image host 2 (hostToNetwork16 host value).toNat = bigEndian 2 value.toNat := by
  rw [← image_of_swap (bigEndian_byteSwap16 value) host]
  cases host <;> rfl

theorem image_hostToNetwork32 (host : Endian) (value : UInt32) :
    image host 4 (hostToNetwork32 host value).toNat = bigEndian 4 value.toNat := by
  rw [← image_of_swap (bigEndian_byteSwap32 value) host]
  cases host <;> rfl

theorem image_hostToNetwork64 (host : Endian) (value : UInt64) :
    image host 8 (hostToNetwork64 host value).toNat = bigEndian 8 value.toNat := by
  rw [← image_of_swap (bigEndian_byteSwap64 value) host]
  cases host <;> rfl

theorem image_hostToNetworkInt32 (host : Endian) (value : Int32) :
    image host 4 (hostToNetworkInt32 host value).toUInt32.toNat = bigEndian 4 value.toUInt32.toNat :=
  image_hostToNetwork32 host value.toUInt32

/-- One byte has no order. -/
theorem image_one (host : Endian) (value : UInt8) : image host 1 value.toNat = [value] := by
  have same : UInt8.ofNat value.toNat = value := UInt8.ofNat_toNat
  cases host with
  | big => exact congrArg (fun byte => [byte]) same
  | little => exact congrArg (fun byte => [byte]) same

theorem ofImage_image (host : Endian) {n v : Nat} (bound : v < 256 ^ n) : ofImage host (image host n v) = v := by
  cases host with
  | big => exact ofBigEndian_bigEndian n v bound
  | little => exact ofLittleEndian_littleEndian n v bound

theorem ofImage_lt (host : Endian) (bytes : Bytes) : ofImage host bytes < 256 ^ bytes.length := by
  cases host with
  | big => exact ofBigEndian_lt bytes
  | little => exact ofLittleEndian_lt bytes

/-- What a host loads is what it would send for the number in network byte order. -/
theorem image_ofBigEndian (host : Endian) (bytes : Bytes) :
    image host bytes.length (ofBigEndian bytes) = bigEndian bytes.length (ofImage host bytes) := by
  cases host with
  | big => rfl
  | little =>
    show (bigEndian bytes.length (ofBigEndian bytes)).reverse = bigEndian bytes.length (ofBigEndian bytes.reverse)
    have back := bigEndian_ofBigEndian bytes.reverse
    rw [List.length_reverse] at back
    rw [bigEndian_ofBigEndian, back]

/-- The number that the loaded bytes become in the order of the host: the one they are in
network byte order. -/
theorem swapped_back {host : Endian} {bytes : Bytes} {swapped : Nat} (bound : swapped < 256 ^ bytes.length)
    (sent : image host bytes.length swapped = bigEndian bytes.length (ofImage host bytes)) : swapped = ofBigEndian bytes := by
  rw [← image_ofBigEndian] at sent
  rw [← ofImage_image host bound, sent, ofImage_image host (ofBigEndian_lt bytes)]

theorem networkToHost16_ofImage (host : Endian) {bytes : Bytes} (length : bytes.length = 2) :
    hostToNetwork16 host (UInt16.ofNat (ofImage host bytes)) = UInt16.ofNat (ofBigEndian bytes) := by
  have bound := ofImage_lt host bytes
  have sent := image_hostToNetwork16 host (UInt16.ofNat (ofImage host bytes))
  rw [length] at bound
  rw [UInt16.toNat_ofNat_of_lt' bound, ← length] at sent
  have small := (hostToNetwork16 host (UInt16.ofNat (ofImage host bytes))).toNat_lt
  rw [← swapped_back (by rw [length]; exact small) sent, UInt16.ofNat_toNat]

theorem networkToHost32_ofImage (host : Endian) {bytes : Bytes} (length : bytes.length = 4) :
    hostToNetwork32 host (UInt32.ofNat (ofImage host bytes)) = UInt32.ofNat (ofBigEndian bytes) := by
  have bound := ofImage_lt host bytes
  have sent := image_hostToNetwork32 host (UInt32.ofNat (ofImage host bytes))
  rw [length] at bound
  rw [UInt32.toNat_ofNat_of_lt' bound, ← length] at sent
  have small := (hostToNetwork32 host (UInt32.ofNat (ofImage host bytes))).toNat_lt
  rw [← swapped_back (by rw [length]; exact small) sent, UInt32.ofNat_toNat]

theorem networkToHost64_ofImage (host : Endian) {bytes : Bytes} (length : bytes.length = 8) :
    hostToNetwork64 host (UInt64.ofNat (ofImage host bytes)) = UInt64.ofNat (ofBigEndian bytes) := by
  have bound := ofImage_lt host bytes
  have sent := image_hostToNetwork64 host (UInt64.ofNat (ofImage host bytes))
  rw [length] at bound
  rw [UInt64.toNat_ofNat_of_lt' bound, ← length] at sent
  have small := (hostToNetwork64 host (UInt64.ofNat (ofImage host bytes))).toNat_lt
  rw [← swapped_back (by rw [length]; exact small) sent, UInt64.ofNat_toNat]

end XServer.Net
