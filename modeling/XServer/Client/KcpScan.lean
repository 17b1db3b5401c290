import XServer.Client.KcpDatagram

/-!
# The loop of the datagram decoder

`TryDecodeDatagram` with its `int`s: an offset and a wire size wrap, a `Slice` that
does not fit throws. `decodeDatagram` is what the loop computes (`tryDecodeDatagram_ends`),
and the loop is `Safe` but for one kind of datagram: whole segments, and then a header
whose length field is one of the last 24 values of an `int`.
-/

namespace XServer.Client
open XServer.Lib.Wire

/-- An `int` expression, unchecked. -/
def wrapInt (value : Int) : Int := (value + 2 ^ 31) % 2 ^ 32 - 2 ^ 31

def IsInt (value : Int) : Prop := -2 ^ 31 ≤ value ∧ value < 2 ^ 31

instance (value : Int) : Decidable (IsInt value) := inferInstanceAs (Decidable (_ ∧ _))

theorem wrapInt_of_isInt {value : Int} (fits : IsInt value) : wrapInt value = value := by
  obtain ⟨low, high⟩ := fits
  rw [wrapInt, Int.emod_eq_of_lt (by omega) (by omega)]
  omega

/-- `Slice(start, length)` of so many bytes. -/
structure SliceArgs where
  start : Int
  length : Int
  size : Nat
  deriving DecidableEq, Repr

def SliceArgs.Within (args : SliceArgs) : Prop := 0 ≤ args.start ∧ 0 ≤ args.length ∧ args.start + args.length ≤ args.size

instance (args : SliceArgs) : Decidable args.Within := inferInstanceAs (Decidable (_ ∧ _ ∧ _))

def slice (bytes : Bytes) (start length : Int) : Option Bytes :=
  if SliceArgs.Within ⟨start, length, bytes.length⟩ then some ((bytes.drop start.toNat).take length.toNat) else none

inductive TurnEnd where
  | refused (error : String)
  | threw
  | next (segment : KcpSegment) (offset : Int)
  deriving DecidableEq, Repr

/-- One turn of the loop: the exact values of the `int` expressions that it evaluates, the
slices that it asks for, and how it ends. -/
structure Turn where
  values : List Int
  slices : List SliceArgs
  ends : TurnEnd
  deriving DecidableEq, Repr

/-- The slices of a header that its fields are read from. -/
def headerSlices : List SliceArgs :=
  [⟨0, 4, kcpOverheadBytes⟩, ⟨6, 2, kcpOverheadBytes⟩, ⟨8, 4, kcpOverheadBytes⟩, ⟨12, 4, kcpOverheadBytes⟩,
    ⟨16, 4, kcpOverheadBytes⟩, ⟨20, 4, kcpOverheadBytes⟩]

/-- The body of the loop behind the two slices: the bytes at the offset and the header. -/
def parseSegment (left offset : Int) (taken : List SliceArgs) (remaining header : Bytes) : Turn :=
  let field (start size : Nat) : Nat := ofLittleEndian ((header.drop start).take size)
  let payloadLength := field 20 4
  match KcpCommand.ofValue (field 4 1) with
  | none =>
    ⟨[left], taken,
      .refused ("KCP datagram contains an unsupported command byte '" ++ toString (field 4 1) ++ "'.")⟩
  | some command =>
    if maxInt < payloadLength then
      ⟨[left], taken, .refused "KCP segment payload length exceeds the supported managed range."⟩
    else
      let size : Int := kcpOverheadBytes + payloadLength
      let segmentWireSize := wrapInt size
      if wrapInt left < segmentWireSize then
        ⟨[left, size], taken,
          .refused "KCP datagram payload length does not match the remaining datagram bytes."⟩
      else
        let taken := taken ++ [⟨kcpOverheadBytes, payloadLength, remaining.length⟩]
        match slice remaining kcpOverheadBytes payloadLength with
        | none => ⟨[left, size], taken, .threw⟩
        | some payload =>
          ⟨[left, size, offset + segmentWireSize], taken,
            .next {
              conversation := .ofNat (field 0 4), command := command, fragment := .ofNat (field 5 1)
              window := .ofNat (field 6 2), timestamp := .ofNat (field 8 4), sequenceNumber := .ofNat (field 12 4)
              unacknowledgedSequenceNumber := .ofNat (field 16 4), payload := payload }
            (wrapInt (offset + segmentWireSize))⟩

/-- The body of the loop at an offset. -/
def turn (datagram : Bytes) (offset : Int) : Turn :=
  let left : Int := datagram.length - offset
  if wrapInt left < kcpOverheadBytes then
    ⟨[left], [], .refused "KCP datagram does not contain enough bytes for a full segment header."⟩
  else
    let rest : SliceArgs := ⟨offset, wrapInt left, datagram.length⟩
    match slice datagram offset (wrapInt left) with
    | none => ⟨[left], [rest], .threw⟩
    | some remaining =>
      let first : SliceArgs := ⟨0, kcpOverheadBytes, remaining.length⟩
      match slice remaining 0 kcpOverheadBytes with
      | none => ⟨[left], [rest, first], .threw⟩
      | some header => parseSegment left offset (rest :: first :: headerSlices) remaining header

/-- How the loop has ended, if it has. -/
inductive ScanEnd where
  | running
  | returned (result : Except KcpFailure (List KcpSegment))
  deriving Repr

structure Scan where
  values : List Int
  slices : List SliceArgs
  ends : ScanEnd
  deriving Repr

/-- At most so many turns of the loop, from an offset, with the segments parsed so far. -/
def scanFrom (datagram : Bytes) : Nat → Int → List KcpSegment → Scan
  | 0, _, _ => ⟨[], [], .running⟩
  | count + 1, offset, parsedSegments =>
    if offset < datagram.length then
      let here := turn datagram offset
      match here.ends with
      | .refused error => ⟨here.values, here.slices, .returned (.error (.refused error))⟩
      | .threw => ⟨here.values, here.slices, .returned (.error .threw)⟩
      | .next segment offset =>
        let later := scanFrom datagram count offset (parsedSegments ++ [segment])
        ⟨here.values ++ later.values, here.slices ++ later.slices, later.ends⟩
    else ⟨[], [], .returned (.ok parsedSegments)⟩

/-- `TryDecodeDatagram`: a turn takes a byte at least. -/
def tryDecodeDatagram (datagram : Bytes) : Scan := scanFrom datagram (datagram.length + 1) 0 []

/-- No `int` expression of the loop leaves its range, every slice fits, and the decoder returns. -/
structure Scan.Safe (scan : Scan) : Prop where
  ints : ∀ value ∈ scan.values, IsInt value
  slices : ∀ args ∈ scan.slices, args.Within
  returns : ∃ result, scan.ends = .returned result ∧ result ≠ .error .threw

/-- A header with a defined command, and a payload length that is an `int` while the wire size is not. -/
def Overflows (remaining : Bytes) : Prop :=
  kcpOverheadBytes ≤ remaining.length ∧
  (KcpCommand.ofValue (ofLittleEndian ((remaining.drop 4).take 1))).isSome ∧
  maxInt < kcpOverheadBytes + ofLittleEndian ((remaining.drop 20).take 4) ∧
  ofLittleEndian ((remaining.drop 20).take 4) ≤ maxInt

instance (remaining : Bytes) : Decidable (Overflows remaining) := inferInstanceAs (Decidable (_ ∧ _ ∧ _ ∧ _))

/-- Such a header behind whole segments. -/
def OverflowsBehind (datagram : Bytes) : Prop :=
  ∃ (segments : List KcpSegment) (rest : Bytes), datagram = segments.flatMap encodeSegment ++ rest ∧ Overflows rest

/-! ## One turn -/

theorem readSegment_threw (remaining : Bytes) : readSegment remaining = .error .threw ↔ Overflows remaining := by
  unfold readSegment Overflows
  simp only
  constructor
  · intro threw
    split at threw
    · cases threw
    · rename_i long
      split at threw
      · cases threw
      · rename_i command named
        split at threw
        · cases threw
        · split at threw
          · refine ⟨by omega, ?_, by omega, by omega⟩
            rw [named, Option.isSome_some]
          · split at threw <;> cases threw
  · rintro ⟨long, defined, above, fits⟩
    obtain ⟨command, named⟩ := Option.isSome_iff_exists.mp defined
    rw [if_neg (by omega), named]
    simp only
    rw [if_neg (by omega), if_pos above]

/-- A turn at what remains ends as the reading of a segment there, and is safe unless it throws. -/
inductive Turned (remaining : Bytes) (offset : Nat) : Turn → Prop
  | refused {values : List Int} {slices : List SliceArgs} {error : String} (ints : ∀ value ∈ values, IsInt value)
      (within : ∀ args ∈ slices, args.Within) (read : readSegment remaining = .error (.refused error)) :
      Turned remaining offset ⟨values, slices, .refused error⟩
  | threw {values : List Int} {slices : List SliceArgs} (read : readSegment remaining = .error .threw) :
      Turned remaining offset ⟨values, slices, .threw⟩
  | next {values : List Int} {slices : List SliceArgs} {segment : KcpSegment} (ints : ∀ value ∈ values, IsInt value)
      (within : ∀ args ∈ slices, args.Within) (read : readSegment remaining = .ok segment) :
      Turned remaining offset ⟨values, slices, .next segment (offset + segment.wireSize : Nat)⟩

theorem Turned.next_at {remaining : Bytes} {offset : Nat} {segment : KcpSegment} {values : List Int}
    {slices : List SliceArgs} {after : Int} (ints : ∀ value ∈ values, IsInt value)
    (within : ∀ args ∈ slices, args.Within) (read : readSegment remaining = .ok segment)
    (wire : after = (offset + segment.wireSize : Nat)) : Turned remaining offset ⟨values, slices, .next segment after⟩ := by
  rw [wire]
  exact .next ints within read

theorem headerSlices_within : ∀ args ∈ headerSlices, args.Within := by decide

/-- The fields of the header are those of the bytes it was cut from. -/
theorem field_take (remaining : Bytes) {start size : Nat} (within : start + size ≤ kcpOverheadBytes) :
    ((remaining.take kcpOverheadBytes).drop start).take size = (remaining.drop start).take size := by
  rw [List.drop_take, List.take_take]
  congr 1
  omega

theorem slice_eq {bytes : Bytes} {start length : Nat} (within : start + length ≤ bytes.length) :
    slice bytes start length = some ((bytes.drop start).take length) := by
  rw [slice, if_pos (by refine ⟨?_, ?_, ?_⟩ <;> simp only <;> omega)]
  rfl

theorem slice_none {bytes : Bytes} {start length : Nat} (beyond : bytes.length < start + length) :
    slice bytes start length = none := by
  rw [slice, if_neg]
  rintro ⟨-, -, within⟩
  simp only at within
  omega

theorem parseSegment_turned {remaining : Bytes} {offset : Nat} {taken : List SliceArgs}
    (short : offset + remaining.length < 2 ^ 31) (long : kcpOverheadBytes ≤ remaining.length)
    (within : ∀ args ∈ taken, args.Within) :
    Turned remaining offset (parseSegment remaining.length offset taken remaining (remaining.take kcpOverheadBytes)) := by
  have overhead : kcpOverheadBytes = 24 := rfl
  have bound : maxInt = 2147483647 := rfl
  have left : IsInt remaining.length := ⟨by omega, by omega⟩
  unfold parseSegment
  simp only [field_take remaining (show 0 + 4 ≤ kcpOverheadBytes by decide),
    field_take remaining (show 4 + 1 ≤ kcpOverheadBytes by decide),
    field_take remaining (show 5 + 1 ≤ kcpOverheadBytes by decide),
    field_take remaining (show 6 + 2 ≤ kcpOverheadBytes by decide),
    field_take remaining (show 8 + 4 ≤ kcpOverheadBytes by decide),
    field_take remaining (show 12 + 4 ≤ kcpOverheadBytes by decide),
    field_take remaining (show 16 + 4 ≤ kcpOverheadBytes by decide),
    field_take remaining (show 20 + 4 ≤ kcpOverheadBytes by decide), wrapInt_of_isInt left]
  cases named : KcpCommand.ofValue (ofLittleEndian ((remaining.drop 4).take 1)) with
  | none =>
    refine .refused (by simpa using left) within ?_
    unfold readSegment
    simp only [named]
    rw [if_neg (by omega)]
  | some command =>
    simp only
    by_cases large : maxInt < ofLittleEndian ((remaining.drop 20).take 4)
    · rw [if_pos large]
      refine .refused (by simpa using left) within ?_
      unfold readSegment
      simp only [named]
      rw [if_neg (by omega), if_pos large]
    rw [if_neg large]
    by_cases above : maxInt < kcpOverheadBytes + ofLittleEndian ((remaining.drop 20).take 4)
    · -- The wire size wraps to a negative `int`: the comparison lets it pass, and the slice does not fit.
      have negative : ¬ (remaining.length : Int) <
          wrapInt (kcpOverheadBytes + ofLittleEndian ((remaining.drop 20).take 4)) := by
        rw [wrapInt]
        omega
      rw [if_neg negative, slice_none (by omega)]
      refine .threw ((readSegment_threw remaining).mpr ⟨long, ?_, above, by omega⟩)
      rw [named, Option.isSome_some]
    have size : IsInt (kcpOverheadBytes + ofLittleEndian ((remaining.drop 20).take 4)) := ⟨by omega, by omega⟩
    rw [wrapInt_of_isInt size]
    by_cases missing : remaining.length < kcpOverheadBytes + ofLittleEndian ((remaining.drop 20).take 4)
    · rw [if_pos (by omega)]
      refine .refused (by simpa using ⟨left, size⟩) within ?_
      unfold readSegment
      simp only [named]
      rw [if_neg (by omega), if_neg large, if_neg above, if_pos missing]
    · have after : IsInt (offset + (kcpOverheadBytes + ofLittleEndian ((remaining.drop 20).take 4))) :=
        ⟨by omega, by omega⟩
      rw [if_neg (by omega), slice_eq (by omega), wrapInt_of_isInt after]
      have payload : ((remaining.drop kcpOverheadBytes).take (ofLittleEndian ((remaining.drop 20).take 4))).length =
          ofLittleEndian ((remaining.drop 20).take 4) := by
        rw [List.length_take, List.length_drop]
        omega
      apply Turned.next_at
      · simpa using ⟨left, size, after⟩
      · intro args mem
        rcases List.mem_append.mp mem with earlier | last
        · exact within args earlier
        · rw [List.mem_singleton.mp last]
          refine ⟨?_, ?_, ?_⟩ <;> simp only <;> omega
      · unfold readSegment
        simp only [named]
        rw [if_neg (by omega), if_neg large, if_neg above, if_neg missing]
      · simp only [KcpSegment.wireSize, payload]
        omega

theorem turn_turned {datagram : Bytes} {offset : Nat} (short : datagram.length < 2 ^ 31)
    (within : offset ≤ datagram.length) : Turned (datagram.drop offset) offset (turn datagram offset) := by
  have length : (datagram.drop offset).length = datagram.length - offset := List.length_drop
  have left : (datagram.length : Int) - offset = (datagram.drop offset).length := by omega
  have int : IsInt (datagram.drop offset).length := ⟨by omega, by omega⟩
  unfold turn
  simp only [left, wrapInt_of_isInt int]
  by_cases few : (datagram.drop offset).length < kcpOverheadBytes
  · rw [if_pos (by omega)]
    refine .refused (by simpa using int) (by simp) ?_
    unfold readSegment
    simp only
    rw [if_pos few]
  · have rest : (datagram.drop offset).take (datagram.drop offset).length = datagram.drop offset := List.take_length
    have first : slice (datagram.drop offset) 0 kcpOverheadBytes = some ((datagram.drop offset).take kcpOverheadBytes) :=
      @slice_eq (datagram.drop offset) 0 kcpOverheadBytes (by omega)
    rw [if_neg (by omega), slice_eq (by omega)]
    simp only [rest, first]
    refine parseSegment_turned (by omega) (by omega) ?_
    intro args mem
    rcases List.mem_cons.mp mem with rfl | mem
    · refine ⟨?_, ?_, ?_⟩ <;> simp only <;> omega
    · rcases List.mem_cons.mp mem with rfl | mem
      · refine ⟨?_, ?_, ?_⟩ <;> simp only <;> omega
      · exact headerSlices_within args mem

/-! ## The loop -/

theorem decodeFrom_error {count : Nat} {bytes : Bytes} {failure : KcpFailure} (more : bytes ≠ [])
    (read : readSegment bytes = .error failure) : decodeFrom (count + 1) bytes = .error failure := by
  cases bytes with
  | nil => exact absurd rfl more
  | cons byte bytes =>
    rw [decodeFrom]
    simp only [read]

theorem decodeFrom_next {count : Nat} {bytes : Bytes} {segment : KcpSegment} (read : readSegment bytes = .ok segment) :
    decodeFrom (count + 1) bytes = (decodeFrom count (bytes.drop segment.wireSize)).map (segment :: ·) := by
  cases bytes with
  | nil => cases read
  | cons byte bytes =>
    rw [decodeFrom]
    simp only [read]
    cases decodeFrom count ((byte :: bytes).drop segment.wireSize) <;> rfl

/-- The loop, behind segments that are parsed already, ends as the decoder of what remains. -/
structure Follows (scan : Scan) (parsed : List KcpSegment) (decoded : Except KcpFailure (List KcpSegment)) : Prop where
  ends : scan.ends = .returned (decoded.map (parsed ++ ·))
  safe : decoded ≠ .error .threw → (∀ value ∈ scan.values, IsInt value) ∧ ∀ args ∈ scan.slices, args.Within

theorem Follows.done (parsed : List KcpSegment) : Follows ⟨[], [], .returned (.ok parsed)⟩ parsed (.ok []) := by
  constructor
  · simp only [Except.map, List.append_nil]
  · intro _
    exact ⟨fun _ none => absurd none List.not_mem_nil, fun _ none => absurd none List.not_mem_nil⟩

theorem Follows.next {later : Scan} {parsed : List KcpSegment} {segment : KcpSegment} {values : List Int}
    {slices : List SliceArgs} {decoded : Except KcpFailure (List KcpSegment)} (ints : ∀ value ∈ values, IsInt value)
    (within : ∀ args ∈ slices, args.Within) (rest : Follows later (parsed ++ [segment]) decoded) :
    Follows ⟨values ++ later.values, slices ++ later.slices, later.ends⟩ parsed (decoded.map (segment :: ·)) := by
  constructor
  · simp only [rest.ends]
    cases decoded with
    | error failure => rfl
    | ok segments => simp only [Except.map, List.append_assoc, List.singleton_append]
  · intro returned
    obtain ⟨laterInts, laterWithin⟩ := rest.safe fun threw => returned (by rw [threw]; rfl)
    constructor
    · intro value mem
      exact (List.mem_append.mp mem).elim (ints value) (laterInts value)
    · intro args mem
      exact (List.mem_append.mp mem).elim (within args) (laterWithin args)

theorem scanFrom_follows {datagram : Bytes} (short : datagram.length < 2 ^ 31) {count offset : Nat}
    {parsed : List KcpSegment} (within : offset ≤ datagram.length) (enough : (datagram.drop offset).length ≤ count) :
    Follows (scanFrom datagram (count + 1) offset parsed) parsed (decodeFrom count (datagram.drop offset)) := by
  have length : (datagram.drop offset).length = datagram.length - offset := List.length_drop
  rw [scanFrom]
  induction count generalizing offset parsed with
  | zero =>
    have empty : datagram.drop offset = [] := List.length_eq_zero_iff.mp (by omega)
    rw [if_neg (by omega), empty]
    exact .done parsed
  | succ count ih =>
    by_cases done : offset = datagram.length
    · rw [if_neg (by omega), done, List.drop_length]
      exact .done parsed
    rw [if_pos (by omega)]
    have more : datagram.drop offset ≠ [] := by
      intro empty
      rw [empty, List.length_nil] at length
      omega
    have turned := turn_turned short within
    generalize turn datagram offset = here at turned
    cases turned with
    | refused ints cut read =>
      rw [decodeFrom_error more read]
      exact ⟨rfl, fun _ => ⟨ints, cut⟩⟩
    | threw read =>
      rw [decodeFrom_error more read]
      exact ⟨rfl, fun returned => absurd rfl returned⟩
    | next ints cut read =>
      rename_i segment
      have wire := readSegment_wireSize read
      have positive := wireSize_le segment
      have overhead : kcpOverheadBytes = 24 := rfl
      have after : (datagram.drop offset).drop segment.wireSize = datagram.drop (offset + segment.wireSize) :=
        List.drop_drop
      have size : (datagram.drop (offset + segment.wireSize)).length = datagram.length - (offset + segment.wireSize) :=
        List.length_drop
      rw [decodeFrom_next read, after]
      refine .next ints cut ?_
      rw [scanFrom]
      exact ih (by omega) (by omega) size

theorem tryDecodeDatagram_follows {datagram : Bytes} (short : datagram.length < 2 ^ 31) :
    Follows (tryDecodeDatagram datagram) [] (decodeDatagram datagram) :=
  @scanFrom_follows datagram short datagram.length 0 [] (Nat.zero_le _) (Nat.le_refl _)

/-- The loop computes the decoder. -/
theorem tryDecodeDatagram_ends {datagram : Bytes} (short : datagram.length < 2 ^ 31) :
    (tryDecodeDatagram datagram).ends = .returned (decodeDatagram datagram) := by
  rw [(tryDecodeDatagram_follows short).ends]
  cases decodeDatagram datagram <;> rfl

/-! ## When it throws -/

/-- The header is the first one, or it stands behind the first segment. -/
theorem overflowsBehind_iff {bytes : Bytes} (short : bytes.length ≤ maxInt) :
    OverflowsBehind bytes ↔
      Overflows bytes ∨ ∃ segment, readSegment bytes = .ok segment ∧ OverflowsBehind (bytes.drop segment.wireSize) := by
  constructor
  · rintro ⟨segments, rest, split, overflows⟩
    cases segments with
    | nil =>
      rw [split]
      exact .inl overflows
    | cons segment segments =>
      rw [List.flatMap_cons, List.append_assoc] at split
      have size := congrArg List.length split
      simp only [List.length_append, encodeSegment_length] at size
      have read : readSegment bytes = .ok segment := by
        rw [split]
        exact readSegment_encodeSegment segment _ (by omega)
      have tail : bytes.drop segment.wireSize = segments.flatMap encodeSegment ++ rest := by
        rw [split, ← encodeSegment_length, List.drop_left]
      exact .inr ⟨segment, read, segments, rest, tail, overflows⟩
  · rintro (overflows | ⟨segment, read, segments, rest, split, overflows⟩)
    · exact ⟨[], bytes, rfl, overflows⟩
    · refine ⟨segment :: segments, rest, ?_, overflows⟩
      rw [List.flatMap_cons, List.append_assoc, ← split]
      exact readSegment_ok read

theorem decodeFrom_threw {count : Nat} {bytes : Bytes} (enough : bytes.length ≤ count) (short : bytes.length ≤ maxInt) :
    decodeFrom count bytes = .error .threw ↔ OverflowsBehind bytes := by
  induction count generalizing bytes with
  | zero =>
    rw [overflowsBehind_iff short, ← readSegment_threw]
    have empty : bytes = [] := List.length_eq_zero_iff.mp (by omega)
    subst empty
    constructor
    · intro threw
      cases threw
    · rintro (threw | ⟨segment, read, -⟩)
      · cases threw
      · cases read
  | succ count ih =>
    rw [overflowsBehind_iff short, ← readSegment_threw]
    cases read : readSegment bytes with
    | error failure =>
      by_cases empty : bytes = []
      · subst empty
        cases read
        simp [decodeFrom]
      · rw [decodeFrom_error empty read]
        simp
    | ok segment =>
      have positive := wireSize_le segment
      have overhead : kcpOverheadBytes = 24 := rfl
      have size : (bytes.drop segment.wireSize).length = bytes.length - segment.wireSize := List.length_drop
      have tail := @ih (bytes.drop segment.wireSize) (by omega) (by omega)
      rw [decodeFrom_next read]
      cases decoded : decodeFrom count (bytes.drop segment.wireSize) with
      | error failure =>
        rw [decoded] at tail
        simpa [Except.map] using tail
      | ok segments =>
        rw [decoded] at tail
        simpa [Except.map] using tail

/-- The decoder is safe exactly on the datagrams in which no header behind whole segments has
a defined command and one of the last 24 lengths of an `int`. -/
theorem tryDecodeDatagram_safe_iff (datagram : Bytes) (short : datagram.length < 2 ^ 31) :
    (tryDecodeDatagram datagram).Safe ↔ ¬ OverflowsBehind datagram := by
  have bound : maxInt = 2147483647 := rfl
  have follows := tryDecodeDatagram_follows short
  have ends := tryDecodeDatagram_ends short
  rw [← decodeFrom_threw (Nat.le_refl _) (by omega)]
  constructor
  · rintro ⟨-, -, result, returned, ok⟩ threw
    rw [ends] at returned
    cases returned
    exact ok threw
  · intro ok
    obtain ⟨ints, slices⟩ := follows.safe ok
    exact ⟨ints, slices, decodeDatagram datagram, ends, ok⟩

/-- One header: command 81, and 2^31 - 1 as the length of the payload. -/
def overflowingDatagram : Bytes := [0, 0, 0, 0, 81, 0, 0, 0, 0, 0, 0, 0, 0, 0, 0, 0, 0, 0, 0, 0, 255, 255, 255, 127]

theorem tryDecodeDatagram_safe_iff_overflowing :
    (tryDecodeDatagram overflowingDatagram).Safe ↔ ¬ OverflowsBehind overflowingDatagram :=
  tryDecodeDatagram_safe_iff overflowingDatagram (by decide)

/-- The wire size of that header wraps, its payload does not fit, and the decoder throws. -/
theorem tryDecodeDatagram_overflows :
    ¬ ∀ datagram : Bytes, datagram.length < 2 ^ 31 → (tryDecodeDatagram datagram).Safe := by
  intro safe
  have ints := (safe overflowingDatagram (by decide)).ints
  exact absurd ints (by decide +kernel)

end XServer.Client
