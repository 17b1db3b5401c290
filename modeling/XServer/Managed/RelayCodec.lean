import XServer.Core.Json
import XServer.Managed.AvatarSpawn
import XServer.Managed.PacketCodec

/-!
# The managed relay codecs

`Framework/Interop/RelayMailboxCallCodec.cs` and `RelayProxyCallCodec.cs`, which
decode in the managed runtime what the native node has validated and handed on.
They have checks of their own: text is UTF-8 and must not be blank, and an entity
id is whatever `Guid.TryParse` takes. A span is shorter than 2^31 bytes.
-/

namespace XServer.Managed
open XServer.Lib XServer.Lib.Wire XServer.Net XServer.Core XServer.Node
open XServer.Managed.PacketCodec (slice overwrite overwrite_append)

/-! ## Text -/

/-- U+FFFD. -/
def replacementText : Bytes := [0xEF, 0xBF, 0xBD]

/-- The text of the rest of a buffer, `pending` being the bytes of a sequence that
is not complete yet. An ill-formed sequence becomes U+FFFD, and the byte that ends it is
read anew. -/
def utf8From : Utf8State → Bytes → Bytes → Bytes
  | .accept, _, [] => []
  | _, _, [] => replacementText
  | state, pending, byte :: rest =>
    match state.decode byte with
    | .accept => pending ++ (byte :: utf8From .accept [] rest)
    | .reject =>
      if state = .accept then replacementText ++ utf8From .accept [] rest
      else
        match Utf8State.accept.decode byte with
        | .accept => replacementText ++ (byte :: utf8From .accept [] rest)
        | .reject => replacementText ++ (replacementText ++ utf8From .accept [] rest)
        | next => replacementText ++ utf8From next [byte] rest
    | next => utf8From next (pending ++ [byte]) rest

/-- `Encoding.UTF8.GetString`. -/
def utf8GetString (bytes : Bytes) : Bytes := utf8From .accept [] bytes

/-- `string.Trim`: without the longest blank prefix and the longest blank suffix. -/
def trimStart (s : Bytes) : Bytes :=
  match (List.range (s.length + 1)).reverse.find? fun n => isNullOrWhiteSpace (s.take n) with
  | some n => s.drop n
  | none => s

def trimEnd : Bytes → Bytes
  | [] => []
  | byte :: rest => if isNullOrWhiteSpace (byte :: rest) then [] else byte :: trimEnd rest

def trim (s : Bytes) : Bytes := trimEnd (trimStart s)

/-! ## GUIDs -/

def toLowerHex (ch : UInt8) : UInt8 := if 65 ≤ ch ∧ ch ≤ 70 then ch + 32 else ch

/-- The text that `ToString` prints for 32 hex digits. -/
def guidOfDigits (digits : Bytes) : Guid :=
  (slice digits 0 8 ++ [45] ++ slice digits 8 4 ++ [45] ++ slice digits 12 4 ++ [45] ++ slice digits 16 4 ++ [45] ++
    slice digits 20 12).map toLowerHex

/-- The format "N". -/
def tryParseExactN (s : Bytes) : Option Guid :=
  if s.length = 32 ∧ s.all isHexDigit = true then some (guidOfDigits s) else none

/-- The format "D". -/
def tryParseExactD (s : Bytes) : Option Guid :=
  if isCanonicalGuidText s = true then some (s.map toLowerHex) else none

/-- The formats "B" and "P": a "D" text between a pair of brackets. -/
def tryParseBracketed (opening closing : UInt8) (s : Bytes) : Option Guid :=
  if s.head? = some opening ∧ s.getLast? = some closing then tryParseExactD (slice s 1 (s.length - 2)) else none

/-- The format "X", with every digit written: where its digits are, and what is between them. -/
def hexFormat : Bytes :=
  text "\x7b0x########,0x####,0x####,\x7b0x##,0x##,0x##,0x##,0x##,0x##,0x##,0x##\x7d\x7d"

def tryParseExactX (s : Bytes) : Option Guid :=
  if s.length = hexFormat.length ∧
      (s.zip hexFormat).all (fun (ch, form) => if form == 35 then isHexDigit ch else ch == form) = true then
    some (guidOfDigits (((s.zip hexFormat).filter (·.2 == 35)).map (·.1)))
  else none

/-- `Guid.TryParse`, on the five formats of `Guid.ToString`. -/
def guidTryParse (s : Bytes) : Option Guid :=
  let s := trim s
  if s.length < 32 then none
  else if s.head? = some 40 then tryParseBracketed 40 41 s
  else if s.head? = some 123 then if s[9]? = some 45 then tryParseBracketed 123 125 s else tryParseExactX s
  else if s[8]? = some 45 then tryParseExactD s
  else tryParseExactN s

/-! ## Reading -/

def tryReadUInt16 (buffer : Bytes) : OffsetReader UInt16 := fun offset =>
  if 2 > buffer.length - offset then none
  else some (PacketCodec.readUInt16BigEndian (slice buffer offset 2), offset + 2)

def tryReadUInt32 (buffer : Bytes) : OffsetReader UInt32 := fun offset =>
  if 4 > buffer.length - offset then none
  else some (PacketCodec.readUInt32BigEndian (slice buffer offset 4), offset + 4)

def tryReadString16 (buffer : Bytes) : OffsetReader Bytes := do
  let byteCount ← tryReadUInt16 buffer
  fun offset =>
    if byteCount.toNat > buffer.length - offset then none
    else some (utf8GetString (slice buffer offset byteCount.toNat), offset + byteCount.toNat)

def tryReadBytes32 (buffer : Bytes) : OffsetReader Bytes := do
  let byteCount ← tryReadUInt32 buffer
  fun offset =>
    if byteCount.toNat > buffer.length - offset then none
    else some (slice buffer offset byteCount.toNat, offset + byteCount.toNat)

theorem tracks_uint16 (buffer : Bytes) : Tracks readUInt16 buffer (tryReadUInt16 buffer) id := by
  have taken : Tracks (readBytes 2) buffer (tryReadUInt16 buffer) fun bs => id (UInt16.ofNat (ofBigEndian bs)) :=
    Tracks.take fun _ => rfl
  exact taken.map

theorem tracks_uint32 (buffer : Bytes) : Tracks readUInt32 buffer (tryReadUInt32 buffer) id := by
  have taken : Tracks (readBytes 4) buffer (tryReadUInt32 buffer) fun bs => id (UInt32.ofNat (ofBigEndian bs)) :=
    Tracks.take fun _ => rfl
  exact taken.map

theorem tracks_string16 (buffer : Bytes) : Tracks readString16 buffer (tryReadString16 buffer) utf8GetString :=
  (tracks_uint16 buffer).bind fun _ => Tracks.take fun _ => rfl

theorem tracks_bytes32 (buffer : Bytes) : Tracks readLengthPrefixedBytes32 buffer (tryReadBytes32 buffer) id :=
  (tracks_uint32 buffer).bind fun _ => Tracks.take fun _ => rfl

/-! ## The mailbox call -/

structure RelayMailboxCallEnvelope where
  sourceGameNodeId : Bytes
  targetGameNodeId : Bytes
  targetEntityId : Guid
  targetMailboxName : Bytes
  mailboxCallMsgId : UInt32
  payload : Bytes
  deriving DecidableEq, Repr

namespace RelayMailboxCallCodec

/-- The locals of `TryDecode`. -/
def readFields (payload : Bytes) : OffsetReader RelayForwardMailboxCall := do
  let sourceGameNodeId ← tryReadString16 payload
  let targetGameNodeId ← tryReadString16 payload
  let targetEntityId ← tryReadString16 payload
  let targetMailboxName ← tryReadString16 payload
  let mailboxCallMsgId ← tryReadUInt32 payload
  let relayFlags ← tryReadUInt32 payload
  let callPayload ← tryReadBytes32 payload
  pure {
    sourceGameNodeId, targetGameNodeId, targetEntityId, targetMailboxName, mailboxCallMsgId, relayFlags,
    payload := callPayload }

/-- The entity id of a mailbox call: blank text is no entity, and the nil GUID is refused. -/
def parseTarget (targetEntityIdText : Bytes) : Option Guid :=
  if isNullOrWhiteSpace targetEntityIdText then some guidEmpty
  else
    match guidTryParse targetEntityIdText with
    | none => none
    | some guid => if guid = guidEmpty then none else some guid

def tryDecode (payload : Bytes) : Option RelayMailboxCallEnvelope :=
  match readFields payload 0 with
  | none => none
  | some (fields, offset) =>
    match parseTarget fields.targetEntityId with
    | none => none
    | some targetEntityId =>
      if offset ≠ payload.length ∨ isNullOrWhiteSpace fields.sourceGameNodeId = true ∨
          isNullOrWhiteSpace fields.targetGameNodeId = true ∨
          (targetEntityId = guidEmpty ∧ isNullOrWhiteSpace fields.targetMailboxName = true) ∨
          fields.mailboxCallMsgId = 0 ∨ fields.relayFlags ≠ 0 then none
      else
        some {
          sourceGameNodeId := fields.sourceGameNodeId
          targetGameNodeId := fields.targetGameNodeId
          targetEntityId
          targetMailboxName := fields.targetMailboxName
          mailboxCallMsgId := fields.mailboxCallMsgId
          payload := fields.payload }

end RelayMailboxCallCodec

/-! ## The proxy call -/

structure RelayProxyCallEnvelope where
  sourceGameNodeId : Bytes
  routeGateNodeId : Bytes
  targetEntityId : Guid
  proxyCallMsgId : UInt32
  payload : Bytes
  deriving DecidableEq, Repr

/-- The exceptions that `Encode` raises. -/
inductive EncodeException where
  | argument
  | argumentOutOfRange
  | overflow
  | outOfMemory
  deriving DecidableEq, Repr

/-- A buffer that is being filled. -/
structure SpanCursor where
  buffer : Bytes
  offset : Nat

abbrev SpanWriter := StateT SpanCursor (Except EncodeException) Unit

/-- Bytes at the offset, which must have room for them. -/
def putBytes (bytes : Bytes) : SpanWriter := fun cursor =>
  if cursor.offset + bytes.length > cursor.buffer.length then .error .argument
  else .ok ((), ⟨overwrite cursor.buffer cursor.offset bytes, cursor.offset + bytes.length⟩)

namespace RelayProxyCallCodec

/-- `Array.MaxLength`. -/
def arrayMaxLength : Nat := 2147483591

def writeString16 (value : Bytes) : SpanWriter := do
  if value.length > 65535 then StateT.lift (.error .overflow) else putBytes (bigEndian 2 value.length)
  putBytes value

def writeUInt32 (value : UInt32) : SpanWriter := putBytes (bigEndian 4 value.toNat)

def writeBytes32 (value : Bytes) : SpanWriter := do
  writeUInt32 (UInt32.ofNat value.length)
  putBytes value

/-- `new byte[size]`. -/
def newArray (size : Int32) : Except EncodeException Bytes :=
  if size < 0 then .error .overflow
  else if size.toInt.toNat > arrayMaxLength then .error .outOfMemory
  else .ok (List.replicate size.toInt.toNat 0)

/-- The writes of `Encode`. -/
def writeFields (sourceGameNodeId routeGateNodeId : Bytes) (targetEntityId : Guid) (proxyCallMsgId : UInt32)
    (payload : Bytes) : SpanWriter := do
  writeString16 sourceGameNodeId
  writeString16 routeGateNodeId
  writeString16 targetEntityId
  writeUInt32 proxyCallMsgId
  writeUInt32 0
  writeBytes32 payload

/-- `Encode`; the size is an `int` sum, which wraps around. -/
def encode (sourceGameNodeId routeGateNodeId : Bytes) (targetEntityId : Guid) (proxyCallMsgId : UInt32)
    (payload : Bytes) : Except EncodeException Bytes := do
  if isNullOrWhiteSpace sourceGameNodeId then .error .argument
  else if isNullOrWhiteSpace routeGateNodeId then .error .argument
  else if proxyCallMsgId = 0 then .error .argumentOutOfRange
  else if targetEntityId = guidEmpty then .error .argument
  else
    let buffer ← newArray (Int32.ofNat (2 + sourceGameNodeId.length + (2 + routeGateNodeId.length) +
      (2 + targetEntityId.length) + 4 + 4 + (4 + payload.length)))
    match writeFields sourceGameNodeId routeGateNodeId targetEntityId proxyCallMsgId payload ⟨buffer, 0⟩ with
    | .error e => .error e
    | .ok (_, cursor) => .ok cursor.buffer

/-- The locals of `TryDecode`. -/
def readFields (payload : Bytes) : OffsetReader RelayEntityCall := do
  let sourceGameNodeId ← tryReadString16 payload
  let routeGateNodeId ← tryReadString16 payload
  let targetEntityId ← tryReadString16 payload
  let msgId ← tryReadUInt32 payload
  let relayFlags ← tryReadUInt32 payload
  let callPayload ← tryReadBytes32 payload
  pure { sourceGameNodeId, routeGateNodeId, targetEntityId, msgId, relayFlags, payload := callPayload }

def tryDecode (payload : Bytes) : Option RelayProxyCallEnvelope :=
  match readFields payload 0 with
  | none => none
  | some (fields, offset) =>
    if offset ≠ payload.length ∨ isNullOrWhiteSpace fields.sourceGameNodeId = true ∨
        isNullOrWhiteSpace fields.routeGateNodeId = true ∨ fields.msgId = 0 ∨ fields.relayFlags ≠ 0 then none
    else
      match guidTryParse fields.targetEntityId with
      | none => none
      | some targetEntityId =>
        if targetEntityId = guidEmpty then none
        else
          some {
            sourceGameNodeId := fields.sourceGameNodeId
            routeGateNodeId := fields.routeGateNodeId
            targetEntityId
            proxyCallMsgId := fields.msgId
            payload := fields.payload }

end RelayProxyCallCodec

/-! ## What the runtime makes of a native message -/

theorem foldl_decode_reject (bytes : Bytes) : bytes.foldl Utf8State.decode .reject = .reject := by
  induction bytes with
  | nil => rfl
  | cons byte rest ih => exact ih

theorem utf8From_of_valid (bytes : Bytes) : ∀ (state : Utf8State) (pending : Bytes),
    bytes.foldl Utf8State.decode state = .accept → (state = .accept → pending = []) →
      utf8From state pending bytes = pending ++ bytes := by
  induction bytes with
  | nil =>
    intro state pending valid idle
    cases valid
    simp [utf8From, idle rfl]
  | cons byte rest ih =>
    intro state pending valid idle
    rw [List.foldl_cons] at valid
    cases next : state.decode byte with
    | accept =>
      rw [next] at valid
      simp only [utf8From, next, ih .accept [] valid fun _ => rfl, List.nil_append]
    | reject =>
      rw [next, foldl_decode_reject] at valid
      cases valid
    | _ =>
      rw [next] at valid
      simp only [utf8From, next]
      rw [ih _ _ valid (by simp), List.append_assoc]
      rfl

/-- Well-formed text is read as it is. -/
theorem utf8GetString_of_valid {bytes : Bytes} (valid : validUtf8 bytes = true) : utf8GetString bytes = bytes :=
  utf8From_of_valid bytes .accept [] (beq_iff_eq.mp valid) fun _ => rfl

/-- Text that starts with a visible ASCII character is not blank. -/
theorem isNullOrWhiteSpace_of_visible {byte : UInt8} {rest : Bytes} (ascii : byte < 0x80) (above : 33 ≤ byte) :
    isNullOrWhiteSpace (byte :: rest) = false := by
  have low : byte.toNat < 128 := ascii
  have high : 33 ≤ byte.toNat := above
  have notControl : ¬ (9 ≤ byte ∧ byte ≤ 13) := fun range => by
    have : byte.toNat ≤ 13 := range.2
    omega
  have notSpace : byte ≠ 32 := fun same => by
    rw [same] at high
    exact absurd high (by decide)
  unfold isNullOrWhiteSpace
  split
  case h_1 same => cases same
  case h_8 same =>
    cases same
    simp [notControl, notSpace]
  -- the other patterns start with a byte of a longer sequence
  all_goals
    rename_i same
    cases same
    exact absurd ascii (by decide)

/-- The characters of GUID texts. -/
theorem isHexDigit_above {ch : UInt8} (h : isHexDigit ch = true) : 33 ≤ ch := by
  simp only [isHexDigit, Bool.or_eq_true, Bool.and_eq_true, decide_eq_true_eq, UInt8.le_iff_toNat_le,
    UInt8.reduceToNat] at h
  rw [UInt8.le_iff_toNat_le]
  simp only [UInt8.reduceToNat]
  omega

theorem isCanonicalGuidText_get {value : Bytes} (h : isCanonicalGuidText value = true) {i : Nat} {ch : UInt8}
    (at_ : value[i]? = some ch) : if isDashIndex i then ch = 45 else isHexDigit ch = true := by
  have each := List.all_eq_true.mp (Bool.and_eq_true_iff.mp h).2 (ch, i) (List.mk_mem_zipIdx_iff_getElem?.mpr at_)
  simp only at each
  split
  · rename_i dash
    rw [if_pos dash] at each
    exact eq_of_beq each
  · rename_i digit
    rwa [if_neg digit] at each

theorem isCanonicalGuidText_above {value : Bytes} (h : isCanonicalGuidText value = true) : ∀ ch ∈ value, 33 ≤ ch := by
  intro ch mem
  obtain ⟨i, at_⟩ := List.mem_iff_getElem?.mp mem
  have each := isCanonicalGuidText_get h at_
  split at each
  · rw [each]
    decide
  · exact isHexDigit_above each

/-- Only visible ASCII characters. -/
def Visible (s : Bytes) : Prop := ∀ ch ∈ s, ch < 0x80 ∧ 33 ≤ ch

theorem trimStart_of_visible {s : Bytes} (visible : Visible s) : trimStart s = s := by
  unfold trimStart
  split
  · rename_i n found
    have blank := List.find?_some found
    cases n with
    | zero => rfl
    | succ n =>
      cases s with
      | nil => rfl
      | cons byte rest =>
        obtain ⟨ascii, above⟩ := visible byte List.mem_cons_self
        rw [List.take_succ_cons, isNullOrWhiteSpace_of_visible ascii above] at blank
        cases blank
  · rfl

theorem trimEnd_of_visible {s : Bytes} (visible : Visible s) : trimEnd s = s := by
  induction s with
  | nil => rfl
  | cons byte rest ih =>
    obtain ⟨ascii, above⟩ := visible byte List.mem_cons_self
    rw [trimEnd, isNullOrWhiteSpace_of_visible ascii above, ih fun ch mem => visible ch (List.mem_cons_of_mem _ mem)]
    rfl

theorem trim_of_visible {s : Bytes} (visible : Visible s) : trim s = s := by
  rw [trim, trimStart_of_visible visible, trimEnd_of_visible visible]

theorem isCanonicalGuidText_visible {value : Bytes} (h : isCanonicalGuidText value = true) : Visible value :=
  fun ch mem => ⟨isCanonicalGuidText_ascii h ch mem, isCanonicalGuidText_above h ch mem⟩

theorem isCanonicalGuidText_length {value : Bytes} (h : isCanonicalGuidText value = true) : value.length = 36 :=
  of_decide_eq_true (Bool.and_eq_true_iff.mp h).1

/-- A canonical text is parsed in the format "D". -/
theorem guidTryParse_of_canonical {value : Bytes} (h : isCanonicalGuidText value = true) :
    guidTryParse value = some (value.map toLowerHex) := by
  have length := isCanonicalGuidText_length h
  have visible := trim_of_visible (isCanonicalGuidText_visible h)
  have first : ∃ ch rest, value = ch :: rest ∧ isHexDigit ch = true := by
    cases value with
    | nil => cases length
    | cons ch rest => exact ⟨ch, rest, rfl, isCanonicalGuidText_get h (i := 0) rfl⟩
  obtain ⟨ch, rest, shape, digit⟩ := first
  have open1 : ¬ value.head? = some 40 := by
    rw [shape, List.head?_cons]
    rintro ⟨rfl⟩
    cases digit
  have open2 : ¬ value.head? = some 123 := by
    rw [shape, List.head?_cons]
    rintro ⟨rfl⟩
    cases digit
  have dash : value[8]? = some 45 := by
    have eighth := List.getElem?_eq_getElem (by omega : 8 < value.length)
    rw [eighth, show value[8] = 45 from isCanonicalGuidText_get h eighth]
  simp only [guidTryParse, visible]
  rw [if_neg (by omega), if_neg open1, if_neg open2, if_pos dash, tryParseExactD, if_pos h]

/-- The texts that `ToString("D")` prints. -/
def IsPrintedGuid (guid : Guid) : Prop := isCanonicalGuidText guid = true ∧ guid.map toLowerHex = guid

instance (guid : Guid) : Decidable (IsPrintedGuid guid) := inferInstanceAs (Decidable (_ ∧ _))

/-- A GUID is read back from its text. -/
theorem guidTryParse_of_printed {guid : Guid} (printed : IsPrintedGuid guid) : guidTryParse guid = some guid := by
  rw [guidTryParse_of_canonical printed.1, printed.2]

theorem toLowerHex_nil {ch : UInt8} (h : toLowerHex ch = 48 ∨ toLowerHex ch = 45) : toLowerHex ch = ch := by
  unfold toLowerHex at h ⊢
  split
  · rename_i upper
    have low : 65 ≤ ch.toNat := upper.1
    have high : ch.toNat ≤ 70 := upper.2
    rw [if_pos upper] at h
    rcases h with h | h
    all_goals
      have := congrArg UInt8.toNat h
      rw [UInt8.toNat_add] at this
      simp only [UInt8.reduceToNat] at this
      omega
  · rfl

/-- Only the nil text denotes the nil GUID. -/
theorem map_toLowerHex_eq_empty {value : Bytes} : value.map toLowerHex = guidEmpty ↔ value = guidEmpty := by
  constructor
  · intro lowered
    have nil : guidEmpty.all (fun ch => ch == 48 || ch == 45) = true := by decide +kernel
    simp only [List.all_eq_true, Bool.or_eq_true, beq_iff_eq] at nil
    have same : value.map toLowerHex = value.map id := by
      refine List.map_congr_left fun ch mem => ?_
      refine toLowerHex_nil (nil _ ?_)
      rw [← lowered]
      exact List.mem_map_of_mem mem
    rw [← lowered, same, List.map_id]
  · rintro rfl
    decide

/-! ## Where the decoders agree -/

theorem utf8GetString_nil : utf8GetString [] = [] := rfl

/-- Text that does not decode to blank text has bytes. -/
theorem ne_nil_of_visible {bytes : Bytes} (visible : isNullOrWhiteSpace (utf8GetString bytes) = false) : bytes ≠ [] := by
  rintro rfl
  cases visible

theorem isCanonicalGuidText_not_blank {value : Bytes} (h : isCanonicalGuidText value = true) :
    isNullOrWhiteSpace value = false := by
  have length := isCanonicalGuidText_length h
  cases value with
  | nil => cases length
  | cons ch rest =>
    obtain ⟨ascii, above⟩ := isCanonicalGuidText_visible h ch List.mem_cons_self
    exact isNullOrWhiteSpace_of_visible ascii above

theorem utf8GetString_canonical {value : Bytes} (h : isCanonicalGuidText value = true) : utf8GetString value = value :=
  utf8GetString_of_valid (validUtf8_of_ascii (isCanonicalGuidText_ascii h))

theorem validateRelayForwardMailboxCall_iff (m : RelayForwardMailboxCall) :
    validateRelayForwardMailboxCall m = .ok () ↔
      m.sourceGameNodeId ≠ [] ∧ m.targetGameNodeId ≠ [] ∧
        (m.targetEntityId = [] ∨ isCanonicalGuidText m.targetEntityId = true) ∧
        (m.targetEntityId = [] → m.targetMailboxName ≠ []) ∧ m.mailboxCallMsgId ≠ 0 ∧ m.relayFlags = 0 := by
  unfold validateRelayForwardMailboxCall
  repeat' split
  all_goals simp_all
  tauto

theorem validateRelayEntityCall_iff (m : RelayEntityCall) :
    validateRelayEntityCall m = .ok () ↔
      m.sourceGameNodeId ≠ [] ∧ m.routeGateNodeId ≠ [] ∧ isCanonicalGuidText m.targetEntityId = true ∧
        m.msgId ≠ 0 ∧ m.relayFlags = 0 := by
  unfold validateRelayEntityCall
  repeat' split
  all_goals simp_all

namespace RelayMailboxCallCodec

/-- The fields of a native message with their text decoded. -/
def decoded (m : RelayForwardMailboxCall) : RelayForwardMailboxCall :=
  { m with
    sourceGameNodeId := utf8GetString m.sourceGameNodeId
    targetGameNodeId := utf8GetString m.targetGameNodeId
    targetEntityId := utf8GetString m.targetEntityId
    targetMailboxName := utf8GetString m.targetMailboxName }

/-- What the runtime hands on of a message that the node accepted. -/
def envelope (m : RelayForwardMailboxCall) : RelayMailboxCallEnvelope where
  sourceGameNodeId := utf8GetString m.sourceGameNodeId
  targetGameNodeId := utf8GetString m.targetGameNodeId
  targetEntityId := if m.targetEntityId = [] then guidEmpty else m.targetEntityId.map toLowerHex
  targetMailboxName := utf8GetString m.targetMailboxName
  mailboxCallMsgId := m.mailboxCallMsgId
  payload := m.payload

/-- What the runtime asks beyond the node's validation: ids that are not blank, no nil
GUID, and a mailbox name that is not blank where no entity is named. -/
structure Readable (m : RelayForwardMailboxCall) : Prop where
  source : isNullOrWhiteSpace (utf8GetString m.sourceGameNodeId) = false
  target : isNullOrWhiteSpace (utf8GetString m.targetGameNodeId) = false
  entity : m.targetEntityId ≠ guidEmpty
  mailbox : m.targetEntityId = [] → isNullOrWhiteSpace (utf8GetString m.targetMailboxName) = false

instance (m : RelayForwardMailboxCall) : Decidable (Readable m) :=
  decidable_of_iff (_ ∧ _ ∧ _ ∧ _) ⟨fun ⟨a, b, c, d⟩ => ⟨a, b, c, d⟩, fun ⟨a, b, c, d⟩ => ⟨a, b, c, d⟩⟩

theorem tracks_fields (buffer : Bytes) : Tracks readRelayForwardMailboxCall buffer (readFields buffer) decoded := by
  refine Tracks.mapError ?_
  refine (tracks_string16 buffer).bind fun source => (tracks_string16 buffer).bind fun target =>
    (tracks_string16 buffer).bind fun entity => (tracks_string16 buffer).bind fun mailbox =>
      (tracks_uint32 buffer).bind fun msgId => (tracks_uint32 buffer).bind fun flags => ?_
  exact Tracks.last (tracks_bytes32 buffer) fun payload => rfl

theorem parseTarget_nil : parseTarget [] = some guidEmpty := rfl

theorem parseTarget_canonical {value : Bytes} (h : isCanonicalGuidText value = true) :
    parseTarget value = if value = guidEmpty then none else some (value.map toLowerHex) := by
  unfold parseTarget
  rw [isCanonicalGuidText_not_blank h, guidTryParse_of_canonical h]
  simp only [Bool.false_eq_true, if_false, map_toLowerHex_eq_empty]

/-- A message that the node accepts, in the runtime. -/
theorem tryDecode_of_native {bytes : Bytes} {m : RelayForwardMailboxCall}
    (native : decodeRelayForwardMailboxCall bytes = .ok m) :
    tryDecode bytes = if Readable m then some (envelope m) else none := by
  obtain ⟨read, valid⟩ := decodeExact_ok native
  have start := (tracks_fields bytes).start
  rw [read] at start
  obtain ⟨next, -, fields, atEnd⟩ := start
  obtain rfl := atEnd.mp rfl
  obtain ⟨-, -, entity, mailbox, msgId, flags⟩ := (validateRelayForwardMailboxCall_iff m).mp valid
  simp only [tryDecode, fields, decoded]
  rcases entity with absent | canonical
  · rw [absent, utf8GetString_nil, parseTarget_nil]
    simp only
    by_cases readable : Readable m
    · rw [if_pos readable, if_neg (by simp [readable.source, readable.target, readable.mailbox absent, msgId, flags])]
      simp [envelope, absent]
    · rw [if_neg readable]
      refine if_pos (by_contra fun passes => readable ?_)
      simp only [not_or, not_and, Bool.not_eq_true] at passes
      exact ⟨passes.2.1, passes.2.2.1, by rw [absent]; decide, fun _ => passes.2.2.2.1 trivial⟩
  · have present : m.targetEntityId ≠ [] := fun absent => by
      rw [absent] at canonical
      cases canonical
    rw [utf8GetString_canonical canonical, parseTarget_canonical canonical]
    by_cases nil : m.targetEntityId = guidEmpty
    · rw [if_pos nil, if_neg fun readable => readable.entity nil]
    · rw [if_neg nil]
      have named : m.targetEntityId.map toLowerHex ≠ guidEmpty := fun empty => nil (map_toLowerHex_eq_empty.mp empty)
      by_cases readable : Readable m
      · rw [if_pos readable]
        simp only
        rw [if_neg (by simp [readable.source, readable.target, named, msgId, flags])]
        simp [envelope, present]
      · rw [if_neg readable]
        refine if_pos (by_contra fun passes => readable ?_)
        simp only [not_or, not_and, Bool.not_eq_true] at passes
        exact ⟨passes.2.1, passes.2.2.1, nil, fun absent => absurd absent present⟩

/-- A message that the runtime accepts, on the node. -/
theorem native_of_tryDecode {bytes : Bytes} {v : RelayMailboxCallEnvelope} (managed : tryDecode bytes = some v) :
    ∃ m, readRelayForwardMailboxCall bytes = .ok (m, []) ∧
      (m.targetEntityId = [] ∨ isCanonicalGuidText m.targetEntityId = true →
        decodeRelayForwardMailboxCall bytes = .ok m) := by
  have start := (tracks_fields bytes).start
  cases read : readRelayForwardMailboxCall bytes with
  | error e =>
    rw [read] at start
    simp only at start
    simp only [tryDecode, start] at managed
    cases managed
  | ok p =>
    obtain ⟨m, rest⟩ := p
    rw [read] at start
    obtain ⟨next, -, fields, atEnd⟩ := start
    simp only [tryDecode, fields] at managed
    split at managed
    · cases managed
    · rename_i target parsed
      split at managed
      · cases managed
      · rename_i passes
        simp only [not_or, not_and, Bool.not_eq_true, not_not, decoded] at passes
        obtain ⟨whole, source, targetGame, mailbox, msgId, flags⟩ := passes
        obtain rfl := atEnd.mpr whole
        refine ⟨m, rfl, fun entity => decodeExact_of read ((validateRelayForwardMailboxCall_iff m).mpr
          ⟨ne_nil_of_visible source, ne_nil_of_visible targetGame, entity, fun absent => ?_, msgId, flags⟩)⟩
        simp only [decoded, absent, utf8GetString_nil, parseTarget_nil] at parsed
        cases parsed
        exact ne_nil_of_visible (mailbox rfl)

end RelayMailboxCallCodec

namespace RelayProxyCallCodec

/-- The fields of a native message with their text decoded. -/
def decoded (m : RelayEntityCall) : RelayEntityCall :=
  { m with
    sourceGameNodeId := utf8GetString m.sourceGameNodeId
    routeGateNodeId := utf8GetString m.routeGateNodeId
    targetEntityId := utf8GetString m.targetEntityId }

/-- What the runtime hands on of a message that the node accepted. -/
def envelope (m : RelayEntityCall) : RelayProxyCallEnvelope where
  sourceGameNodeId := utf8GetString m.sourceGameNodeId
  routeGateNodeId := utf8GetString m.routeGateNodeId
  targetEntityId := m.targetEntityId.map toLowerHex
  proxyCallMsgId := m.msgId
  payload := m.payload

/-- What the runtime asks beyond the node's validation: ids that are not blank, and no nil GUID. -/
structure Readable (m : RelayEntityCall) : Prop where
  source : isNullOrWhiteSpace (utf8GetString m.sourceGameNodeId) = false
  route : isNullOrWhiteSpace (utf8GetString m.routeGateNodeId) = false
  entity : m.targetEntityId ≠ guidEmpty

instance (m : RelayEntityCall) : Decidable (Readable m) :=
  decidable_of_iff (_ ∧ _ ∧ _) ⟨fun ⟨a, b, c⟩ => ⟨a, b, c⟩, fun ⟨a, b, c⟩ => ⟨a, b, c⟩⟩

theorem tracks_fields (buffer : Bytes) : Tracks readRelayEntityCall buffer (readFields buffer) decoded := by
  refine Tracks.mapError ?_
  refine (tracks_string16 buffer).bind fun source => (tracks_string16 buffer).bind fun route =>
    (tracks_string16 buffer).bind fun entity => (tracks_uint32 buffer).bind fun msgId =>
      (tracks_uint32 buffer).bind fun flags => ?_
  exact Tracks.last (tracks_bytes32 buffer) fun payload => rfl

/-- A message that the node accepts, in the runtime. -/
theorem tryDecode_of_native {bytes : Bytes} {m : RelayEntityCall} (native : decodeRelayForwardProxyCall bytes = .ok m) :
    tryDecode bytes = if Readable m then some (envelope m) else none := by
  obtain ⟨read, valid⟩ := decodeExact_ok native
  have start := (tracks_fields bytes).start
  rw [read] at start
  obtain ⟨next, -, fields, atEnd⟩ := start
  obtain rfl := atEnd.mp rfl
  obtain ⟨-, -, canonical, msgId, flags⟩ := (validateRelayEntityCall_iff m).mp valid
  simp only [tryDecode, fields, decoded]
  rw [utf8GetString_canonical canonical, guidTryParse_of_canonical canonical]
  simp only [map_toLowerHex_eq_empty]
  by_cases readable : Readable m
  · rw [if_pos readable, if_neg (by simp [readable.source, readable.route, msgId, flags]), if_neg readable.entity]
    rfl
  · rw [if_neg readable]
    split
    · rfl
    · rename_i passes
      refine if_pos (by_contra fun nil => readable ?_)
      simp only [not_or, Bool.not_eq_true] at passes
      exact ⟨passes.2.1, passes.2.2.1, nil⟩

/-- A message that the runtime accepts, on the node. -/
theorem native_of_tryDecode {bytes : Bytes} {v : RelayProxyCallEnvelope} (managed : tryDecode bytes = some v) :
    ∃ m, readRelayEntityCall bytes = .ok (m, []) ∧
      (isCanonicalGuidText m.targetEntityId = true → decodeRelayForwardProxyCall bytes = .ok m) := by
  have start := (tracks_fields bytes).start
  cases read : readRelayEntityCall bytes with
  | error e =>
    rw [read] at start
    simp only at start
    simp only [tryDecode, start] at managed
    cases managed
  | ok p =>
    obtain ⟨m, rest⟩ := p
    rw [read] at start
    obtain ⟨next, -, fields, atEnd⟩ := start
    simp only [tryDecode, fields] at managed
    split at managed
    · cases managed
    · rename_i passes
      simp only [not_or, Bool.not_eq_true, not_not, decoded] at passes
      obtain ⟨whole, source, route, msgId, flags⟩ := passes
      obtain rfl := atEnd.mpr whole
      exact ⟨m, rfl, fun canonical => decodeExact_of read ((validateRelayEntityCall_iff m).mpr
        ⟨ne_nil_of_visible source, ne_nil_of_visible route, canonical, msgId, flags⟩)⟩

end RelayProxyCallCodec

/-- A proxy call as Games send it. -/
def sampleProxyCall : RelayEntityCall :=
  ⟨text "Game0", text "Gate0", text "0F8FAD5B-d9cb-469f-a165-70867728950e", 7001, 0, [1, 2, 3]⟩

/-- A proxy call from a Game whose id is one blank. -/
def sampleBlankSource : RelayEntityCall :=
  ⟨text " ", text "Gate0", text "0f8fad5b-d9cb-469f-a165-70867728950e", 7001, 0, []⟩

/-- A proxy call that names its target without dashes. -/
def sampleCompactTarget : RelayEntityCall :=
  ⟨text "Game0", text "Gate0", text "0f8fad5bd9cb469fa16570867728950e", 7001, 0, []⟩

/-- `w` writes exactly `bs` behind what is in place. -/
def Fills (w : SpanWriter) (bs : Bytes) : Prop :=
  ∀ done rest : Bytes, bs.length ≤ rest.length →
    w ⟨done ++ rest, done.length⟩ = .ok ((), ⟨(done ++ bs) ++ rest.drop bs.length, (done ++ bs).length⟩)

theorem Fills.put (bs : Bytes) : Fills (putBytes bs) bs := by
  intro done rest room
  have fits : ¬ done.length + bs.length > (done ++ rest).length := by rw [List.length_append]; omega
  rw [putBytes, if_neg fits, overwrite_append done bs rest done.length rfl, List.length_append]

theorem Fills.seq {w w' : SpanWriter} {bs cs : Bytes} (first : Fills w bs) (next : Fills w' cs) :
    Fills (w >>= fun _ => w') (bs ++ cs) := by
  intro done rest room
  rw [List.length_append] at room
  have h := next (done ++ bs) (rest.drop bs.length) (by rw [List.length_drop]; omega)
  simp only [Bind.bind, StateT.bind, first done rest (by omega), Except.bind]
  have total : (bs ++ cs).length = bs.length + cs.length := List.length_append
  rw [h, List.drop_drop, ← List.append_assoc, total]

namespace RelayProxyCallCodec

theorem fills_string16 {value : Bytes} (short : value.length ≤ 65535) : Fills (writeString16 value) (string16 value) := by
  unfold writeString16
  rw [if_neg (by omega)]
  exact (Fills.put _).seq (Fills.put _)

theorem fills_bytes32 {value : Bytes} (short : value.length ≤ 4294967295) :
    Fills (writeBytes32 value) (bytes32 value) := by
  have back : (UInt32.ofNat value.length).toNat = value.length := by simp; omega
  have whole := (Fills.put (bigEndian 4 (UInt32.ofNat value.length).toNat)).seq (Fills.put value)
  rw [back] at whole
  unfold writeBytes32 writeUInt32
  rw [back]
  exact whole

theorem newArray_ok {n : Nat} (fits : n ≤ arrayMaxLength) : newArray (Int32.ofNat n) = .ok (List.replicate n 0) := by
  have small : n < 2 ^ 31 := by simp only [arrayMaxLength] at fits; omega
  have value : (Int32.ofNat n).toInt = n := Int32.toInt_ofNat_of_lt small
  have positive : ¬ Int32.ofNat n < 0 := by
    rw [Int32.lt_iff_toInt_lt, value]
    simp
  rw [newArray, if_neg positive, value, Int.toNat_natCast, if_neg (by omega)]

/-- What `Encode` writes. -/
theorem encode_ok {m : RelayEntityCall} (sourceVisible : isNullOrWhiteSpace m.sourceGameNodeId = false)
    (routeVisible : isNullOrWhiteSpace m.routeGateNodeId = false) (numbered : m.msgId ≠ 0) (noFlags : m.relayFlags = 0)
    (printed : IsPrintedGuid m.targetEntityId) (named : m.targetEntityId ≠ guidEmpty)
    (sourceShort : m.sourceGameNodeId.length ≤ 65535) (routeShort : m.routeGateNodeId.length ≤ 65535)
    (fits : 54 + m.sourceGameNodeId.length + m.routeGateNodeId.length + m.payload.length ≤ arrayMaxLength) :
    encode m.sourceGameNodeId m.routeGateNodeId m.targetEntityId m.msgId m.payload = .ok (entityCallBytes m) := by
  have length := isCanonicalGuidText_length printed.1
  have small : m.payload.length ≤ 4294967295 := by simp only [arrayMaxLength] at fits; omega
  have size : 2 + m.sourceGameNodeId.length + (2 + m.routeGateNodeId.length) + (2 + m.targetEntityId.length) + 4 + 4 +
      (4 + m.payload.length) = (entityCallBytes m).length := by
    simp only [entityCallBytes, string16, bytes32, List.length_append, bigEndian_length]
    omega
  have array := newArray_ok (by omega : (entityCallBytes m).length ≤ arrayMaxLength)
  have filled : Fills (writeFields m.sourceGameNodeId m.routeGateNodeId m.targetEntityId m.msgId m.payload)
      (entityCallBytes m) := by
    unfold entityCallBytes
    rw [noFlags]
    exact (fills_string16 sourceShort).seq <| (fills_string16 routeShort).seq <|
      (fills_string16 (by omega)).seq <| (Fills.put _).seq <| (Fills.put _).seq (fills_bytes32 small)
  have run := filled [] (List.replicate (entityCallBytes m).length 0) (by rw [List.length_replicate])
  simp only [List.nil_append, List.length_nil] at run
  unfold encode
  rw [if_neg (by simp [sourceVisible]), if_neg (by simp [routeVisible]), if_neg numbered, if_neg named, size, array]
  simp only [Bind.bind, Except.bind, run]
  rw [List.drop_eq_nil_of_le (by rw [List.length_replicate]), List.append_nil]

/-- **From the managed encoder to both decoders.** What `Encode` writes for a source Game
and a route Gate named by well-formed text is accepted by the native decoder with the
same fields, is what the native encoder writes for them, and is read back by the
managed decoder. -/
theorem encode_decode {source route payload : Bytes} {target : Guid} {msgId : UInt32}
    (sourceText : validUtf8 source = true) (sourceVisible : isNullOrWhiteSpace source = false)
    (sourceShort : source.length ≤ 65535) (routeText : validUtf8 route = true)
    (routeVisible : isNullOrWhiteSpace route = false) (routeShort : route.length ≤ 65535)
    (printed : IsPrintedGuid target) (named : target ≠ guidEmpty) (numbered : msgId ≠ 0)
    (fits : 54 + source.length + route.length + payload.length ≤ arrayMaxLength) :
    ∃ bytes, encode source route target msgId payload = .ok bytes ∧
      decodeRelayForwardProxyCall bytes = .ok ⟨source, route, target, msgId, 0, payload⟩ ∧
      encodeRelayForwardProxyCall ⟨source, route, target, msgId, 0, payload⟩ bytes.length = .ok bytes ∧
      tryDecode bytes = some ⟨source, route, target, msgId, payload⟩ := by
  have length := isCanonicalGuidText_length printed.1
  have small : payload.length ≤ 4294967295 := by simp only [arrayMaxLength] at fits; omega
  have valid : validateRelayEntityCall ⟨source, route, target, msgId, 0, payload⟩ = .ok () := by
    refine (validateRelayEntityCall_iff _).mpr ⟨?_, ?_, printed.1, numbered, rfl⟩
    · rintro rfl
      cases sourceVisible
    · rintro rfl
      cases routeVisible
  have bounded : RelayEntityCall.Bounded ⟨source, route, target, msgId, 0, payload⟩ :=
    ⟨sourceShort, routeShort, by simp only; omega, small⟩
  have native : decodeRelayForwardProxyCall (entityCallBytes ⟨source, route, target, msgId, 0, payload⟩) =
      .ok ⟨source, route, target, msgId, 0, payload⟩ := (reads_entityCall bounded).decodeExact valid
  have written := @encode_ok ⟨source, route, target, msgId, 0, payload⟩ sourceVisible routeVisible numbered rfl printed
    named sourceShort routeShort fits
  refine ⟨_, written, native, encodeRelayForwardProxyCall_ok valid bounded, ?_⟩
  have readable : Readable ⟨source, route, target, msgId, 0, payload⟩ := by
    refine ⟨?_, ?_, named⟩
    · simp only [utf8GetString_of_valid sourceText, sourceVisible]
    · simp only [utf8GetString_of_valid routeText, routeVisible]
  rw [tryDecode_of_native native, if_pos readable]
  simp only [envelope, utf8GetString_of_valid sourceText, utf8GetString_of_valid routeText, printed.2]

theorem encode_decode_sample :
    ∃ bytes, encode (text "Game0") (text "Gate0") (text "0f8fad5b-d9cb-469f-a165-70867728950e") 7001 [1, 2, 3] = .ok bytes ∧
      decodeRelayForwardProxyCall bytes =
        .ok ⟨text "Game0", text "Gate0", text "0f8fad5b-d9cb-469f-a165-70867728950e", 7001, 0, [1, 2, 3]⟩ ∧
      encodeRelayForwardProxyCall
          ⟨text "Game0", text "Gate0", text "0f8fad5b-d9cb-469f-a165-70867728950e", 7001, 0, [1, 2, 3]⟩ bytes.length =
        .ok bytes ∧
      tryDecode bytes =
        some ⟨text "Game0", text "Gate0", text "0f8fad5b-d9cb-469f-a165-70867728950e", 7001, [1, 2, 3]⟩ :=
  encode_decode (by decide +kernel) (by decide +kernel) (by decide +kernel) (by decide +kernel) (by decide +kernel)
    (by decide +kernel) (by decide +kernel) (by decide +kernel) (by decide) (by decide +kernel)

/-- The largest array there is, as a payload: the size of the encoding wraps around. -/
theorem encode_overflows :
    encode (text "Game0") (text "Gate0") (text "0f8fad5b-d9cb-469f-a165-70867728950e") 7001
      (List.replicate arrayMaxLength 0) = .error .overflow := by
  have source : isNullOrWhiteSpace (text "Game0") = false := by decide +kernel
  have route : isNullOrWhiteSpace (text "Gate0") = false := by decide +kernel
  have named : text "0f8fad5b-d9cb-469f-a165-70867728950e" ≠ guidEmpty := by decide +kernel
  have lengths : (text "Game0").length = 5 ∧ (text "Gate0").length = 5 ∧
      (text "0f8fad5b-d9cb-469f-a165-70867728950e").length = 36 := by decide +kernel
  have array : newArray (Int32.ofNat (2 + 5 + (2 + 5) + (2 + 36) + 4 + 4 + (4 + arrayMaxLength))) = .error .overflow := by
    decide +kernel
  unfold encode
  rw [if_neg (by simp [source]), if_neg (by simp [route]), if_neg (by decide), if_neg named, lengths.1, lengths.2.1,
    lengths.2.2, List.length_replicate, array]
  rfl

end RelayProxyCallCodec

end XServer.Managed
