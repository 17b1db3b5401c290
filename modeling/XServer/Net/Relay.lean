import XServer.Net.InnerCluster

/-!
# Relay messages

`net/message/RelayCodec.cpp`: calls between Games and from a Game to a client,
relayed by a Gate. A forwarded proxy call and a push to a client have one
format; they differ only in what the Gate does with them.
-/

namespace XServer.Net
open XServer.Lib.Wire

/-- `RelayCodecErrorCode`, without `None`. -/
inductive RelayCodecErrorCode where
  | bufferTooSmall
  | lengthOverflow
  | invalidArgument
  | invalidSourceGameNodeId
  | invalidTargetGameNodeId
  | invalidTargetMailboxName
  | invalidRouteGateNodeId
  | invalidTargetEntityId
  | invalidMessageId
  | invalidRelayFlags
  | trailingBytes
  deriving DecidableEq, Repr

def SerializationErrorCode.toRelay : SerializationErrorCode → RelayCodecErrorCode
  | .bufferTooSmall => .bufferTooSmall
  | .lengthOverflow => .lengthOverflow
  | .invalidArgument => .invalidArgument
  | .invalidBoolValue => .invalidArgument

def relayCodecErrorMessage : RelayCodecErrorCode → Bytes
  | .bufferTooSmall => text "Buffer does not contain enough bytes for the requested relay operation."
  | .lengthOverflow => text "Relay message length exceeds the supported range."
  | .invalidArgument => text "Relay codec output argument must not be null."
  | .invalidSourceGameNodeId => text "Relay sourceGameNodeId must not be empty."
  | .invalidTargetGameNodeId => text "Relay targetGameNodeId must not be empty."
  | .invalidTargetMailboxName => text "Relay targetMailboxName must not be empty when targetEntityId is absent."
  | .invalidRouteGateNodeId => text "Relay routeGateNodeId must not be empty."
  | .invalidTargetEntityId => text "Relay targetEntityId must be a canonical GUID string."
  | .invalidMessageId => text "Relay message msgId must not be zero."
  | .invalidRelayFlags => text "Relay relayFlags must be zero."
  | .trailingBytes => text "Relay buffer must not contain trailing bytes."

/-! ## GUID texts -/

/-- `std::isxdigit` in the "C" locale. -/
def isHexDigit (ch : UInt8) : Bool :=
  (decide (48 ≤ ch) && decide (ch ≤ 57)) || (decide (65 ≤ ch) && decide (ch ≤ 70)) ||
    (decide (97 ≤ ch) && decide (ch ≤ 102))

/-- Where a canonical GUID text has its dashes. -/
def isDashIndex (index : Nat) : Bool := index == 8 || index == 13 || index == 18 || index == 23

/-- `IsCanonicalGuidText`: hex digits of either case, dashes in their places. -/
def isCanonicalGuidText (value : Bytes) : Bool :=
  decide (value.length = 36) &&
    (value.zipIdx.all fun (ch, index) => if isDashIndex index then ch == 45 else isHexDigit ch)

theorem isHexDigit_ascii {ch : UInt8} (h : isHexDigit ch = true) : ch < 0x80 := by
  simp only [isHexDigit, Bool.or_eq_true, Bool.and_eq_true, decide_eq_true_eq, UInt8.le_iff_toNat_le,
    UInt8.reduceToNat] at h
  rw [UInt8.lt_iff_toNat_lt]
  simp only [UInt8.reduceToNat]
  omega

/-- A canonical text is plain ASCII. -/
theorem isCanonicalGuidText_ascii {value : Bytes} (h : isCanonicalGuidText value = true) : ∀ ch ∈ value, ch < 0x80 := by
  intro ch mem
  obtain ⟨i, at_⟩ := List.mem_iff_getElem?.mp mem
  have each := List.all_eq_true.mp (Bool.and_eq_true_iff.mp h).2 (ch, i) (List.mk_mem_zipIdx_iff_getElem?.mpr at_)
  simp only at each
  split at each
  · rw [beq_iff_eq.mp each]
    decide
  · exact isHexDigit_ascii each

/-! ## Messages -/

structure RelayForwardMailboxCall where
  sourceGameNodeId : Bytes
  targetGameNodeId : Bytes
  targetEntityId : Bytes
  targetMailboxName : Bytes
  mailboxCallMsgId : UInt32
  relayFlags : UInt32
  payload : Bytes
  deriving DecidableEq, Repr

/-- `RelayForwardProxyCall` and `RelayPushToClient`; `msgId` is
`proxy_call_msg_id` in the one and `client_msg_id` in the other. -/
structure RelayEntityCall where
  sourceGameNodeId : Bytes
  routeGateNodeId : Bytes
  targetEntityId : Bytes
  msgId : UInt32
  relayFlags : UInt32
  payload : Bytes
  deriving DecidableEq, Repr

def validateRelayForwardMailboxCall (m : RelayForwardMailboxCall) : Except RelayCodecErrorCode Unit :=
  if m.sourceGameNodeId = [] then .error .invalidSourceGameNodeId
  else if m.targetGameNodeId = [] then .error .invalidTargetGameNodeId
  else if m.targetEntityId ≠ [] ∧ isCanonicalGuidText m.targetEntityId = false then .error .invalidTargetEntityId
  else if m.targetMailboxName = [] ∧ m.targetEntityId = [] then .error .invalidTargetMailboxName
  else if m.mailboxCallMsgId = 0 then .error .invalidMessageId
  else if m.relayFlags ≠ 0 then .error .invalidRelayFlags
  else .ok ()

/-- `ValidateRelayForwardProxyCall`, `ValidateRelayPushToClient`. -/
def validateRelayEntityCall (m : RelayEntityCall) : Except RelayCodecErrorCode Unit :=
  if m.sourceGameNodeId = [] then .error .invalidSourceGameNodeId
  else if m.routeGateNodeId = [] then .error .invalidRouteGateNodeId
  else if isCanonicalGuidText m.targetEntityId = false then .error .invalidTargetEntityId
  else if m.msgId = 0 then .error .invalidMessageId
  else if m.relayFlags ≠ 0 then .error .invalidRelayFlags
  else .ok ()

/-! ## Codecs -/

def readRelayForwardMailboxCall : Reader RelayCodecErrorCode RelayForwardMailboxCall :=
  Reader.mapError SerializationErrorCode.toRelay do
    let sourceGameNodeId ← readString16
    let targetGameNodeId ← readString16
    let targetEntityId ← readString16
    let targetMailboxName ← readString16
    let mailboxCallMsgId ← readUInt32
    let relayFlags ← readUInt32
    let payload ← readLengthPrefixedBytes32
    pure {
      sourceGameNodeId, targetGameNodeId, targetEntityId, targetMailboxName, mailboxCallMsgId, relayFlags, payload }

def decodeRelayForwardMailboxCall : Bytes → Except RelayCodecErrorCode RelayForwardMailboxCall :=
  decodeExact readRelayForwardMailboxCall validateRelayForwardMailboxCall .trailingBytes

def readRelayEntityCall : Reader RelayCodecErrorCode RelayEntityCall :=
  Reader.mapError SerializationErrorCode.toRelay do
    let sourceGameNodeId ← readString16
    let routeGateNodeId ← readString16
    let targetEntityId ← readString16
    let msgId ← readUInt32
    let relayFlags ← readUInt32
    let payload ← readLengthPrefixedBytes32
    pure { sourceGameNodeId, routeGateNodeId, targetEntityId, msgId, relayFlags, payload }

def decodeRelayEntityCall : Bytes → Except RelayCodecErrorCode RelayEntityCall :=
  decodeExact readRelayEntityCall validateRelayEntityCall .trailingBytes

def decodeRelayForwardProxyCall : Bytes → Except RelayCodecErrorCode RelayEntityCall := decodeRelayEntityCall

def decodeRelayPushToClient : Bytes → Except RelayCodecErrorCode RelayEntityCall := decodeRelayEntityCall

/-- `GetRelayForwardProxyCallWireSize`. -/
def getRelayForwardProxyCallWireSize (m : RelayEntityCall) : Except RelayCodecErrorCode Nat := do
  validateRelayEntityCall m
  let source ← getString16WireSize .lengthOverflow m.sourceGameNodeId
  let route ← getString16WireSize .lengthOverflow m.routeGateNodeId
  let target ← getString16WireSize .lengthOverflow m.targetEntityId
  if m.payload.length > 4294967295 then .error .lengthOverflow
  else .ok (source + route + target + (12 + m.payload.length))

def encodeRelayForwardProxyCall (m : RelayEntityCall) (capacity : Nat) : Except RelayCodecErrorCode Bytes :=
  match validateRelayEntityCall m with
  | .error e => .error e
  | .ok () =>
    encodeInto (Writer.mapError SerializationErrorCode.toRelay do
      writeString16 m.sourceGameNodeId
      writeString16 m.routeGateNodeId
      writeString16 m.targetEntityId
      writeUInt32 m.msgId
      writeUInt32 m.relayFlags
      writeLengthPrefixedBytes32 m.payload) capacity

/-! ## The relay formats are exact -/

/-- `GetRelayForwardMailboxCallWireSize`. -/
def getRelayForwardMailboxCallWireSize (m : RelayForwardMailboxCall) : Except RelayCodecErrorCode Nat := do
  validateRelayForwardMailboxCall m
  let source ← getString16WireSize .lengthOverflow m.sourceGameNodeId
  let target ← getString16WireSize .lengthOverflow m.targetGameNodeId
  let entity ← getString16WireSize .lengthOverflow m.targetEntityId
  let mailbox ← getString16WireSize .lengthOverflow m.targetMailboxName
  if m.payload.length > 4294967295 then .error .lengthOverflow
  else .ok (source + target + entity + mailbox + (12 + m.payload.length))

def encodeRelayForwardMailboxCall (m : RelayForwardMailboxCall) (capacity : Nat) : Except RelayCodecErrorCode Bytes :=
  match validateRelayForwardMailboxCall m with
  | .error e => .error e
  | .ok () =>
    encodeInto (Writer.mapError SerializationErrorCode.toRelay do
      writeString16 m.sourceGameNodeId
      writeString16 m.targetGameNodeId
      writeString16 m.targetEntityId
      writeString16 m.targetMailboxName
      writeUInt32 m.mailboxCallMsgId
      writeUInt32 m.relayFlags
      writeLengthPrefixedBytes32 m.payload) capacity

def getRelayPushToClientWireSize : RelayEntityCall → Except RelayCodecErrorCode Nat := getRelayForwardProxyCallWireSize

def encodeRelayPushToClient : RelayEntityCall → Nat → Except RelayCodecErrorCode Bytes := encodeRelayForwardProxyCall

/-- `RelayForwardMailboxCall{}`. -/
instance : Inhabited RelayForwardMailboxCall where
  default :=
    { sourceGameNodeId := [], targetGameNodeId := [], targetEntityId := [], targetMailboxName := [],
      mailboxCallMsgId := 0, relayFlags := 0, payload := [] }

/-- `RelayForwardProxyCall{}`, `RelayPushToClient{}`. -/
instance : Inhabited RelayEntityCall where
  default :=
    { sourceGameNodeId := [], routeGateNodeId := [], targetEntityId := [], msgId := 0, relayFlags := 0, payload := [] }

/-- `DecodeRelayForwardMailboxCall` with its output argument. -/
def decodeRelayForwardMailboxCallInto : Bytes → Option RelayForwardMailboxCall →
    Option RelayCodecErrorCode × Option RelayForwardMailboxCall :=
  decodeInto readRelayForwardMailboxCall validateRelayForwardMailboxCall .trailingBytes .invalidArgument

/-- `DecodeRelayForwardProxyCall` with its output argument. -/
def decodeRelayForwardProxyCallInto : Bytes → Option RelayEntityCall → Option RelayCodecErrorCode × Option RelayEntityCall :=
  decodeInto readRelayEntityCall validateRelayEntityCall .trailingBytes .invalidArgument

/-- `DecodeRelayPushToClient` with its output argument. -/
def decodeRelayPushToClientInto : Bytes → Option RelayEntityCall → Option RelayCodecErrorCode × Option RelayEntityCall :=
  decodeRelayForwardProxyCallInto

/-- The bytes of a mailbox call. -/
def mailboxCallBytes (m : RelayForwardMailboxCall) : Bytes :=
  string16 m.sourceGameNodeId ++ (string16 m.targetGameNodeId ++ (string16 m.targetEntityId ++
    (string16 m.targetMailboxName ++ (bigEndian 4 m.mailboxCallMsgId.toNat ++ (bigEndian 4 m.relayFlags.toNat ++
      bytes32 m.payload)))))

/-- The bytes of a proxy call or a push. -/
def entityCallBytes (m : RelayEntityCall) : Bytes :=
  string16 m.sourceGameNodeId ++ (string16 m.routeGateNodeId ++ (string16 m.targetEntityId ++
    (bigEndian 4 m.msgId.toNat ++ (bigEndian 4 m.relayFlags.toNat ++ bytes32 m.payload))))

/-- The length limits of a mailbox call that has a wire size. -/
structure RelayForwardMailboxCall.Bounded (m : RelayForwardMailboxCall) : Prop where
  source : m.sourceGameNodeId.length ≤ 65535
  target : m.targetGameNodeId.length ≤ 65535
  entity : m.targetEntityId.length ≤ 65535
  mailbox : m.targetMailboxName.length ≤ 65535
  payload : m.payload.length ≤ 4294967295

/-- The length limits of an entity call that has a wire size. -/
structure RelayEntityCall.Bounded (m : RelayEntityCall) : Prop where
  source : m.sourceGameNodeId.length ≤ 65535
  route : m.routeGateNodeId.length ≤ 65535
  entity : m.targetEntityId.length ≤ 65535
  payload : m.payload.length ≤ 4294967295

theorem reads_mailboxCall {m : RelayForwardMailboxCall} (bounded : m.Bounded) :
    Reads readRelayForwardMailboxCall (mailboxCallBytes m) m :=
  ((reads_string16 bounded.source).bind <| (reads_string16 bounded.target).bind <| (reads_string16 bounded.entity).bind <|
    (reads_string16 bounded.mailbox).bind <| (reads_uint32 _).bind <| (reads_uint32 _).bind <|
      (reads_bytes32 bounded.payload).last rfl).mapError

theorem reads_entityCall {m : RelayEntityCall} (bounded : m.Bounded) : Reads readRelayEntityCall (entityCallBytes m) m :=
  ((reads_string16 bounded.source).bind <| (reads_string16 bounded.route).bind <| (reads_string16 bounded.entity).bind <|
    (reads_uint32 _).bind <| (reads_uint32 _).bind <| (reads_bytes32 bounded.payload).last rfl).mapError

theorem parses_mailboxCall :
    Parses readRelayForwardMailboxCall fun m used => used = mailboxCallBytes m ∧ m.Bounded := by
  refine (parses_string16.bind fun source _ one => parses_string16.bind fun target _ two =>
    parses_string16.bind fun entity _ three => parses_string16.bind fun mailbox _ four =>
      parses_uint32.bind fun msgId _ five => parses_uint32.bind fun flags _ six =>
        parses_bytes32.bind fun payload _ seven => Parses.pure ?_).mapError
  obtain ⟨rfl, sourceShort⟩ := one
  obtain ⟨rfl, targetShort⟩ := two
  obtain ⟨rfl, entityShort⟩ := three
  obtain ⟨rfl, mailboxShort⟩ := four
  obtain ⟨rfl, payloadShort⟩ := seven
  subst five six
  exact ⟨by simp [mailboxCallBytes], sourceShort, targetShort, entityShort, mailboxShort, payloadShort⟩

theorem parses_entityCall : Parses readRelayEntityCall fun m used => used = entityCallBytes m ∧ m.Bounded := by
  refine (parses_string16.bind fun source _ one => parses_string16.bind fun route _ two =>
    parses_string16.bind fun entity _ three => parses_uint32.bind fun msgId _ four =>
      parses_uint32.bind fun flags _ five => parses_bytes32.bind fun payload _ six => Parses.pure ?_).mapError
  obtain ⟨rfl, sourceShort⟩ := one
  obtain ⟨rfl, routeShort⟩ := two
  obtain ⟨rfl, entityShort⟩ := three
  obtain ⟨rfl, payloadShort⟩ := six
  subst four five
  exact ⟨by simp [entityCallBytes], sourceShort, routeShort, entityShort, payloadShort⟩

/-- What an accepted size says about a mailbox call. -/
theorem getRelayForwardMailboxCallWireSize_ok {m : RelayForwardMailboxCall} {n : Nat}
    (h : getRelayForwardMailboxCallWireSize m = .ok n) :
    validateRelayForwardMailboxCall m = .ok () ∧ m.Bounded ∧ n = (mailboxCallBytes m).length := by
  unfold getRelayForwardMailboxCallWireSize at h
  cases valid : validateRelayForwardMailboxCall m with
  | error e => rw [valid] at h; cases h
  | ok u =>
  cases src : getString16WireSize RelayCodecErrorCode.lengthOverflow m.sourceGameNodeId with
  | error e => rw [valid, src] at h; cases h
  | ok source =>
  cases tgt : getString16WireSize RelayCodecErrorCode.lengthOverflow m.targetGameNodeId with
  | error e => rw [valid, src, tgt] at h; cases h
  | ok target =>
  cases ent : getString16WireSize RelayCodecErrorCode.lengthOverflow m.targetEntityId with
  | error e => rw [valid, src, tgt, ent] at h; cases h
  | ok entity =>
  cases box : getString16WireSize RelayCodecErrorCode.lengthOverflow m.targetMailboxName with
  | error e => rw [valid, src, tgt, ent, box] at h; cases h
  | ok mailbox =>
    rw [valid, src, tgt, ent, box] at h
    by_cases long : m.payload.length > 4294967295
    · simp [Bind.bind, Except.bind, long] at h
    · simp only [Bind.bind, Except.bind, if_neg long] at h
      cases h
      obtain ⟨sourceShort, rfl⟩ := getString16WireSize_ok src
      obtain ⟨targetShort, rfl⟩ := getString16WireSize_ok tgt
      obtain ⟨entityShort, rfl⟩ := getString16WireSize_ok ent
      obtain ⟨mailboxShort, rfl⟩ := getString16WireSize_ok box
      refine ⟨rfl, ⟨sourceShort, targetShort, entityShort, mailboxShort, by omega⟩, ?_⟩
      simp only [mailboxCallBytes, string16, bytes32, List.length_append, bigEndian_length]
      omega

/-- What an accepted size says about a proxy call or a push. -/
theorem getRelayForwardProxyCallWireSize_ok {m : RelayEntityCall} {n : Nat}
    (h : getRelayForwardProxyCallWireSize m = .ok n) :
    validateRelayEntityCall m = .ok () ∧ m.Bounded ∧ n = (entityCallBytes m).length := by
  unfold getRelayForwardProxyCallWireSize at h
  cases valid : validateRelayEntityCall m with
  | error e => rw [valid] at h; cases h
  | ok u =>
  cases src : getString16WireSize RelayCodecErrorCode.lengthOverflow m.sourceGameNodeId with
  | error e => rw [valid, src] at h; cases h
  | ok source =>
  cases rte : getString16WireSize RelayCodecErrorCode.lengthOverflow m.routeGateNodeId with
  | error e => rw [valid, src, rte] at h; cases h
  | ok route =>
  cases ent : getString16WireSize RelayCodecErrorCode.lengthOverflow m.targetEntityId with
  | error e => rw [valid, src, rte, ent] at h; cases h
  | ok entity =>
    rw [valid, src, rte, ent] at h
    by_cases long : m.payload.length > 4294967295
    · simp [Bind.bind, Except.bind, long] at h
    · simp only [Bind.bind, Except.bind, if_neg long] at h
      cases h
      obtain ⟨sourceShort, rfl⟩ := getString16WireSize_ok src
      obtain ⟨routeShort, rfl⟩ := getString16WireSize_ok rte
      obtain ⟨entityShort, rfl⟩ := getString16WireSize_ok ent
      refine ⟨rfl, ⟨sourceShort, routeShort, entityShort, by omega⟩, ?_⟩
      simp only [entityCallBytes, string16, bytes32, List.length_append, bigEndian_length]
      omega

/-- A valid mailbox call within its limits has a wire size. -/
theorem getRelayForwardMailboxCallWireSize_of_bounded {m : RelayForwardMailboxCall}
    (valid : validateRelayForwardMailboxCall m = .ok ()) (bounded : m.Bounded) :
    getRelayForwardMailboxCallWireSize m = .ok (mailboxCallBytes m).length := by
  cases size : getRelayForwardMailboxCallWireSize m with
  | ok n => rw [(getRelayForwardMailboxCallWireSize_ok size).2.2]
  | error e =>
    have short : ¬ m.payload.length > 4294967295 := by have := bounded.payload; omega
    rw [getRelayForwardMailboxCallWireSize, valid, getString16WireSize_of_short bounded.source,
      getString16WireSize_of_short bounded.target, getString16WireSize_of_short bounded.entity,
      getString16WireSize_of_short bounded.mailbox] at size
    simp only [Bind.bind, Except.bind, if_neg short] at size
    cases size

/-- A valid proxy call or push within its limits has a wire size. -/
theorem getRelayForwardProxyCallWireSize_of_bounded {m : RelayEntityCall}
    (valid : validateRelayEntityCall m = .ok ()) (bounded : m.Bounded) :
    getRelayForwardProxyCallWireSize m = .ok (entityCallBytes m).length := by
  cases size : getRelayForwardProxyCallWireSize m with
  | ok n => rw [(getRelayForwardProxyCallWireSize_ok size).2.2]
  | error e =>
    have short : ¬ m.payload.length > 4294967295 := by have := bounded.payload; omega
    rw [getRelayForwardProxyCallWireSize, valid, getString16WireSize_of_short bounded.source,
      getString16WireSize_of_short bounded.route, getString16WireSize_of_short bounded.entity] at size
    simp only [Bind.bind, Except.bind, if_neg short] at size
    cases size

theorem encodeRelayForwardMailboxCall_ok {m : RelayForwardMailboxCall} (valid : validateRelayForwardMailboxCall m = .ok ())
    (bounded : m.Bounded) : encodeRelayForwardMailboxCall m (mailboxCallBytes m).length = .ok (mailboxCallBytes m) := by
  have emits := (emits_string16 bounded.source).seq <| (emits_string16 bounded.target).seq <|
    (emits_string16 bounded.entity).seq <| (emits_string16 bounded.mailbox).seq <| (emits_uint32 m.mailboxCallMsgId).seq <|
      (emits_uint32 m.relayFlags).seq (emits_bytes32 bounded.payload)
  unfold encodeRelayForwardMailboxCall
  rw [valid]
  exact emits.mapError.encodeInto (Nat.le_refl _)

theorem encodeRelayForwardProxyCall_ok {m : RelayEntityCall} (valid : validateRelayEntityCall m = .ok ())
    (bounded : m.Bounded) : encodeRelayForwardProxyCall m (entityCallBytes m).length = .ok (entityCallBytes m) := by
  have emits := (emits_string16 bounded.source).seq <| (emits_string16 bounded.route).seq <|
    (emits_string16 bounded.entity).seq <| (emits_uint32 m.msgId).seq <| (emits_uint32 m.relayFlags).seq
      (emits_bytes32 bounded.payload)
  unfold encodeRelayForwardProxyCall
  rw [valid]
  exact emits.mapError.encodeInto (Nat.le_refl _)

theorem mailboxCall_exact :
    ExactCodec getRelayForwardMailboxCallWireSize encodeRelayForwardMailboxCall decodeRelayForwardMailboxCallInto
      validateRelayForwardMailboxCall fun _ => True := by
  refine @ExactCodec.of_writing _ _ _ _ _ _ _ _ _ _ mailboxCallBytes (fun m n size => ?_) (fun m n size => ?_)
    (fun m n _ size => ?_) ?_
  · obtain ⟨valid, -, length⟩ := getRelayForwardMailboxCallWireSize_ok size
    exact ⟨valid, length⟩
  · obtain ⟨valid, bounded, rfl⟩ := getRelayForwardMailboxCallWireSize_ok size
    exact encodeRelayForwardMailboxCall_ok valid bounded
  · exact reads_mailboxCall (getRelayForwardMailboxCallWireSize_ok size).2.1
  · exact parses_mailboxCall.mono fun m used parsed =>
      ⟨parsed.1, fun valid => ⟨trivial, getRelayForwardMailboxCallWireSize_of_bounded valid parsed.2⟩⟩

theorem entityCall_exact :
    ExactCodec getRelayForwardProxyCallWireSize encodeRelayForwardProxyCall decodeRelayForwardProxyCallInto
      validateRelayEntityCall fun _ => True := by
  refine @ExactCodec.of_writing _ _ _ _ _ _ _ _ _ _ entityCallBytes (fun m n size => ?_) (fun m n size => ?_)
    (fun m n _ size => ?_) ?_
  · obtain ⟨valid, -, length⟩ := getRelayForwardProxyCallWireSize_ok size
    exact ⟨valid, length⟩
  · obtain ⟨valid, bounded, rfl⟩ := getRelayForwardProxyCallWireSize_ok size
    exact encodeRelayForwardProxyCall_ok valid bounded
  · exact reads_entityCall (getRelayForwardProxyCallWireSize_ok size).2.1
  · exact parses_entityCall.mono fun m used parsed =>
      ⟨parsed.1, fun valid => ⟨trivial, getRelayForwardProxyCallWireSize_of_bounded valid parsed.2⟩⟩

/-- **The relay codecs.** For the three relayed messages, the size function, the writer,
the reader and the validator agree on every message and every buffer. -/
theorem relay_codecs :
    ExactCodec getRelayForwardMailboxCallWireSize encodeRelayForwardMailboxCall decodeRelayForwardMailboxCallInto
        validateRelayForwardMailboxCall (fun _ => True) ∧
      ExactCodec getRelayForwardProxyCallWireSize encodeRelayForwardProxyCall decodeRelayForwardProxyCallInto
        validateRelayEntityCall (fun _ => True) ∧
      ExactCodec getRelayPushToClientWireSize encodeRelayPushToClient decodeRelayPushToClientInto
        validateRelayEntityCall fun _ => True :=
  ⟨mailboxCall_exact, entityCall_exact, entityCall_exact⟩

/-- An accepted call names a canonical entity id. -/
theorem decodeRelayEntityCall_valid {bytes : Bytes} {m : RelayEntityCall} (h : decodeRelayEntityCall bytes = .ok m) :
    isCanonicalGuidText m.targetEntityId = true := by
  have valid := (decodeExact_ok h).2
  unfold validateRelayEntityCall at valid
  split at valid
  · cases valid
  split at valid
  · cases valid
  split at valid
  · cases valid
  · rename_i canonical
    simpa using canonical

end XServer.Net
