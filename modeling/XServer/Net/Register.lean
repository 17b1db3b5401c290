import XServer.Net.InnerCluster

/-!
# Registration and heartbeat messages

`net/message/RegisterCodec.cpp` and `net/message/HeartbeatCodec.cpp`, with the
endpoint and load records of `InnerMessageTypes.h`.
-/

namespace XServer.Net
open XServer.Lib.Wire

/-- `Endpoint` of `InnerMessageTypes.h`. -/
structure Endpoint where
  host : Bytes
  port : UInt16
  deriving DecidableEq, Repr

/-- `LoadSnapshot`: what a node reports of its load. -/
structure LoadSnapshot where
  connectionCount : UInt32
  sessionCount : UInt32
  entityCount : UInt32
  spaceCount : UInt32
  loadScore : UInt32
  deriving DecidableEq, Repr

/-- `InnerProcessType`. -/
def innerProcessTypeGate : UInt16 := 1
def innerProcessTypeGame : UInt16 := 2

/-- `IsValidInnerProcessType`: a GM does not register. -/
def isValidInnerProcessType (processType : UInt16) : Bool :=
  processType == innerProcessTypeGate || processType == innerProcessTypeGame

/-- `RegisterCodecErrorCode`, without `None`. -/
inductive RegisterCodecErrorCode where
  | bufferTooSmall
  | lengthOverflow
  | invalidArgument
  | invalidProcessType
  | invalidProcessFlags
  | invalidNodeId
  | invalidInnerNetworkEndpointHost
  | invalidInnerNetworkEndpointPort
  | invalidHeartbeatTiming
  | tooManyCapabilityTags
  | trailingBytes
  deriving DecidableEq, Repr

/-- `MapSerializationError` of the register codec. -/
def SerializationErrorCode.toRegister : SerializationErrorCode → RegisterCodecErrorCode
  | .bufferTooSmall => .bufferTooSmall
  | .lengthOverflow => .lengthOverflow
  | .invalidArgument => .invalidArgument
  | .invalidBoolValue => .invalidArgument

/-- What a Gate or Game tells of itself when it registers. -/
structure RegisterRequest where
  processType : UInt16
  processFlags : UInt16
  nodeId : Bytes
  pid : UInt32
  startedAtUnixMs : UInt64
  innerNetworkEndpoint : Endpoint
  buildVersion : Bytes
  capabilityTags : List Bytes
  load : LoadSnapshot
  deriving DecidableEq, Repr

/-- The timing of the heartbeats that the registered node has to send. -/
structure RegisterSuccessResponse where
  heartbeatIntervalMs : UInt32
  heartbeatTimeoutMs : UInt32
  serverNowUnixMs : UInt64
  deriving DecidableEq, Repr

/-- Why the node is refused and when it may try again. -/
structure RegisterErrorResponse where
  errorCode : Int32
  retryAfterMs : UInt32
  deriving DecidableEq

/-! ## Register request -/

def registerMaxCapabilityTagCount : Nat := 32

/-- `ValidateEndpoint`: the host is looked at before the port. -/
def validateEndpoint (e : Endpoint) : Except RegisterCodecErrorCode Unit :=
  if e.host = [] then .error .invalidInnerNetworkEndpointHost
  else if e.port = 0 then .error .invalidInnerNetworkEndpointPort
  else .ok ()

def validateCapabilityTagCount (tagCount : Nat) : Except RegisterCodecErrorCode Unit :=
  if tagCount > registerMaxCapabilityTagCount then .error .tooManyCapabilityTags else .ok ()

/-- `ValidateRegisterRequest`: the checks in the order in which the source makes them. -/
def validateRegisterRequest (m : RegisterRequest) : Except RegisterCodecErrorCode Unit :=
  if !isValidInnerProcessType m.processType then .error .invalidProcessType
  else if m.processFlags ≠ 0 then .error .invalidProcessFlags
  else if m.nodeId = [] then .error .invalidNodeId
  else
    match validateEndpoint m.innerNetworkEndpoint with
    | .error e => .error e
    | .ok () => validateCapabilityTagCount m.capabilityTags.length

/-- `GetRegisterRequestWireSize`. -/
def getRegisterRequestWireSize (m : RegisterRequest) : Except RegisterCodecErrorCode Nat := do
  validateRegisterRequest m
  let nodeId ← getString16WireSize .lengthOverflow m.nodeId
  let host ← getString16WireSize .lengthOverflow m.innerNetworkEndpoint.host
  let buildVersion ← getString16WireSize .lengthOverflow m.buildVersion
  let tags ← m.capabilityTags.mapM (getString16WireSize .lengthOverflow)
  .ok (4 + nodeId + 4 + 8 + (host + 2) + buildVersion + (2 + tags.sum) + 20)

abbrev RegisterReader (α : Type) := Reader RegisterCodecErrorCode α
abbrev RegisterWriter := Lib.Wire.Writer RegisterCodecErrorCode Unit

def registerRead {α : Type} (r : BinaryReader α) : RegisterReader α :=
  r.mapError SerializationErrorCode.toRegister

def registerWrite (w : BinaryWriter) : RegisterWriter := w.mapError SerializationErrorCode.toRegister

def writeLoadSnapshot (s : LoadSnapshot) : BinaryWriter := do
  writeUInt32 s.connectionCount
  writeUInt32 s.sessionCount
  writeUInt32 s.entityCount
  writeUInt32 s.spaceCount
  writeUInt32 s.loadScore

def readLoadSnapshot : BinaryReader LoadSnapshot := do
  let connectionCount ← readUInt32
  let sessionCount ← readUInt32
  let entityCount ← readUInt32
  let spaceCount ← readUInt32
  let loadScore ← readUInt32
  pure { connectionCount, sessionCount, entityCount, spaceCount, loadScore }

def writeRegisterRequest (m : RegisterRequest) : RegisterWriter := registerWrite do
  writeUInt16 m.processType
  writeUInt16 m.processFlags
  writeString16 m.nodeId
  writeUInt32 m.pid
  writeUInt64 m.startedAtUnixMs
  writeString16 m.innerNetworkEndpoint.host
  writeUInt16 m.innerNetworkEndpoint.port
  writeString16 m.buildVersion
  writeUInt16 (UInt16.ofNat m.capabilityTags.length)
  writeMany writeString16 m.capabilityTags
  writeLoadSnapshot m.load

/-- `EncodeRegisterRequest`: the size function validates endpoint and tag count
before anything is written. -/
def encodeRegisterRequest (m : RegisterRequest) (capacity : Nat) : Except RegisterCodecErrorCode Bytes :=
  match getRegisterRequestWireSize m with
  | .error e => .error e
  | .ok wireSize =>
    if capacity < wireSize then .error .bufferTooSmall
    else encodeInto (writeRegisterRequest m) capacity

def readEndpoint : BinaryReader Endpoint := do
  let host ← readString16
  let port ← readUInt16
  pure { host, port }

/-- `DecodeCapabilityTags`: the count is checked before the tags are read. -/
def readCapabilityTags : RegisterReader (List Bytes) := do
  let tagCount ← registerRead readUInt16
  readCheck (validateCapabilityTagCount tagCount.toNat)
  readMany (registerRead readString16) tagCount.toNat

def readRegisterRequest : RegisterReader RegisterRequest := do
  let processType ← registerRead readUInt16
  let processFlags ← registerRead readUInt16
  let nodeId ← registerRead readString16
  let pid ← registerRead readUInt32
  let startedAtUnixMs ← registerRead readUInt64
  let innerNetworkEndpoint ← registerRead readEndpoint
  let buildVersion ← registerRead readString16
  let capabilityTags ← readCapabilityTags
  let load ← registerRead readLoadSnapshot
  pure {
    processType, processFlags, nodeId, pid, startedAtUnixMs, innerNetworkEndpoint, buildVersion,
    capabilityTags, load }

def decodeRegisterRequest : Bytes → Except RegisterCodecErrorCode RegisterRequest :=
  decodeExact readRegisterRequest validateRegisterRequest .trailingBytes

/-! ## Register responses -/

def registerSuccessResponseSize : Nat := 16
def registerErrorResponseSize : Nat := 8

/-- A node must be able to send a heartbeat before it is timed out. Both codecs check it, each under its own error. -/
def validateHeartbeatTiming {ε : Type} (intervalMs timeoutMs : UInt32) (e : ε) : Except ε Unit :=
  if intervalMs ≥ timeoutMs then .error e else .ok ()

def validateRegisterSuccessResponse (m : RegisterSuccessResponse) : Except RegisterCodecErrorCode Unit :=
  validateHeartbeatTiming m.heartbeatIntervalMs m.heartbeatTimeoutMs .invalidHeartbeatTiming

def writeRegisterSuccessResponse (m : RegisterSuccessResponse) : RegisterWriter := registerWrite do
  writeUInt32 m.heartbeatIntervalMs
  writeUInt32 m.heartbeatTimeoutMs
  writeUInt64 m.serverNowUnixMs

def encodeRegisterSuccessResponse (m : RegisterSuccessResponse) (capacity : Nat) :
    Except RegisterCodecErrorCode Bytes :=
  match validateRegisterSuccessResponse m with
  | .error e => .error e
  | .ok () => encodeInto (writeRegisterSuccessResponse m) capacity

def readRegisterSuccessResponse : RegisterReader RegisterSuccessResponse := registerRead do
  let heartbeatIntervalMs ← readUInt32
  let heartbeatTimeoutMs ← readUInt32
  let serverNowUnixMs ← readUInt64
  pure { heartbeatIntervalMs, heartbeatTimeoutMs, serverNowUnixMs }

def decodeRegisterSuccessResponse : Bytes → Except RegisterCodecErrorCode RegisterSuccessResponse :=
  decodeExact readRegisterSuccessResponse validateRegisterSuccessResponse .trailingBytes

/-- The error response is not validated. -/
def encodeRegisterErrorResponse (m : RegisterErrorResponse) (capacity : Nat) :
    Except RegisterCodecErrorCode Bytes :=
  encodeInto (registerWrite do writeInt32 m.errorCode; writeUInt32 m.retryAfterMs) capacity

def readRegisterErrorResponse : RegisterReader RegisterErrorResponse := registerRead do
  let errorCode ← readInt32
  let retryAfterMs ← readUInt32
  pure { errorCode, retryAfterMs }

def decodeRegisterErrorResponse : Bytes → Except RegisterCodecErrorCode RegisterErrorResponse :=
  decodeExact readRegisterErrorResponse (fun _ => .ok ()) .trailingBytes

/-! ## Heartbeat -/

/-- `HeartbeatCodecErrorCode`, without `None`. -/
inductive HeartbeatCodecErrorCode where
  | bufferTooSmall
  | lengthOverflow
  | invalidArgument
  | invalidStatusFlags
  | invalidHeartbeatTiming
  | trailingBytes
  deriving DecidableEq, Repr

/-- `MapSerializationError` of the heartbeat codec. -/
def SerializationErrorCode.toHeartbeat : SerializationErrorCode → HeartbeatCodecErrorCode
  | .bufferTooSmall => .bufferTooSmall
  | .lengthOverflow => .lengthOverflow
  | .invalidArgument => .invalidArgument
  | .invalidBoolValue => .invalidArgument

/-- A sign of life, with the load of the node. -/
structure HeartbeatRequest where
  sentAtUnixMs : UInt64
  statusFlags : UInt32
  load : LoadSnapshot
  deriving DecidableEq, Repr

/-- The answer repeats the timing of the register response. -/
structure HeartbeatSuccessResponse where
  heartbeatIntervalMs : UInt32
  heartbeatTimeoutMs : UInt32
  serverNowUnixMs : UInt64
  deriving DecidableEq, Repr

def heartbeatRequestSize : Nat := 32
def heartbeatSuccessResponseSize : Nat := 16

def validateHeartbeatRequest (m : HeartbeatRequest) : Except HeartbeatCodecErrorCode Unit :=
  validateFlags m.statusFlags .invalidStatusFlags

def validateHeartbeatSuccessResponse (m : HeartbeatSuccessResponse) : Except HeartbeatCodecErrorCode Unit :=
  validateHeartbeatTiming m.heartbeatIntervalMs m.heartbeatTimeoutMs .invalidHeartbeatTiming

def encodeHeartbeatRequest (m : HeartbeatRequest) (capacity : Nat) : Except HeartbeatCodecErrorCode Bytes :=
  match validateHeartbeatRequest m with
  | .error e => .error e
  | .ok () =>
    encodeInto (Writer.mapError SerializationErrorCode.toHeartbeat do
      writeUInt64 m.sentAtUnixMs
      writeUInt32 m.statusFlags
      writeLoadSnapshot m.load) capacity

def readHeartbeatRequest : Reader HeartbeatCodecErrorCode HeartbeatRequest :=
  Reader.mapError SerializationErrorCode.toHeartbeat do
    let sentAtUnixMs ← readUInt64
    let statusFlags ← readUInt32
    let load ← readLoadSnapshot
    pure { sentAtUnixMs, statusFlags, load }

def decodeHeartbeatRequest : Bytes → Except HeartbeatCodecErrorCode HeartbeatRequest :=
  decodeExact readHeartbeatRequest validateHeartbeatRequest .trailingBytes

def encodeHeartbeatSuccessResponse (m : HeartbeatSuccessResponse) (capacity : Nat) :
    Except HeartbeatCodecErrorCode Bytes :=
  match validateHeartbeatSuccessResponse m with
  | .error e => .error e
  | .ok () =>
    encodeInto (Writer.mapError SerializationErrorCode.toHeartbeat do
      writeUInt32 m.heartbeatIntervalMs
      writeUInt32 m.heartbeatTimeoutMs
      writeUInt64 m.serverNowUnixMs) capacity

def readHeartbeatSuccessResponse : Reader HeartbeatCodecErrorCode HeartbeatSuccessResponse :=
  Reader.mapError SerializationErrorCode.toHeartbeat do
    let heartbeatIntervalMs ← readUInt32
    let heartbeatTimeoutMs ← readUInt32
    let serverNowUnixMs ← readUInt64
    pure { heartbeatIntervalMs, heartbeatTimeoutMs, serverNowUnixMs }

def decodeHeartbeatSuccessResponse : Bytes → Except HeartbeatCodecErrorCode HeartbeatSuccessResponse :=
  decodeExact readHeartbeatSuccessResponse validateHeartbeatSuccessResponse .trailingBytes

/-! ## The register request round trip -/

/-- The five counters. -/
def loadSnapshotBytes (s : LoadSnapshot) : Bytes :=
  bigEndian 4 s.connectionCount.toNat ++ (bigEndian 4 s.sessionCount.toNat ++
    (bigEndian 4 s.entityCount.toNat ++ (bigEndian 4 s.spaceCount.toNat ++ bigEndian 4 s.loadScore.toNat)))

theorem emits_loadSnapshot (s : LoadSnapshot) : Emits (writeLoadSnapshot s) (loadSnapshotBytes s) :=
  (emits_uint32 _).seq <| (emits_uint32 _).seq <| (emits_uint32 _).seq <| (emits_uint32 _).seq (emits_uint32 _)

theorem reads_loadSnapshot (s : LoadSnapshot) : Reads readLoadSnapshot (loadSnapshotBytes s) s :=
  (reads_uint32 _).bind <| (reads_uint32 _).bind <| (reads_uint32 _).bind <| (reads_uint32 _).bind <|
    (reads_uint32 _).last rfl

/-- The bytes of a register request. -/
def registerRequestBytes (m : RegisterRequest) : Bytes :=
  bigEndian 2 m.processType.toNat ++ (bigEndian 2 m.processFlags.toNat ++ (string16 m.nodeId ++
    (bigEndian 4 m.pid.toNat ++ (bigEndian 8 m.startedAtUnixMs.toNat ++
      (string16 m.innerNetworkEndpoint.host ++ (bigEndian 2 m.innerNetworkEndpoint.port.toNat ++
        (string16 m.buildVersion ++ (bigEndian 2 (UInt16.ofNat m.capabilityTags.length).toNat ++
          (m.capabilityTags.flatMap string16 ++ loadSnapshotBytes m.load)))))))))

/-- The length limits of a request that has a wire size. -/
structure RegisterRequest.Bounded (m : RegisterRequest) : Prop where
  nodeId : m.nodeId.length ≤ 65535
  host : m.innerNetworkEndpoint.host.length ≤ 65535
  buildVersion : m.buildVersion.length ≤ 65535
  tags : ∀ t ∈ m.capabilityTags, t.length ≤ 65535
  tagCount : m.capabilityTags.length ≤ 32

theorem emits_registerRequest {m : RegisterRequest} (bounded : m.Bounded) :
    Emits (writeRegisterRequest m) (registerRequestBytes m) :=
  ((emits_uint16 _).seq <| (emits_uint16 _).seq <| (emits_string16 bounded.nodeId).seq <|
    (emits_uint32 _).seq <| (emits_uint64 _).seq <| (emits_string16 bounded.host).seq <|
      (emits_uint16 _).seq <| (emits_string16 bounded.buildVersion).seq <| (emits_uint16 _).seq <|
        (Emits.many _ fun t mem => emits_string16 (bounded.tags t mem)).seq (emits_loadSnapshot _)).mapError

/-- The count is read back, and passes the check. -/
theorem reads_capabilityTags {tags : List Bytes} (short : ∀ t ∈ tags, t.length ≤ 65535)
    (count : tags.length ≤ 32) :
    Reads readCapabilityTags (bigEndian 2 (UInt16.ofNat tags.length).toNat ++ tags.flatMap string16) tags := by
  have back : (UInt16.ofNat tags.length).toNat = tags.length := by simp; omega
  have allowed : validateCapabilityTagCount (UInt16.ofNat tags.length).toNat = .ok () := by
    rw [back, validateCapabilityTagCount, if_neg (by simp only [registerMaxCapabilityTagCount]; omega)]
  have each := Reads.many (r := registerRead readString16) (f := string16) tags
    fun t mem => (reads_string16 (short t mem)).mapError
  rw [← back] at each
  exact ((reads_uint16 _).mapError).bind ((Reads.check allowed).bind each)

theorem reads_registerRequest {m : RegisterRequest} (bounded : m.Bounded) :
    Reads readRegisterRequest (registerRequestBytes m) m := by
  have endpoint : Reads (registerRead readEndpoint)
      (string16 m.innerNetworkEndpoint.host ++ bigEndian 2 m.innerNetworkEndpoint.port.toNat)
      m.innerNetworkEndpoint :=
    ((reads_string16 bounded.host).bind <| (reads_uint16 _).last rfl).mapError
  have fields : Reads readRegisterRequest
      (bigEndian 2 m.processType.toNat ++ (bigEndian 2 m.processFlags.toNat ++ (string16 m.nodeId ++
        (bigEndian 4 m.pid.toNat ++ (bigEndian 8 m.startedAtUnixMs.toNat ++
          ((string16 m.innerNetworkEndpoint.host ++ bigEndian 2 m.innerNetworkEndpoint.port.toNat) ++
            (string16 m.buildVersion ++ ((bigEndian 2 (UInt16.ofNat m.capabilityTags.length).toNat ++
              m.capabilityTags.flatMap string16) ++ loadSnapshotBytes m.load)))))))) m :=
    (reads_uint16 _).mapError.bind <| (reads_uint16 _).mapError.bind <|
      (reads_string16 bounded.nodeId).mapError.bind <| (reads_uint32 _).mapError.bind <|
        (reads_uint64 _).mapError.bind <| endpoint.bind <| (reads_string16 bounded.buildVersion).mapError.bind <|
          (reads_capabilityTags bounded.tags bounded.tagCount).bind <| (reads_loadSnapshot _).mapError.last rfl
  simpa only [registerRequestBytes, List.append_assoc] using fields

/-- The count is checked last, so that a valid request passed it. -/
theorem validateRegisterRequest_tagCount {m : RegisterRequest} (h : validateRegisterRequest m = .ok ()) :
    m.capabilityTags.length ≤ 32 := by
  by_contra big
  have refused : validateCapabilityTagCount m.capabilityTags.length = .error .tooManyCapabilityTags := by
    rw [validateCapabilityTagCount, if_pos (by simp only [registerMaxCapabilityTagCount]; omega)]
  unfold validateRegisterRequest at h
  rw [refused] at h
  split at h
  · cases h
  split at h
  · cases h
  split at h
  · cases h
  split at h <;> cases h

/-- A request has a wire size only if it is valid and every string fits its length field. -/
theorem getRegisterRequestWireSize_ok {m : RegisterRequest} {n : Nat}
    (h : getRegisterRequestWireSize m = .ok n) :
    validateRegisterRequest m = .ok () ∧ m.Bounded ∧ n = (registerRequestBytes m).length := by
  unfold getRegisterRequestWireSize at h
  cases valid : validateRegisterRequest m with
  | error e => rw [valid] at h; cases h
  | ok u =>
  cases node : getString16WireSize RegisterCodecErrorCode.lengthOverflow m.nodeId with
  | error e => rw [valid, node] at h; cases h
  | ok nodeId =>
  cases hst : getString16WireSize RegisterCodecErrorCode.lengthOverflow m.innerNetworkEndpoint.host with
  | error e => rw [valid, node, hst] at h; cases h
  | ok host =>
  cases bld : getString16WireSize RegisterCodecErrorCode.lengthOverflow m.buildVersion with
  | error e => rw [valid, node, hst, bld] at h; cases h
  | ok buildVersion =>
  cases tgs : m.capabilityTags.mapM (getString16WireSize RegisterCodecErrorCode.lengthOverflow) with
  | error e => rw [valid, node, hst, bld, tgs] at h; cases h
  | ok tags =>
    rw [valid, node, hst, bld, tgs] at h
    cases h
    obtain ⟨nodeShort, rfl⟩ := getString16WireSize_ok node
    obtain ⟨hostShort, rfl⟩ := getString16WireSize_ok hst
    obtain ⟨buildShort, rfl⟩ := getString16WireSize_ok bld
    obtain ⟨tagsShort, sum⟩ := mapM_getString16WireSize_ok tgs
    refine ⟨rfl, ⟨nodeShort, hostShort, buildShort, tagsShort, validateRegisterRequest_tagCount valid⟩, ?_⟩
    have flat : (m.capabilityTags.flatMap string16).length = tags.sum := by
      rw [sum, List.length_flatMap]
      simp [string16]
    simp only [registerRequestBytes, List.length_append, bigEndian_length, flat, loadSnapshotBytes, string16]
    omega

/-- **Round trip.** An encoded register request decodes to itself. -/
theorem decodeRegisterRequest_encode {m : RegisterRequest} {capacity : Nat} {bytes : Bytes}
    (h : encodeRegisterRequest m capacity = .ok bytes) : decodeRegisterRequest bytes = .ok m := by
  unfold encodeRegisterRequest at h
  split at h
  · cases h
  · rename_i n size
    obtain ⟨valid, bounded, rfl⟩ := getRegisterRequestWireSize_ok size
    split at h
    · cases h
    · rename_i room
      rw [(emits_registerRequest bounded).encodeInto (by omega)] at h
      cases h
      exact (reads_registerRequest bounded).decodeExact valid

/-- A request within its limits fits any packet. -/
theorem RegisterRequest.Bounded.short {m : RegisterRequest} (bounded : m.Bounded) :
    (registerRequestBytes m).length ≤ 4294967295 := by
  have tags : ∀ tags : List Bytes, (∀ t ∈ tags, t.length ≤ 65535) → (tags.flatMap string16).length ≤ tags.length * 65537 := by
    intro tags short
    induction tags with
    | nil => exact Nat.zero_le _
    | cons t tags ih =>
      have head := short t List.mem_cons_self
      have rest := ih fun t mem => short t (List.mem_cons_of_mem _ mem)
      simp only [List.flatMap_cons, List.length_append, List.length_cons, string16, bigEndian_length]
      omega
  have all := tags m.capabilityTags bounded.tags
  have count := bounded.tagCount
  have node := bounded.nodeId
  have host := bounded.host
  have build := bounded.buildVersion
  simp only [registerRequestBytes, List.length_append, bigEndian_length, loadSnapshotBytes, string16]
  omega

/-- A request that has a wire size is encoded. -/
theorem encodeRegisterRequest_ok {m : RegisterRequest} {n : Nat} (size : getRegisterRequestWireSize m = .ok n) :
    encodeRegisterRequest m n = .ok (registerRequestBytes m) := by
  obtain ⟨-, bounded, rfl⟩ := getRegisterRequestWireSize_ok size
  unfold encodeRegisterRequest
  rw [size]
  simp only [lt_irrefl, if_false]
  exact (emits_registerRequest bounded).encodeInto (Nat.le_refl _)

/-! ## The register request format is exact -/

/-- `RegisterRequest{}`. -/
instance : Inhabited RegisterRequest where
  default :=
    { processType := 0, processFlags := 0, nodeId := [], pid := 0, startedAtUnixMs := 0,
      innerNetworkEndpoint := ⟨[], 0⟩, buildVersion := [], capabilityTags := [], load := ⟨0, 0, 0, 0, 0⟩ }

/-- `DecodeRegisterRequest` with its output argument. -/
def decodeRegisterRequestInto : Bytes → Option RegisterRequest → Option RegisterCodecErrorCode × Option RegisterRequest :=
  decodeInto readRegisterRequest validateRegisterRequest .trailingBytes .invalidArgument

theorem parses_loadSnapshot : Parses readLoadSnapshot fun s used => used = loadSnapshotBytes s := by
  refine parses_uint32.bind fun connections _ one => parses_uint32.bind fun sessions _ two =>
    parses_uint32.bind fun entities _ three => parses_uint32.bind fun spaces _ four =>
      parses_uint32.bind fun score _ five => Parses.pure ?_
  subst one two three four five
  simp [loadSnapshotBytes]

theorem parses_endpoint :
    Parses readEndpoint fun e used => used = string16 e.host ++ bigEndian 2 e.port.toNat ∧ e.host.length ≤ 65535 := by
  refine parses_string16.bind fun host _ one => parses_uint16.bind fun port _ two => Parses.pure ?_
  obtain ⟨rfl, short⟩ := one
  subst two
  exact ⟨by simp, short⟩

theorem validateCapabilityTagCount_ok {count : Nat} (h : validateCapabilityTagCount count = .ok ()) : count ≤ 32 := by
  unfold validateCapabilityTagCount at h
  split at h
  · cases h
  · simp only [registerMaxCapabilityTagCount] at *
    omega

/-- What is read as tags is the encoding of tags within the limits. -/
theorem parses_capabilityTags :
    Parses readCapabilityTags fun tags used =>
      used = bigEndian 2 (UInt16.ofNat tags.length).toNat ++ tags.flatMap string16 ∧ tags.length ≤ 32 ∧
        ∀ t ∈ tags, t.length ≤ 65535 := by
  refine parses_uint16.mapError.bind fun count _ one => (Parses.check _).bind fun _ _ two =>
    (Parses.many parses_string16.mapError _).mono fun tags _ three => ?_
  obtain ⟨rfl, allowed⟩ := two
  obtain ⟨length, rfl, short⟩ := three
  have same : UInt16.ofNat tags.length = count := by rw [length]; simp
  subst one
  refine ⟨by rw [same]; rfl, ?_, short⟩
  rw [length]
  exact validateCapabilityTagCount_ok allowed

/-- The reader accepts encodings only; the limits come with the length fields. -/
theorem parses_registerRequest :
    Parses readRegisterRequest fun m used => used = registerRequestBytes m ∧ m.Bounded := by
  refine parses_uint16.mapError.bind fun processType _ one => parses_uint16.mapError.bind fun flags _ two =>
    parses_string16.mapError.bind fun nodeId _ three => parses_uint32.mapError.bind fun pid _ four =>
      parses_uint64.mapError.bind fun startedAt _ five => parses_endpoint.mapError.bind fun endpoint _ six =>
        parses_string16.mapError.bind fun build _ seven => parses_capabilityTags.bind fun tags _ eight =>
          parses_loadSnapshot.mapError.bind fun load _ nine => Parses.pure ?_
  obtain ⟨rfl, nodeShort⟩ := three
  obtain ⟨rfl, hostShort⟩ := six
  obtain ⟨rfl, buildShort⟩ := seven
  obtain ⟨rfl, count, tagsShort⟩ := eight
  subst one two four five nine
  exact ⟨by simp [registerRequestBytes], nodeShort, hostShort, buildShort, tagsShort, count⟩

/-- A valid request within its limits has a wire size. -/
theorem getRegisterRequestWireSize_of_bounded {m : RegisterRequest} (valid : validateRegisterRequest m = .ok ())
    (bounded : m.Bounded) : getRegisterRequestWireSize m = .ok (registerRequestBytes m).length := by
  cases size : getRegisterRequestWireSize m with
  | ok n => rw [(getRegisterRequestWireSize_ok size).2.2]
  | error e =>
    rw [getRegisterRequestWireSize, valid, getString16WireSize_of_short bounded.nodeId,
      getString16WireSize_of_short bounded.host, getString16WireSize_of_short bounded.buildVersion,
      mapM_getString16WireSize_of_short bounded.tags] at size
    cases size

/-- **The register request codec.** The size function, the writer and the reader agree on
every request and every buffer. -/
theorem registerRequest_codec :
    ExactCodec getRegisterRequestWireSize encodeRegisterRequest decodeRegisterRequestInto validateRegisterRequest
      fun _ => True := by
  refine @ExactCodec.of_writing _ _ _ _ _ _ _ _ _ _ registerRequestBytes (fun m n size => ?_) (fun m n size => ?_)
    (fun m n _ size => ?_) ?_
  · obtain ⟨valid, -, length⟩ := getRegisterRequestWireSize_ok size
    exact ⟨valid, length⟩
  · exact encodeRegisterRequest_ok size
  · exact reads_registerRequest (getRegisterRequestWireSize_ok size).2.1
  · exact parses_registerRequest.mono fun m used parsed =>
      ⟨parsed.1, fun valid => ⟨trivial, getRegisterRequestWireSize_of_bounded valid parsed.2⟩⟩

/-! ## The heartbeat request round trip -/

/-- The bytes of a heartbeat request. -/
def heartbeatRequestBytes (m : HeartbeatRequest) : Bytes :=
  bigEndian 8 m.sentAtUnixMs.toNat ++ (bigEndian 4 m.statusFlags.toNat ++ loadSnapshotBytes m.load)

theorem encodeHeartbeatRequest_ok {m : HeartbeatRequest} (valid : validateHeartbeatRequest m = .ok ()) :
    encodeHeartbeatRequest m heartbeatRequestSize = .ok (heartbeatRequestBytes m) := by
  have emits := (emits_uint64 m.sentAtUnixMs).seq <| (emits_uint32 m.statusFlags).seq (emits_loadSnapshot m.load)
  unfold encodeHeartbeatRequest
  rw [valid]
  exact emits.mapError.encodeInto (by simp [loadSnapshotBytes, heartbeatRequestSize])

/-- **Round trip.** The bytes of a valid heartbeat request decode to it. -/
theorem decodeHeartbeatRequest_bytes {m : HeartbeatRequest} (valid : validateHeartbeatRequest m = .ok ()) :
    decodeHeartbeatRequest (heartbeatRequestBytes m) = .ok m := by
  have reads : Reads readHeartbeatRequest (heartbeatRequestBytes m) m :=
    ((reads_uint64 _).bind <| (reads_uint32 _).bind <| (reads_loadSnapshot _).last rfl).mapError
  exact reads.decodeExact valid

/-- The bytes of a heartbeat response. -/
def heartbeatSuccessResponseBytes (m : HeartbeatSuccessResponse) : Bytes :=
  bigEndian 4 m.heartbeatIntervalMs.toNat ++ (bigEndian 4 m.heartbeatTimeoutMs.toNat ++ bigEndian 8 m.serverNowUnixMs.toNat)

theorem encodeHeartbeatSuccessResponse_ok {m : HeartbeatSuccessResponse}
    (valid : validateHeartbeatSuccessResponse m = .ok ()) :
    encodeHeartbeatSuccessResponse m heartbeatSuccessResponseSize = .ok (heartbeatSuccessResponseBytes m) := by
  have emits := (emits_uint32 m.heartbeatIntervalMs).seq <| (emits_uint32 m.heartbeatTimeoutMs).seq
    (emits_uint64 m.serverNowUnixMs)
  unfold encodeHeartbeatSuccessResponse
  rw [valid]
  exact emits.mapError.encodeInto (by simp [heartbeatSuccessResponseSize])

end XServer.Net
