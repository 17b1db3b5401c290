import XServer.Net.Register

/-!
# Messages of fixed size

The seven inner messages without strings or lists: the heartbeat request and its
response, the two register responses, and the three cluster notices. Each has a
size constant of its own beside its encoder and decoder; here the three are
compared. `FixedCodec` is what they should satisfy, and every message is one use
of `FixedCodec.of_fields` with the bytes of its fields.
-/

namespace XServer.Net
open XServer.Lib.Wire

/-! ## Heartbeat -/

/-- For every message, the writer emits its bytes (`emits_`), the reader reads them back (`reads_`), and the reader accepts nothing
else (`parses_`). -/
theorem emits_heartbeatRequest (m : HeartbeatRequest) :
    Emits (Writer.mapError SerializationErrorCode.toHeartbeat do
      writeUInt64 m.sentAtUnixMs
      writeUInt32 m.statusFlags
      writeLoadSnapshot m.load) (heartbeatRequestBytes m) :=
  ((emits_uint64 _).seq <| (emits_uint32 _).seq (emits_loadSnapshot _)).mapError

theorem reads_heartbeatRequest (m : HeartbeatRequest) : Reads readHeartbeatRequest (heartbeatRequestBytes m) m :=
  ((reads_uint64 _).bind <| (reads_uint32 _).bind <| (reads_loadSnapshot _).last rfl).mapError

theorem parses_heartbeatRequest : Parses readHeartbeatRequest fun m used => used = heartbeatRequestBytes m := by
  refine (parses_uint64.bind fun sentAt _ one => parses_uint32.bind fun flags _ two =>
    parses_loadSnapshot.bind fun load _ three => Parses.pure ?_).mapError
  subst one two three
  simp [heartbeatRequestBytes]

/-- The encoder validates, and writes the fields if that succeeds. -/
theorem encodeHeartbeatRequest_exact (m : HeartbeatRequest) (capacity : Nat) :
    encodeHeartbeatRequest m capacity = encodeExact validateHeartbeatRequest
      (fun m => Writer.mapError SerializationErrorCode.toHeartbeat do
        writeUInt64 m.sentAtUnixMs
        writeUInt32 m.statusFlags
        writeLoadSnapshot m.load) m capacity := by
  unfold encodeHeartbeatRequest encodeExact
  cases validateHeartbeatRequest m <;> rfl

/-- Thirty-two bytes: the time, the flags and five counters. -/
theorem heartbeatRequest_fixed : FixedCodec encodeHeartbeatRequest decodeHeartbeatRequest heartbeatRequestSize := by
  refine FixedCodec.of_fields encodeHeartbeatRequest_exact emits_heartbeatRequest
    reads_heartbeatRequest parses_heartbeatRequest fun m => ?_
  simp [heartbeatRequestBytes, loadSnapshotBytes, heartbeatRequestSize]

theorem emits_heartbeatSuccessResponse (m : HeartbeatSuccessResponse) :
    Emits (Writer.mapError SerializationErrorCode.toHeartbeat do
      writeUInt32 m.heartbeatIntervalMs
      writeUInt32 m.heartbeatTimeoutMs
      writeUInt64 m.serverNowUnixMs) (heartbeatSuccessResponseBytes m) :=
  ((emits_uint32 _).seq <| (emits_uint32 _).seq (emits_uint64 _)).mapError

theorem reads_heartbeatSuccessResponse (m : HeartbeatSuccessResponse) :
    Reads readHeartbeatSuccessResponse (heartbeatSuccessResponseBytes m) m :=
  ((reads_uint32 _).bind <| (reads_uint32 _).bind <| (reads_uint64 _).last rfl).mapError

theorem parses_heartbeatSuccessResponse :
    Parses readHeartbeatSuccessResponse fun m used => used = heartbeatSuccessResponseBytes m := by
  refine (parses_uint32.bind fun interval _ one => parses_uint32.bind fun timeout _ two =>
    parses_uint64.bind fun now _ three => Parses.pure ?_).mapError
  subst one two three
  simp [heartbeatSuccessResponseBytes]

theorem encodeHeartbeatSuccessResponse_exact (m : HeartbeatSuccessResponse) (capacity : Nat) :
    encodeHeartbeatSuccessResponse m capacity = encodeExact validateHeartbeatSuccessResponse
      (fun m => Writer.mapError SerializationErrorCode.toHeartbeat do
        writeUInt32 m.heartbeatIntervalMs
        writeUInt32 m.heartbeatTimeoutMs
        writeUInt64 m.serverNowUnixMs) m capacity := by
  unfold encodeHeartbeatSuccessResponse encodeExact
  cases validateHeartbeatSuccessResponse m <;> rfl

/-- Sixteen bytes. A response whose timeout is not above its interval has no encoding. -/
theorem heartbeatSuccessResponse_fixed :
    FixedCodec encodeHeartbeatSuccessResponse decodeHeartbeatSuccessResponse heartbeatSuccessResponseSize := by
  refine FixedCodec.of_fields encodeHeartbeatSuccessResponse_exact emits_heartbeatSuccessResponse
    reads_heartbeatSuccessResponse parses_heartbeatSuccessResponse fun m => ?_
  simp [heartbeatSuccessResponseBytes, heartbeatSuccessResponseSize]

/-! ## Cluster notices -/

/-- The encoders of the cluster notices share their validation and writing. -/
theorem encodeValidated_exact {α : Type} (validate : α → Except InnerClusterCodecErrorCode Unit)
    (write : α → ClusterWriter) (m : α) (capacity : Nat) :
    encodeValidated validate write m capacity = encodeExact validate write m capacity := by
  unfold encodeValidated encodeExact
  cases validate m <;> rfl

/-- The bytes of a nodes-online notice. -/
def clusterNodesOnlineNotifyBytes (m : ClusterNodesOnlineNotify) : Bytes :=
  [if m.allNodesOnline then 1 else 0] ++ (bigEndian 4 m.statusFlags.toNat ++ bigEndian 8 m.serverNowUnixMs.toNat)

theorem emits_clusterNodesOnlineNotify (m : ClusterNodesOnlineNotify) :
    Emits (writeClusterNodesOnlineNotify m) (clusterNodesOnlineNotifyBytes m) :=
  ((emits_bool _).seq <| (emits_uint32 _).seq (emits_uint64 _)).mapError

theorem reads_clusterNodesOnlineNotify (m : ClusterNodesOnlineNotify) :
    Reads readClusterNodesOnlineNotify (clusterNodesOnlineNotifyBytes m) m :=
  ((reads_bool _).bind <| (reads_uint32 _).bind <| (reads_uint64 _).last rfl).mapError

theorem parses_clusterNodesOnlineNotify :
    Parses readClusterNodesOnlineNotify fun m used => used = clusterNodesOnlineNotifyBytes m := by
  refine (parses_bool.bind fun online _ one => parses_uint32.bind fun flags _ two =>
    parses_uint64.bind fun now _ three => Parses.pure ?_).mapError
  subst one two three
  simp [clusterNodesOnlineNotifyBytes]

/-- Thirteen bytes, the first of them a bool: 2 and above are refused. -/
theorem clusterNodesOnlineNotify_fixed :
    FixedCodec encodeClusterNodesOnlineNotify decodeClusterNodesOnlineNotify clusterNodesOnlineNotifySize := by
  refine FixedCodec.of_fields (encodeValidated_exact _ _) emits_clusterNodesOnlineNotify
    reads_clusterNodesOnlineNotify parses_clusterNodesOnlineNotify fun m => ?_
  simp [clusterNodesOnlineNotifyBytes, clusterNodesOnlineNotifySize]

/-- The bytes of a mesh-ready report. -/
def gameGateMeshReadyReportBytes (m : GameGateMeshReadyReport) : Bytes :=
  bigEndian 4 m.statusFlags.toNat ++ bigEndian 8 m.reportedAtUnixMs.toNat

theorem emits_gameGateMeshReadyReport (m : GameGateMeshReadyReport) :
    Emits (writeGameGateMeshReadyReport m) (gameGateMeshReadyReportBytes m) :=
  ((emits_uint32 _).seq (emits_uint64 _)).mapError

theorem reads_gameGateMeshReadyReport (m : GameGateMeshReadyReport) :
    Reads readGameGateMeshReadyReport (gameGateMeshReadyReportBytes m) m :=
  ((reads_uint32 _).bind <| (reads_uint64 _).last rfl).mapError

theorem parses_gameGateMeshReadyReport :
    Parses readGameGateMeshReadyReport fun m used => used = gameGateMeshReadyReportBytes m := by
  refine (parses_uint32.bind fun flags _ one => parses_uint64.bind fun reportedAt _ two => Parses.pure ?_).mapError
  subst one two
  simp [gameGateMeshReadyReportBytes]

/-- Twelve bytes; the report says nothing but that and when the mesh became ready. -/
theorem gameGateMeshReadyReport_fixed :
    FixedCodec encodeGameGateMeshReadyReport decodeGameGateMeshReadyReport gameGateMeshReadyReportSize := by
  refine FixedCodec.of_fields (encodeValidated_exact _ _) emits_gameGateMeshReadyReport
    reads_gameGateMeshReadyReport parses_gameGateMeshReadyReport fun m => ?_
  simp [gameGateMeshReadyReportBytes, gameGateMeshReadyReportSize]

/-- The bytes of a cluster-ready notice. -/
def clusterReadyNotifyBytes (m : ClusterReadyNotify) : Bytes :=
  bigEndian 8 m.readyEpoch.toNat ++ ([if m.clusterReady then 1 else 0] ++
    (bigEndian 4 m.statusFlags.toNat ++ bigEndian 8 m.serverNowUnixMs.toNat))

theorem emits_clusterReadyNotify (m : ClusterReadyNotify) :
    Emits (writeClusterReadyNotify m) (clusterReadyNotifyBytes m) :=
  ((emits_uint64 _).seq <| (emits_bool _).seq <| (emits_uint32 _).seq (emits_uint64 _)).mapError

theorem reads_clusterReadyNotify (m : ClusterReadyNotify) :
    Reads readClusterReadyNotify (clusterReadyNotifyBytes m) m :=
  ((reads_uint64 _).bind <| (reads_bool _).bind <| (reads_uint32 _).bind <| (reads_uint64 _).last rfl).mapError

theorem parses_clusterReadyNotify : Parses readClusterReadyNotify fun m used => used = clusterReadyNotifyBytes m := by
  refine (parses_uint64.bind fun epoch _ one => parses_bool.bind fun ready _ two =>
    parses_uint32.bind fun flags _ three => parses_uint64.bind fun now _ four => Parses.pure ?_).mapError
  subst one two three four
  simp [clusterReadyNotifyBytes]

/-- Twenty-one bytes, with the bool behind the epoch. -/
theorem clusterReadyNotify_fixed :
    FixedCodec encodeClusterReadyNotify decodeClusterReadyNotify clusterReadyNotifySize := by
  refine FixedCodec.of_fields (encodeValidated_exact _ _) emits_clusterReadyNotify
    reads_clusterReadyNotify parses_clusterReadyNotify fun m => ?_
  simp [clusterReadyNotifyBytes, clusterReadyNotifySize]

/-! ## Register responses -/

/-- The bytes of a register success response. -/
def registerSuccessResponseBytes (m : RegisterSuccessResponse) : Bytes :=
  bigEndian 4 m.heartbeatIntervalMs.toNat ++
    (bigEndian 4 m.heartbeatTimeoutMs.toNat ++ bigEndian 8 m.serverNowUnixMs.toNat)

theorem emits_registerSuccessResponse (m : RegisterSuccessResponse) :
    Emits (writeRegisterSuccessResponse m) (registerSuccessResponseBytes m) :=
  ((emits_uint32 _).seq <| (emits_uint32 _).seq (emits_uint64 _)).mapError

theorem reads_registerSuccessResponse (m : RegisterSuccessResponse) :
    Reads readRegisterSuccessResponse (registerSuccessResponseBytes m) m :=
  ((reads_uint32 _).bind <| (reads_uint32 _).bind <| (reads_uint64 _).last rfl).mapError

theorem parses_registerSuccessResponse :
    Parses readRegisterSuccessResponse fun m used => used = registerSuccessResponseBytes m := by
  refine (parses_uint32.bind fun interval _ one => parses_uint32.bind fun timeout _ two =>
    parses_uint64.bind fun now _ three => Parses.pure ?_).mapError
  subst one two three
  simp [registerSuccessResponseBytes]

theorem encodeRegisterSuccessResponse_exact (m : RegisterSuccessResponse) (capacity : Nat) :
    encodeRegisterSuccessResponse m capacity =
      encodeExact validateRegisterSuccessResponse writeRegisterSuccessResponse m capacity := by
  unfold encodeRegisterSuccessResponse encodeExact
  cases validateRegisterSuccessResponse m <;> rfl

/-- Sixteen bytes, with the timing rule of the heartbeat response. -/
theorem registerSuccessResponse_fixed :
    FixedCodec encodeRegisterSuccessResponse decodeRegisterSuccessResponse registerSuccessResponseSize := by
  refine FixedCodec.of_fields encodeRegisterSuccessResponse_exact emits_registerSuccessResponse
    reads_registerSuccessResponse parses_registerSuccessResponse fun m => ?_
  simp [registerSuccessResponseBytes, registerSuccessResponseSize]

/-- The bytes of a register error response; the code is written as its two's complement. -/
def registerErrorResponseBytes (m : RegisterErrorResponse) : Bytes :=
  bigEndian 4 m.errorCode.toUInt32.toNat ++ bigEndian 4 m.retryAfterMs.toNat

theorem emits_registerErrorResponse (m : RegisterErrorResponse) :
    Emits (registerWrite do writeInt32 m.errorCode; writeUInt32 m.retryAfterMs) (registerErrorResponseBytes m) :=
  ((emits_int32 _).seq (emits_uint32 _)).mapError

theorem reads_registerErrorResponse (m : RegisterErrorResponse) :
    Reads readRegisterErrorResponse (registerErrorResponseBytes m) m :=
  ((reads_int32 _).bind <| (reads_uint32 _).last rfl).mapError

theorem parses_registerErrorResponse :
    Parses readRegisterErrorResponse fun m used => used = registerErrorResponseBytes m := by
  refine (parses_int32.bind fun code _ one => parses_uint32.bind fun retryAfter _ two => Parses.pure ?_).mapError
  subst one two
  simp [registerErrorResponseBytes]

/-- The error response has no validation: every code and delay is accepted. -/
theorem registerErrorResponse_fixed :
    FixedCodec encodeRegisterErrorResponse decodeRegisterErrorResponse registerErrorResponseSize := by
  refine @FixedCodec.of_fields _ _ _ (fun _ => .ok ()) _ _ _ _ _ (fun _ _ => rfl) emits_registerErrorResponse
    reads_registerErrorResponse parses_registerErrorResponse fun m => ?_
  simp [registerErrorResponseBytes, registerErrorResponseSize]

/-! ## Heartbeat timing -/

/-- Validation asks for an interval below the timeout. -/
theorem validateHeartbeatTiming_ok {ε : Type} {intervalMs timeoutMs : UInt32} {e : ε}
    (h : validateHeartbeatTiming intervalMs timeoutMs e = .ok ()) : intervalMs < timeoutMs := by
  unfold validateHeartbeatTiming at h
  split at h
  · cases h
  · rename_i below
    rw [ge_iff_le, UInt32.not_le] at below
    exact below

/-- A decoder validates what it read, so that an accepted response obeys the rule. -/
theorem decodeHeartbeatSuccessResponse_timing {bytes : Bytes} {m : HeartbeatSuccessResponse}
    (h : decodeHeartbeatSuccessResponse bytes = .ok m) : m.heartbeatIntervalMs < m.heartbeatTimeoutMs := by
  obtain ⟨-, valid⟩ := decodeExact_ok h
  exact validateHeartbeatTiming_ok valid

theorem decodeRegisterSuccessResponse_timing {bytes : Bytes} {m : RegisterSuccessResponse}
    (h : decodeRegisterSuccessResponse bytes = .ok m) : m.heartbeatIntervalMs < m.heartbeatTimeoutMs := by
  obtain ⟨-, valid⟩ := decodeExact_ok h
  exact validateHeartbeatTiming_ok valid

/-- **The fixed-size messages.** Encoder, decoder and size constant of each agree on every
message and every buffer, and no accepted response lets its heartbeats time out between
two of them. -/
theorem fixed_messages :
    FixedCodec encodeHeartbeatRequest decodeHeartbeatRequest heartbeatRequestSize ∧
    FixedCodec encodeHeartbeatSuccessResponse decodeHeartbeatSuccessResponse heartbeatSuccessResponseSize ∧
    FixedCodec encodeClusterNodesOnlineNotify decodeClusterNodesOnlineNotify clusterNodesOnlineNotifySize ∧
    FixedCodec encodeGameGateMeshReadyReport decodeGameGateMeshReadyReport gameGateMeshReadyReportSize ∧
    FixedCodec encodeClusterReadyNotify decodeClusterReadyNotify clusterReadyNotifySize ∧
    FixedCodec encodeRegisterSuccessResponse decodeRegisterSuccessResponse registerSuccessResponseSize ∧
    FixedCodec encodeRegisterErrorResponse decodeRegisterErrorResponse registerErrorResponseSize ∧
    (∀ bytes m, decodeHeartbeatSuccessResponse bytes = .ok m → m.heartbeatIntervalMs < m.heartbeatTimeoutMs) ∧
    (∀ bytes m, decodeRegisterSuccessResponse bytes = .ok m → m.heartbeatIntervalMs < m.heartbeatTimeoutMs) := by
  refine ⟨heartbeatRequest_fixed, heartbeatSuccessResponse_fixed, clusterNodesOnlineNotify_fixed,
    gameGateMeshReadyReport_fixed, clusterReadyNotify_fixed, registerSuccessResponse_fixed,
    registerErrorResponse_fixed, ?_, ?_⟩
  · intro bytes m accepted
    exact decodeHeartbeatSuccessResponse_timing accepted
  · intro bytes m accepted
    exact decodeRegisterSuccessResponse_timing accepted

end XServer.Net
