import XServer.Net.Packet
import Mathlib.Algebra.Order.BigOperators.Group.List

/-!
# Cluster lifecycle messages

`net/message/InnerClusterCodec.cpp`: the nodes-online and cluster-ready
notifications, the mesh-ready report, the ownership sync and the service-ready
report. Every decoder reads all fields, validates the flags and refuses
trailing bytes; entry flags are checked as each entry is read.
-/

namespace XServer.Net
open XServer.Lib.Wire

/-- `InnerClusterCodecErrorCode`, without `None`. -/
inductive InnerClusterCodecErrorCode where
  | bufferTooSmall
  | invalidBoolValue
  | invalidArgument
  | invalidReadyStatusFlags
  | trailingBytes
  | invalidNodesOnlineStatusFlags
  | lengthOverflow
  | invalidMeshReadyStatusFlags
  | invalidOwnershipStatusFlags
  | invalidOwnershipEntryFlags
  | invalidServiceReadyStatusFlags
  | invalidServiceReadyEntryFlags
  deriving DecidableEq, Repr

def SerializationErrorCode.toInnerCluster : SerializationErrorCode → InnerClusterCodecErrorCode
  | .bufferTooSmall => .bufferTooSmall
  | .lengthOverflow => .lengthOverflow
  | .invalidBoolValue => .invalidBoolValue
  | .invalidArgument => .invalidArgument

/-! ## Messages -/

structure ClusterNodesOnlineNotify where
  allNodesOnline : Bool
  statusFlags : UInt32
  serverNowUnixMs : UInt64
  deriving DecidableEq, Repr

structure GameGateMeshReadyReport where
  statusFlags : UInt32
  reportedAtUnixMs : UInt64
  deriving DecidableEq, Repr

structure ServerStubOwnershipEntry where
  entityType : Bytes
  entityId : Bytes
  ownerGameNodeId : Bytes
  entryFlags : UInt32
  deriving DecidableEq, Repr

structure ServerStubOwnershipSync where
  assignmentEpoch : UInt64
  statusFlags : UInt32
  assignments : List ServerStubOwnershipEntry
  serverNowUnixMs : UInt64
  deriving DecidableEq, Repr

structure ServerStubReadyEntry where
  entityType : Bytes
  entityId : Bytes
  ready : Bool
  entryFlags : UInt32
  deriving DecidableEq, Repr

structure GameServiceReadyReport where
  assignmentEpoch : UInt64
  localReady : Bool
  statusFlags : UInt32
  entries : List ServerStubReadyEntry
  reportedAtUnixMs : UInt64
  deriving DecidableEq, Repr

structure ClusterReadyNotify where
  readyEpoch : UInt64
  clusterReady : Bool
  statusFlags : UInt32
  serverNowUnixMs : UInt64
  deriving DecidableEq, Repr

/-! ## Validation

All flags of the version in use must be zero; each message has its own error. -/

def validateFlags {ε : Type} (flags : UInt32) (e : ε) : Except ε Unit :=
  if flags ≠ 0 then .error e else .ok ()

/-- The first failing entry decides. -/
def validateEntries {ε α : Type} (validate : α → Except ε Unit) : List α → Except ε Unit
  | [] => .ok ()
  | a :: as =>
    match validate a with
    | .error e => .error e
    | .ok () => validateEntries validate as

def validateClusterReadyNotify (m : ClusterReadyNotify) : Except InnerClusterCodecErrorCode Unit :=
  validateFlags m.statusFlags .invalidReadyStatusFlags

def validateClusterNodesOnlineNotify (m : ClusterNodesOnlineNotify) :
    Except InnerClusterCodecErrorCode Unit :=
  validateFlags m.statusFlags .invalidNodesOnlineStatusFlags

def validateGameGateMeshReadyReport (m : GameGateMeshReadyReport) :
    Except InnerClusterCodecErrorCode Unit :=
  validateFlags m.statusFlags .invalidMeshReadyStatusFlags

def validateServerStubOwnershipEntry (e : ServerStubOwnershipEntry) :
    Except InnerClusterCodecErrorCode Unit :=
  validateFlags e.entryFlags .invalidOwnershipEntryFlags

def validateServerStubOwnershipSync (m : ServerStubOwnershipSync) :
    Except InnerClusterCodecErrorCode Unit :=
  match validateFlags m.statusFlags .invalidOwnershipStatusFlags with
  | .error e => .error e
  | .ok () => validateEntries validateServerStubOwnershipEntry m.assignments

def validateServerStubReadyEntry (e : ServerStubReadyEntry) :
    Except InnerClusterCodecErrorCode Unit :=
  validateFlags e.entryFlags .invalidServiceReadyEntryFlags

def validateGameServiceReadyReport (m : GameServiceReadyReport) :
    Except InnerClusterCodecErrorCode Unit :=
  match validateFlags m.statusFlags .invalidServiceReadyStatusFlags with
  | .error e => .error e
  | .ok () => validateEntries validateServerStubReadyEntry m.entries

/-! ## Encoders and decoders -/

abbrev ClusterReader (α : Type) := Reader InnerClusterCodecErrorCode α
abbrev ClusterWriter := Lib.Wire.Writer InnerClusterCodecErrorCode Unit

/-- A typed read whose failure is reported in the codec's own codes. -/
def clusterRead {α : Type} (r : BinaryReader α) : ClusterReader α :=
  r.mapError SerializationErrorCode.toInnerCluster

def clusterWrite (w : BinaryWriter) : ClusterWriter := w.mapError SerializationErrorCode.toInnerCluster

/-- Validation first, then the fields. -/
def encodeValidated {α : Type} (validate : α → Except InnerClusterCodecErrorCode Unit)
    (write : α → ClusterWriter) (m : α) (capacity : Nat) : Except InnerClusterCodecErrorCode Bytes :=
  match validate m with
  | .error e => .error e
  | .ok () => encodeInto (write m) capacity

def clusterNodesOnlineNotifySize : Nat := 13

def writeClusterNodesOnlineNotify (m : ClusterNodesOnlineNotify) : ClusterWriter := clusterWrite do
  writeBool m.allNodesOnline
  writeUInt32 m.statusFlags
  writeUInt64 m.serverNowUnixMs

def encodeClusterNodesOnlineNotify : ClusterNodesOnlineNotify → Nat → Except InnerClusterCodecErrorCode Bytes :=
  encodeValidated validateClusterNodesOnlineNotify writeClusterNodesOnlineNotify

def readClusterNodesOnlineNotify : ClusterReader ClusterNodesOnlineNotify := clusterRead do
  let allNodesOnline ← readBool
  let statusFlags ← readUInt32
  let serverNowUnixMs ← readUInt64
  pure { allNodesOnline, statusFlags, serverNowUnixMs }

def decodeClusterNodesOnlineNotify : Bytes → Except InnerClusterCodecErrorCode ClusterNodesOnlineNotify :=
  decodeExact readClusterNodesOnlineNotify validateClusterNodesOnlineNotify .trailingBytes

def gameGateMeshReadyReportSize : Nat := 12

def writeGameGateMeshReadyReport (m : GameGateMeshReadyReport) : ClusterWriter := clusterWrite do
  writeUInt32 m.statusFlags
  writeUInt64 m.reportedAtUnixMs

def encodeGameGateMeshReadyReport : GameGateMeshReadyReport → Nat → Except InnerClusterCodecErrorCode Bytes :=
  encodeValidated validateGameGateMeshReadyReport writeGameGateMeshReadyReport

def readGameGateMeshReadyReport : ClusterReader GameGateMeshReadyReport := clusterRead do
  let statusFlags ← readUInt32
  let reportedAtUnixMs ← readUInt64
  pure { statusFlags, reportedAtUnixMs }

def decodeGameGateMeshReadyReport : Bytes → Except InnerClusterCodecErrorCode GameGateMeshReadyReport :=
  decodeExact readGameGateMeshReadyReport validateGameGateMeshReadyReport .trailingBytes

/-- `GetString16WireSize`. -/
def getString16WireSize {ε : Type} (overflow : ε) (value : Bytes) : Except ε Nat :=
  if value.length > 65535 then .error overflow else .ok (2 + value.length)

/-- The wire size of the entries: their string sizes plus `fixed` bytes each. -/
def entriesWireSize {ε α : Type} (overflow : ε) (strings : α → List Bytes) (fixed : Nat) :
    List α → Except ε Nat
  | [] => .ok 0
  | a :: as => do
    let sizes ← (strings a).mapM (getString16WireSize overflow)
    let rest ← entriesWireSize overflow strings fixed as
    .ok (sizes.sum + fixed + rest)

/-- `GetServerStubOwnershipSyncWireSize`; a sum of field sizes that fit memory
does not overflow `size_t`. -/
def getServerStubOwnershipSyncWireSize (m : ServerStubOwnershipSync) : Except InnerClusterCodecErrorCode Nat := do
  validateServerStubOwnershipSync m
  let entries ← entriesWireSize .lengthOverflow
    (fun e : ServerStubOwnershipEntry => [e.entityType, e.entityId, e.ownerGameNodeId]) 4 m.assignments
  .ok (16 + entries + 8)

def writeServerStubOwnershipEntry (e : ServerStubOwnershipEntry) : ClusterWriter := clusterWrite do
  writeString16 e.entityType
  writeString16 e.entityId
  writeString16 e.ownerGameNodeId
  writeUInt32 e.entryFlags

def writeServerStubOwnershipSync (m : ServerStubOwnershipSync) : ClusterWriter := do
  clusterWrite do
    writeUInt64 m.assignmentEpoch
    writeUInt32 m.statusFlags
    writeUInt32 (UInt32.ofNat m.assignments.length)
  writeMany writeServerStubOwnershipEntry m.assignments
  clusterWrite (writeUInt64 m.serverNowUnixMs)

/-- The size is computed before anything is written. -/
def encodeServerStubOwnershipSync (m : ServerStubOwnershipSync) (capacity : Nat) :
    Except InnerClusterCodecErrorCode Bytes :=
  match getServerStubOwnershipSyncWireSize m with
  | .error e => .error e
  | .ok wireSize =>
    if capacity < wireSize then .error .bufferTooSmall
    else encodeInto (writeServerStubOwnershipSync m) capacity

def readServerStubOwnershipEntry : ClusterReader ServerStubOwnershipEntry := do
  let entry ← clusterRead do
    let entityType ← readString16
    let entityId ← readString16
    let ownerGameNodeId ← readString16
    let entryFlags ← readUInt32
    pure ({ entityType, entityId, ownerGameNodeId, entryFlags } : ServerStubOwnershipEntry)
  readCheck (validateServerStubOwnershipEntry entry)
  pure entry

def readServerStubOwnershipSync : ClusterReader ServerStubOwnershipSync := do
  let (assignmentEpoch, statusFlags, assignmentCount) ← clusterRead do
    let assignmentEpoch ← readUInt64
    let statusFlags ← readUInt32
    let assignmentCount ← readUInt32
    pure (assignmentEpoch, statusFlags, assignmentCount)
  let assignments ← readMany readServerStubOwnershipEntry assignmentCount.toNat
  let serverNowUnixMs ← clusterRead readUInt64
  pure { assignmentEpoch, statusFlags, assignments, serverNowUnixMs }

def decodeServerStubOwnershipSync : Bytes → Except InnerClusterCodecErrorCode ServerStubOwnershipSync :=
  decodeExact readServerStubOwnershipSync validateServerStubOwnershipSync .trailingBytes

/-- `GetGameServiceReadyReportWireSize`. -/
def getGameServiceReadyReportWireSize (m : GameServiceReadyReport) : Except InnerClusterCodecErrorCode Nat := do
  validateGameServiceReadyReport m
  let entries ← entriesWireSize .lengthOverflow
    (fun e : ServerStubReadyEntry => [e.entityType, e.entityId]) 5 m.entries
  .ok (17 + entries + 8)

def writeServerStubReadyEntry (e : ServerStubReadyEntry) : ClusterWriter := clusterWrite do
  writeString16 e.entityType
  writeString16 e.entityId
  writeBool e.ready
  writeUInt32 e.entryFlags

def writeGameServiceReadyReport (m : GameServiceReadyReport) : ClusterWriter := do
  clusterWrite do
    writeUInt64 m.assignmentEpoch
    writeBool m.localReady
    writeUInt32 m.statusFlags
    writeUInt32 (UInt32.ofNat m.entries.length)
  writeMany writeServerStubReadyEntry m.entries
  clusterWrite (writeUInt64 m.reportedAtUnixMs)

def encodeGameServiceReadyReport (m : GameServiceReadyReport) (capacity : Nat) :
    Except InnerClusterCodecErrorCode Bytes :=
  match getGameServiceReadyReportWireSize m with
  | .error e => .error e
  | .ok wireSize =>
    if capacity < wireSize then .error .bufferTooSmall
    else encodeInto (writeGameServiceReadyReport m) capacity

def readServerStubReadyEntry : ClusterReader ServerStubReadyEntry := do
  let entry ← clusterRead do
    let entityType ← readString16
    let entityId ← readString16
    let ready ← readBool
    let entryFlags ← readUInt32
    pure ({ entityType, entityId, ready, entryFlags } : ServerStubReadyEntry)
  readCheck (validateServerStubReadyEntry entry)
  pure entry

def readGameServiceReadyReport : ClusterReader GameServiceReadyReport := do
  let (assignmentEpoch, localReady, statusFlags, entryCount) ← clusterRead do
    let assignmentEpoch ← readUInt64
    let localReady ← readBool
    let statusFlags ← readUInt32
    let entryCount ← readUInt32
    pure (assignmentEpoch, localReady, statusFlags, entryCount)
  let entries ← readMany readServerStubReadyEntry entryCount.toNat
  let reportedAtUnixMs ← clusterRead readUInt64
  pure { assignmentEpoch, localReady, statusFlags, entries, reportedAtUnixMs }

def decodeGameServiceReadyReport : Bytes → Except InnerClusterCodecErrorCode GameServiceReadyReport :=
  decodeExact readGameServiceReadyReport validateGameServiceReadyReport .trailingBytes

def clusterReadyNotifySize : Nat := 21

def writeClusterReadyNotify (m : ClusterReadyNotify) : ClusterWriter := clusterWrite do
  writeUInt64 m.readyEpoch
  writeBool m.clusterReady
  writeUInt32 m.statusFlags
  writeUInt64 m.serverNowUnixMs

def encodeClusterReadyNotify : ClusterReadyNotify → Nat → Except InnerClusterCodecErrorCode Bytes :=
  encodeValidated validateClusterReadyNotify writeClusterReadyNotify

def readClusterReadyNotify : ClusterReader ClusterReadyNotify := clusterRead do
  let readyEpoch ← readUInt64
  let clusterReady ← readBool
  let statusFlags ← readUInt32
  let serverNowUnixMs ← readUInt64
  pure { readyEpoch, clusterReady, statusFlags, serverNowUnixMs }

def decodeClusterReadyNotify : Bytes → Except InnerClusterCodecErrorCode ClusterReadyNotify :=
  decodeExact readClusterReadyNotify validateClusterReadyNotify .trailingBytes

/-! ## The service-ready report round trip

The wire-size function bounds every string, so a report that was encoded is
read back; its entry count survives the 32-bit field as long as the body fits a
packet. -/

theorem validateEntries_ok {ε α : Type} {validate : α → Except ε Unit} {as : List α}
    (h : validateEntries validate as = .ok ()) : ∀ a ∈ as, validate a = .ok () := by
  induction as with
  | nil => simp
  | cons a as ih =>
    unfold validateEntries at h
    split at h
    · cases h
    · rename_i head
      exact List.forall_mem_cons.mpr ⟨head, ih h⟩

theorem getString16WireSize_ok {ε : Type} {overflow : ε} {value : Bytes} {n : Nat}
    (h : getString16WireSize overflow value = .ok n) : value.length ≤ 65535 ∧ n = 2 + value.length := by
  unfold getString16WireSize at h
  split at h
  · cases h
  · cases h; exact ⟨by omega, rfl⟩

theorem getString16WireSize_of_short {ε : Type} {overflow : ε} {value : Bytes} (short : value.length ≤ 65535) :
    getString16WireSize overflow value = .ok (2 + value.length) := by
  rw [getString16WireSize, if_neg (by omega)]

theorem mapM_getString16WireSize_of_short {ε : Type} {overflow : ε} {strings : List Bytes}
    (short : ∀ s ∈ strings, s.length ≤ 65535) :
    strings.mapM (getString16WireSize overflow) = .ok (strings.map fun s => 2 + s.length) := by
  induction strings with
  | nil => rfl
  | cons s strings ih =>
    obtain ⟨head, tail⟩ := List.forall_mem_cons.mp short
    rw [List.mapM_cons, getString16WireSize_of_short head, ih tail]
    rfl

theorem mapM_getString16WireSize_ok {ε : Type} {overflow : ε} {strings : List Bytes} {ns : List Nat}
    (h : strings.mapM (getString16WireSize overflow) = .ok ns) :
    (∀ s ∈ strings, s.length ≤ 65535) ∧ ns.sum = (strings.map fun s => 2 + s.length).sum := by
  induction strings generalizing ns with
  | nil => cases h; simp
  | cons s strings ih =>
    rw [List.mapM_cons] at h
    cases hs : getString16WireSize overflow s with
    | error e => rw [hs] at h; cases h
    | ok n =>
      cases hr : strings.mapM (getString16WireSize overflow) with
      | error e => rw [hs, hr] at h; cases h
      | ok rest =>
        rw [hs, hr] at h
        cases h
        obtain ⟨short, rfl⟩ := getString16WireSize_ok hs
        obtain ⟨shorts, sum⟩ := ih hr
        exact ⟨List.forall_mem_cons.mpr ⟨short, shorts⟩, by simp [sum]⟩

/-- A computed size bounds every string and counts the bytes of every entry. -/
theorem entriesWireSize_ok {ε α : Type} {overflow : ε} {strings : α → List Bytes} {fixed : Nat}
    {as : List α} {n : Nat} (h : entriesWireSize overflow strings fixed as = .ok n) :
    (∀ a ∈ as, ∀ s ∈ strings a, s.length ≤ 65535) ∧
      n = (as.map fun a => ((strings a).map fun s => 2 + s.length).sum + fixed).sum := by
  induction as generalizing n with
  | nil => cases h; simp
  | cons a as ih =>
    unfold entriesWireSize at h
    cases hs : (strings a).mapM (getString16WireSize overflow) with
    | error e => rw [hs] at h; cases h
    | ok sizes =>
      cases hr : entriesWireSize overflow strings fixed as with
      | error e => rw [hs, hr] at h; cases h
      | ok rest =>
        rw [hs, hr] at h
        cases h
        obtain ⟨short, sum⟩ := mapM_getString16WireSize_ok hs
        obtain ⟨shorts, rfl⟩ := ih hr
        exact ⟨List.forall_mem_cons.mpr ⟨short, shorts⟩, by simp [sum]⟩

theorem entriesWireSize_of_short {ε α : Type} {overflow : ε} {strings : α → List Bytes} {fixed : Nat} {as : List α}
    (short : ∀ a ∈ as, ∀ s ∈ strings a, s.length ≤ 65535) :
    entriesWireSize overflow strings fixed as =
      .ok (as.map fun a => ((strings a).map fun s => 2 + s.length).sum + fixed).sum := by
  induction as with
  | nil => rfl
  | cons a as ih =>
    obtain ⟨head, tail⟩ := List.forall_mem_cons.mp short
    rw [entriesWireSize, mapM_getString16WireSize_of_short head, ih tail]
    rfl

/-- The bytes of one ready entry. -/
def readyEntryBytes (e : ServerStubReadyEntry) : Bytes :=
  string16 e.entityType ++ (string16 e.entityId ++ ([if e.ready then 1 else 0] ++ bigEndian 4 e.entryFlags.toNat))

/-- The bytes of a service-ready report. -/
def serviceReadyReportBytes (m : GameServiceReadyReport) : Bytes :=
  (bigEndian 8 m.assignmentEpoch.toNat ++ ([if m.localReady then 1 else 0] ++
    (bigEndian 4 m.statusFlags.toNat ++ bigEndian 4 (UInt32.ofNat m.entries.length).toNat))) ++
  (m.entries.flatMap readyEntryBytes ++ bigEndian 8 m.reportedAtUnixMs.toNat)

theorem emits_readyEntry {e : ServerStubReadyEntry}
    (short : ∀ s ∈ [e.entityType, e.entityId], s.length ≤ 65535) :
    Emits (writeServerStubReadyEntry e) (readyEntryBytes e) :=
  ((emits_string16 (short _ (by simp))).seq <| (emits_string16 (short _ (by simp))).seq <|
    (emits_bool _).seq (emits_uint32 _)).mapError

theorem reads_readyEntry {e : ServerStubReadyEntry}
    (short : ∀ s ∈ [e.entityType, e.entityId], s.length ≤ 65535)
    (valid : validateServerStubReadyEntry e = .ok ()) :
    Reads readServerStubReadyEntry (readyEntryBytes e) e := by
  have fields : Reads (clusterRead do
      let entityType ← readString16
      let entityId ← readString16
      let ready ← readBool
      let entryFlags ← readUInt32
      pure ({ entityType, entityId, ready, entryFlags } : ServerStubReadyEntry)) (readyEntryBytes e) e :=
    ((reads_string16 (short _ (by simp))).bind <| (reads_string16 (short _ (by simp))).bind <|
      (reads_bool _).bind <| (reads_uint32 _).last rfl).mapError
  have checked : Reads readServerStubReadyEntry (readyEntryBytes e ++ []) e :=
    fields.bind ((Reads.check valid).last rfl)
  rwa [List.append_nil] at checked

theorem emits_serviceReadyReport {m : GameServiceReadyReport}
    (short : ∀ e ∈ m.entries, ∀ s ∈ [e.entityType, e.entityId], s.length ≤ 65535) :
    Emits (writeGameServiceReadyReport m) (serviceReadyReportBytes m) :=
  ((emits_uint64 _).seq <| (emits_bool _).seq <| (emits_uint32 _).seq (emits_uint32 _)).mapError.seq <|
    (Emits.many _ fun e mem => emits_readyEntry (short e mem)).seq (emits_uint64 _).mapError

theorem reads_serviceReadyReport {m : GameServiceReadyReport} (count : m.entries.length ≤ 4294967295)
    (short : ∀ e ∈ m.entries, ∀ s ∈ [e.entityType, e.entityId], s.length ≤ 65535)
    (valid : ∀ e ∈ m.entries, validateServerStubReadyEntry e = .ok ()) :
    Reads readGameServiceReadyReport (serviceReadyReportBytes m) m := by
  have back : (UInt32.ofNat m.entries.length).toNat = m.entries.length := by simp; omega
  have entries := Reads.many (r := readServerStubReadyEntry) (f := readyEntryBytes) m.entries
    fun e mem => reads_readyEntry (short e mem) (valid e mem)
  rw [← back] at entries
  have head : Reads (clusterRead do
      let assignmentEpoch ← readUInt64
      let localReady ← readBool
      let statusFlags ← readUInt32
      let entryCount ← readUInt32
      pure (assignmentEpoch, localReady, statusFlags, entryCount)) _
      (m.assignmentEpoch, m.localReady, m.statusFlags, UInt32.ofNat m.entries.length) :=
    ((reads_uint64 _).bind <| (reads_bool _).bind <| (reads_uint32 _).bind <| (reads_uint32 _).last rfl).mapError
  exact head.bind (entries.bind ((reads_uint64 m.reportedAtUnixMs).mapError.last rfl))

theorem readyEntryBytes_length (e : ServerStubReadyEntry) :
    (readyEntryBytes e).length = ([e.entityType, e.entityId].map fun s => 2 + s.length).sum + 5 := by
  simp [readyEntryBytes, string16]
  omega

theorem serviceReadyReportBytes_length (m : GameServiceReadyReport) :
    (serviceReadyReportBytes m).length = 17 + (m.entries.map fun e =>
      ([e.entityType, e.entityId].map fun s => 2 + s.length).sum + 5).sum + 8 := by
  simp only [serviceReadyReportBytes, List.length_append, bigEndian_length, List.length_flatMap,
    readyEntryBytes_length, List.length_singleton]
  omega

/-- What an accepted size says about the report. -/
theorem getGameServiceReadyReportWireSize_ok {m : GameServiceReadyReport} {n : Nat}
    (h : getGameServiceReadyReportWireSize m = .ok n) :
    validateGameServiceReadyReport m = .ok () ∧
      (∀ e ∈ m.entries, ∀ s ∈ [e.entityType, e.entityId], s.length ≤ 65535) ∧
      n = (serviceReadyReportBytes m).length := by
  unfold getGameServiceReadyReportWireSize at h
  cases valid : validateGameServiceReadyReport m with
  | error e => rw [valid] at h; cases h
  | ok u =>
    cases size : entriesWireSize InnerClusterCodecErrorCode.lengthOverflow
        (fun e : ServerStubReadyEntry => [e.entityType, e.entityId]) 5 m.entries with
    | error e => rw [valid, size] at h; cases h
    | ok k =>
      rw [valid, size] at h
      cases h
      obtain ⟨short, rfl⟩ := entriesWireSize_ok size
      exact ⟨rfl, short, (serviceReadyReportBytes_length m).symm⟩

theorem validateGameServiceReadyReport_entries {m : GameServiceReadyReport}
    (valid : validateGameServiceReadyReport m = .ok ()) : ∀ e ∈ m.entries, validateServerStubReadyEntry e = .ok () := by
  unfold validateGameServiceReadyReport at valid
  split at valid
  · cases valid
  · exact validateEntries_ok valid

/-- **Round trip.** An encoded report that fits a packet decodes to itself. -/
theorem decodeGameServiceReadyReport_encode {m : GameServiceReadyReport} {capacity : Nat} {bytes : Bytes}
    (h : encodeGameServiceReadyReport m capacity = .ok bytes) (fits : bytes.length ≤ 4294967295) :
    decodeGameServiceReadyReport bytes = .ok m := by
  unfold encodeGameServiceReadyReport at h
  split at h
  · cases h
  · rename_i n size
    obtain ⟨valid, short, rfl⟩ := getGameServiceReadyReportWireSize_ok size
    split at h
    · cases h
    · rename_i room
      rw [(emits_serviceReadyReport short).encodeInto (by omega)] at h
      cases h
      have count : m.entries.length ≤ 4294967295 := by
        have each := List.length_le_sum_of_one_le (m.entries.map fun e =>
            ([e.entityType, e.entityId].map fun s => 2 + s.length).sum + 5) fun i mem => by
          obtain ⟨e, -, rfl⟩ := List.mem_map.mp mem
          omega
        rw [List.length_map] at each
        rw [serviceReadyReportBytes_length] at fits
        omega
      have entryValid := validateGameServiceReadyReport_entries valid
      exact (reads_serviceReadyReport count short entryValid).decodeExact valid

/-! ## The service-ready report format is exact -/

/-- `GameServiceReadyReport{}`. -/
instance : Inhabited GameServiceReadyReport where
  default := { assignmentEpoch := 0, localReady := false, statusFlags := 0, entries := [], reportedAtUnixMs := 0 }

/-- `DecodeGameServiceReadyReport` with its output argument. -/
def decodeGameServiceReadyReportInto : Bytes → Option GameServiceReadyReport →
    Option InnerClusterCodecErrorCode × Option GameServiceReadyReport :=
  decodeInto readGameServiceReadyReport validateGameServiceReadyReport .trailingBytes .invalidArgument

theorem encodeGameServiceReadyReport_ok {m : GameServiceReadyReport} {n : Nat}
    (size : getGameServiceReadyReportWireSize m = .ok n) : encodeGameServiceReadyReport m n = .ok (serviceReadyReportBytes m) := by
  obtain ⟨-, short, rfl⟩ := getGameServiceReadyReportWireSize_ok size
  unfold encodeGameServiceReadyReport
  rw [size]
  simp only [lt_irrefl, if_false]
  exact (emits_serviceReadyReport short).encodeInto (Nat.le_refl _)

theorem parses_readyEntry :
    Parses readServerStubReadyEntry fun e used =>
      used = readyEntryBytes e ∧ ∀ s ∈ [e.entityType, e.entityId], s.length ≤ 65535 := by
  have fields : Parses (clusterRead do
      let entityType ← readString16
      let entityId ← readString16
      let ready ← readBool
      let entryFlags ← readUInt32
      pure ({ entityType, entityId, ready, entryFlags } : ServerStubReadyEntry))
      fun e used => used = readyEntryBytes e ∧ ∀ s ∈ [e.entityType, e.entityId], s.length ≤ 65535 := by
    refine (parses_string16.bind fun entityType _ one => parses_string16.bind fun entityId _ two =>
      parses_bool.bind fun ready _ three => parses_uint32.bind fun flags _ four => Parses.pure ?_).mapError
    obtain ⟨rfl, typeShort⟩ := one
    obtain ⟨rfl, idShort⟩ := two
    subst three four
    exact ⟨by simp [readyEntryBytes], by simp [typeShort, idShort]⟩
  refine fields.bind fun e _ parsed => (Parses.check _).bind fun _ _ checked => Parses.pure ?_
  obtain ⟨rfl, -⟩ := checked
  simpa using parsed

theorem parses_serviceReadyReport :
    Parses readGameServiceReadyReport fun m used =>
      used = serviceReadyReportBytes m ∧ m.entries.length ≤ 4294967295 ∧
        ∀ e ∈ m.entries, ∀ s ∈ [e.entityType, e.entityId], s.length ≤ 65535 := by
  have head : Parses (clusterRead do
      let assignmentEpoch ← readUInt64
      let localReady ← readBool
      let statusFlags ← readUInt32
      let entryCount ← readUInt32
      pure (assignmentEpoch, localReady, statusFlags, entryCount))
      fun p used => used = bigEndian 8 p.1.toNat ++ ([if p.2.1 then 1 else 0] ++
        (bigEndian 4 p.2.2.1.toNat ++ bigEndian 4 p.2.2.2.toNat)) := by
    refine (parses_uint64.bind fun epoch _ one => parses_bool.bind fun ready _ two =>
      parses_uint32.bind fun flags _ three => parses_uint32.bind fun count _ four => Parses.pure ?_).mapError
    subst one two three four
    simp
  refine head.bind fun p _ one => ?_
  obtain ⟨epoch, localReady, flags, count⟩ := p
  refine (Parses.many parses_readyEntry _).bind fun entries _ two => parses_uint64.mapError.bind fun reportedAt _ three =>
    Parses.pure ?_
  obtain ⟨length, rfl, short⟩ := two
  have bound := count.toNat_lt
  have same : UInt32.ofNat entries.length = count := by rw [length]; simp
  subst one three
  exact ⟨by simp [serviceReadyReportBytes, same], by simp only [length]; omega, short⟩

/-- A valid report with short strings has a wire size. -/
theorem getGameServiceReadyReportWireSize_of_short {m : GameServiceReadyReport}
    (valid : validateGameServiceReadyReport m = .ok ())
    (short : ∀ e ∈ m.entries, ∀ s ∈ [e.entityType, e.entityId], s.length ≤ 65535) :
    getGameServiceReadyReportWireSize m = .ok (serviceReadyReportBytes m).length := by
  rw [serviceReadyReportBytes_length, getGameServiceReadyReportWireSize, valid, entriesWireSize_of_short short]
  rfl

/-- The service-ready report codec is exact on reports whose entry count fits its field. -/
theorem serviceReadyReport_exact :
    ExactCodec getGameServiceReadyReportWireSize encodeGameServiceReadyReport decodeGameServiceReadyReportInto
      validateGameServiceReadyReport fun m => m.entries.length < 2 ^ 32 := by
  refine @ExactCodec.of_writing _ _ _ _ _ _ _ _ _ _ serviceReadyReportBytes (fun m n size => ?_) (fun m n size => ?_)
    (fun m n fits size => ?_) ?_
  · obtain ⟨valid, -, length⟩ := getGameServiceReadyReportWireSize_ok size
    exact ⟨valid, length⟩
  · exact encodeGameServiceReadyReport_ok size
  · obtain ⟨valid, short, -⟩ := getGameServiceReadyReportWireSize_ok size
    exact reads_serviceReadyReport (by omega) short (validateGameServiceReadyReport_entries valid)
  · exact parses_serviceReadyReport.mono fun m used ⟨same, count, short⟩ =>
      ⟨same, fun valid => ⟨by omega, getGameServiceReadyReportWireSize_of_short valid short⟩⟩

/-! ## The ownership sync format is exact -/

/-- `ServerStubOwnershipSync{}`. -/
instance : Inhabited ServerStubOwnershipSync where
  default := { assignmentEpoch := 0, statusFlags := 0, assignments := [], serverNowUnixMs := 0 }

/-- `DecodeServerStubOwnershipSync` with its output argument. -/
def decodeServerStubOwnershipSyncInto : Bytes → Option ServerStubOwnershipSync →
    Option InnerClusterCodecErrorCode × Option ServerStubOwnershipSync :=
  decodeInto readServerStubOwnershipSync validateServerStubOwnershipSync .trailingBytes .invalidArgument

/-- The bytes of one ownership entry. -/
def ownershipEntryBytes (e : ServerStubOwnershipEntry) : Bytes :=
  string16 e.entityType ++ (string16 e.entityId ++ (string16 e.ownerGameNodeId ++ bigEndian 4 e.entryFlags.toNat))

/-- The bytes of an ownership sync. -/
def ownershipSyncBytes (m : ServerStubOwnershipSync) : Bytes :=
  (bigEndian 8 m.assignmentEpoch.toNat ++ (bigEndian 4 m.statusFlags.toNat ++
    bigEndian 4 (UInt32.ofNat m.assignments.length).toNat)) ++
  (m.assignments.flatMap ownershipEntryBytes ++ bigEndian 8 m.serverNowUnixMs.toNat)

/-- The strings of an ownership entry. -/
def ServerStubOwnershipEntry.strings (e : ServerStubOwnershipEntry) : List Bytes :=
  [e.entityType, e.entityId, e.ownerGameNodeId]

theorem ownershipEntryBytes_length (e : ServerStubOwnershipEntry) :
    (ownershipEntryBytes e).length = (e.strings.map fun s => 2 + s.length).sum + 4 := by
  simp [ownershipEntryBytes, string16, ServerStubOwnershipEntry.strings]
  omega

theorem ownershipSyncBytes_length (m : ServerStubOwnershipSync) :
    (ownershipSyncBytes m).length =
      16 + (m.assignments.map fun e => (e.strings.map fun s => 2 + s.length).sum + 4).sum + 8 := by
  simp only [ownershipSyncBytes, List.length_append, bigEndian_length, List.length_flatMap, ownershipEntryBytes_length]
  omega

theorem emits_ownershipEntry {e : ServerStubOwnershipEntry} (short : ∀ s ∈ e.strings, s.length ≤ 65535) :
    Emits (writeServerStubOwnershipEntry e) (ownershipEntryBytes e) := by
  simp only [ServerStubOwnershipEntry.strings, List.forall_mem_cons] at short
  exact ((emits_string16 short.1).seq <| (emits_string16 short.2.1).seq <|
    (emits_string16 short.2.2.1).seq (emits_uint32 _)).mapError

theorem emits_ownershipSync {m : ServerStubOwnershipSync}
    (short : ∀ e ∈ m.assignments, ∀ s ∈ e.strings, s.length ≤ 65535) :
    Emits (writeServerStubOwnershipSync m) (ownershipSyncBytes m) :=
  ((emits_uint64 _).seq <| (emits_uint32 _).seq (emits_uint32 _)).mapError.seq <|
    (Emits.many _ fun e mem => emits_ownershipEntry (short e mem)).seq (emits_uint64 _).mapError

theorem reads_ownershipEntry {e : ServerStubOwnershipEntry} (short : ∀ s ∈ e.strings, s.length ≤ 65535)
    (valid : validateServerStubOwnershipEntry e = .ok ()) :
    Reads readServerStubOwnershipEntry (ownershipEntryBytes e) e := by
  simp only [ServerStubOwnershipEntry.strings, List.forall_mem_cons] at short
  have fields : Reads (clusterRead do
      let entityType ← readString16
      let entityId ← readString16
      let ownerGameNodeId ← readString16
      let entryFlags ← readUInt32
      pure ({ entityType, entityId, ownerGameNodeId, entryFlags } : ServerStubOwnershipEntry)) (ownershipEntryBytes e) e :=
    ((reads_string16 short.1).bind <| (reads_string16 short.2.1).bind <| (reads_string16 short.2.2.1).bind <|
      (reads_uint32 _).last rfl).mapError
  have checked : Reads readServerStubOwnershipEntry (ownershipEntryBytes e ++ []) e :=
    fields.bind ((Reads.check valid).last rfl)
  rwa [List.append_nil] at checked

theorem reads_ownershipSync {m : ServerStubOwnershipSync} (count : m.assignments.length ≤ 4294967295)
    (short : ∀ e ∈ m.assignments, ∀ s ∈ e.strings, s.length ≤ 65535)
    (valid : ∀ e ∈ m.assignments, validateServerStubOwnershipEntry e = .ok ()) :
    Reads readServerStubOwnershipSync (ownershipSyncBytes m) m := by
  have back : (UInt32.ofNat m.assignments.length).toNat = m.assignments.length := by simp; omega
  have entries := Reads.many (r := readServerStubOwnershipEntry) (f := ownershipEntryBytes) m.assignments
    fun e mem => reads_ownershipEntry (short e mem) (valid e mem)
  rw [← back] at entries
  have head : Reads (clusterRead do
      let assignmentEpoch ← readUInt64
      let statusFlags ← readUInt32
      let assignmentCount ← readUInt32
      pure (assignmentEpoch, statusFlags, assignmentCount)) _
      (m.assignmentEpoch, m.statusFlags, UInt32.ofNat m.assignments.length) :=
    ((reads_uint64 _).bind <| (reads_uint32 _).bind <| (reads_uint32 _).last rfl).mapError
  exact head.bind (entries.bind ((reads_uint64 m.serverNowUnixMs).mapError.last rfl))

/-- What an accepted size says about the sync. -/
theorem getServerStubOwnershipSyncWireSize_ok {m : ServerStubOwnershipSync} {n : Nat}
    (h : getServerStubOwnershipSyncWireSize m = .ok n) :
    validateServerStubOwnershipSync m = .ok () ∧ (∀ e ∈ m.assignments, ∀ s ∈ e.strings, s.length ≤ 65535) ∧
      n = (ownershipSyncBytes m).length := by
  unfold getServerStubOwnershipSyncWireSize at h
  cases valid : validateServerStubOwnershipSync m with
  | error e => rw [valid] at h; cases h
  | ok u =>
    cases size : entriesWireSize InnerClusterCodecErrorCode.lengthOverflow
        (fun e : ServerStubOwnershipEntry => [e.entityType, e.entityId, e.ownerGameNodeId]) 4 m.assignments with
    | error e => rw [valid, size] at h; cases h
    | ok k =>
      rw [valid, size] at h
      cases h
      obtain ⟨short, rfl⟩ := entriesWireSize_ok size
      exact ⟨rfl, short, (ownershipSyncBytes_length m).symm⟩

theorem encodeServerStubOwnershipSync_ok {m : ServerStubOwnershipSync} {n : Nat}
    (size : getServerStubOwnershipSyncWireSize m = .ok n) : encodeServerStubOwnershipSync m n = .ok (ownershipSyncBytes m) := by
  obtain ⟨-, short, rfl⟩ := getServerStubOwnershipSyncWireSize_ok size
  unfold encodeServerStubOwnershipSync
  rw [size]
  simp only [lt_irrefl, if_false]
  exact (emits_ownershipSync short).encodeInto (Nat.le_refl _)

theorem validateServerStubOwnershipSync_entries {m : ServerStubOwnershipSync}
    (valid : validateServerStubOwnershipSync m = .ok ()) :
    ∀ e ∈ m.assignments, validateServerStubOwnershipEntry e = .ok () := by
  unfold validateServerStubOwnershipSync at valid
  split at valid
  · cases valid
  · exact validateEntries_ok valid

theorem parses_ownershipEntry :
    Parses readServerStubOwnershipEntry fun e used =>
      used = ownershipEntryBytes e ∧ ∀ s ∈ e.strings, s.length ≤ 65535 := by
  have fields : Parses (clusterRead do
      let entityType ← readString16
      let entityId ← readString16
      let ownerGameNodeId ← readString16
      let entryFlags ← readUInt32
      pure ({ entityType, entityId, ownerGameNodeId, entryFlags } : ServerStubOwnershipEntry))
      fun e used => used = ownershipEntryBytes e ∧ ∀ s ∈ e.strings, s.length ≤ 65535 := by
    refine (parses_string16.bind fun entityType _ one => parses_string16.bind fun entityId _ two =>
      parses_string16.bind fun owner _ three => parses_uint32.bind fun flags _ four => Parses.pure ?_).mapError
    obtain ⟨rfl, typeShort⟩ := one
    obtain ⟨rfl, idShort⟩ := two
    obtain ⟨rfl, ownerShort⟩ := three
    subst four
    exact ⟨by simp [ownershipEntryBytes], by simp [ServerStubOwnershipEntry.strings, typeShort, idShort, ownerShort]⟩
  refine fields.bind fun e _ parsed => (Parses.check _).bind fun _ _ checked => Parses.pure ?_
  obtain ⟨rfl, -⟩ := checked
  simpa using parsed

theorem parses_ownershipSync :
    Parses readServerStubOwnershipSync fun m used =>
      used = ownershipSyncBytes m ∧ m.assignments.length ≤ 4294967295 ∧
        ∀ e ∈ m.assignments, ∀ s ∈ e.strings, s.length ≤ 65535 := by
  have head : Parses (clusterRead do
      let assignmentEpoch ← readUInt64
      let statusFlags ← readUInt32
      let assignmentCount ← readUInt32
      pure (assignmentEpoch, statusFlags, assignmentCount))
      fun p used => used = bigEndian 8 p.1.toNat ++ (bigEndian 4 p.2.1.toNat ++ bigEndian 4 p.2.2.toNat) := by
    refine (parses_uint64.bind fun epoch _ one => parses_uint32.bind fun flags _ two =>
      parses_uint32.bind fun count _ three => Parses.pure ?_).mapError
    subst one two three
    simp
  refine head.bind fun p _ one => ?_
  obtain ⟨epoch, flags, count⟩ := p
  refine (Parses.many parses_ownershipEntry _).bind fun entries _ two => parses_uint64.mapError.bind fun now _ three =>
    Parses.pure ?_
  obtain ⟨length, rfl, short⟩ := two
  have bound := count.toNat_lt
  have same : UInt32.ofNat entries.length = count := by rw [length]; simp
  subst one three
  exact ⟨by simp [ownershipSyncBytes, same], by simp only [length]; omega, short⟩

/-- A valid sync with short strings has a wire size. -/
theorem getServerStubOwnershipSyncWireSize_of_short {m : ServerStubOwnershipSync}
    (valid : validateServerStubOwnershipSync m = .ok ())
    (short : ∀ e ∈ m.assignments, ∀ s ∈ e.strings, s.length ≤ 65535) :
    getServerStubOwnershipSyncWireSize m = .ok (ownershipSyncBytes m).length := by
  rw [ownershipSyncBytes_length, getServerStubOwnershipSyncWireSize, valid,
    @entriesWireSize_of_short _ _ _ (fun e : ServerStubOwnershipEntry => [e.entityType, e.entityId, e.ownerGameNodeId])
      _ _ short]
  rfl

/-- The ownership sync codec is exact on syncs whose entry count fits its field. -/
theorem ownershipSync_exact :
    ExactCodec getServerStubOwnershipSyncWireSize encodeServerStubOwnershipSync decodeServerStubOwnershipSyncInto
      validateServerStubOwnershipSync fun m => m.assignments.length < 2 ^ 32 := by
  refine @ExactCodec.of_writing _ _ _ _ _ _ _ _ _ _ ownershipSyncBytes (fun m n size => ?_) (fun m n size => ?_)
    (fun m n fits size => ?_) ?_
  · obtain ⟨valid, -, length⟩ := getServerStubOwnershipSyncWireSize_ok size
    exact ⟨valid, length⟩
  · exact encodeServerStubOwnershipSync_ok size
  · obtain ⟨valid, short, -⟩ := getServerStubOwnershipSyncWireSize_ok size
    exact reads_ownershipSync (by omega) short (validateServerStubOwnershipSync_entries valid)
  · exact parses_ownershipSync.mono fun m used ⟨same, count, short⟩ =>
      ⟨same, fun valid => ⟨by omega, getServerStubOwnershipSyncWireSize_of_short valid short⟩⟩

/-- **The list codecs.** For the ownership sync and the service-ready report, the size
function, the writer and the reader agree on every message whose entry count fits 32
bits and on every buffer. -/
theorem entryList_codecs :
    ExactCodec getServerStubOwnershipSyncWireSize encodeServerStubOwnershipSync decodeServerStubOwnershipSyncInto
        validateServerStubOwnershipSync (fun m => m.assignments.length < 2 ^ 32) ∧
      ExactCodec getGameServiceReadyReportWireSize encodeGameServiceReadyReport decodeGameServiceReadyReportInto
        validateGameServiceReadyReport fun m => m.entries.length < 2 ^ 32 :=
  ⟨ownershipSync_exact, serviceReadyReport_exact⟩

end XServer.Net
