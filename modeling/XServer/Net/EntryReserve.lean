import XServer.Net.InnerCluster
import XServer.Lib.Window

/-!
# Storage reserved for entries

The decoders of the ownership sync and of the service-ready report read a 32-bit
entry count and at once call `reserve` with it; the entries are read afterwards. Both
are `noexcept`. Here the two decoders are followed with the storage they ask for,
beside the number of bytes that are left for the entries.
-/

namespace XServer.Net
open XServer.Lib.Wire

/-! ## Typed reads of fixed width -/

theorem window_word {α : Type} (f : Nat → α) (n : Nat) :
    Window ((fun bs => f (ofBigEndian bs)) <$> readBytes n) n (fun _ => True) fun bs => f (fieldAt 0 n bs) :=
  (Window.take _ n).map

theorem window_uint32 : Window readUInt32 4 (fun _ => True) fun bs => UInt32.ofNat (fieldAt 0 4 bs) :=
  window_word UInt32.ofNat 4

theorem window_uint64 : Window readUInt64 8 (fun _ => True) fun bs => UInt64.ofNat (fieldAt 0 8 bs) :=
  window_word UInt64.ofNat 8

/-- A bool is a byte of at most 1. -/
theorem window_bool : Window readBool 1 (fun bs => fieldAt 0 1 bs ≤ 1) fun bs => UInt8.ofNat (fieldAt 0 1 bs) == 1 := by
  have checked (raw : UInt8) : Window (readCheck (if raw > 1 then .error SerializationErrorCode.invalidBoolValue else .ok ()))
      0 (fun _ => ¬ raw > 1) fun _ => () := by
    apply Window.check
    · intro small
      exact if_neg small
    · intro large
      exact ⟨_, if_pos (not_not.mp large)⟩
  have fields := (window_word UInt8.ofNat 1).bind fun raw => (checked raw).bind fun _ => Window.pure (raw == 1)
  refine fields.congr rfl (fun bs => ?_) fun _ => rfl
  have byte := fieldAt_lt 0 1 bs
  have raw : (UInt8.ofNat (fieldAt 0 1 bs)).toNat = fieldAt 0 1 bs := by
    rw [UInt8.toNat_ofNat']
    omega
  simp only [gt_iff_lt, UInt8.not_lt, UInt8.le_iff_toNat_le, raw, true_and, and_true]
  rfl

/-! ## A decoder that reserves -/

/-- A call of `reserve`: the entries asked for, and the bytes that are left to read. -/
structure Reservation where
  entries : Nat
  remaining : Nat
  deriving DecidableEq, Repr

/-- No reservation exceeds the entries of at least `entrySize` bytes that the rest can hold. -/
def WithinBuffer (entrySize : Nat) (reserved : List Reservation) : Prop :=
  ∀ r ∈ reserved, r.entries ≤ r.remaining / entrySize

structure Reserving (α : Type) where
  reserved : List Reservation
  result : Except InnerClusterCodecErrorCode α

section Reserving

variable {η α : Type}

/-- The head with the count, the reservation, then the entries and the rest of the fields. -/
def decodeReserving (head : ClusterReader η) (count : η → UInt32) (body : η → ClusterReader α)
    (validate : α → Except InnerClusterCodecErrorCode Unit) (buffer : Bytes) : Reserving α :=
  match head buffer with
  | .error e => { reserved := [], result := .error e }
  | .ok (h, rest) =>
    { reserved := [⟨(count h).toNat, rest.length⟩]
      result := decodeExact (body h) validate .trailingBytes rest }

variable {head : ClusterReader η} {count : η → UInt32} {body : η → ClusterReader α}
  {validate : α → Except InnerClusterCodecErrorCode Unit}

theorem decodeReserving_result (buffer : Bytes) :
    (decodeReserving head count body validate buffer).result =
      decodeExact (head >>= body) validate .trailingBytes buffer := by
  unfold decodeReserving decodeExact
  simp only [Bind.bind, StateT.bind]
  cases read : head buffer with
  | error e => rfl
  | ok p => rfl

/-- The reservation is within the buffer exactly when the count, if it is reached, is. -/
theorem decodeReserving_within {n : Nat} {ok : Bytes → Prop} {f : Bytes → η} (reads : Window head n ok f)
    (entrySize : Nat) (buffer : Bytes) :
    WithinBuffer entrySize (decodeReserving head count body validate buffer).reserved ↔
      (n ≤ buffer.length ∧ ok buffer → (count (f buffer)).toNat ≤ (buffer.length - n) / entrySize) := by
  unfold decodeReserving WithinBuffer
  by_cases reached : n ≤ buffer.length ∧ ok buffer
  · rw [reads.accepts buffer reached.1 reached.2]
    simp [reached]
  · obtain ⟨e, failed⟩ := reads.refuses buffer reached
    rw [failed]
    simp [reached]

/-- An accepted buffer holds all the entries storage was reserved for. -/
theorem decodeReserving_accepted {entrySize : Nat} (positive : 0 < entrySize)
    (entries : ∀ h, Parses (body h) fun _ used => entrySize * (count h).toNat ≤ used.length) {buffer : Bytes} {v : α}
    (accepted : (decodeReserving head count body validate buffer).result = .ok v) :
    WithinBuffer entrySize (decodeReserving head count body validate buffer).reserved := by
  unfold decodeReserving at accepted ⊢
  cases read : head buffer with
  | error e =>
    rw [read] at accepted
    cases accepted
  | ok p =>
    obtain ⟨h, rest⟩ := p
    rw [read] at accepted
    obtain ⟨enough, -⟩ := (entries h).decodeExact accepted
    intro r mem
    obtain rfl := List.mem_singleton.mp mem
    rw [Nat.le_div_iff_mul_le positive]
    rwa [Nat.mul_comm] at enough

end Reserving

/-- Entries of at least `entrySize` bytes each. -/
theorem parses_entries {α β : Type} {r : ClusterReader α} {enc : α → Bytes} {P : α → Prop} {entrySize : Nat}
    (entry : Parses r fun a used => used = enc a ∧ P a) (minimum : ∀ a, entrySize ≤ (enc a).length) (n : Nat)
    (k : List α → ClusterReader β) (last : ∀ as, Parses (k as) fun _ _ => True) :
    Parses (readMany r n >>= k) fun _ used => entrySize * n ≤ used.length := by
  refine (Parses.many entry n).bind fun as used taken => (last as).mono fun _ rest _ => ?_
  obtain ⟨rfl, rfl, -⟩ := taken
  have each : entrySize * as.length ≤ (as.flatMap enc).length := by
    induction as with
    | nil => simp
    | cons a as ih =>
      have here := minimum a
      rw [List.flatMap_cons, List.length_append, List.length_cons, Nat.mul_add]
      omega
  rw [List.length_append]
  omega

/-! ## The ownership sync -/

/-- Three empty strings and the flags. -/
def ownershipEntryMinimumSize : Nat := 10

theorem ownershipEntryMinimumSize_le (e : ServerStubOwnershipEntry) :
    ownershipEntryMinimumSize ≤ (ownershipEntryBytes e).length := by
  simp only [ownershipEntryMinimumSize, ownershipEntryBytes, string16, List.length_append, bigEndian_length]
  omega

def readServerStubOwnershipSyncHead : ClusterReader (UInt64 × UInt32 × UInt32) := clusterRead do
  let assignmentEpoch ← readUInt64
  let statusFlags ← readUInt32
  let assignmentCount ← readUInt32
  pure (assignmentEpoch, statusFlags, assignmentCount)

def readServerStubOwnershipSyncEntries (head : UInt64 × UInt32 × UInt32) : ClusterReader ServerStubOwnershipSync := do
  let assignments ← readMany readServerStubOwnershipEntry head.2.2.toNat
  let serverNowUnixMs ← clusterRead readUInt64
  pure { assignmentEpoch := head.1, statusFlags := head.2.1, assignments, serverNowUnixMs }

/-- `DecodeServerStubOwnershipSync` with its `assignments.reserve(assignment_count)`. -/
def decodeServerStubOwnershipSyncReserving : Bytes → Reserving ServerStubOwnershipSync :=
  decodeReserving readServerStubOwnershipSyncHead (fun head => head.2.2) readServerStubOwnershipSyncEntries
    validateServerStubOwnershipSync

theorem decodeServerStubOwnershipSyncReserving_result (buffer : Bytes) :
    (decodeServerStubOwnershipSyncReserving buffer).result = decodeServerStubOwnershipSync buffer :=
  decodeReserving_result buffer

theorem window_ownershipSyncHead :
    Window readServerStubOwnershipSyncHead 16 (fun _ => True) fun bs =>
      (UInt64.ofNat (fieldAt 0 8 bs), UInt32.ofNat (fieldAt 8 4 bs), UInt32.ofNat (fieldAt 12 4 bs)) := by
  have fields := (window_uint64.bind fun assignmentEpoch => window_uint32.bind fun statusFlags =>
    window_uint32.bind fun assignmentCount => Window.pure (ε := SerializationErrorCode)
      (assignmentEpoch, statusFlags, assignmentCount)).mapError (h := SerializationErrorCode.toInnerCluster)
  exact fields.congr rfl (by simp) (by simp)

theorem toNat_count (offset : Nat) (bs : Bytes) : (UInt32.ofNat (fieldAt offset 4 bs)).toNat = fieldAt offset 4 bs := by
  have bound := fieldAt_lt offset 4 bs
  rw [UInt32.toNat_ofNat']
  omega

/-- The count of an ownership sync, when it is read, is one that the rest of the buffer can hold. -/
def OwnershipCountFits (buffer : Bytes) : Prop :=
  buffer.length < 16 ∨ fieldAt 12 4 buffer ≤ (buffer.length - 16) / ownershipEntryMinimumSize

theorem ownershipSync_within (buffer : Bytes) :
    WithinBuffer ownershipEntryMinimumSize (decodeServerStubOwnershipSyncReserving buffer).reserved ↔
      OwnershipCountFits buffer := by
  refine (decodeReserving_within window_ownershipSyncHead _ _).trans ?_
  simp only [toNat_count, and_true, OwnershipCountFits]
  rw [← Nat.not_le, ← imp_iff_not_or]

theorem parses_ownershipSyncEntries (head : UInt64 × UInt32 × UInt32) :
    Parses (readServerStubOwnershipSyncEntries head)
      fun _ used => ownershipEntryMinimumSize * head.2.2.toNat ≤ used.length := by
  refine parses_entries parses_ownershipEntry ownershipEntryMinimumSize_le _ _ fun assignments => ?_
  exact parses_uint64.mapError.bind fun now _ _ => Parses.pure trivial

/-- An accepted ownership sync holds all the entries storage was reserved for. -/
theorem decodeServerStubOwnershipSync_within {buffer : Bytes} {sync : ServerStubOwnershipSync}
    (accepted : decodeServerStubOwnershipSync buffer = .ok sync) : OwnershipCountFits buffer := by
  rw [← ownershipSync_within]
  apply decodeReserving_accepted (by decide) parses_ownershipSyncEntries
  exact (decodeServerStubOwnershipSyncReserving_result buffer).trans accepted

/-! ## The service-ready report -/

/-- Two empty strings, the ready flag and the flags. -/
def readyEntryMinimumSize : Nat := 9

theorem readyEntryMinimumSize_le (e : ServerStubReadyEntry) : readyEntryMinimumSize ≤ (readyEntryBytes e).length := by
  simp only [readyEntryMinimumSize, readyEntryBytes, string16, List.length_append, List.length_singleton, bigEndian_length]
  omega

def readGameServiceReadyReportHead : ClusterReader (UInt64 × Bool × UInt32 × UInt32) := clusterRead do
  let assignmentEpoch ← readUInt64
  let localReady ← readBool
  let statusFlags ← readUInt32
  let entryCount ← readUInt32
  pure (assignmentEpoch, localReady, statusFlags, entryCount)

def readGameServiceReadyReportEntries (head : UInt64 × Bool × UInt32 × UInt32) : ClusterReader GameServiceReadyReport := do
  let entries ← readMany readServerStubReadyEntry head.2.2.2.toNat
  let reportedAtUnixMs ← clusterRead readUInt64
  pure { assignmentEpoch := head.1, localReady := head.2.1, statusFlags := head.2.2.1, entries, reportedAtUnixMs }

/-- `DecodeGameServiceReadyReport` with its `entries.reserve(entry_count)`. -/
def decodeGameServiceReadyReportReserving : Bytes → Reserving GameServiceReadyReport :=
  decodeReserving readGameServiceReadyReportHead (fun head => head.2.2.2) readGameServiceReadyReportEntries
    validateGameServiceReadyReport

theorem decodeGameServiceReadyReportReserving_result (buffer : Bytes) :
    (decodeGameServiceReadyReportReserving buffer).result = decodeGameServiceReadyReport buffer :=
  decodeReserving_result buffer

theorem window_serviceReadyReportHead :
    Window readGameServiceReadyReportHead 17 (fun bs => fieldAt 8 1 bs ≤ 1) fun bs =>
      (UInt64.ofNat (fieldAt 0 8 bs), UInt8.ofNat (fieldAt 8 1 bs) == 1, UInt32.ofNat (fieldAt 9 4 bs),
        UInt32.ofNat (fieldAt 13 4 bs)) := by
  have fields := (window_uint64.bind fun assignmentEpoch => window_bool.bind fun localReady =>
    window_uint32.bind fun statusFlags => window_uint32.bind fun entryCount =>
      Window.pure (ε := SerializationErrorCode) (assignmentEpoch, localReady, statusFlags, entryCount)).mapError
    (h := SerializationErrorCode.toInnerCluster)
  exact fields.congr rfl (by simp) (by simp)

/-- The count of a service-ready report, when it is read, is one that the rest of the buffer can hold. -/
def ReadyCountFits (buffer : Bytes) : Prop :=
  buffer.length < 17 ∨ 1 < fieldAt 8 1 buffer ∨ fieldAt 13 4 buffer ≤ (buffer.length - 17) / readyEntryMinimumSize

theorem serviceReadyReport_within (buffer : Bytes) :
    WithinBuffer readyEntryMinimumSize (decodeGameServiceReadyReportReserving buffer).reserved ↔ ReadyCountFits buffer := by
  refine (decodeReserving_within window_serviceReadyReportHead _ _).trans ?_
  simp only [toNat_count, ReadyCountFits]
  rw [← Nat.not_le, ← Nat.not_le, ← imp_iff_not_or, ← imp_iff_not_or, and_imp]

theorem parses_serviceReadyReportEntries (head : UInt64 × Bool × UInt32 × UInt32) :
    Parses (readGameServiceReadyReportEntries head)
      fun _ used => readyEntryMinimumSize * head.2.2.2.toNat ≤ used.length := by
  refine parses_entries parses_readyEntry readyEntryMinimumSize_le _ _ fun entries => ?_
  exact parses_uint64.mapError.bind fun reportedAt _ _ => Parses.pure trivial

/-- An accepted report holds all the entries storage was reserved for. -/
theorem decodeGameServiceReadyReport_within {buffer : Bytes} {report : GameServiceReadyReport}
    (accepted : decodeGameServiceReadyReport buffer = .ok report) : ReadyCountFits buffer := by
  rw [← serviceReadyReport_within]
  apply decodeReserving_accepted (by decide) parses_serviceReadyReportEntries
  exact (decodeGameServiceReadyReportReserving_result buffer).trans accepted

/-- **Storage reserved.** Each decoder reserves within its buffer exactly when the count
it reads is one that the rest of the buffer can hold. -/
theorem entries_reserved_within (buffer : Bytes) :
    (WithinBuffer ownershipEntryMinimumSize (decodeServerStubOwnershipSyncReserving buffer).reserved ↔
        OwnershipCountFits buffer) ∧
      (WithinBuffer readyEntryMinimumSize (decodeGameServiceReadyReportReserving buffer).reserved ↔
        ReadyCountFits buffer) :=
  ⟨ownershipSync_within buffer, serviceReadyReport_within buffer⟩

/-- A head whose count is the largest there is, and nothing after it. -/
def shortOwnershipSync : Bytes := List.replicate 12 0 ++ List.replicate 4 255

def shortServiceReadyReport : Bytes := List.replicate 13 0 ++ List.replicate 4 255

theorem short_message_reserves :
    (decodeServerStubOwnershipSyncReserving shortOwnershipSync).reserved = [⟨4294967295, 0⟩] ∧
      ¬ WithinBuffer ownershipEntryMinimumSize (decodeServerStubOwnershipSyncReserving shortOwnershipSync).reserved ∧
      (decodeGameServiceReadyReportReserving shortServiceReadyReport).reserved = [⟨4294967295, 0⟩] ∧
      ¬ WithinBuffer readyEntryMinimumSize (decodeGameServiceReadyReportReserving shortServiceReadyReport).reserved := by
  have sync : (decodeServerStubOwnershipSyncReserving shortOwnershipSync).reserved = [⟨4294967295, 0⟩] := by
    decide +kernel
  have report : (decodeGameServiceReadyReportReserving shortServiceReadyReport).reserved = [⟨4294967295, 0⟩] := by
    decide +kernel
  have exceeds (entrySize : Nat) : ¬ WithinBuffer entrySize [⟨4294967295, 0⟩] := by
    simp [WithinBuffer]
  refine ⟨sync, ?_, report, ?_⟩
  · rw [sync]
    exact exceeds _
  · rw [report]
    exact exceeds _

end XServer.Net
