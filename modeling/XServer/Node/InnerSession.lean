import XServer.Lib.Table
import XServer.Net.Register

/-!
# Sessions of the inner network

`node/InnerNetworkSessionManager.cpp`: the sessions a node keeps for its peers,
by node id, with an index from routing id to node id. The handlers change a
session in place through `FindMutable*`; here that is `modify`.
-/

namespace XServer.Node
open XServer.Lib XServer.Lib.Wire XServer.Net

/-- `xs::core::ProcessType`. -/
inductive ProcessType where
  | gm
  | gate
  | game
  deriving DecidableEq, Repr

/-- `xs::ipc::ZmqConnectionState`. -/
inductive ZmqConnectionState where
  | stopped
  | connecting
  | connected
  | disconnected
  deriving DecidableEq, Repr

/-- `InnerNetworkSessionManagerErrorCode`, without `None`. -/
inductive InnerNetworkSessionManagerErrorCode where
  | invalidArgument
  | invalidProcessType
  | invalidNodeId
  | invalidInnerNetworkEndpointHost
  | invalidInnerNetworkEndpointPort
  | nodeIdConflict
  | routingIdConflict
  | nodeNotFound
  | routingIdNotFound
  deriving DecidableEq, Repr

structure InnerNetworkSessionRegistration where
  processType : ProcessType
  nodeId : Bytes
  pid : UInt32 := 0
  startedAtUnixMs : UInt64 := 0
  innerNetworkEndpoint : Endpoint
  buildVersion : Bytes := []
  capabilityTags : List Bytes := []
  load : LoadSnapshot := ⟨0, 0, 0, 0, 0⟩
  routingId : Bytes := []
  lastHeartbeatAtUnixMs : UInt64 := 0
  innerNetworkReady : Bool := false
  deriving DecidableEq, Repr

structure InnerNetworkSession where
  processType : ProcessType
  nodeId : Bytes
  pid : UInt32
  startedAtUnixMs : UInt64
  innerNetworkEndpoint : Endpoint
  buildVersion : Bytes
  capabilityTags : List Bytes
  load : LoadSnapshot
  routingId : Bytes
  lastHeartbeatAtUnixMs : UInt64
  innerNetworkReady : Bool
  connectionState : ZmqConnectionState := .stopped
  nextSeq : UInt32 := 1
  registerSeq : UInt32 := 0
  heartbeatSeq : UInt32 := 0
  heartbeatIntervalMs : UInt32 := 0
  heartbeatTimeoutMs : UInt32 := 0
  lastServerNowUnixMs : UInt64 := 0
  heartbeatTimerId : Int64 := 0
  lastProtocolError : Bytes := []
  heartbeatTimedOut : Bool := false
  registered : Bool := false
  registerInFlight : Bool := false
  deriving DecidableEq

/-- The entry `Register` stores. -/
def InnerNetworkSessionRegistration.toSession (r : InnerNetworkSessionRegistration) : InnerNetworkSession where
  processType := r.processType
  nodeId := r.nodeId
  pid := r.pid
  startedAtUnixMs := r.startedAtUnixMs
  innerNetworkEndpoint := r.innerNetworkEndpoint
  buildVersion := r.buildVersion
  capabilityTags := r.capabilityTags
  load := r.load
  routingId := r.routingId
  lastHeartbeatAtUnixMs := r.lastHeartbeatAtUnixMs
  innerNetworkReady := r.innerNetworkReady

theorem ok_of_toOption {ε α : Type} {x : Except ε α} {a : α} (h : x.toOption = some a) : x = .ok a := by
  cases x with
  | error e => cases h
  | ok b => cases h; rfl

structure InnerNetworkSessionManager where
  entriesByNodeId : Table Bytes InnerNetworkSession := ∅
  nodeIdByRoutingKey : Table Bytes Bytes := ∅
  deriving DecidableEq

namespace InnerNetworkSessionManager

/-- `ValidateRegistration`; every process type of the enumeration is valid. -/
def validateRegistration (r : InnerNetworkSessionRegistration) : Except InnerNetworkSessionManagerErrorCode Unit :=
  if r.nodeId = [] then .error .invalidNodeId
  else if r.innerNetworkEndpoint.host = [] then .error .invalidInnerNetworkEndpointHost
  else if r.innerNetworkEndpoint.port = 0 then .error .invalidInnerNetworkEndpointPort
  else .ok ()

/-- `Register`: refused for a node id or a non-empty routing id that is taken. -/
def register (m : InnerNetworkSessionManager) (r : InnerNetworkSessionRegistration) :
    Except InnerNetworkSessionManagerErrorCode InnerNetworkSessionManager :=
  match validateRegistration r with
  | .error e => .error e
  | .ok () =>
    if m.entriesByNodeId.contains r.nodeId then .error .nodeIdConflict
    else if r.routingId ≠ [] ∧ m.nodeIdByRoutingKey.contains r.routingId then .error .routingIdConflict
    else .ok {
      entriesByNodeId := m.entriesByNodeId.insert r.nodeId r.toSession
      nodeIdByRoutingKey :=
        if r.routingId ≠ [] then m.nodeIdByRoutingKey.insert r.routingId r.nodeId else m.nodeIdByRoutingKey }

def findByNodeId (m : InnerNetworkSessionManager) (nodeId : Bytes) : Option InnerNetworkSession :=
  m.entriesByNodeId[nodeId]?

def findByRoutingId (m : InnerNetworkSessionManager) (routingId : Bytes) : Option InnerNetworkSession :=
  if routingId = [] then none
  else
    match m.nodeIdByRoutingKey[routingId]? with
    | none => none
    | some nodeId => m.findByNodeId nodeId

/-- A change of the session of `nodeId` in place; nothing when there is none. -/
def modify (m : InnerNetworkSessionManager) (nodeId : Bytes) (f : InnerNetworkSession → InnerNetworkSession) :
    InnerNetworkSessionManager :=
  match m.entriesByNodeId[nodeId]? with
  | none => m
  | some session => { m with entriesByNodeId := m.entriesByNodeId.insert nodeId (f session) }

/-- A change in place of the session found by `FindMutableByRoutingId`. -/
def modifyByRoutingId (m : InnerNetworkSessionManager) (routingId : Bytes)
    (f : InnerNetworkSession → InnerNetworkSession) : InnerNetworkSessionManager :=
  if routingId = [] then m
  else
    match m.nodeIdByRoutingKey[routingId]? with
    | none => m
    | some nodeId => m.modify nodeId f

/-- A change of every session in place. -/
def mapSessions (m : InnerNetworkSessionManager) (f : InnerNetworkSession → InnerNetworkSession) :
    InnerNetworkSessionManager :=
  { m with entriesByNodeId := m.entriesByNodeId.map fun _ session => f session }

/-! ## What the operations do to the session of a node -/

theorem findByNodeId_modify (m : InnerNetworkSessionManager) (n a : Bytes)
    (f : InnerNetworkSession → InnerNetworkSession) :
    (m.modify n f).findByNodeId a = if n = a then (m.findByNodeId a).map f else m.findByNodeId a := by
  unfold modify findByNodeId
  by_cases h : n = a
  · subst h
    cases found : m.entriesByNodeId[n]? <;> simp [found]
  · rw [if_neg h]
    cases m.entriesByNodeId[n]? with
    | none => rfl
    | some session => exact Table.get_insert_of_ne _ _ h

/-- Where a session found after a change comes from. -/
theorem findByNodeId_modify_some {m : InnerNetworkSessionManager} {n a : Bytes}
    {f : InnerNetworkSession → InnerNetworkSession} {session' : InnerNetworkSession}
    (found : (m.modify n f).findByNodeId a = some session') :
    ∃ session, m.findByNodeId a = some session ∧ (session' = session ∨ n = a ∧ session' = f session) := by
  rw [findByNodeId_modify] at found
  split at found
  · rename_i same
    obtain ⟨session, filed, rfl⟩ := Option.map_eq_some_iff.mp found
    exact ⟨session, filed, .inr ⟨same, rfl⟩⟩
  · exact ⟨session', found, .inl rfl⟩

theorem findByNodeId_modifyByRoutingId_some {m : InnerNetworkSessionManager} {routingId a : Bytes}
    {f : InnerNetworkSession → InnerNetworkSession} {session' : InnerNetworkSession}
    (found : (m.modifyByRoutingId routingId f).findByNodeId a = some session') :
    ∃ session, m.findByNodeId a = some session ∧
      (session' = session ∨ m.findByRoutingId routingId = some session ∧ session' = f session) := by
  unfold modifyByRoutingId at found
  split at found
  · exact ⟨session', found, .inl rfl⟩
  rename_i given
  split at found
  · exact ⟨session', found, .inl rfl⟩
  · rename_i nodeId indexed
    obtain ⟨session, filed, same | ⟨rfl, same⟩⟩ := findByNodeId_modify_some found
    · exact ⟨session, filed, .inl same⟩
    · refine ⟨session, filed, .inr ⟨?_, same⟩⟩
      unfold findByRoutingId
      rw [if_neg given, indexed]
      exact filed

theorem findByNodeId_mapSessions (m : InnerNetworkSessionManager) (a : Bytes)
    (f : InnerNetworkSession → InnerNetworkSession) :
    (m.mapSessions f).findByNodeId a = (m.findByNodeId a).map f := by
  simp only [mapSessions, findByNodeId, Std.ExtTreeMap.getElem?_map]

@[simp] theorem nodeIdByRoutingKey_modify (m : InnerNetworkSessionManager) (n : Bytes)
    (f : InnerNetworkSession → InnerNetworkSession) :
    (m.modify n f).nodeIdByRoutingKey = m.nodeIdByRoutingKey := by
  unfold modify
  split <;> rfl

/-- What an accepted registration found and left behind. -/
theorem register_ok {m m' : InnerNetworkSessionManager} {r : InnerNetworkSessionRegistration}
    (h : m.register r = .ok m') :
    m.findByNodeId r.nodeId = none ∧
      m'.entriesByNodeId = m.entriesByNodeId.insert r.nodeId r.toSession ∧
      m'.nodeIdByRoutingKey =
        (if r.routingId ≠ [] then m.nodeIdByRoutingKey.insert r.routingId r.nodeId
          else m.nodeIdByRoutingKey) := by
  unfold register at h
  split at h
  · cases h
  · split at h
    · cases h
    · rename_i absent
      split at h
      · cases h
      · cases h
        refine ⟨?_, rfl, rfl⟩
        simpa [findByNodeId, ← Std.ExtTreeMap.isSome_getElem?_eq_contains] using absent

/-- Nobody else has the channel of an accepted registration. -/
theorem register_unused {m m' : InnerNetworkSessionManager} {r : InnerNetworkSessionRegistration}
    (h : m.register r = .ok m') : r.routingId = [] ∨ m.nodeIdByRoutingKey[r.routingId]? = none := by
  unfold register at h
  split at h
  · cases h
  · split at h
    · cases h
    · split at h
      · cases h
      · rename_i unused
        rw [← Std.ExtTreeMap.isSome_getElem?_eq_contains] at unused
        cases held : m.nodeIdByRoutingKey[r.routingId]? with
        | none => exact .inr rfl
        | some nodeId =>
          rw [held] at unused
          exact .inl (by simpa using unused)

/-- What holds of the new session and of all the others. -/
theorem register_sessions {P : InnerNetworkSession → Prop} {m m' : InnerNetworkSessionManager}
    {r : InnerNetworkSessionRegistration} (accepted : m.register r = .ok m') (new : P r.toSession)
    (h : ∀ nodeId session, m.findByNodeId nodeId = some session → P session) :
    ∀ nodeId session, m'.findByNodeId nodeId = some session → P session := by
  obtain ⟨-, entries, -⟩ := register_ok accepted
  intro nodeId session found
  rw [findByNodeId, entries] at found
  by_cases same : r.nodeId = nodeId
  · rw [same, Table.get_insert_self] at found
    cases found
    exact new
  · rw [Table.get_insert_of_ne _ _ same] at found
    exact h nodeId session found

/-- What an accepted registration keeps holds once a list of peers is entered. -/
theorem foldlM_register {α : Type} {P : InnerNetworkSessionManager → Prop}
    {registrationOf : α → InnerNetworkSessionRegistration}
    (keeps : ∀ peer {m m'}, m.register (registrationOf peer) = .ok m' → P m → P m')
    {peers : List α} {m m' : InnerNetworkSessionManager} (start : P m)
    (entered : peers.foldlM (fun m peer => (m.register (registrationOf peer)).toOption) m = some m') : P m' := by
  induction peers generalizing m with
  | nil =>
    cases entered
    exact start
  | cons peer peers ih =>
    simp only [List.foldlM_cons, Option.bind_eq_bind, Option.bind_eq_some_iff] at entered
    obtain ⟨next, accepted, rest⟩ := entered
    exact ih (keeps peer (ok_of_toOption accepted) start) rest

theorem findByRoutingId_some {m : InnerNetworkSessionManager} {routingId : Bytes} {session : InnerNetworkSession}
    (h : m.findByRoutingId routingId = some session) :
    ∃ nodeId, m.nodeIdByRoutingKey[routingId]? = some nodeId ∧ m.findByNodeId nodeId = some session := by
  unfold findByRoutingId at h
  split at h
  · cases h
  · split at h
    · cases h
    · rename_i nodeId indexed
      exact ⟨nodeId, indexed, h⟩

end InnerNetworkSessionManager

end XServer.Node
