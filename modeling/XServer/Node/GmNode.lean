import XServer.Lib.Machine
import XServer.Node.InnerSession
import Mathlib.Data.Option.Basic

/-!
# The GM node

State and handlers of `node/GmNode.cpp`: registration, heartbeats, the
timeout scan and the three startup phases (all nodes online, all Games ready,
all stubs ready). A step's environment holds what the code asks of others: the
clock, the outcome of `Send`, the managed stub reflection and the random owner
choice. Logging is left out; a handler returns its new state and its events.
-/

namespace XServer.Node
open XServer.Lib XServer.Lib.Wire XServer.Net

/-! ## Constants -/

def defaultHeartbeatIntervalMs : UInt32 := 5000
def defaultHeartbeatTimeoutMs : UInt32 := 15000
def serverStubOwnershipAssignmentEpoch : UInt64 := 1
def unknownServerEntityId : Bytes := text "unknown"

def innerProcessTypeInvalid : Int32 := 3000
def innerNodeIdConflict : Int32 := 3001
def innerNetworkEndpointInvalid : Int32 := 3002
def innerNodeNotRegistered : Int32 := 3003
def innerChannelInvalid : Int32 := 3004
def innerRequestInvalid : Int32 := 3005

/-! ## State -/

inductive ServerStubState where
  | init
  | ready
  deriving DecidableEq, Repr

structure GameMeshReadyEntry where
  nodeId : Bytes
  meshReady : Bool := false
  reportedAtUnixMs : UInt64 := 0
  deriving DecidableEq, Repr

structure ServerStubEntry where
  entityType : Bytes
  entityId : Bytes := unknownServerEntityId
  ownerGameNodeId : Bytes := []
  state : ServerStubState := .init
  deriving DecidableEq, Repr

structure ServerStubStateTable where
  entries : List ServerStubEntry := []
  reflectionLoaded : Bool := false
  reflectionLoadFailed : Bool := false
  deriving DecidableEq, Repr

structure StartupState where
  expectedGateNodeIds : List Bytes
  expectedGameEntries : List GameMeshReadyEntry
  registeredGateNodeIds : List Bytes := []
  registeredGameNodeIds : List Bytes := []
  readyEpoch : UInt64 := 0
  lastAllNodesOnlineServerNowUnixMs : UInt64 := 0
  lastClusterReadyServerNowUnixMs : UInt64 := 0
  allNodesOnline : Bool := false
  allExpectedGamesMeshReady : Bool := false
  gateOpen : Bool := false
  deriving DecidableEq, Repr

structure GmNode where
  sessions : InnerNetworkSessionManager := {}
  startup : StartupState
  stubs : ServerStubStateTable := {}
  deriving DecidableEq

/-- The state after `OnInit`, for the configured Gates and Games. -/
def GmNode.init (gates games : List Bytes) : GmNode where
  startup := {
    expectedGateNodeIds := gates
    expectedGameEntries := games.map fun nodeId => { nodeId } }

/-- What one handler call asks of its surroundings. `nowUnixMs` is the first
reading of the clock in the call and `laterUnixMs` a later one; `sendOk` is the
outcome of handing a packet to a peer; `reflection` the `(type, id)` pairs of
the managed reflection, if the runtime could be read at all; `distribution i`
the draw for the `i`-th stub. -/
structure GmEnv where
  nowUnixMs : UInt64 := 0
  laterUnixMs : UInt64 := 0
  sendOk : Bytes → Bytes → Bool := fun _ _ => true
  reflection : Option (List (Bytes × Bytes)) := none
  distribution : Nat → Nat := id

/-- A packet accepted by the network, or a startup phase that begins. -/
inductive GmEvent where
  | send (routingId packet : Bytes)
  | allNodeOnline
  | allGameReady
  | allStubReady
  deriving DecidableEq, Repr

/-- Encode a packet and hand it to the network; the packet if that succeeds. -/
def GmEnv.send (env : GmEnv) (routingId : Bytes) (msgId seq : UInt32) (flags : UInt16) (body : Bytes) : Option Bytes :=
  match encodePacket (makePacketHeader msgId seq flags (UInt32.ofNat body.length)) body
      (packetHeaderSize + body.length) with
  | .error _ => none
  | .ok packet => if env.sendOk routingId packet then some packet else none

theorem GmEnv.send_some {env : GmEnv} {target body packet : Bytes} {msgId seq : UInt32} {flags : UInt16}
    (h : env.send target msgId seq flags body = some packet) :
    encodePacket (makePacketHeader msgId seq flags (UInt32.ofNat body.length)) body
      (packetHeaderSize + body.length) = .ok packet := by
  unfold GmEnv.send at h
  split at h
  · cases h
  · rename_i encoded
    split at h
    · cases h
      exact encoded
    · cases h

theorem GmEnv.send_msgId {env : GmEnv} {target body packet : Bytes} {msgId seq : UInt32} {flags : UInt16}
    (h : env.send target msgId seq flags body = some packet) : HasMsgId packet msgId :=
  ⟨_, readRawHeader_encodePacket (GmEnv.send_some h), rfl⟩

/-- The event of a packet that went out. -/
def GmEvent.sent (routingId : Bytes) (packet : Option Bytes) : List GmEvent :=
  packet.toList.map (GmEvent.send routingId)

namespace GmNode

/-! ## Startup aggregation -/

def meshReadyEntry (gm : GmNode) (nodeId : Bytes) : Option GameMeshReadyEntry :=
  gm.startup.expectedGameEntries.find? fun entry => entry.nodeId == nodeId

/-- Counts, not identities, are compared. -/
def areAllExpectedNodesOnline (gm : GmNode) : Bool :=
  let s := gm.startup
  s.expectedGateNodeIds.length + s.expectedGameEntries.length != 0 &&
    (s.registeredGateNodeIds.length == s.expectedGateNodeIds.length &&
      s.registeredGameNodeIds.length == s.expectedGameEntries.length)

def areAllExpectedGamesMeshReady (gm : GmNode) : Bool :=
  !gm.startup.expectedGameEntries.isEmpty && gm.startup.expectedGameEntries.all (·.meshReady)

def areAllServerStubsReady (gm : GmNode) : Bool :=
  !gm.stubs.entries.isEmpty &&
    gm.stubs.entries.all fun entry => entry.ownerGameNodeId != [] && entry.state == .ready

def recordStartupRegistration (gm : GmNode) (processType : ProcessType) (nodeId : Bytes) : GmNode :=
  match processType with
  | .game =>
    if gm.meshReadyEntry nodeId = none || gm.startup.registeredGameNodeIds.contains nodeId then gm
    else { gm with startup := { gm.startup with
      registeredGameNodeIds := gm.startup.registeredGameNodeIds ++ [nodeId] } }
  | .gate =>
    if !gm.startup.expectedGateNodeIds.contains nodeId || gm.startup.registeredGateNodeIds.contains nodeId then gm
    else { gm with startup := { gm.startup with
      registeredGateNodeIds := gm.startup.registeredGateNodeIds ++ [nodeId] } }
  | .gm => gm

/-- The sessions of the listed nodes that are registered and not timed out. -/
def notifyTargets (gm : GmNode) (nodeIds : List Bytes) : List InnerNetworkSession :=
  nodeIds.filterMap fun nodeId =>
    (gm.sessions.findByNodeId nodeId).filter fun session => session.registered && !session.heartbeatTimedOut

def sendClusterNodesOnlineNotifyToGame (env : GmEnv) (session : InnerNetworkSession) (allNodesOnline : Bool)
    (serverNowUnixMs : UInt64) : List GmEvent :=
  match encodeClusterNodesOnlineNotify ⟨allNodesOnline, 0, serverNowUnixMs⟩ clusterNodesOnlineNotifySize with
  | .error _ => []
  | .ok body =>
    GmEvent.sent session.routingId
      (env.send session.routingId innerClusterNodesOnlineNotifyMsgId packetSeqNone 0 body)

def sendOwnershipSyncToGame (env : GmEnv) (session : InnerNetworkSession) (sync : ServerStubOwnershipSync) :
    List GmEvent :=
  match getServerStubOwnershipSyncWireSize sync with
  | .error _ => []
  | .ok wireSize =>
    match encodeServerStubOwnershipSync sync wireSize with
    | .error _ => []
    | .ok body =>
      GmEvent.sent session.routingId
        (env.send session.routingId innerServerStubOwnershipSyncMsgId packetSeqNone 0 body)

def sendClusterGateOpenNotifyToGate (env : GmEnv) (session : InnerNetworkSession) (notify : ClusterReadyNotify) :
    List GmEvent :=
  match encodeClusterReadyNotify notify clusterReadyNotifySize with
  | .error _ => []
  | .ok body =>
    GmEvent.sent session.routingId
      (env.send session.routingId innerClusterReadyNotifyMsgId packetSeqNone 0 body)

def onAllNodeOnline (gm : GmNode) (env : GmEnv) : GmNode × List GmEvent :=
  if gm.startup.allNodesOnline then (gm, [])
  else
    let gm := { gm with startup := { gm.startup with
      allNodesOnline := true, lastAllNodesOnlineServerNowUnixMs := env.laterUnixMs } }
    (gm, .allNodeOnline :: (gm.notifyTargets (gm.startup.expectedGameEntries.map (·.nodeId))).flatMap fun session =>
      sendClusterNodesOnlineNotifyToGame env session true env.laterUnixMs)

/-! ## Stub assignment -/

/-- `ResetServerStubStates`. -/
def resetServerStubStates (entries : List ServerStubEntry) : List ServerStubEntry :=
  entries.map fun entry => { entry with entityId := unknownServerEntityId, state := .init }

/-- The reflection loop: a type must be given, a missing id reads "unknown", a
repeated pair is refused. -/
def readReflectionEntries : List (Bytes × Bytes) → List ServerStubEntry → Option (List ServerStubEntry)
  | [], entries => some entries
  | (entityType, entityId) :: rest, entries =>
    let definition : ServerStubEntry :=
      { entityType, entityId := if entityId = [] then unknownServerEntityId else entityId }
    if entityType = [] then none
    else if entries.any fun e => e.entityType == definition.entityType && e.entityId == definition.entityId then none
    else readReflectionEntries rest (entries ++ [definition])

/-- `LoadManagedServerStubReflection`: loaded once; a failure empties the table
and is remembered. -/
def loadManagedServerStubReflection (table : ServerStubStateTable) (reflection : Option (List (Bytes × Bytes))) :
    Bool × ServerStubStateTable :=
  if table.reflectionLoaded then (true, table)
  else if table.reflectionLoadFailed then (false, table)
  else
    let failed : ServerStubStateTable := { entries := [], reflectionLoaded := false, reflectionLoadFailed := true }
    match reflection with
    | none => (false, failed)
    | some [] => (false, failed)
    | some pairs =>
      match readReflectionEntries pairs [] with
      | none => (false, failed)
      | some entries =>
        (true, { entries := resetServerStubStates entries, reflectionLoaded := true, reflectionLoadFailed := false })

/-- Every entry gets one of the expected Games. -/
def assignOwners (games : List GameMeshReadyEntry) (distribution : Nat → Nat) (entries : List ServerStubEntry) :
    List ServerStubEntry :=
  entries.mapIdx fun i entry =>
    match games[distribution i % games.length]? with
    | none => entry
    | some game => { entry with ownerGameNodeId := game.nodeId, state := .init }

def ensureServerStubAssignments (gm : GmNode) (env : GmEnv) : Bool × GmNode :=
  match loadManagedServerStubReflection gm.stubs env.reflection with
  | (false, table) => (false, { gm with stubs := table })
  | (true, table) =>
    let gm := { gm with stubs := table }
    if table.entries.isEmpty || gm.startup.expectedGameEntries.isEmpty then (false, gm)
    else if table.entries.all fun entry => entry.ownerGameNodeId != [] then (true, gm)
    else (true, { gm with stubs := { table with
      entries := assignOwners gm.startup.expectedGameEntries env.distribution table.entries } })

def buildServerStubDistributeTable (gm : GmNode) : List ServerStubOwnershipEntry :=
  (gm.stubs.entries.filter fun entry => entry.ownerGameNodeId != []).map fun entry =>
    { entityType := entry.entityType, entityId := entry.entityId,
      ownerGameNodeId := entry.ownerGameNodeId, entryFlags := 0 }

/-- The phase flag is set before the assignment is tried. -/
def onAllGameReady (gm : GmNode) (env : GmEnv) : GmNode × List GmEvent :=
  if gm.startup.allExpectedGamesMeshReady then (gm, [])
  else
    let gm := { gm with startup := { gm.startup with allExpectedGamesMeshReady := true } }
    match gm.ensureServerStubAssignments env with
    | (false, gm) => (gm, [.allGameReady])
    | (true, gm) =>
      let gm := { gm with stubs := { gm.stubs with entries := resetServerStubStates gm.stubs.entries } }
      let assignments := gm.buildServerStubDistributeTable
      if assignments.isEmpty then (gm, [.allGameReady])
      else
        let sync : ServerStubOwnershipSync :=
          { assignmentEpoch := serverStubOwnershipAssignmentEpoch, statusFlags := 0, assignments,
            serverNowUnixMs := env.laterUnixMs }
        (gm, .allGameReady ::
          (gm.notifyTargets (gm.startup.expectedGameEntries.map (·.nodeId))).flatMap fun session =>
            sendOwnershipSyncToGame env session sync)

def onAllStubReady (gm : GmNode) (env : GmEnv) : GmNode × List GmEvent :=
  if gm.startup.gateOpen || !gm.areAllServerStubsReady then (gm, [])
  else
    let gm := { gm with startup := { gm.startup with
      gateOpen := true, lastClusterReadyServerNowUnixMs := env.laterUnixMs, readyEpoch := gm.startup.readyEpoch + 1 } }
    let notify : ClusterReadyNotify :=
      { readyEpoch := gm.startup.readyEpoch, clusterReady := true, statusFlags := 0, serverNowUnixMs := env.laterUnixMs }
    (gm, .allStubReady :: (gm.notifyTargets gm.startup.expectedGateNodeIds).flatMap fun session =>
      sendClusterGateOpenNotifyToGate env session notify)

/-! ## Message handlers -/

def toCoreProcessType (processType : UInt16) : Option ProcessType :=
  if processType = innerProcessTypeGate then some .gate
  else if processType = innerProcessTypeGame then some .game
  else none

def mapRegisterCodecErrorToInnerError : RegisterCodecErrorCode → Int32
  | .invalidProcessType => innerProcessTypeInvalid
  | .invalidInnerNetworkEndpointHost => innerNetworkEndpointInvalid
  | .invalidInnerNetworkEndpointPort => innerNetworkEndpointInvalid
  | _ => innerRequestInvalid

def mapInnerNetworkSessionManagerErrorToInnerError : InnerNetworkSessionManagerErrorCode → Int32
  | .invalidProcessType => innerProcessTypeInvalid
  | .invalidInnerNetworkEndpointHost => innerNetworkEndpointInvalid
  | .invalidInnerNetworkEndpointPort => innerNetworkEndpointInvalid
  | .nodeIdConflict => innerNodeIdConflict
  | .routingIdConflict => innerChannelInvalid
  | .nodeNotFound => innerChannelInvalid
  | .routingIdNotFound => innerChannelInvalid
  | .invalidArgument => innerRequestInvalid
  | .invalidNodeId => innerRequestInvalid

/-- A register packet with a usable envelope: a request with a sequence number. -/
def registerEnvelope (payload : Bytes) : Option Packet :=
  match decodePacket payload with
  | .error _ => none
  | .ok packet =>
    if hasPacketFlag packet.header.flags flagResponse || hasPacketFlag packet.header.flags flagError ||
        packet.header.seq == packetSeqNone then none
    else some packet

def sendRegisterError (env : GmEnv) (routingId : Bytes) (seq : UInt32) (errorCode : Int32) : List GmEvent :=
  match encodeRegisterErrorResponse ⟨errorCode, 0⟩ registerErrorResponseSize with
  | .error _ => []
  | .ok body => GmEvent.sent routingId (env.send routingId innerRegisterMsgId seq (flagResponse ||| flagError) body)

/-- The registration built from an accepted request. -/
def registrationOf (request : RegisterRequest) (processType : ProcessType) (routingId : Bytes) (now : UInt64) :
    InnerNetworkSessionRegistration where
  processType := processType
  nodeId := request.nodeId
  pid := request.pid
  startedAtUnixMs := request.startedAtUnixMs
  innerNetworkEndpoint := request.innerNetworkEndpoint
  buildVersion := request.buildVersion
  capabilityTags := request.capabilityTags
  load := request.load
  routingId := routingId
  lastHeartbeatAtUnixMs := now
  innerNetworkReady := false

/-- `apply_registration_state`. -/
def applyRegistrationState (r : InnerNetworkSessionRegistration) (now : UInt64) (session : InnerNetworkSession) :
    InnerNetworkSession :=
  { session with
    processType := r.processType, nodeId := r.nodeId, pid := r.pid, startedAtUnixMs := r.startedAtUnixMs,
    innerNetworkEndpoint := r.innerNetworkEndpoint, buildVersion := r.buildVersion,
    capabilityTags := r.capabilityTags, load := r.load, routingId := r.routingId,
    lastHeartbeatAtUnixMs := r.lastHeartbeatAtUnixMs, innerNetworkReady := r.innerNetworkReady,
    heartbeatTimedOut := false, registered := true, connectionState := .connected,
    heartbeatIntervalMs := defaultHeartbeatIntervalMs, heartbeatTimeoutMs := defaultHeartbeatTimeoutMs,
    lastServerNowUnixMs := now, lastProtocolError := [] }

/-- After `Register` succeeded: the session is marked registered, the response
is sent, and only then is the startup list extended. -/
def completeRegistration (gm : GmNode) (env : GmEnv) (routingId : Bytes) (seq : UInt32)
    (registration : InnerNetworkSessionRegistration) (sessions : InnerNetworkSessionManager) :
    GmNode × List GmEvent :=
  let gm := { gm with
    sessions := sessions.modify registration.nodeId (applyRegistrationState registration env.nowUnixMs) }
  match encodeRegisterSuccessResponse ⟨defaultHeartbeatIntervalMs, defaultHeartbeatTimeoutMs, env.nowUnixMs⟩
      registerSuccessResponseSize with
  | .error _ => (gm, [])
  | .ok body =>
    match env.send routingId innerRegisterMsgId seq flagResponse body with
    | none => (gm, [])
    | some response =>
      let gm := gm.recordStartupRegistration registration.processType registration.nodeId
      if !gm.startup.allNodesOnline && gm.areAllExpectedNodesOnline then
        let (gm, events) := gm.onAllNodeOnline env
        (gm, .send routingId response :: events)
      else (gm, [.send routingId response])

def handleRegisterMessage (gm : GmNode) (env : GmEnv) (routingId payload : Bytes) : GmNode × List GmEvent :=
  match registerEnvelope payload with
  | none => (gm, [])
  | some packet =>
    let refuse (code : Int32) : GmNode × List GmEvent := (gm, sendRegisterError env routingId packet.header.seq code)
    match decodeRegisterRequest packet.payload with
    | .error e => refuse (mapRegisterCodecErrorToInnerError e)
    | .ok request =>
      match toCoreProcessType request.processType with
      | none => refuse innerProcessTypeInvalid
      | some processType =>
        match gm.sessions.findByNodeId request.nodeId with
        | some _ => refuse innerNodeIdConflict
        | none =>
          let registration := registrationOf request processType routingId env.nowUnixMs
          match gm.sessions.register registration with
          | .error e => refuse (mapInnerNetworkSessionManagerErrorToInnerError e)
          | .ok sessions => gm.completeRegistration env routingId packet.header.seq registration sessions

/-- The checks on a heartbeat packet, up to its decoded body. -/
def heartbeatRequestOf (routingId payload : Bytes) : Option (Packet × HeartbeatRequest) := do
  guard (routingId ≠ [])
  let raw ← readRawHeader payload
  guard (raw.magic = packetMagic ∧ raw.version = packetVersion ∧ raw.msgId = innerHeartbeatMsgId)
  guard (isValidPacketFlags raw.flags = true ∧ raw.flags = 0 ∧ raw.seq ≠ packetSeqNone)
  let packet ← (decodePacket payload).toOption
  let request ← (decodeHeartbeatRequest packet.payload).toOption
  some (packet, request)

/-- The session fields a heartbeat refreshes. -/
def refreshHeartbeat (load : LoadSnapshot) (now : UInt64) (session : InnerNetworkSession) : InnerNetworkSession :=
  { session with
    load, lastHeartbeatAtUnixMs := now, innerNetworkReady := true, connectionState := .connected,
    heartbeatIntervalMs := defaultHeartbeatIntervalMs, heartbeatTimeoutMs := defaultHeartbeatTimeoutMs,
    lastServerNowUnixMs := now, lastProtocolError := [] }

def sendHeartbeatSuccess (env : GmEnv) (routingId : Bytes) (seq : UInt32) : List GmEvent :=
  match encodeHeartbeatSuccessResponse ⟨defaultHeartbeatIntervalMs, defaultHeartbeatTimeoutMs, env.nowUnixMs⟩
      heartbeatSuccessResponseSize with
  | .error _ => []
  | .ok body => GmEvent.sent routingId (env.send routingId innerHeartbeatMsgId seq flagResponse body)

def handleHeartbeatMessage (gm : GmNode) (env : GmEnv) (routingId payload : Bytes) : GmNode × List GmEvent :=
  match heartbeatRequestOf routingId payload with
  | none => (gm, [])
  | some (packet, request) =>
    match gm.sessions.findByRoutingId routingId with
    | none => (gm, [])
    | some session =>
      if !session.registered || session.heartbeatTimedOut then (gm, [])
      else
        ({ gm with sessions := gm.sessions.modifyByRoutingId routingId (refreshHeartbeat request.load env.nowUnixMs) },
          sendHeartbeatSuccess env routingId packet.header.seq)

/-- The packet of a one-way report: no flags, no sequence number. -/
def reportEnvelope (payload : Bytes) : Option Packet := do
  let packet ← (decodePacket payload).toOption
  guard (packet.header.flags = 0 ∧ packet.header.seq = packetSeqNone)
  some packet

/-- The registered Game session behind a routing id. -/
def registeredGame (gm : GmNode) (routingId : Bytes) : Option InnerNetworkSession :=
  (gm.sessions.findByRoutingId routingId).filter fun session =>
    session.processType = .game && session.registered && !session.heartbeatTimedOut

/-- A mesh-ready report that counts, with the node it is from. -/
def acceptMeshReadyReport (gm : GmNode) (routingId payload : Bytes) :
    Option (InnerNetworkSession × GameGateMeshReadyReport) := do
  let packet ← reportEnvelope payload
  let report ← (decodeGameGateMeshReadyReport packet.payload).toOption
  let session ← gm.registeredGame routingId
  guard (gm.startup.allNodesOnline = true)
  let _ ← gm.meshReadyEntry session.nodeId
  some (session, report)

def markMeshReady (gm : GmNode) (nodeId : Bytes) (reportedAtUnixMs : UInt64) : GmNode :=
  { gm with startup := { gm.startup with
    expectedGameEntries := modifyFirst (fun entry => entry.nodeId == nodeId)
      (fun entry => { entry with meshReady := true, reportedAtUnixMs }) gm.startup.expectedGameEntries } }

def handleGameGateMeshReadyReport (gm : GmNode) (env : GmEnv) (routingId payload : Bytes) : GmNode × List GmEvent :=
  match gm.acceptMeshReadyReport routingId payload with
  | none => (gm, [])
  | some (session, report) =>
    let gm := gm.markMeshReady session.nodeId report.reportedAtUnixMs
    if !gm.startup.allExpectedGamesMeshReady && gm.areAllExpectedGamesMeshReady then gm.onAllGameReady env
    else (gm, [])

/-- Every stub has an owner, and there is one. -/
def ownershipActive (gm : GmNode) : Bool :=
  !gm.stubs.entries.isEmpty && gm.stubs.entries.all fun entry => entry.ownerGameNodeId != []

/-- A service-ready report that counts, with the node it is from. -/
def acceptStubsReadyReport (gm : GmNode) (routingId payload : Bytes) :
    Option (InnerNetworkSession × GameServiceReadyReport) := do
  let packet ← reportEnvelope payload
  let report ← (decodeGameServiceReadyReport packet.payload).toOption
  let session ← gm.registeredGame routingId
  guard (gm.startup.allExpectedGamesMeshReady = true ∧ gm.ownershipActive = true)
  guard (report.assignmentEpoch = serverStubOwnershipAssignmentEpoch)
  guard (report.localReady = true)
  guard ((gm.stubs.entries.any fun entry => entry.ownerGameNodeId == session.nodeId) = true)
  some (session, report)

/-- One ready entry of a report from `nodeId`: the first stub owned there of
that type whose id is still open or already this one. -/
def applyReadyEntry (nodeId : Bytes) (entries : List ServerStubEntry) (ready : ServerStubReadyEntry) :
    List ServerStubEntry :=
  if !ready.ready then entries
  else if ready.entityId = [] || ready.entityId == unknownServerEntityId then entries
  else
    modifyFirst
      (fun entry => entry.ownerGameNodeId == nodeId && (entry.entityType == ready.entityType &&
        (entry.entityId == unknownServerEntityId || entry.entityId == ready.entityId)))
      (fun entry => { entry with entityId := ready.entityId, state := .ready }) entries

def applyReadyEntries (gm : GmNode) (nodeId : Bytes) (ready : List ServerStubReadyEntry) : GmNode :=
  { gm with stubs := { gm.stubs with entries := ready.foldl (applyReadyEntry nodeId) gm.stubs.entries } }

def handleGameStubsReadyReport (gm : GmNode) (env : GmEnv) (routingId payload : Bytes) : GmNode × List GmEvent :=
  match gm.acceptStubsReadyReport routingId payload with
  | none => (gm, [])
  | some (session, report) =>
    let gm := gm.applyReadyEntries session.nodeId report.entries
    if !gm.startup.gateOpen && gm.areAllServerStubsReady then gm.onAllStubReady env else (gm, [])

def handleInnerMessage (gm : GmNode) (env : GmEnv) (routingId payload : Bytes) : GmNode × List GmEvent :=
  match readRawHeader payload with
  | none => (gm, [])
  | some raw =>
    if raw.msgId = innerRegisterMsgId then gm.handleRegisterMessage env routingId payload
    else if raw.msgId = innerHeartbeatMsgId then gm.handleHeartbeatMessage env routingId payload
    else if raw.msgId = innerGameGateMeshReadyReportMsgId then gm.handleGameGateMeshReadyReport env routingId payload
    else if raw.msgId = innerGameServiceReadyReportMsgId then gm.handleGameStubsReadyReport env routingId payload
    else (gm, [])

/-! ## Timeout scan -/

/-- The scan's verdict on one session. -/
def timeoutSession (now : UInt64) (session : InnerNetworkSession) : InnerNetworkSession :=
  if session.lastHeartbeatAtUnixMs = 0 || session.lastHeartbeatAtUnixMs > now then session
  else if now - session.lastHeartbeatAtUnixMs < defaultHeartbeatTimeoutMs.toUInt64 then session
  else if session.heartbeatTimedOut then session
  else { session with
    heartbeatTimedOut := true, innerNetworkReady := false, registered := false, connectionState := .stopped,
    lastProtocolError := text "Heartbeat timed out." }

def handleTimeoutScan (gm : GmNode) (env : GmEnv) : GmNode × List GmEvent :=
  ({ gm with sessions := gm.sessions.mapSessions (timeoutSession env.nowUnixMs) }, [])

/-! ## The machine -/

/-- What the GM's event loop runs. The listener reports no connection state, so
a peer that goes away is not handled at all. -/
inductive Input where
  | message (env : GmEnv) (routingId payload : Bytes)
  | timeoutScan (env : GmEnv)
  | peerDisconnected (routingId : Bytes)

def step (gm : GmNode) : Input → GmNode × List GmEvent
  | .message env routingId payload => gm.handleInnerMessage env routingId payload
  | .timeoutScan env => gm.handleTimeoutScan env
  | .peerDisconnected _ => (gm, [])

def machine : Machine GmNode Input GmEvent := ⟨step⟩

end GmNode

end XServer.Node
