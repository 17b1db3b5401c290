import XServer.Core.ClusterConfig
import XServer.Lib.Machine
import XServer.Node.ClientLink

/-!
# The Game node

State and handlers of `node/GameNode.cpp` on the inner network: the links to the
GM and to every Gate, the mesh-ready report, the ownership sync and the
service-ready report. The managed runtime appears through the outcome of
`apply_server_stub_ownership` and through its ready callbacks. Messages that are
only passed on to it (mailbox and proxy calls, avatar creation) do not touch
this state and are dropped here.
-/

namespace XServer.Node
open XServer.Lib XServer.Lib.Wire XServer.Net XServer.Core

/-! ## State -/

structure MeshReadyState where
  current : Bool := false
  lastReportedAtUnixMs : UInt64 := 0
  deriving DecidableEq, Repr

structure OwnershipState where
  assignmentEpoch : UInt64 := 0
  serverNowUnixMs : UInt64 := 0
  assignments : List ServerStubOwnershipEntry := []
  ownedAssignments : List ServerStubOwnershipEntry := []
  deriving DecidableEq, Repr

structure ServiceReadyState where
  lastReportedAssignmentEpoch : UInt64 := 0
  lastReportedAtUnixMs : UInt64 := 0
  readyEntries : List ServerStubReadyEntry := []
  deriving DecidableEq, Repr

structure GameNode where
  nodeId : Bytes
  pid : UInt32 := 0
  startedAtUnixMs : UInt64 := 0
  innerNetworkListenEndpoint : Endpoint
  gates : List Bytes
  sessions : InnerNetworkSessionManager := {}
  meshReady : MeshReadyState := {}
  ownership : OwnershipState := {}
  serviceReady : ServiceReadyState := {}
  lastClusterNodesOnlineServerNowUnixMs : UInt64 := 0
  allNodesOnline : Bool := false
  managedExportsLoaded : Bool := true
  deriving DecidableEq

/-- A handler's surroundings: beside those of a link, the clock when a report is
built, the outcome of starting a connector, and the managed runtime's answer to
an ownership sync. -/
structure GameEnv extends LinkEnv where
  meshReportUnixMs : UInt64 := 0
  stubReportUnixMs : UInt64 := 0
  startConnectorOk : Bytes → Bool := fun _ => true
  applyResult : Int32 := 0

/-- A packet handed to a connector, an ownership sync applied, a service-ready
report sent. -/
inductive GameEvent where
  | send (connector packet : Bytes)
  | applied (sync : ServerStubOwnershipSync)
  | reported (report : GameServiceReadyReport)
  deriving DecidableEq, Repr

def GameEvent.sent (connector : Bytes) (packet : Option Bytes) : List GameEvent :=
  packet.toList.map (GameEvent.send connector)

/-- `XS_MANAGED_*_MAX_UTF8_BYTES`: the same for node ids, entity types and ids. -/
def managedMaxUtf8Bytes : Nat := 128

/-- `HaveEquivalentOwnedAssignments`. -/
def haveEquivalentOwnedAssignments (left right : List ServerStubOwnershipEntry) : Bool :=
  decide (left.length = right.length) && (left.zip right).all fun (l, r) =>
    l.entityType == r.entityType && l.entityId == r.entityId && l.ownerGameNodeId == r.ownerGameNodeId &&
      l.entryFlags == r.entryFlags

/-- `ManagedServerStubReadyEntry`; the two strings are what the fixed buffers
hold up to the given length, if the length fits. -/
structure ManagedServerStubReadyEntry where
  entityType : Bytes
  entityId : Bytes
  ready : UInt8
  entryFlags : UInt32
  deriving DecidableEq, Repr

/-- The entry a ready callback stores. -/
def ManagedServerStubReadyEntry.toReadyEntry (entry : ManagedServerStubReadyEntry) : ServerStubReadyEntry where
  entityType := entry.entityType
  entityId := entry.entityId
  ready := true
  entryFlags := entry.entryFlags

namespace GameNode

/-! ## Links -/

/-- A change of one peer's session that may hand a packet to it. -/
def onSession (game : GameNode) (peer : Bytes) (f : InnerNetworkSession → InnerNetworkSession × Option Bytes) :
    GameNode × List GameEvent :=
  match game.sessions.findByNodeId peer with
  | none => (game, [])
  | some session =>
    let result := f session
    ({ game with sessions := game.sessions.modify peer fun _ => result.1 }, GameEvent.sent peer result.2)

def registerRequest (game : GameNode) : RegisterRequest where
  processType := innerProcessTypeGame
  processFlags := 0
  nodeId := game.nodeId
  pid := game.pid
  startedAtUnixMs := game.startedAtUnixMs
  innerNetworkEndpoint := game.innerNetworkListenEndpoint
  buildVersion := buildVersion
  capabilityTags := []
  load := ⟨0, 0, 0, 0, 0⟩

/-- The body that `SendRegisterRequest` and `SendGateRegisterRequest` share. -/
def sendRegisterTo (game : GameNode) (env : GameEnv) (peer : Bytes) : GameNode × List GameEvent :=
  game.onSession peer fun session => session.sendRegisterRequest env.toLinkEnv peer game.registerRequest

def sendRegisterRequest (game : GameNode) (env : GameEnv) : GameNode × List GameEvent :=
  game.sendRegisterTo env gmRemoteNodeId

def sendGateRegisterRequest (game : GameNode) (env : GameEnv) (gate : Bytes) : GameNode × List GameEvent :=
  game.sendRegisterTo env gate

/-- The heartbeat timer of a link fires. -/
def heartbeatTimerFired (game : GameNode) (env : GameEnv) (peer : Bytes) : GameNode × List GameEvent :=
  game.onSession peer fun session => session.heartbeatTick env.toLinkEnv peer

/-- The response of a peer to a register request: the session, and whether it
was the awaited success. -/
def registerResponse (env : GameEnv) (packet : Packet) (session : InnerNetworkSession) : InnerNetworkSession × Bool :=
  if !session.awaitsRegister packet.header.seq then (session, false)
  else
    let session := { session with registerInFlight := false, registerSeq := 0 }
    if packet.header.flags = kErrorResponseFlags then ({ session with registered := false }, false)
    else
      match decodeRegisterSuccessResponse packet.payload with
      | .error _ => ({ session with registered := false }, false)
      | .ok response =>
        let session := { session.registerSucceeded env.toLinkEnv response with innerNetworkReady := false }
        (session.startOrResetHeartbeatTimer env.toLinkEnv response.heartbeatIntervalMs, true)

/-- The response of a peer to a heartbeat. -/
def heartbeatResponse (env : GameEnv) (packet : Packet) (session : InnerNetworkSession) : InnerNetworkSession × Bool :=
  if !session.awaitsHeartbeat packet.header.seq then (session, false)
  else
    let session := { session with heartbeatSeq := 0 }
    match decodeHeartbeatSuccessResponse packet.payload with
    | .error _ => (session, false)
    | .ok response => ({ session.heartbeatSucceeded env.toLinkEnv response with innerNetworkReady := true }, true)

/-- A change of one peer's session, with what it reports back. -/
def updateSession (game : GameNode) (peer : Bytes) (f : InnerNetworkSession → InnerNetworkSession × Bool) :
    GameNode × Bool :=
  match game.sessions.findByNodeId peer with
  | none => (game, false)
  | some session =>
    let result := f session
    ({ game with sessions := game.sessions.modify peer fun _ => result.1 }, result.2)

def handleRegisterResponse (game : GameNode) (env : GameEnv) (packet : Packet) : GameNode × List GameEvent :=
  ((game.updateSession gmRemoteNodeId (registerResponse env packet)).1, [])

def handleHeartbeatResponse (game : GameNode) (env : GameEnv) (packet : Packet) : GameNode × List GameEvent :=
  ((game.updateSession gmRemoteNodeId (heartbeatResponse env packet)).1, [])

/-- Only a change away from `Connected` is passed over; the session keeps its
registration then. -/
def handleGmConnectionStateChanged (game : GameNode) (env : GameEnv) (state : ZmqConnectionState) :
    GameNode × List GameEvent :=
  match game.sessions.findByNodeId gmRemoteNodeId with
  | none => (game, [])
  | some session =>
    let game := { game with
      sessions := game.sessions.modify gmRemoteNodeId fun s => { s with connectionState := state } }
    if session.connectionState = .connected ∧ state ≠ .connected then (game, [])
    else if session.registered = false ∧ session.registerInFlight = false then game.sendRegisterRequest env
    else (game, [])

/-- What a Gate link that is not connected leaves of its session. -/
def resetGateSession (state : ZmqConnectionState) (session : InnerNetworkSession) : InnerNetworkSession :=
  { session.cancelHeartbeatTimer with
    connectionState := state, innerNetworkReady := false, registered := false, registerInFlight := false,
    registerSeq := 0, heartbeatSeq := 0, heartbeatIntervalMs := 0, heartbeatTimeoutMs := 0,
    lastServerNowUnixMs := 0, lastHeartbeatAtUnixMs := 0 }

def handleGateConnectionStateChanged (game : GameNode) (env : GameEnv) (gate : Bytes) (state : ZmqConnectionState) :
    GameNode × List GameEvent :=
  match game.sessions.findByNodeId gate with
  | none => (game, [])
  | some session =>
    if state ≠ .connected then
      ({ game with sessions := game.sessions.modify gate (resetGateSession state) }, [])
    else
      let next := { game with sessions := game.sessions.modify gate fun s => { s with connectionState := state } }
      if game.allNodesOnline = true ∧ session.registered = false ∧ session.registerInFlight = false then
        next.sendGateRegisterRequest env gate
      else (next, [])

def handleConnectorStateChanged (game : GameNode) (env : GameEnv) (peer : Bytes) (state : ZmqConnectionState) :
    GameNode × List GameEvent :=
  if peer = gmRemoteNodeId then game.handleGmConnectionStateChanged env state
  else game.handleGateConnectionStateChanged env peer state

/-! ## Reports -/

/-- The GM session can carry a report. -/
def gmReachable (game : GameNode) : Bool :=
  match game.sessions.findByNodeId gmRemoteNodeId with
  | none => false
  | some session => session.registered && session.connectionState == .connected

def sendMeshReadyReport (game : GameNode) (env : GameEnv) : GameNode × List GameEvent :=
  if !game.gmReachable then (game, [])
  else
    match encodeGameGateMeshReadyReport ⟨0, env.meshReportUnixMs⟩ gameGateMeshReadyReportSize with
    | .error _ => (game, [])
    | .ok payload =>
      match env.send gmRemoteNodeId innerGameGateMeshReadyReportMsgId packetSeqNone 0 payload with
      | none => (game, [])
      | some packet =>
        ({ game with meshReady := { game.meshReady with lastReportedAtUnixMs := env.meshReportUnixMs } },
          [.send gmRemoteNodeId packet])

def serviceReadyReport (game : GameNode) (env : GameEnv) : GameServiceReadyReport where
  assignmentEpoch := game.ownership.assignmentEpoch
  localReady := game.serviceReady.readyEntries.length == game.ownership.ownedAssignments.length
  statusFlags := 0
  entries := game.serviceReady.readyEntries
  reportedAtUnixMs := env.stubReportUnixMs

def sendServiceReadyReport (game : GameNode) (env : GameEnv) : GameNode × List GameEvent :=
  if !game.gmReachable || game.ownership.assignmentEpoch == 0 || game.ownership.ownedAssignments.isEmpty ||
      game.serviceReady.readyEntries.isEmpty then (game, [])
  else
    let report := game.serviceReadyReport env
    match getGameServiceReadyReportWireSize report with
    | .error _ => (game, [])
    | .ok wireSize =>
      match encodeGameServiceReadyReport report wireSize with
      | .error _ => (game, [])
      | .ok payload =>
        match env.send gmRemoteNodeId innerGameServiceReadyReportMsgId packetSeqNone 0 payload with
        | none => (game, [])
        | some packet =>
          ({ game with serviceReady := { game.serviceReady with
              lastReportedAssignmentEpoch := report.assignmentEpoch, lastReportedAtUnixMs := report.reportedAtUnixMs } },
            [.reported report, .send gmRemoteNodeId packet])

/-- Sizes are compared, not types. -/
def checkAllLocalStubsReady (game : GameNode) (env : GameEnv) : GameNode × List GameEvent :=
  if !game.meshReady.current || game.ownership.assignmentEpoch == 0 then (game, [])
  else if game.ownership.ownedAssignments.isEmpty ||
      game.serviceReady.readyEntries.length != game.ownership.ownedAssignments.length then (game, [])
  else if game.serviceReady.lastReportedAssignmentEpoch = game.ownership.assignmentEpoch then (game, [])
  else game.sendServiceReadyReport env

def areAllGateSessionsConnected (game : GameNode) : Bool :=
  !game.gates.isEmpty && game.gates.all fun gate =>
    match game.sessions.findByNodeId gate with
    | none => false
    | some session => session.connectionState == .connected && session.registered && session.innerNetworkReady

def onAllGateConnected (game : GameNode) (env : GameEnv) : GameNode × List GameEvent :=
  if game.meshReady.current then (game, [])
  else
    let mesh := sendMeshReadyReport { game with meshReady := { game.meshReady with current := true } } env
    let stubs := mesh.1.checkAllLocalStubsReady env
    (stubs.1, mesh.2 ++ stubs.2)

/-- The mesh becomes ready when the last Gate session does. -/
def checkMesh (game : GameNode) (env : GameEnv) : GameNode × List GameEvent :=
  if !game.meshReady.current && game.areAllGateSessionsConnected then game.onAllGateConnected env else (game, [])

def handleGateRegisterResponse (game : GameNode) (env : GameEnv) (gate : Bytes) (packet : Packet) :
    GameNode × List GameEvent :=
  let result := game.updateSession gate (registerResponse env packet)
  if result.2 && result.1.allNodesOnline then result.1.checkMesh env else (result.1, [])

def handleGateHeartbeatResponse (game : GameNode) (env : GameEnv) (gate : Bytes) (packet : Packet) :
    GameNode × List GameEvent :=
  let result := game.updateSession gate (heartbeatResponse env packet)
  if result.2 && result.1.allNodesOnline then result.1.checkMesh env else (result.1, [])

/-! ## Messages of the GM -/

/-- One round of the loop in `StartGateConnectors`. -/
def startGateConnector (env : GameEnv) (state : GameNode × List GameEvent) (gate : Bytes) :
    GameNode × List GameEvent :=
  if !env.startConnectorOk gate then state
  else
    match state.1.sessions.findByNodeId gate with
    | none => state
    | some session =>
      if session.connectionState = .connected ∧ session.registered = false ∧ session.registerInFlight = false then
        let next := state.1.sendGateRegisterRequest env gate
        (next.1, state.2 ++ next.2)
      else state

def startGateConnectors (game : GameNode) (env : GameEnv) : GameNode × List GameEvent :=
  game.gates.foldl (startGateConnector env) (game, [])

/-- The body of a one-way message from the GM, once the Game is registered. -/
def notifyBody {ε α : Type} (game : GameNode) (decode : Bytes → Except ε α) (packet : Packet) : Option α := do
  let session ← game.sessions.findByNodeId gmRemoteNodeId
  guard (packet.header.flags = 0 ∧ packet.header.seq = packetSeqNone ∧ session.registered = true)
  (decode packet.payload).toOption

def handleClusterNodesOnlineNotify (game : GameNode) (env : GameEnv) (packet : Packet) : GameNode × List GameEvent :=
  match game.notifyBody decodeClusterNodesOnlineNotify packet with
  | none => (game, [])
  | some notify =>
    if !notify.allNodesOnline then (game, [])
    else
      let started := startGateConnectors { game with
        allNodesOnline := true, lastClusterNodesOnlineServerNowUnixMs := notify.serverNowUnixMs } env
      let mesh := started.1.checkMesh env
      (mesh.1, started.2 ++ mesh.2)

def ownedAssignmentsOf (game : GameNode) (sync : ServerStubOwnershipSync) : List ServerStubOwnershipEntry :=
  sync.assignments.filter fun assignment => assignment.ownerGameNodeId == game.nodeId

/-- Every string fits its buffer in the managed ABI. -/
def fitsManagedAbi (assignment : ServerStubOwnershipEntry) : Bool :=
  decide (assignment.entityType.length ≤ managedMaxUtf8Bytes) &&
    decide (assignment.entityId.length ≤ managedMaxUtf8Bytes) &&
    decide (assignment.ownerGameNodeId.length ≤ managedMaxUtf8Bytes)

/-- The sync that reaches the managed runtime: from a registered session, after
the mesh is ready, not older than the current one, and within the ABI. -/
def acceptOwnershipSync (game : GameNode) (packet : Packet) : Option ServerStubOwnershipSync := do
  let sync ← game.notifyBody decodeServerStubOwnershipSync packet
  guard (game.meshReady.current = true)
  guard (¬ sync.assignmentEpoch < game.ownership.assignmentEpoch)
  guard (game.managedExportsLoaded = true ∧ sync.assignments.all fitsManagedAbi = true)
  some sync

/-- `CreateAllLocalStubs` after the managed runtime applied the sync. -/
def createAllLocalStubs (game : GameNode) (sync : ServerStubOwnershipSync) : GameNode :=
  let nextOwned := game.ownedAssignmentsOf sync
  let preserve := sync.assignmentEpoch == game.ownership.assignmentEpoch &&
    haveEquivalentOwnedAssignments nextOwned game.ownership.ownedAssignments
  { game with
    ownership := {
      assignmentEpoch := sync.assignmentEpoch, serverNowUnixMs := sync.serverNowUnixMs,
      assignments := sync.assignments, ownedAssignments := nextOwned }
    serviceReady := if preserve then game.serviceReady else {} }

def handleServerStubOwnershipSync (game : GameNode) (env : GameEnv) (packet : Packet) : GameNode × List GameEvent :=
  match game.acceptOwnershipSync packet with
  | none => (game, [])
  | some sync =>
    if env.applyResult ≠ 0 then (game, [])
    else
      let checked := (game.createAllLocalStubs sync).checkAllLocalStubsReady env
      (checked.1, .applied sync :: checked.2)

/-- The first entry with the same id or the same type is replaced, or a new one
is added. -/
def upsertReadyEntry (entries : List ServerStubReadyEntry) (entry : ServerStubReadyEntry) :
    List ServerStubReadyEntry :=
  if entries.any fun existing => existing.entityId == entry.entityId || existing.entityType == entry.entityType then
    modifyFirst (fun existing => existing.entityId == entry.entityId || existing.entityType == entry.entityType)
      (fun _ => entry) entries
  else entries ++ [entry]

def handleManagedServerStubReady (game : GameNode) (env : GameEnv) (assignmentEpoch : UInt64)
    (entry : ManagedServerStubReadyEntry) : GameNode × List GameEvent :=
  if !game.managedExportsLoaded || assignmentEpoch == 0 || assignmentEpoch != game.ownership.assignmentEpoch ||
      entry.ready == 0 then (game, [])
  else if entry.entityType.length > managedMaxUtf8Bytes ∨ entry.entityId.length > managedMaxUtf8Bytes then (game, [])
  else if !game.ownership.ownedAssignments.any fun owned => owned.entityType == entry.entityType then (game, [])
  else
    checkAllLocalStubsReady { game with serviceReady := { game.serviceReady with
      readyEntries := upsertReadyEntry game.serviceReady.readyEntries entry.toReadyEntry } } env

/-- A register or heartbeat response with a usable envelope, passed to its handler. -/
def dispatchResponse (game : GameNode) (packet : Packet) (register heartbeat : GameNode × List GameEvent) :
    GameNode × List GameEvent :=
  if packet.header.seq = packetSeqNone then (game, [])
  else if packet.header.msgId = innerRegisterMsgId then
    if packet.header.flags = kResponseFlags ∨ packet.header.flags = kErrorResponseFlags then register else (game, [])
  else if packet.header.msgId = innerHeartbeatMsgId then
    if packet.header.flags = kResponseFlags then heartbeat else (game, [])
  else (game, [])

def handleGmMessage (game : GameNode) (env : GameEnv) (payload : Bytes) : GameNode × List GameEvent :=
  match decodePacket payload with
  | .error _ => (game, [])
  | .ok packet =>
    if packet.header.msgId = innerClusterNodesOnlineNotifyMsgId then game.handleClusterNodesOnlineNotify env packet
    else if packet.header.msgId = innerServerStubOwnershipSyncMsgId then game.handleServerStubOwnershipSync env packet
    else if packet.header.msgId = relayForwardMailboxCallMsgId then (game, [])
    else game.dispatchResponse packet (game.handleRegisterResponse env packet) (game.handleHeartbeatResponse env packet)

def handleGateMessage (game : GameNode) (env : GameEnv) (gate payload : Bytes) : GameNode × List GameEvent :=
  match game.sessions.findByNodeId gate with
  | none => (game, [])
  | some _ =>
    match decodePacket payload with
    | .error _ => (game, [])
    | .ok packet =>
      if packet.header.msgId = relayForwardProxyCallMsgId ∨ packet.header.msgId = relayForwardMailboxCallMsgId ∨
          packet.header.msgId = gateCreateAvatarEntityMsgId then (game, [])
      else game.dispatchResponse packet (game.handleGateRegisterResponse env gate packet)
        (game.handleGateHeartbeatResponse env gate packet)

def handleConnectorMessage (game : GameNode) (env : GameEnv) (peer payload : Bytes) : GameNode × List GameEvent :=
  if peer = gmRemoteNodeId then game.handleGmMessage env payload else game.handleGateMessage env peer payload

/-! ## Start and machine -/

/-- `OnInit` for one of the configured Games: the sessions of the GM and of
every Gate are registered; a node that cannot be set up does not run. -/
def onInit (config : ClusterConfig) (self : NodeEntry) (boot : NodeBoot) : Option GameNode := do
  guard (boot.runtimeOk = true)
  guard (self.innerNetworkListenEndpoint.host ≠ [] ∧ self.innerNetworkListenEndpoint.port ≠ 0)
  let gm ← ((({} : InnerNetworkSessionManager)).register
    { processType := .gm, nodeId := gmRemoteNodeId, innerNetworkEndpoint := config.gmEndpoint }).toOption
  let sessions ← config.gates.foldlM (fun sessions gate => (sessions.register
    { processType := .gate, nodeId := gate.nodeId,
      innerNetworkEndpoint := gate.innerNetworkListenEndpoint }).toOption) gm
  some {
    nodeId := self.nodeId, pid := boot.pid, startedAtUnixMs := boot.startedAtUnixMs,
    innerNetworkListenEndpoint := self.innerNetworkListenEndpoint, gates := config.gateNodeIds, sessions }

/-- What the Game's event loop runs. -/
inductive Input where
  | connectorState (env : GameEnv) (peer : Bytes) (state : ZmqConnectionState)
  | connectorMessage (env : GameEnv) (peer payload : Bytes)
  | heartbeatTimer (env : GameEnv) (peer : Bytes)
  | serverStubReady (env : GameEnv) (assignmentEpoch : UInt64) (entry : ManagedServerStubReadyEntry)

def step (game : GameNode) : Input → GameNode × List GameEvent
  | .connectorState env peer state => game.handleConnectorStateChanged env peer state
  | .connectorMessage env peer payload => game.handleConnectorMessage env peer payload
  | .heartbeatTimer env peer => game.heartbeatTimerFired env peer
  | .serverStubReady env assignmentEpoch entry => game.handleManagedServerStubReady env assignmentEpoch entry

def machine : Machine GameNode Input GameEvent := ⟨step⟩

/-- The ownership sync that an input brings to the managed runtime. -/
def ownershipSyncOf (game : GameNode) : Input → Option ServerStubOwnershipSync
  | .connectorMessage _ peer payload =>
    if peer = gmRemoteNodeId then
      match decodePacket payload with
      | .error _ => none
      | .ok packet =>
        if packet.header.msgId = innerServerStubOwnershipSyncMsgId then game.acceptOwnershipSync packet else none
    else none
  | _ => none

end GameNode

end XServer.Node
