import XServer.Core.ClusterConfig
import XServer.Node.GateChange
import XServer.Node.GmNode

/-!
# The Gate node

State and handlers of `node/GateNode.cpp` on the inner network: the link to the
GM, the registration of the Games, and the cluster-ready notify that opens the
client network. The checks on a register or heartbeat request are those of the
GM, but a Game that is known may register again at any time.
-/

namespace XServer.Node
open XServer.Lib XServer.Lib.Wire XServer.Net XServer.Core

structure GateNode extends GateContext where
  pid : UInt32 := 0
  startedAtUnixMs : UInt64 := 0
  innerNetworkListenEndpoint : Endpoint
  authRunning : Bool := false
  lastClusterReadyServerNowUnixMs : UInt64 := 0
  clients : GateClients
  deriving DecidableEq

/-- What a Gate knows of itself when it starts. -/
structure GateBoot extends NodeBoot where
  authNetworkListenEndpoint : Endpoint
  clientNetworkListenEndpoint : Endpoint

/-- A packet handed to the GM's connector, a response to a Game, or something
the handlers of clients did. -/
inductive GateEvent where
  | toGm (packet : Bytes)
  | reply (routingId packet : Bytes)
  | client (event : ClientEvent)
  deriving DecidableEq

namespace GateNode

/-! ## The link to the GM -/

def registerRequest (gate : GateNode) : RegisterRequest where
  processType := innerProcessTypeGate
  processFlags := 0
  nodeId := gate.nodeId
  pid := gate.pid
  startedAtUnixMs := gate.startedAtUnixMs
  innerNetworkEndpoint := gate.innerNetworkListenEndpoint
  buildVersion := buildVersion
  capabilityTags := []
  load := ⟨0, 0, 0, 0, 0⟩

/-- A change of the GM session that may send a packet. -/
def onGmSession (gate : GateNode) (f : InnerNetworkSession → InnerNetworkSession × Option Bytes) :
    GateNode × List GateEvent :=
  match gate.sessions.findByNodeId gmRemoteNodeId with
  | none => (gate, [])
  | some session =>
    let result := f session
    ({ gate with sessions := gate.sessions.modify gmRemoteNodeId fun _ => result.1 }, result.2.toList.map .toGm)

def sendRegisterRequest (gate : GateNode) (env : GateEnv) : GateNode × List GateEvent :=
  gate.onGmSession fun session => session.sendRegisterRequest env.toLinkEnv gmRemoteNodeId gate.registerRequest

def heartbeatTimerFired (gate : GateNode) (env : GateEnv) : GateNode × List GateEvent :=
  gate.onGmSession fun session => session.heartbeatTick env.toLinkEnv gmRemoteNodeId

/-- `ResetGmSessionState`. -/
def resetGmSession (session : InnerNetworkSession) : InnerNetworkSession :=
  { session.cancelHeartbeatTimer with
    registered := false, registerInFlight := false, registerSeq := 0, heartbeatSeq := 0, heartbeatIntervalMs := 0,
    heartbeatTimeoutMs := 0, lastServerNowUnixMs := 0, lastHeartbeatAtUnixMs := 0 }

def handleGmConnectionStateChanged (gate : GateNode) (env : GateEnv) (state : ZmqConnectionState) :
    GateNode × List GateEvent :=
  match gate.sessions.findByNodeId gmRemoteNodeId with
  | none => (gate, [])
  | some session =>
    let gate := { gate with
      sessions := gate.sessions.modify gmRemoteNodeId fun s => { s with connectionState := state } }
    if state ≠ .connected then
      ({ gate with sessions := gate.sessions.modify gmRemoteNodeId resetGmSession }, [])
    else if session.registered = false ∧ session.registerInFlight = false then gate.sendRegisterRequest env
    else (gate, [])

def handleConnectorStateChanged (gate : GateNode) (env : GateEnv) (peer : Bytes) (state : ZmqConnectionState) :
    GateNode × List GateEvent :=
  if peer ≠ gmRemoteNodeId then (gate, []) else gate.handleGmConnectionStateChanged env state

/-- `HandleRegisterResponse`. An error response that cannot be decoded leaves the
registration as it was. -/
def registerResponse (env : GateEnv) (packet : Packet) (session : InnerNetworkSession) : InnerNetworkSession :=
  if !session.awaitsRegister packet.header.seq then session
  else
    let session := { session with registerInFlight := false, registerSeq := 0 }
    if packet.header.flags = kErrorResponseFlags then
      match decodeRegisterErrorResponse packet.payload with
      | .error _ => session
      | .ok _ => { session with registered := false }
    else
      match decodeRegisterSuccessResponse packet.payload with
      | .error _ => { session with registered := false }
      | .ok response =>
        (session.registerSucceeded env.toLinkEnv response).startOrResetHeartbeatTimer env.toLinkEnv
          response.heartbeatIntervalMs

/-- `HandleHeartbeatResponse`. -/
def heartbeatResponse (env : GateEnv) (packet : Packet) (session : InnerNetworkSession) : InnerNetworkSession :=
  if !session.awaitsHeartbeat packet.header.seq then session
  else
    let session := { session with heartbeatSeq := 0 }
    match decodeHeartbeatSuccessResponse packet.payload with
    | .error _ => session
    | .ok response => session.heartbeatSucceeded env.toLinkEnv response

/-- The notify this Gate acts on: a one-way packet, after registration, not
older than the last one, and saying that the cluster is ready. -/
def acceptClusterReadyNotify (gate : GateNode) (session : InnerNetworkSession) (packet : Packet) :
    Option ClusterReadyNotify :=
  if packet.header.flags ≠ 0 ∨ packet.header.seq ≠ packetSeqNone then none
  else if session.registered = false then none
  else
    match decodeClusterReadyNotify packet.payload with
    | .error _ => none
    | .ok notify =>
      if notify.readyEpoch < gate.clusterReadyEpoch ∨ notify.clusterReady = false then none else some notify

/-- `HandleClusterReadyNotify`: the client network first, then the login
service; if that fails the client network is stopped again. -/
def handleClusterReadyNotify (gate : GateNode) (env : GateEnv) (session : InnerNetworkSession) (packet : Packet) :
    GateNode :=
  match gate.acceptClusterReadyNotify session packet with
  | none => gate
  | some notify =>
    match gate.clients.clientNetwork.run env.clientRunOk with
    | none => gate
    | some net =>
      if gate.authRunning = false ∧ env.authRunOk = false then
        { gate with clients := { gate.clients with clientNetwork := net.stop } }
      else
        { gate with
          clusterReadyEpoch := notify.readyEpoch, clusterReady := true, authRunning := true
          lastClusterReadyServerNowUnixMs := notify.serverNowUnixMs
          clients := { gate.clients with clientNetwork := net } }

def handleGmMessage (gate : GateNode) (env : GateEnv) (payload : Bytes) : GateNode :=
  match gate.sessions.findByNodeId gmRemoteNodeId with
  | none => gate
  | some session =>
    match decodePacket payload with
    | .error _ => gate
    | .ok packet =>
      if packet.header.msgId = innerClusterReadyNotifyMsgId then gate.handleClusterReadyNotify env session packet
      else if packet.header.seq = packetSeqNone then gate
      else if packet.header.msgId = innerRegisterMsgId then
        if packet.header.flags = kResponseFlags ∨ packet.header.flags = kErrorResponseFlags then
          { gate with sessions := gate.sessions.modify gmRemoteNodeId (registerResponse env packet) }
        else gate
      else if packet.header.msgId = innerHeartbeatMsgId then
        if packet.header.flags = kResponseFlags then
          { gate with sessions := gate.sessions.modify gmRemoteNodeId (heartbeatResponse env packet) }
        else gate
      else gate

def handleConnectorMessage (gate : GateNode) (env : GateEnv) (peer payload : Bytes) : GateNode :=
  if peer ≠ gmRemoteNodeId then gate else gate.handleGmMessage env payload

/-! ## The Games -/

def sendResponse (env : GateEnv) (routingId : Bytes) (msgId seq : UInt32) (flags : UInt16) (body : Bytes) :
    List GateEvent :=
  (env.send routingId msgId seq flags body).toList.map (.reply routingId)

def sendRegisterError (env : GateEnv) (routingId : Bytes) (seq : UInt32) (errorCode : Int32) : List GateEvent :=
  match encodeRegisterErrorResponse ⟨errorCode, 0⟩ registerErrorResponseSize with
  | .error _ => []
  | .ok body => sendResponse env routingId innerRegisterMsgId seq kErrorResponseFlags body

/-- What a registration leaves in the session of a Game. -/
def applyRegistration (request : RegisterRequest) (routingId : Bytes) (now : UInt64) (session : InnerNetworkSession) :
    InnerNetworkSession :=
  { session with
    pid := request.pid, startedAtUnixMs := request.startedAtUnixMs,
    innerNetworkEndpoint := request.innerNetworkEndpoint, buildVersion := request.buildVersion,
    capabilityTags := request.capabilityTags, load := request.load, routingId, lastHeartbeatAtUnixMs := now,
    innerNetworkReady := false, connectionState := .connected, heartbeatTimedOut := false, registered := true,
    heartbeatIntervalMs := defaultHeartbeatIntervalMs, heartbeatTimeoutMs := defaultHeartbeatTimeoutMs,
    lastServerNowUnixMs := now, lastProtocolError := [] }

def handleGameRegisterMessage (gate : GateNode) (env : GateEnv) (routingId payload : Bytes) :
    GateNode × List GateEvent :=
  match decodePacket payload with
  | .error _ => (gate, [])
  | .ok packet =>
    if packet.header.flags ≠ 0 ∨ packet.header.seq = packetSeqNone then (gate, [])
    else
      let refuse (code : Int32) : GateNode × List GateEvent :=
        (gate, sendRegisterError env routingId packet.header.seq code)
      match decodeRegisterRequest packet.payload with
      | .error e => refuse (GmNode.mapRegisterCodecErrorToInnerError e)
      | .ok request =>
        if request.processType ≠ innerProcessTypeGame then refuse innerProcessTypeInvalid
        else
          match (gate.sessions.findByNodeId request.nodeId).filter (·.processType = .game) with
          | none => refuse innerNodeNotRegistered
          | some session =>
            if session.routingId ≠ routingId then refuse innerChannelInvalid
            else
              let next := { gate with
                sessions := gate.sessions.modify request.nodeId (applyRegistration request routingId env.nowUnixMs) }
              match encodeRegisterSuccessResponse
                  ⟨defaultHeartbeatIntervalMs, defaultHeartbeatTimeoutMs, env.nowUnixMs⟩ registerSuccessResponseSize with
              | .error _ => (next, [])
              | .ok body => (next, sendResponse env routingId innerRegisterMsgId packet.header.seq kResponseFlags body)

def handleGameHeartbeatMessage (gate : GateNode) (env : GateEnv) (routingId payload : Bytes) :
    GateNode × List GateEvent :=
  match GmNode.heartbeatRequestOf routingId payload with
  | none => (gate, [])
  | some (packet, request) =>
    match gate.sessions.findByRoutingId routingId with
    | none => (gate, [])
    | some session =>
      if session.processType ≠ .game ∨ session.registered = false then (gate, [])
      else
        let next := { gate with sessions := gate.sessions.modifyByRoutingId routingId fun session =>
          { GmNode.refreshHeartbeat request.load env.nowUnixMs session with
            routingId, heartbeatTimedOut := false, registered := true } }
        match encodeHeartbeatSuccessResponse ⟨defaultHeartbeatIntervalMs, defaultHeartbeatTimeoutMs, env.nowUnixMs⟩
            heartbeatSuccessResponseSize with
        | .error _ => (next, [])
        | .ok body => (next, sendResponse env routingId innerHeartbeatMsgId packet.header.seq kResponseFlags body)

/-- A handler of clients within its node. -/
def onClients (gate : GateNode) (result : GateClients × List ClientEvent) : GateNode × List GateEvent :=
  ({ gate with clients := result.1 }, result.2.map .client)

def handleGameMessage (gate : GateNode) (env : GateEnv) (routingId payload : Bytes) : GateNode × List GateEvent :=
  match readRawHeader payload with
  | none => (gate, [])
  | some raw =>
    let ctx := gate.toGateContext
    if raw.msgId = innerRegisterMsgId then gate.handleGameRegisterMessage env routingId payload
    else if raw.msgId = innerHeartbeatMsgId then gate.handleGameHeartbeatMessage env routingId payload
    else if raw.msgId = gameAvatarEntityCreateResultMsgId then
      gate.onClients (gate.clients.handleGameAvatarEntityCreateResultMessage ctx env routingId payload)
    else if raw.msgId = relayPushToClientMsgId then
      gate.onClients (gate.clients.handleGamePushToClientMessage ctx env routingId payload)
    else if raw.msgId = relayForwardProxyCallMsgId then
      gate.onClients (gate.clients, gate.clients.handleGameForwardProxyCallMessage ctx env routingId payload)
    else if raw.msgId = relayForwardMailboxCallMsgId then
      gate.onClients (gate.clients, GateClients.handleGameForwardStubCallMessage ctx env routingId payload)
    else (gate, [])

/-! ## Start and machine -/

/-- `OnInit` for one of the configured Gates: the sessions of the GM and of every
Game are registered, a Game's under its own node id as routing id. -/
def onInit (config : ClusterConfig) (self : NodeEntry) (boot : GateBoot) : Option GateNode := do
  guard (config.gmEndpoint.host ≠ [] ∧ config.gmEndpoint.port ≠ 0)
  guard (self.innerNetworkListenEndpoint.host ≠ [] ∧ self.innerNetworkListenEndpoint.port ≠ 0)
  guard (boot.authNetworkListenEndpoint.host ≠ [] ∧ boot.authNetworkListenEndpoint.port ≠ 0)
  guard (boot.clientNetworkListenEndpoint.host ≠ [] ∧ boot.clientNetworkListenEndpoint.port ≠ 0)
  let gm ← ((({} : InnerNetworkSessionManager)).register
    { processType := .gm, nodeId := gmRemoteNodeId, innerNetworkEndpoint := config.gmEndpoint }).toOption
  let sessions ← config.games.foldlM (fun sessions game => (sessions.register
    { processType := .game, nodeId := game.nodeId, innerNetworkEndpoint := game.innerNetworkListenEndpoint,
      routingId := game.nodeId }).toOption) gm
  guard (boot.runtimeOk = true)
  some {
    nodeId := self.nodeId, clientNetworkListenEndpoint := boot.clientNetworkListenEndpoint
    games := config.gameNodeIds, sessions, pid := boot.pid, startedAtUnixMs := boot.startedAtUnixMs
    innerNetworkListenEndpoint := self.innerNetworkListenEndpoint
    clients := { clientNetwork := { ownerNodeId := self.nodeId } } }

/-- What the Gate's event loop runs. `removeSession` and `clearRecord` are the
two operations that the Gate offers for a session that ends. -/
inductive Input where
  | connectorState (env : GateEnv) (peer : Bytes) (state : ZmqConnectionState)
  | connectorMessage (env : GateEnv) (peer payload : Bytes)
  | gameMessage (env : GateEnv) (routingId payload : Bytes)
  | heartbeatTimer (env : GateEnv)
  | authLogin (env : GateEnv) (request : GateAuthLoginRequest)
  | datagram (env : GateEnv) (endpoint : Endpoint) (datagram : Bytes)
  | removeSession (sessionId : UInt64)
  | clearRecord (sessionId : UInt64)

def step (gate : GateNode) : Input → GateNode × List GateEvent
  | .connectorState env peer state => gate.handleConnectorStateChanged env peer state
  | .connectorMessage env peer payload => (gate.handleConnectorMessage env peer payload, [])
  | .gameMessage env routingId payload => gate.handleGameMessage env routingId payload
  | .heartbeatTimer env => gate.heartbeatTimerFired env
  | .authLogin env request => gate.onClients (gate.clients.handleAuthLogin gate.toGateContext env request)
  | .datagram env endpoint datagram =>
    gate.onClients (gate.clients.handleIncomingDatagram gate.toGateContext env endpoint datagram)
  | .removeSession sessionId =>
    gate.onClients ({ gate.clients with clientNetwork := gate.clients.clientNetwork.removeSession sessionId }, [])
  | .clearRecord sessionId => gate.onClients (gate.clients.clearClientSessionRecord sessionId, [])

def machine : Machine GateNode Input GateEvent := ⟨step⟩

/-! ## What a step does to the clients -/

/-- The part of a trace that concerns clients. -/
def clientEvents (events : List GateEvent) : List ClientEvent :=
  events.filterMap fun event => match event with
    | .client event => some event
    | _ => none

@[simp] theorem clientEvents_map_client (events : List ClientEvent) :
    clientEvents (events.map .client) = events := by
  simp [clientEvents, List.filterMap_map]

theorem clientEvents_append (a b : List GateEvent) : clientEvents (a ++ b) = clientEvents a ++ clientEvents b :=
  List.filterMap_append

theorem mem_clientEvents {events : List GateEvent} {event : ClientEvent} :
    event ∈ clientEvents events ↔ .client event ∈ events := by
  rw [clientEvents, List.mem_filterMap]
  constructor
  · rintro ⟨emitted, mem, same⟩
    cases emitted with
    | client concerns =>
      cases same
      exact mem
    | _ => cases same
  · exact fun mem => ⟨_, mem, rfl⟩

/-- A step that obeys the rules: what its datagram binds is allowed, and so is
every removal of a session it may lead to. -/
def Admits (rules : GateClients.Rules) (gate : GateNode) : Input → Prop
  | .datagram env endpoint datagram =>
    (∀ avatar ∈ gate.clients.datagramAvatars gate.toGateContext env endpoint datagram, rules.avatar avatar) ∧
      (gate.clients.opensSession gate.toGateContext env endpoint datagram = true → env.kcpInputOk = false →
        ∀ (other : GateClients) (sessionId : UInt64), rules.removal other sessionId)
  | .removeSession sessionId => rules.removal gate.clients sessionId
  | _ => True

/-- The clients change as listed, and the node keeps its name. -/
def ClientStep (rules : GateClients.Rules) (gate : GateNode) (result : GateNode × List GateEvent) : Prop :=
  result.1.nodeId = gate.nodeId ∧
    GateClients.Changes gate.nodeId rules gate.clients (result.1.clients, clientEvents result.2)

variable {rules : GateClients.Rules}

theorem ClientStep.refl (gate : GateNode) : ClientStep rules gate (gate, []) := ⟨rfl, .refl _⟩

/-- Nothing about the clients. -/
theorem ClientStep.apart {gate gate' : GateNode} {events : List GateEvent} (nodeId : gate'.nodeId = gate.nodeId)
    (clients : gate'.clients = gate.clients) (quiet : clientEvents events = []) :
    ClientStep rules gate (gate', events) := by
  refine ⟨nodeId, ?_⟩
  rw [quiet, clients]
  exact .refl _

theorem onClients_step {gate : GateNode} {result : GateClients × List ClientEvent}
    (h : GateClients.Changes gate.nodeId rules gate.clients result) : ClientStep rules gate (gate.onClients result) := by
  refine ⟨rfl, ?_⟩
  simp only [onClients, clientEvents_map_client]
  exact h

theorem onGmSession_step (gate : GateNode) (f : InnerNetworkSession → InnerNetworkSession × Option Bytes) :
    ClientStep rules gate (gate.onGmSession f) := by
  unfold onGmSession
  split
  · exact .refl gate
  · refine .apart rfl rfl ?_
    simp [clientEvents, List.filterMap_map]

theorem handleConnectorStateChanged_step (gate : GateNode) (env : GateEnv) (peer : Bytes) (state : ZmqConnectionState) :
    ClientStep rules gate (gate.handleConnectorStateChanged env peer state) := by
  unfold handleConnectorStateChanged
  split
  · exact .refl gate
  · unfold handleGmConnectionStateChanged
    split
    · exact .refl gate
    · simp only
      split
      · exact .apart rfl rfl rfl
      · split
        · exact onGmSession_step { gate with sessions := _ } _
        · exact .apart rfl rfl rfl

theorem handleClusterReadyNotify_step (gate : GateNode) (env : GateEnv) (session : InnerNetworkSession)
    (packet : Packet) : ClientStep rules gate (gate.handleClusterReadyNotify env session packet, []) := by
  unfold handleClusterReadyNotify
  split
  · exact .refl gate
  · split
    · exact .refl gate
    · rename_i net running
      have same : net.sessions = gate.clients.clientNetwork.sessions := ClientNetwork.run_sessions running
      split
      · exact ⟨rfl, .onNetwork gate.clients (.of_eq (by exact same))⟩
      · exact ⟨rfl, .onNetwork gate.clients (.of_eq same)⟩

theorem handleConnectorMessage_step (gate : GateNode) (env : GateEnv) (peer payload : Bytes) :
    ClientStep rules gate (gate.handleConnectorMessage env peer payload, []) := by
  unfold handleConnectorMessage
  split
  · exact .refl gate
  unfold handleGmMessage
  split
  · exact .refl gate
  split
  · exact .refl gate
  split
  · exact handleClusterReadyNotify_step gate env _ _
  split
  · exact .refl gate
  split
  · split
    · exact .apart rfl rfl rfl
    · exact .refl gate
  split
  · split
    · exact .apart rfl rfl rfl
    · exact .refl gate
  · exact .refl gate

theorem clientEvents_sendResponse (env : GateEnv) (routingId : Bytes) (msgId seq : UInt32) (flags : UInt16)
    (body : Bytes) : clientEvents (sendResponse env routingId msgId seq flags body) = [] := by
  simp [clientEvents, sendResponse, List.filterMap_map]

theorem clientEvents_sendRegisterError (env : GateEnv) (routingId : Bytes) (seq : UInt32) (errorCode : Int32) :
    clientEvents (sendRegisterError env routingId seq errorCode) = [] := by
  unfold sendRegisterError
  split
  · rfl
  · exact clientEvents_sendResponse ..

theorem handleGameRegisterMessage_step (gate : GateNode) (env : GateEnv) (routingId payload : Bytes) :
    ClientStep rules gate (gate.handleGameRegisterMessage env routingId payload) := by
  unfold handleGameRegisterMessage
  split
  · exact .refl gate
  split
  · exact .refl gate
  simp only
  have refused : ∀ (seq : UInt32) (code : Int32), ClientStep rules gate (gate, sendRegisterError env routingId seq code) :=
    fun seq code => .apart rfl rfl (clientEvents_sendRegisterError ..)
  split
  · exact refused _ _
  split
  · exact refused _ _
  split
  · exact refused _ _
  split
  · exact refused _ _
  split
  · exact .apart rfl rfl rfl
  · exact .apart rfl rfl (clientEvents_sendResponse ..)

theorem handleGameHeartbeatMessage_step (gate : GateNode) (env : GateEnv) (routingId payload : Bytes) :
    ClientStep rules gate (gate.handleGameHeartbeatMessage env routingId payload) := by
  unfold handleGameHeartbeatMessage
  split
  · exact .refl gate
  split
  · exact .refl gate
  split
  · exact .refl gate
  simp only
  split
  · exact .apart rfl rfl rfl
  · exact .apart rfl rfl (clientEvents_sendResponse ..)

theorem handleGameMessage_step (gate : GateNode) (env : GateEnv) (routingId payload : Bytes) :
    ClientStep rules gate (gate.handleGameMessage env routingId payload) := by
  unfold handleGameMessage
  split
  · exact .refl gate
  simp only
  split
  · exact handleGameRegisterMessage_step gate env routingId payload
  split
  · exact handleGameHeartbeatMessage_step gate env routingId payload
  split
  · exact onClients_step (GateClients.handleGameAvatarEntityCreateResultMessage_changes ..)
  split
  · exact onClients_step (GateClients.handleGamePushToClientMessage_changes ..)
  split
  · exact onClients_step (GateClients.handleGameForwardProxyCallMessage_changes ..)
  split
  · exact onClients_step (GateClients.handleGameForwardStubCallMessage_changes ..)
  · exact .refl gate

/-- **Every step is a sequence of the listed changes.** -/
theorem step_clients {gate : GateNode} {input : Input} (admits : Admits rules gate input) :
    ClientStep rules gate (gate.step input) := by
  cases input with
  | connectorState env peer state => exact handleConnectorStateChanged_step gate env peer state
  | connectorMessage env peer payload => exact handleConnectorMessage_step gate env peer payload
  | gameMessage env routingId payload => exact handleGameMessage_step gate env routingId payload
  | heartbeatTimer env => exact onGmSession_step gate _
  | authLogin env request => exact onClients_step (GateClients.handleAuthLogin_changes ..)
  | datagram env endpoint datagram =>
    exact onClients_step (GateClients.handleIncomingDatagram_changes admits.1 admits.2)
  | removeSession sessionId => exact onClients_step (.one (.remove sessionId admits))
  | clearRecord sessionId => exact onClients_step (.one (.clear sessionId))

theorem admits_all (gate : GateNode) (input : Input) : Admits .all gate input := by
  cases input with
  | datagram env endpoint datagram => exact ⟨fun _ _ => trivial, fun _ _ _ _ => trivial⟩
  | _ => trivial

/-- A Gate starts without clients. -/
theorem onInit_clients {config : ClusterConfig} {self : NodeEntry} {boot : GateBoot} {gate : GateNode}
    (init : onInit config self boot = some gate) : gate.clients = { clientNetwork := { ownerNodeId := self.nodeId } } := by
  unfold onInit at init
  simp only [Option.bind_eq_bind, Option.bind_eq_some_iff] at init
  obtain ⟨_, -, _, -, _, -, _, -, _, -, _, -, _, -, eq⟩ := init
  cases eq
  rfl

/-- The start of a Gate of the small cluster. -/
def sampleBoot : GateBoot where
  authNetworkListenEndpoint := sampleEndpoint 5101
  clientNetworkListenEndpoint := sampleEndpoint 5102

end GateNode

end XServer.Node
