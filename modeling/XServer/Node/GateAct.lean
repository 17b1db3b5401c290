import XServer.Node.GateNode

/-!
# What a Gate does on the inner network, act by act

Every handler call of a Gate is a sequence of acts (`step_acts`): an operation on
the GM's session, the registration or a heartbeat of a Game, the cluster-ready
notify, or something that concerns the clients only. The links and the sessions of
a Gate are followed through the acts; what happens to the clients is the subject
of `step_clients`.
-/

namespace XServer.Node
open XServer.Lib XServer.Lib.Wire XServer.Net XServer.Core

/-- A session is written that is there: what it was does not matter any more. -/
theorem InnerNetworkSessionManager.modify_found {m : InnerNetworkSessionManager} {nodeId : Bytes}
    {session : InnerNetworkSession} (found : m.findByNodeId nodeId = some session)
    (f : InnerNetworkSession → InnerNetworkSession) : m.modify nodeId f = m.modify nodeId fun _ => f session := by
  unfold modify
  rw [show m.entriesByNodeId[nodeId]? = some session from found]

namespace GateNode

/-- What a Gate does to the GM's session, with the packet it hands over. -/
inductive GmOp (request : RegisterRequest) (session : InnerNetworkSession) : InnerNetworkSession → Option Bytes → Prop where
  | ask (env : LinkEnv) :
      GmOp request session (session.sendRegisterRequest env gmRemoteNodeId request).1
        (session.sendRegisterRequest env gmRemoteNodeId request).2
  | tick (env : LinkEnv) :
      GmOp request session (session.heartbeatTick env gmRemoteNodeId).1 (session.heartbeatTick env gmRemoteNodeId).2
  | registerResponse (env : GateEnv) (packet : Packet) : GmOp request session (registerResponse env packet session) none
  | heartbeatResponse (env : GateEnv) (packet : Packet) : GmOp request session (heartbeatResponse env packet session) none
  | state (state : ZmqConnectionState) : GmOp request session { session with connectionState := state } none
  | reset : GmOp request session (resetGmSession session) none

/-- What a heartbeat leaves in the session of a Game. -/
def refreshGame (request : HeartbeatRequest) (routingId : Bytes) (now : UInt64) (session : InnerNetworkSession) :
    InnerNetworkSession :=
  { GmNode.refreshHeartbeat request.load now session with routingId, heartbeatTimedOut := false, registered := true }

/-- These events answer the sender of a message. -/
def Replies (routingId : Bytes) (events : List GateEvent) : Prop := ∀ event ∈ events, ∃ packet, event = .reply routingId packet

/-- The acts of a Gate within the handling of `input`. -/
inductive Act (input : Input) (gate : GateNode) : List GateEvent → GateNode → Prop where
  | clients (result : GateClients × List ClientEvent) : Act input gate (result.2.map .client) (gate.onClients result).1
  | notify {env : GateEnv} {payload : Bytes} {session : InnerNetworkSession} {packet : Packet}
      (arrived : input = .connectorMessage env gmRemoteNodeId payload)
      (kind : HasMsgId payload innerClusterReadyNotifyMsgId) :
      Act input gate [] (gate.handleClusterReadyNotify env session packet)
  | gm {session session' : InnerNetworkSession} {packet : Option Bytes}
      (found : gate.sessions.findByNodeId gmRemoteNodeId = some session)
      (op : GmOp gate.registerRequest session session' packet) :
      Act input gate (packet.toList.map .toGm)
        { gate with sessions := gate.sessions.modify gmRemoteNodeId fun _ => session' }
  | refused {routingId : Bytes} {events : List GateEvent} (replies : Replies routingId events) : Act input gate events gate
  | registered {env : GateEnv} {routingId payload : Bytes} {request : RegisterRequest} {session : InnerNetworkSession}
      {events : List GateEvent} (arrived : input = .gameMessage env routingId payload)
      (found : gate.sessions.findByNodeId request.nodeId = some session) (isGame : session.processType = .game)
      (channel : session.routingId = routingId) (replies : Replies routingId events) :
      Act input gate events { gate with
        sessions := gate.sessions.modify request.nodeId (applyRegistration request routingId env.nowUnixMs) }
  | beat {env : GateEnv} {routingId payload : Bytes} {packet : Packet} {request : HeartbeatRequest}
      {session : InnerNetworkSession} {events : List GateEvent} (arrived : input = .gameMessage env routingId payload)
      (read : GmNode.heartbeatRequestOf routingId payload = some (packet, request))
      (found : gate.sessions.findByRoutingId routingId = some session) (isGame : session.processType = .game)
      (registered : session.registered = true) (replies : Replies routingId events) :
      Act input gate events { gate with
        sessions := gate.sessions.modifyByRoutingId routingId (refreshGame request routingId env.nowUnixMs) }

/-- A handler call as a sequence of acts. -/
def Acts (input : Input) (gate : GateNode) (result : GateNode × List GateEvent) : Prop :=
  Steps (Act input) gate result.2 result.1

variable {input : Input}

theorem Acts.refl (gate : GateNode) : Acts input gate (gate, []) := Steps.nil gate

/-! ## The link to the GM -/

theorem onGmSession_acts {gate : GateNode} {f : InnerNetworkSession → InnerNetworkSession × Option Bytes}
    (op : ∀ session, GmOp gate.registerRequest session (f session).1 (f session).2) :
    Acts input gate (gate.onGmSession f) := by
  unfold onGmSession
  split
  · exact .refl gate
  · rename_i session found
    exact Steps.single (.gm found (op session))

/-- An operation that sends nothing. -/
theorem modifyGm_act {gate : GateNode} {session : InnerNetworkSession} {f : InnerNetworkSession → InnerNetworkSession}
    (found : gate.sessions.findByNodeId gmRemoteNodeId = some session)
    (op : GmOp gate.registerRequest session (f session) none) :
    Act input gate [] { gate with sessions := gate.sessions.modify gmRemoteNodeId f } := by
  rw [InnerNetworkSessionManager.modify_found found]
  exact .gm found op

theorem handleConnectorStateChanged_acts (gate : GateNode) (env : GateEnv) (peer : Bytes) (state : ZmqConnectionState) :
    Acts input gate (gate.handleConnectorStateChanged env peer state) := by
  unfold handleConnectorStateChanged
  split
  · exact .refl gate
  unfold handleGmConnectionStateChanged
  split
  · exact .refl gate
  · rename_i session found
    have changed : Act input gate [] _ :=
      @modifyGm_act input gate session (fun s => { s with connectionState := state }) found (.state state)
    simp only
    split
    · refine Steps.cons changed (Steps.single ?_)
      have found' : (gate.sessions.modify gmRemoteNodeId fun s => { s with connectionState := state }).findByNodeId
          gmRemoteNodeId = some { session with connectionState := state } := by
        rw [InnerNetworkSessionManager.findByNodeId_modify, if_pos rfl, found]
        rfl
      exact @modifyGm_act input { gate with sessions := _ } _ resetGmSession found' .reset
    split
    · exact Steps.cons changed (onGmSession_acts fun _ => .ask env.toLinkEnv)
    · exact Steps.single changed

theorem handleConnectorMessage_acts (gate : GateNode) (env : GateEnv) (peer payload : Bytes) :
    Acts (.connectorMessage env peer payload) gate (gate.handleConnectorMessage env peer payload, []) := by
  unfold handleConnectorMessage
  split
  · exact .refl gate
  rename_i fromGm
  rw [ne_eq, Decidable.not_not] at fromGm
  subst fromGm
  unfold handleGmMessage
  split
  · exact .refl gate
  rename_i session found
  split
  · exact .refl gate
  rename_i packet decoded
  split
  · rename_i kind
    exact Steps.single (.notify rfl ⟨_, readRawHeader_of_decodePacket decoded, kind⟩)
  split
  · exact .refl gate
  split
  · split
    · exact Steps.single (modifyGm_act found (.registerResponse env packet))
    · exact .refl gate
  split
  · split
    · exact Steps.single (modifyGm_act found (.heartbeatResponse env packet))
    · exact .refl gate
  · exact .refl gate

/-! ## The Games -/

theorem sendResponse_replies (env : GateEnv) (routingId : Bytes) (msgId seq : UInt32) (flags : UInt16) (body : Bytes) :
    Replies routingId (sendResponse env routingId msgId seq flags body) := by
  intro event mem
  simp only [sendResponse, List.mem_map, Option.mem_toList] at mem
  obtain ⟨packet, -, rfl⟩ := mem
  exact ⟨packet, rfl⟩

theorem sendRegisterError_replies (env : GateEnv) (routingId : Bytes) (seq : UInt32) (errorCode : Int32) :
    Replies routingId (sendRegisterError env routingId seq errorCode) := by
  unfold sendRegisterError
  split
  · nofun
  · exact sendResponse_replies env routingId innerRegisterMsgId seq kErrorResponseFlags _

theorem handleGameRegisterMessage_acts (gate : GateNode) (env : GateEnv) (routingId payload : Bytes) :
    Acts (.gameMessage env routingId payload) gate (gate.handleGameRegisterMessage env routingId payload) := by
  unfold handleGameRegisterMessage
  split
  · exact .refl gate
  split
  · exact .refl gate
  simp only
  have refused : ∀ (seq : UInt32) (code : Int32),
      Acts (.gameMessage env routingId payload) gate (gate, sendRegisterError env routingId seq code) :=
    fun seq code => Steps.single (.refused (sendRegisterError_replies env routingId seq code))
  split
  · exact refused _ _
  split
  · exact refused _ _
  split
  · exact refused _ _
  rename_i session known
  obtain ⟨found, isGame⟩ := Option.filter_eq_some_iff.mp known
  split
  · exact refused _ _
  rename_i channel
  rw [ne_eq, Decidable.not_not] at channel
  split
  · exact Steps.single (.registered rfl found (of_decide_eq_true isGame) channel nofun)
  · exact Steps.single (.registered rfl found (of_decide_eq_true isGame) channel
      (sendResponse_replies env routingId innerRegisterMsgId _ kResponseFlags _))

theorem handleGameHeartbeatMessage_acts (gate : GateNode) (env : GateEnv) (routingId payload : Bytes) :
    Acts (.gameMessage env routingId payload) gate (gate.handleGameHeartbeatMessage env routingId payload) := by
  unfold handleGameHeartbeatMessage
  split
  · exact .refl gate
  rename_i packet request read
  split
  · exact .refl gate
  rename_i session found
  split
  · exact .refl gate
  rename_i usable
  rw [not_or, ne_eq, Decidable.not_not, Bool.not_eq_false] at usable
  simp only
  split
  · exact Steps.single (.beat rfl read found usable.1 usable.2 nofun)
  · exact Steps.single (.beat rfl read found usable.1 usable.2
      (sendResponse_replies env routingId innerHeartbeatMsgId _ kResponseFlags _))

theorem onClients_acts (gate : GateNode) (result : GateClients × List ClientEvent) :
    Acts input gate (gate.onClients result) := Steps.single (.clients result)

theorem handleGameMessage_acts (gate : GateNode) (env : GateEnv) (routingId payload : Bytes) :
    Acts (.gameMessage env routingId payload) gate (gate.handleGameMessage env routingId payload) := by
  unfold handleGameMessage
  split
  · exact .refl gate
  simp only
  split
  · exact handleGameRegisterMessage_acts gate env routingId payload
  split
  · exact handleGameHeartbeatMessage_acts gate env routingId payload
  split
  · exact onClients_acts gate _
  split
  · exact onClients_acts gate _
  split
  · exact onClients_acts gate _
  split
  · exact onClients_acts gate _
  · exact .refl gate

/-- **Every input is a sequence of acts.** -/
theorem step_acts (gate : GateNode) (input : Input) : Acts input gate (gate.step input) := by
  cases input with
  | connectorState env peer state => exact handleConnectorStateChanged_acts gate env peer state
  | connectorMessage env peer payload => exact handleConnectorMessage_acts gate env peer payload
  | gameMessage env routingId payload => exact handleGameMessage_acts gate env routingId payload
  | heartbeatTimer env => exact onGmSession_acts fun _ => .tick env.toLinkEnv
  | authLogin env request => exact onClients_acts gate _
  | datagram env endpoint datagram => exact onClients_acts gate _
  | removeSession sessionId => exact onClients_acts gate _
  | clearRecord sessionId => exact onClients_acts gate _

/-- The notify that opens the client network leaves the sessions alone. -/
theorem handleClusterReadyNotify_sessions (gate : GateNode) (env : GateEnv) (session : InnerNetworkSession)
    (packet : Packet) : (gate.handleClusterReadyNotify env session packet).sessions = gate.sessions := by
  unfold handleClusterReadyNotify
  split
  · rfl
  split
  · rfl
  split
  · rfl
  · rfl

/-- The sessions of a Gate that starts are as `Register` enters them. -/
theorem onInit_sessions {P : InnerNetworkSession → Prop} {config : ClusterConfig} {self : NodeEntry} {boot : GateBoot}
    {gate : GateNode} (init : onInit config self boot = some gate)
    (new : ∀ r : InnerNetworkSessionRegistration, P r.toSession) (nodeId : Bytes) (session : InnerNetworkSession)
    (found : gate.sessions.findByNodeId nodeId = some session) : P session := by
  simp only [onInit, Option.bind_eq_bind, Option.bind_eq_some_iff] at init
  obtain ⟨_, -, _, -, _, -, _, -, gm, gmOk, sessions, gamesOk, _, -, eq⟩ := init
  cases eq
  have start : ∀ nodeId session, gm.findByNodeId nodeId = some session → P session :=
    InnerNetworkSessionManager.register_sessions (ok_of_toOption gmOk) (new _) fun nodeId session found => by
      simp [InnerNetworkSessionManager.findByNodeId] at found
  exact @InnerNetworkSessionManager.foldlM_register _ (fun m => ∀ nodeId session, m.findByNodeId nodeId = some session → P session)
    _ (fun game _ _ accepted => InnerNetworkSessionManager.register_sessions accepted (new _)) _ _ _ start gamesOk
    nodeId session found

end GateNode

end XServer.Node
