import XServer.Node.SessionStore

/-!
# A Gate opens for clients

The GM's cluster-ready notify opens the UDP listener and then the login service;
if the second fails the first is closed again. A Gate that is ready runs both, a
Gate that is not runs neither, and a notify that is not carried out in full leaves
the recorded state as it was (`cluster_ready_laws`).
-/

namespace XServer.Node
open XServer.Lib XServer.Lib.Wire XServer.Net XServer.Core

namespace GateNode

open ClientNetwork (Moves)

/-! ## One notify -/

/-- The cluster-ready notify in a message of the GM, if this Gate carries it out:
it accepts the notify, and both listeners run. -/
def clusterReadyOf (gate : GateNode) (env : GateEnv) (payload : Bytes) : Option ClusterReadyNotify := do
  let session ← gate.sessions.findByNodeId gmRemoteNodeId
  let packet ← (decodePacket payload).toOption
  guard (packet.header.msgId = innerClusterReadyNotifyMsgId)
  let notify ← gate.acceptClusterReadyNotify session packet
  let _ ← gate.clients.clientNetwork.run env.clientRunOk
  guard (gate.authRunning = true ∨ env.authRunOk = true)
  some notify

/-- What the notify is about is as before. -/
structure SameReady (gate next : GateNode) : Prop where
  epoch : next.clusterReadyEpoch = gate.clusterReadyEpoch
  ready : next.clusterReady = gate.clusterReady
  serverNow : next.lastClusterReadyServerNowUnixMs = gate.lastClusterReadyServerNowUnixMs

/-- The services are as before. -/
structure SameServices (gate next : GateNode) : Prop where
  clients : next.clients.clientNetwork.running = gate.clients.clientNetwork.running
  auth : next.authRunning = gate.authRunning

/-- Both services run, or neither does. -/
structure Services (gate : GateNode) (running : Bool) : Prop where
  clients : gate.clients.clientNetwork.running = running
  auth : gate.authRunning = running

/-- What a step can do to the readiness of a Gate. A notify that fails on the
login service closes the client network, whatever it was before. -/
inductive ReadyStep (gate : GateNode) : GateNode → Prop where
  | kept {next : GateNode} (same : SameReady gate next) (services : SameServices gate next) : ReadyStep gate next
  | failed {next : GateNode} (same : SameReady gate next) (idle : gate.authRunning = false)
      (services : Services next false) : ReadyStep gate next
  | opened {next : GateNode} (notify : ClusterReadyNotify) (newer : gate.clusterReadyEpoch ≤ notify.readyEpoch)
      (epoch : next.clusterReadyEpoch = notify.readyEpoch) (ready : next.clusterReady = true)
      (serverNow : next.lastClusterReadyServerNowUnixMs = notify.serverNowUnixMs) (services : Services next true) :
      ReadyStep gate next

theorem ReadyStep.refl (gate : GateNode) : ReadyStep gate gate := .kept ⟨rfl, rfl, rfl⟩ ⟨rfl, rfl⟩

theorem run_running {net next : ClientNetwork} {ok : Bool} (h : net.run ok = some next) : next.running = true := by
  unfold ClientNetwork.run at h
  split at h
  · cases h
  split at h
  · rename_i running
    cases h
    exact running
  split at h
  · cases h
    rfl
  · cases h

theorem acceptClusterReadyNotify_newer {gate : GateNode} {session : InnerNetworkSession} {packet : Packet}
    {notify : ClusterReadyNotify} (h : gate.acceptClusterReadyNotify session packet = some notify) :
    gate.clusterReadyEpoch ≤ notify.readyEpoch := by
  unfold acceptClusterReadyNotify at h
  repeat' split at h
  all_goals try cases h
  rename_i fresh
  exact UInt64.not_lt.mp fun stale => fresh (.inl stale)

theorem handleClusterReadyNotify_readyStep (gate : GateNode) (env : GateEnv) (session : InnerNetworkSession)
    (packet : Packet) : ReadyStep gate (gate.handleClusterReadyNotify env session packet) := by
  unfold handleClusterReadyNotify
  split
  · exact .refl gate
  · rename_i notify accepted
    split
    · exact .refl gate
    · rename_i net running
      split
      · rename_i failed
        exact .failed ⟨rfl, rfl, rfl⟩ failed.1 ⟨rfl, failed.1⟩
      · exact .opened notify (acceptClusterReadyNotify_newer accepted) rfl rfl rfl ⟨run_running running, rfl⟩

theorem handleConnectorMessage_readyStep (gate : GateNode) (env : GateEnv) (peer payload : Bytes) :
    ReadyStep gate (gate.handleConnectorMessage env peer payload) := by
  unfold handleConnectorMessage
  split
  · exact .refl gate
  unfold handleGmMessage
  split
  · exact .refl gate
  split
  · exact .refl gate
  split
  · exact handleClusterReadyNotify_readyStep gate env _ _
  split
  · exact .refl gate
  split
  · split
    · exact .kept ⟨rfl, rfl, rfl⟩ ⟨rfl, rfl⟩
    · exact .refl gate
  split
  · split
    · exact .kept ⟨rfl, rfl, rfl⟩ ⟨rfl, rfl⟩
    · exact .refl gate
  · exact .refl gate

/-! ## The other inputs -/

theorem onClients_readyStep (gate : GateNode) {result : GateClients × List ClientEvent}
    (moves : Moves gate.clients.clientNetwork result.1.clientNetwork) : ReadyStep gate (gate.onClients result).1 :=
  .kept ⟨rfl, rfl, rfl⟩ ⟨moves.sameState.running, rfl⟩

/-- Nothing of it moves the network. -/
theorem onClients_readyStep_same (gate : GateNode) {result : GateClients × List ClientEvent}
    (same : result.1.clientNetwork = gate.clients.clientNetwork) : ReadyStep gate (gate.onClients result).1 := by
  refine .kept ⟨rfl, rfl, rfl⟩ ⟨?_, rfl⟩
  show result.1.clientNetwork.running = gate.clients.clientNetwork.running
  rw [same]

theorem onGmSession_readyStep (gate : GateNode) (f : InnerNetworkSession → InnerNetworkSession × Option Bytes) :
    ReadyStep gate (gate.onGmSession f).1 := by
  unfold onGmSession
  split
  · exact .refl gate
  · exact .kept ⟨rfl, rfl, rfl⟩ ⟨rfl, rfl⟩

theorem handleConnectorStateChanged_readyStep (gate : GateNode) (env : GateEnv) (peer : Bytes)
    (state : ZmqConnectionState) : ReadyStep gate (gate.handleConnectorStateChanged env peer state).1 := by
  unfold handleConnectorStateChanged
  split
  · exact .refl gate
  unfold handleGmConnectionStateChanged
  split
  · exact .refl gate
  simp only
  split
  · exact .kept ⟨rfl, rfl, rfl⟩ ⟨rfl, rfl⟩
  split
  · unfold sendRegisterRequest onGmSession
    split
    · exact .kept ⟨rfl, rfl, rfl⟩ ⟨rfl, rfl⟩
    · exact .kept ⟨rfl, rfl, rfl⟩ ⟨rfl, rfl⟩
  · exact .kept ⟨rfl, rfl, rfl⟩ ⟨rfl, rfl⟩

theorem handleGameRegisterMessage_readyStep (gate : GateNode) (env : GateEnv) (routingId payload : Bytes) :
    ReadyStep gate (gate.handleGameRegisterMessage env routingId payload).1 := by
  unfold handleGameRegisterMessage
  simp only
  repeat' split
  all_goals first
    | exact .refl gate
    | exact .kept ⟨rfl, rfl, rfl⟩ ⟨rfl, rfl⟩

theorem handleGameHeartbeatMessage_readyStep (gate : GateNode) (env : GateEnv) (routingId payload : Bytes) :
    ReadyStep gate (gate.handleGameHeartbeatMessage env routingId payload).1 := by
  unfold handleGameHeartbeatMessage
  simp only
  repeat' split
  all_goals first
    | exact .refl gate
    | exact .kept ⟨rfl, rfl, rfl⟩ ⟨rfl, rfl⟩

theorem handleGameMessage_readyStep (gate : GateNode) (env : GateEnv) (routingId payload : Bytes) :
    ReadyStep gate (gate.handleGameMessage env routingId payload).1 := by
  unfold handleGameMessage
  split
  · exact .refl gate
  simp only
  split
  · exact handleGameRegisterMessage_readyStep gate env routingId payload
  split
  · exact handleGameHeartbeatMessage_readyStep gate env routingId payload
  split
  · exact onClients_readyStep gate (gate.clients.handleGameAvatarEntityCreateResultMessage_moves ..)
  split
  · exact onClients_readyStep gate (gate.clients.handleGamePushToClientMessage_moves ..)
  split
  · exact onClients_readyStep_same gate rfl
  split
  · exact onClients_readyStep_same gate rfl
  · exact .refl gate

/-- **Every input is a `ReadyStep`.** -/
theorem step_readyStep (gate : GateNode) (input : Input) : ReadyStep gate (gate.step input).1 := by
  cases input with
  | connectorState env peer state => exact handleConnectorStateChanged_readyStep gate env peer state
  | connectorMessage env peer payload => exact handleConnectorMessage_readyStep gate env peer payload
  | gameMessage env routingId payload => exact handleGameMessage_readyStep gate env routingId payload
  | heartbeatTimer env => exact onGmSession_readyStep gate _
  | authLogin env request => exact onClients_readyStep_same gate (gate.clients.handleAuthLogin_network ..)
  | datagram env endpoint datagram => exact onClients_readyStep gate (gate.clients.handleIncomingDatagram_moves ..)
  | removeSession sessionId => exact onClients_readyStep gate (.single (.remove sessionId))
  | clearRecord sessionId =>
    exact onClients_readyStep_same gate (GateClients.clearClientSessionRecord_network gate.clients sessionId)

/-! ## Over every run -/

/-- A Gate that is ready runs both services, another one neither. -/
def ReadyInv (gate : GateNode) : Prop := Services gate gate.clusterReady

theorem ReadyStep.inv {gate next : GateNode} (h : ReadyStep gate next) (inv : ReadyInv gate) : ReadyInv next := by
  cases h with
  | kept same services =>
    constructor
    · rw [services.clients, same.ready]
      exact inv.clients
    · rw [services.auth, same.ready]
      exact inv.auth
  | failed same idle services =>
    -- the login service was not running, so the Gate was not ready
    have notReady : next.clusterReady = false := same.ready.trans (inv.auth.symm.trans idle)
    unfold ReadyInv
    rw [notReady]
    exact services
  | opened notify newer epoch ready serverNow services =>
    unfold ReadyInv
    rw [ready]
    exact services

theorem step_readyInv (gate : GateNode) (input : Input) (inv : ReadyInv gate) : ReadyInv (machine.step gate input).1 :=
  (step_readyStep gate input).inv inv

theorem ReadyStep.epoch_le {gate next : GateNode} (h : ReadyStep gate next) :
    gate.clusterReadyEpoch ≤ next.clusterReadyEpoch := by
  cases h with
  | kept same services => exact UInt64.le_of_eq same.epoch.symm
  | failed same idle services => exact UInt64.le_of_eq same.epoch.symm
  | opened notify newer epoch ready serverNow services =>
    rw [epoch]
    exact newer

theorem onInit_readyInv {config : ClusterConfig} {self : NodeEntry} {boot : GateBoot} {gate : GateNode}
    (init : onInit config self boot = some gate) : ReadyInv gate := by
  simp only [onInit, Option.bind_eq_bind, Option.bind_eq_some_iff] at init
  obtain ⟨_, -, _, -, _, -, _, -, gm, -, sessions, -, _, -, eq⟩ := init
  cases eq
  exact ⟨rfl, rfl⟩

/-! ## What a message of the GM does -/

theorem handleConnectorMessage_gm (gate : GateNode) (env : GateEnv) (payload : Bytes) :
    gate.handleConnectorMessage env gmRemoteNodeId payload = gate.handleGmMessage env payload := by
  unfold handleConnectorMessage
  exact if_neg (fun different => different rfl)

theorem clusterReadyOf_some {gate : GateNode} {env : GateEnv} {payload : Bytes} {notify : ClusterReadyNotify}
    (h : gate.clusterReadyOf env payload = some notify) :
    ∃ session packet net, gate.sessions.findByNodeId gmRemoteNodeId = some session ∧ decodePacket payload = .ok packet ∧
      packet.header.msgId = innerClusterReadyNotifyMsgId ∧ gate.acceptClusterReadyNotify session packet = some notify ∧
      gate.clients.clientNetwork.run env.clientRunOk = some net ∧ (gate.authRunning = true ∨ env.authRunOk = true) := by
  simp only [clusterReadyOf, Option.bind_eq_bind, Option.bind_eq_some_iff, Option.guard_eq_some'] at h
  obtain ⟨session, found, packet, decoded, _, kind, accept, accepted, net, running, _, serves, same⟩ := h
  cases same
  exact ⟨session, packet, net, found, ok_of_toOption decoded, kind, accepted, running, serves⟩

/-- A notify that is carried out. -/
theorem handleGmMessage_carriedOut {gate : GateNode} {env : GateEnv} {payload : Bytes} {notify : ClusterReadyNotify}
    (carriedOut : gate.clusterReadyOf env payload = some notify) :
    let next := gate.handleGmMessage env payload
    next.clusterReadyEpoch = notify.readyEpoch ∧ next.clusterReady = true ∧
      next.lastClusterReadyServerNowUnixMs = notify.serverNowUnixMs := by
  obtain ⟨session, packet, net, found, decoded, kind, accepted, running, serves⟩ := clusterReadyOf_some carriedOut
  have opened : ¬ (gate.authRunning = false ∧ env.authRunOk = false) := by
    rintro ⟨idle, failed⟩
    rcases serves with runs | opens
    · exact Bool.false_ne_true (idle.symm.trans runs)
    · exact Bool.false_ne_true (failed.symm.trans opens)
  unfold handleGmMessage handleClusterReadyNotify
  simp only [found, decoded, if_pos kind, accepted, running, if_neg opened, and_self]

/-- A notify that is not carried out. -/
theorem handleClusterReadyNotify_declined {gate : GateNode} {env : GateEnv} {session : InnerNetworkSession}
    {packet : Packet}
    (declined : ∀ notify net, gate.acceptClusterReadyNotify session packet = some notify →
      gate.clients.clientNetwork.run env.clientRunOk = some net → gate.authRunning = false ∧ env.authRunOk = false) :
    SameReady gate (gate.handleClusterReadyNotify env session packet) := by
  unfold handleClusterReadyNotify
  split
  · exact ⟨rfl, rfl, rfl⟩
  · rename_i notify accepted
    split
    · exact ⟨rfl, rfl, rfl⟩
    · rename_i net running
      rw [if_pos (declined notify net accepted running)]
      exact ⟨rfl, rfl, rfl⟩

/-- A message whose notify is not carried out, or that carries none. -/
theorem handleGmMessage_declined {gate : GateNode} {env : GateEnv} {payload : Bytes}
    (declined : gate.clusterReadyOf env payload = none) : SameReady gate (gate.handleGmMessage env payload) := by
  unfold handleGmMessage
  split
  · exact ⟨rfl, rfl, rfl⟩
  rename_i session found
  split
  · exact ⟨rfl, rfl, rfl⟩
  rename_i packet decoded
  split
  · rename_i kind
    refine handleClusterReadyNotify_declined fun notify net accepted running => ?_
    -- both listeners would have run
    have refused : ¬ (gate.authRunning = true ∨ env.authRunOk = true) := by
      intro serves
      simp [clusterReadyOf, found, decoded, Except.toOption, kind, accepted, running, serves] at declined
    rw [not_or, Bool.not_eq_true, Bool.not_eq_true] at refused
    exact refused
  split
  · exact ⟨rfl, rfl, rfl⟩
  split
  · split
    · exact ⟨rfl, rfl, rfl⟩
    · exact ⟨rfl, rfl, rfl⟩
  split
  · split
    · exact ⟨rfl, rfl, rfl⟩
    · exact ⟨rfl, rfl, rfl⟩
  · exact ⟨rfl, rfl, rfl⟩

/-- The readiness of a Gate at a state of a run, and at any later state of it. A
message of the GM carries out a cluster-ready notify or changes nothing of it. -/
structure ReadyLaws (gate later : GateNode) : Prop where
  epoch : gate.clusterReadyEpoch ≤ later.clusterReadyEpoch
  ready : gate.clusterReady = true → gate.clients.clientNetwork.running = true ∧ gate.authRunning = true
  idle : gate.clusterReady = false → gate.clients.clientNetwork.running = false ∧ gate.authRunning = false
  declined : ∀ (env : GateEnv) (payload : Bytes), gate.clusterReadyOf env payload = none →
    SameReady gate (gate.step (.connectorMessage env gmRemoteNodeId payload)).1
  carriedOut : ∀ (env : GateEnv) (payload : Bytes) (notify : ClusterReadyNotify),
    gate.clusterReadyOf env payload = some notify →
    (gate.step (.connectorMessage env gmRemoteNodeId payload)).1.clusterReadyEpoch = notify.readyEpoch ∧
      (gate.step (.connectorMessage env gmRemoteNodeId payload)).1.clusterReady = true ∧
      (gate.step (.connectorMessage env gmRemoteNodeId payload)).1.lastClusterReadyServerNowUnixMs =
        notify.serverNowUnixMs

/-- **A Gate that is ready serves.** For every sequence of inputs, and whatever
comes of opening the two listeners each time. -/
theorem cluster_ready_laws {config : ClusterConfig} {self : NodeEntry} {boot : GateBoot} {gate : GateNode}
    (init : onInit config self boot = some gate) (is js : List Input) :
    ReadyLaws (machine.run gate is).1 (machine.run (machine.run gate is).1 js).1 := by
  have inv : ReadyInv (machine.run gate is).1 := Machine.invariant step_readyInv (onInit_readyInv init) ⟨is, rfl⟩
  have grows := @Machine.run_relates _ _ _ machine (fun _ => True)
    (fun gate later => gate.clusterReadyEpoch ≤ later.clusterReadyEpoch) (fun gate => UInt64.le_refl _)
    (fun a b c ab bc => UInt64.le_trans ab bc) (fun _ _ _ => trivial)
    (fun gate input _ => (step_readyStep gate input).epoch_le) (machine.run gate is).1 trivial js
  refine ⟨grows, fun ready => ?_, fun notReady => ?_, fun env payload declined => ?_,
    fun env payload notify carriedOut => ?_⟩
  · have services : Services (machine.run gate is).1 true := ready ▸ inv
    exact ⟨services.clients, services.auth⟩
  · have services : Services (machine.run gate is).1 false := notReady ▸ inv
    exact ⟨services.clients, services.auth⟩
  · show SameReady _ (handleConnectorMessage _ env gmRemoteNodeId payload)
    rw [handleConnectorMessage_gm]
    exact handleGmMessage_declined declined
  · have outcome := handleGmMessage_carriedOut carriedOut
    rw [← handleConnectorMessage_gm] at outcome
    exact outcome

/-- The cluster becomes ready, and the login service can or cannot be opened. -/
def sampleNotify (authRunOk : Bool) : Input :=
  .connectorMessage { authRunOk } gmRemoteNodeId (samplePacket innerClusterReadyNotifyMsgId 0 0
    (encodeClusterReadyNotify ⟨1, true, 0, 1000⟩ clusterReadyNotifySize))

/-- The small Gate fails to open the login service, and succeeds the next time. -/
theorem cluster_ready_laws_sample :
    ReadyLaws (machine.run sampleGate (sampleLogin.take 4 ++ [sampleNotify false])).1
        (machine.run (machine.run sampleGate (sampleLogin.take 4 ++ [sampleNotify false])).1 [sampleNotify true]).1 ∧
      (machine.run sampleGate (sampleLogin.take 4 ++ [sampleNotify false])).1.clusterReady = false ∧
      (machine.run sampleGate (sampleLogin.take 4 ++ [sampleNotify false, sampleNotify true])).1.clusterReady = true :=
  ⟨cluster_ready_laws sampleGate_init _ _, by decide +kernel, by decide +kernel⟩

end GateNode

end XServer.Node
