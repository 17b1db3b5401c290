import XServer.Node.GateRelay
import XServer.Node.GateRoutes

/-!
# Traffic of clients

Three paths pass on traffic of a client: its entity calls go to its Game, pushes
come from a Game, and Games call its avatar. None of them asks whether the
avatar was confirmed; they look at the record, which is filled when the avatar
is selected. As long as nothing of the kind arrives for a session that waits
(`SettledTraffic`), all traffic belongs to confirmed avatars
(`traffic_confirmed`).
-/

namespace XServer.Node
open XServer.Lib XServer.Lib.Wire XServer.Net XServer.Core

namespace GateClients

/-! ## The moments of a datagram -/

/-- A message of a client and the state in which the Gate takes it up. -/
structure Received where
  clients : GateClients
  sessionId : UInt64
  payload : Bytes

/-- The events of one message. -/
def Received.events (message : Received) (ctx : GateContext) (env : GateEnv) : List ClientEvent :=
  (message.clients.handleClientPayloadReceived ctx env message.sessionId message.payload).2

/-- The messages that `receivePayloads` takes up. -/
def receivedMessages (ctx : GateContext) (env : GateEnv) (sessionId : UInt64) : GateClients → List Bytes → List Received
  | _, [] => []
  | clients, payload :: rest =>
    let touched := clients.touchSession env sessionId
    let (next, events) := touched.handleClientPayloadReceived ctx env sessionId payload
    ⟨touched, sessionId, payload⟩ :: if .threw ∈ events then [] else receivedMessages ctx env sessionId next rest

/-- The messages that a datagram completes. -/
def datagramMessages (clients : GateClients) (ctx : GateContext) (env : GateEnv) (endpoint : Endpoint)
    (datagram : Bytes) : List Received :=
  match clients.datagramSession ctx env endpoint datagram with
  | (_, _, none) => []
  | (clients, _, some (sessionId, _)) =>
    if env.kcpInputOk then receivedMessages ctx env sessionId (clients.touchSession env sessionId) env.received else []

/-- What the loop emits, it emits for these messages. -/
theorem receivePayloads_events (ctx : GateContext) (env : GateEnv) (sessionId : UInt64) (clients : GateClients)
    (payloads : List Bytes) :
    (receivePayloads ctx env sessionId clients payloads).2 =
      (receivedMessages ctx env sessionId clients payloads).flatMap (·.events ctx env) := by
  induction payloads generalizing clients with
  | nil => rfl
  | cons payload rest ih =>
    unfold receivePayloads receivedMessages
    simp only [List.flatMap_cons, Received.events]
    split
    · simp
    · rw [ih]
      rfl

/-- **A datagram's events** are those of opening its session and those of its
messages. -/
theorem handleIncomingDatagram_events (clients : GateClients) (ctx : GateContext) (env : GateEnv) (endpoint : Endpoint)
    (datagram : Bytes) :
    (clients.handleIncomingDatagram ctx env endpoint datagram).2 =
      (clients.datagramSession ctx env endpoint datagram).2.1 ++
        (clients.datagramMessages ctx env endpoint datagram).flatMap (·.events ctx env) := by
  unfold handleIncomingDatagram datagramMessages
  generalize clients.datagramSession ctx env endpoint datagram = outcome
  obtain ⟨clients', events, session⟩ := outcome
  cases session with
  | none => simp
  | some session =>
    obtain ⟨sessionId, sessionCreated⟩ := session
    simp only [feedDatagram]
    split
    · rw [receivePayloads_events]
    · split <;> simp

theorem receivedMessages_routes {ctx : GateContext} {env : GateEnv} {sessionId : UInt64} {clients : GateClients}
    {payloads : List Bytes} (inv : RouteInv clients) {message : Received}
    (mem : message ∈ receivedMessages ctx env sessionId clients payloads) : RouteInv message.clients := by
  induction payloads generalizing clients with
  | nil => cases mem
  | cons payload rest ih =>
    have touched := (touchSession_sameRoutes clients env sessionId).inv inv
    unfold receivedMessages at mem
    simp only [List.mem_cons] at mem
    rcases mem with rfl | mem
    · exact touched
    · split at mem
      · cases mem
      · exact ih (handleClientPayloadReceived_routes touched ctx env sessionId payload) mem

theorem datagramMessages_routes {clients : GateClients} {ctx : GateContext} {env : GateEnv} {endpoint : Endpoint}
    {datagram : Bytes} (inv : RouteInv clients) {message : Received}
    (mem : message ∈ clients.datagramMessages ctx env endpoint datagram) : RouteInv message.clients := by
  have found := (datagramSession_routes inv ctx env endpoint datagram).1
  unfold datagramMessages at mem
  generalize clients.datagramSession ctx env endpoint datagram = outcome at *
  obtain ⟨clients', events, session⟩ := outcome
  cases session with
  | none => cases mem
  | some session =>
    simp only at mem
    split at mem
    · exact receivedMessages_routes ((touchSession_sameRoutes clients' env session.1).inv found) mem
    · cases mem

/-! ## Confirmed sessions -/

/-- The session waits for the answer to its selection. -/
def waiting (clients : GateClients) (sessionId : UInt64) : Bool :=
  (clients.clientSessionRecords[sessionId]?).any (·.pendingSelectAvatarSeq != 0)

/-- The record waits for nothing and the session is bound. -/
def ConfirmedSession (clients : GateClients) (sessionId : UInt64) : Prop :=
  ∃ record session, clients.clientSessionRecords[sessionId]? = some record ∧ record.pendingSelectAvatarSeq = 0 ∧
    clients.clientNetwork.findSession sessionId = some session ∧ session.routeState = .bound

theorem ConfirmedSession.settled {clients : GateClients} {sessionId : UInt64}
    (confirmed : ConfirmedSession clients sessionId) : clients.waiting sessionId = false := by
  obtain ⟨record, session, found, pending, -, -⟩ := confirmed
  simp [waiting, found, pending]

/-- A record with an avatar that waits for nothing is confirmed. -/
theorem confirmedSession_of_routes {clients : GateClients} (inv : RouteInv clients) {sessionId : UInt64}
    {record : ClientSessionRecord} (found : clients.clientSessionRecords[sessionId]? = some record)
    (avatar : record.avatarId ≠ []) (settled : clients.waiting sessionId = false) :
    ConfirmedSession clients sessionId := by
  have pending : record.pendingSelectAvatarSeq = 0 := by
    unfold waiting at settled
    rw [found] at settled
    simpa using settled
  have chosen : clients.selections sessionId = some record.selection := by rw [selections, found]; rfl
  obtain ⟨target, route, -⟩ := (inv sessionId record.selection chosen).bound ⟨avatar, pending⟩
  obtain ⟨session, live, eq⟩ := Option.map_eq_some_iff.mp route
  exact ⟨record, session, found, pending, live, congrArg Prod.fst eq⟩

/-! ## Calls of the client -/

theorem sendCreateAvatarEntityRequest_sent {ctx : GateContext} {env : GateEnv} {record : ClientSessionRecord}
    {routingId sent : Bytes} (h : ctx.sendCreateAvatarEntityRequest env record = .done (routingId, sent)) :
    HasMsgId sent gateCreateAvatarEntityMsgId := by
  unfold GateContext.sendCreateAvatarEntityRequest at h
  repeat' split at h
  all_goals try cases h
  rename_i encoded _
  exact ⟨_, readRawHeader_encodePacket encoded, rfl⟩

/-- An entity call whose envelope is in order, on a session whose Game can be reached. -/
def Received.Callable (message : Received) (ctx : GateContext) : Prop :=
  ∃ packet ∈ (decodePacket message.payload).toOption, packet.header.msgId = clientEntityRpcMsgId ∧
    packet.header.flags = 0 ∧ packet.header.seq ≠ packetSeqNone ∧
    ∃ record ∈ message.clients.clientSessionRecords[message.sessionId]?, (ctx.availableGame record.gameNodeId).isSome = true

theorem touchRecord_found {clients : GateClients} {env : GateEnv} {sessionId : UInt64} {record : ClientSessionRecord}
    (found : (clients.touchRecord env sessionId).clientSessionRecords[sessionId]? = some record) :
    ∃ before, clients.clientSessionRecords[sessionId]? = some before ∧ before.selection = record.selection := by
  have same := congrFun (touchRecord_sameRoutes clients env sessionId).selections sessionId
  rw [selections, found] at same
  obtain ⟨before, stored, eq⟩ := Option.map_eq_some_iff.mp same.symm
  exact ⟨before, stored, eq⟩

/-- A message for which a call goes to a Game is an entity call in order, on a session
with an avatar. -/
theorem forwards_entityRpc {message : Received} {ctx : GateContext} {env : GateEnv} {routingId packet : Bytes}
    (forwarded : .toGame routingId packet ∈ message.events ctx env)
    (call : HasMsgId packet relayForwardProxyCallMsgId) :
    message.Callable ctx ∧ ∃ record,
      message.clients.clientSessionRecords[message.sessionId]? = some record ∧ record.avatarId ≠ [] := by
  unfold Received.events handleClientPayloadReceived at forwarded
  simp only at forwarded
  split at forwarded
  · cases forwarded
  rename_i received decoded
  split at forwarded
  · split at forwarded
    · rename_i done
      unfold handleClientSelectAvatarPacket at done
      repeat' split at done
      all_goals try cases done
      rename_i requested
      cases List.mem_singleton.mp forwarded
      have other := call.unique (sendCreateAvatarEntityRequest_sent requested)
      exact absurd other (by decide)
    · simp at forwarded
    · unfold sendClientSelectAvatarResult at forwarded
      repeat' split at forwarded
      all_goals simp [sendPayload] at forwarded
  split at forwarded
  · rename_i isRpc
    split at forwarded
    · cases forwarded
    · rename_i accepted
      obtain ⟨flags, seq, record, target, sent, found, avatar, available, -⟩ := handleClientEntityRpcPacket_ok accepted
      obtain ⟨before, stored, same⟩ := touchRecord_found found
      have game : before.gameNodeId = record.gameNodeId := congrArg Selection.gameNodeId same
      refine ⟨⟨received, ?_, isRpc, flags, seq, before, stored, by rw [game, available]; rfl⟩,
        before, stored, ?_⟩
      · rw [decoded]
        rfl
      · exact fun empty => avatar ((congrArg Selection.avatarId same).symm.trans empty)
  · cases forwarded

/-! ## Calls of Games -/

/-- The session that a relayed call is about. -/
def callTarget (clients : GateClients) (payload : Bytes) : Option UInt64 := do
  let packet ← decodeCall payload
  let relay ← (decodeRelayEntityCall packet.payload).toOption
  clients.sessionIdsByAvatar[relay.targetEntityId]?

/-- The session, with its record, that a call is accepted for from the peer that sent it. -/
def acceptedTarget (clients : GateClients) (ctx : GateContext)
    (decode : Bytes → Except RelayCodecErrorCode RelayEntityCall) (routingId payload : Bytes) :
    Option (UInt64 × ClientSessionRecord) :=
  (acceptRelayEntityCall ctx decode routingId payload).bind fun relay =>
    clients.resolveAvatarSession ctx relay.targetEntityId

theorem push_accepted {clients : GateClients} {ctx : GateContext} {env : GateEnv} {routingId payload : Bytes}
    (sent : (clients.handleGamePushToClientMessage ctx env routingId payload).2 ≠ []) :
    ∃ target, clients.acceptedTarget ctx decodeRelayPushToClient routingId payload = some target := by
  unfold handleGamePushToClientMessage at sent
  split at sent
  · exact absurd rfl sent
  · rename_i relay accepted
    split at sent
    · exact absurd rfl sent
    · rename_i sessionId record resolved
      exact ⟨_, Option.bind_eq_some_iff.mpr ⟨relay, accepted, resolved⟩⟩

theorem proxy_accepted {clients : GateClients} {ctx : GateContext} {env : GateEnv} {routingId payload : Bytes}
    (sent : clients.handleGameForwardProxyCallMessage ctx env routingId payload ≠ []) :
    ∃ target, clients.acceptedTarget ctx decodeRelayForwardProxyCall routingId payload = some target ∧
      (ctx.availableGame target.2.gameNodeId).isSome = true := by
  unfold handleGameForwardProxyCallMessage at sent
  split at sent
  · exact absurd rfl sent
  · rename_i relay accepted
    split at sent
    · exact absurd rfl sent
    · rename_i sessionId record resolved
      refine ⟨_, Option.bind_eq_some_iff.mpr ⟨relay, accepted, resolved⟩, ?_⟩
      split at sent
      · exact absurd rfl sent
      · unfold forwardToGame at sent
        split at sent
        · exact absurd rfl sent
        · rename_i game available
          rw [available]
          rfl

/-- A session that a call is accepted for has the avatar that the call names. -/
theorem acceptedTarget_some {clients : GateClients} {ctx : GateContext} {routingId payload : Bytes}
    {target : UInt64 × ClientSessionRecord}
    (accepted : clients.acceptedTarget ctx decodeRelayEntityCall routingId payload = some target) :
    clients.callTarget payload = some target.1 ∧ clients.clientSessionRecords[target.1]? = some target.2 ∧
      target.2.avatarId ≠ [] := by
  obtain ⟨relay, taken, resolved⟩ := Option.bind_eq_some_iff.mp accepted
  obtain ⟨packet, peer, call, -⟩ := acceptRelayEntityCall_some taken
  obtain ⟨indexed, found, avatar⟩ := resolveAvatarSession_some resolved
  have plain : decodeCall payload = some packet := by
    unfold decodeCall
    simp only [peer.decoded]
    rw [if_neg (by rw [peer.flags, peer.seq]; simp)]
  refine ⟨?_, found, ?_⟩
  · simp [callTarget, plain, call, Except.toOption, indexed]
  · rw [avatar]
    exact isCanonicalGuidText_ne (decodeRelayEntityCall_valid call)

end GateClients

namespace GateNode

/-! ## Results -/

/-- All traffic that a step passes on belongs to confirmed sessions: an entity
call that a message of a client leads to, a push to a client, and a call for an
avatar. -/
def TrafficConfirmed (gate : GateNode) : Input → Prop
  | .datagram env endpoint datagram =>
    ∀ message ∈ gate.clients.datagramMessages gate.toGateContext env endpoint datagram,
      ∀ routingId packet, .toGame routingId packet ∈ message.events gate.toGateContext env →
        HasMsgId packet relayForwardProxyCallMsgId → message.clients.ConfirmedSession message.sessionId
  | .gameMessage env routingId payload =>
    HasMsgId payload relayPushToClientMsgId ∨ HasMsgId payload relayForwardProxyCallMsgId →
      (gate.step (.gameMessage env routingId payload)).2 ≠ [] →
      ∃ sessionId, gate.clients.callTarget payload = some sessionId ∧ gate.clients.ConfirmedSession sessionId
  | _ => True

/-- No entity call, push or proxy call that is in order arrives for a session that waits for
the answer to its selection: the peer is the one it declares, and a Game that a call is for can
be reached. -/
def SettledTraffic (gate : GateNode) : Input → Prop
  | .datagram env endpoint datagram =>
    ∀ message ∈ gate.clients.datagramMessages gate.toGateContext env endpoint datagram,
      message.Callable gate.toGateContext → message.clients.waiting message.sessionId = false
  | .gameMessage _ routingId payload =>
    (HasMsgId payload relayPushToClientMsgId → ∀ target ∈ gate.clients.acceptedTarget gate.toGateContext
      decodeRelayPushToClient routingId payload, gate.clients.waiting target.1 = false) ∧
    (HasMsgId payload relayForwardProxyCallMsgId → ∀ target ∈ gate.clients.acceptedTarget gate.toGateContext
      decodeRelayForwardProxyCall routingId payload,
      (gate.toGateContext.availableGame target.2.gameNodeId).isSome = true → gate.clients.waiting target.1 = false)
  | _ => True

theorem accepted_confirmed {gate : GateNode} (inv : gate.clients.RouteInv) {routingId payload : Bytes}
    {target : UInt64 × ClientSessionRecord}
    (accepted : gate.clients.acceptedTarget gate.toGateContext decodeRelayEntityCall routingId payload = some target)
    (settled : gate.clients.waiting target.1 = false) :
    ∃ sessionId, gate.clients.callTarget payload = some sessionId ∧ gate.clients.ConfirmedSession sessionId := by
  obtain ⟨named, found, avatar⟩ := GateClients.acceptedTarget_some accepted
  exact ⟨target.1, named, GateClients.confirmedSession_of_routes inv found avatar settled⟩

theorem step_traffic (gate : GateNode) (input : Input) (inv : gate.clients.RouteInv)
    (settled : SettledTraffic gate input) : TrafficConfirmed gate input := by
  cases input with
  | datagram env endpoint datagram =>
    intro message mem routingId packet forwarded call
    obtain ⟨callable, record, found, avatar⟩ := GateClients.forwards_entityRpc forwarded call
    exact GateClients.confirmedSession_of_routes (GateClients.datagramMessages_routes inv mem) found avatar
      (settled message mem callable)
  | gameMessage env routingId payload =>
    rintro (isPush | isProxy) sent
    · rw [step_push gate env routingId isPush] at sent
      obtain ⟨target, accepted⟩ := GateClients.push_accepted fun quiet => sent (by rw [onClients, quiet]; rfl)
      exact accepted_confirmed inv accepted (settled.1 isPush target accepted)
    · rw [step_proxy gate env routingId isProxy] at sent
      obtain ⟨target, accepted, reached⟩ := GateClients.proxy_accepted fun quiet => sent (by rw [onClients, quiet]; rfl)
      exact accepted_confirmed inv accepted (settled.2 isProxy target accepted reached)
  | _ => trivial

/-- **Traffic of confirmed avatars.** In a run where nothing in order arrives for a
session that waits, every step passes on traffic of confirmed sessions only. -/
theorem traffic_confirmed {config : ClusterConfig} {self : NodeEntry} {boot : GateBoot} {gate : GateNode}
    (init : onInit config self boot = some gate) {is : List Input} (kept : machine.Along KeepsSessions gate is)
    (settled : machine.Along SettledTraffic gate is) : machine.Along TrafficConfirmed gate is := by
  have start : (machine.run gate []).1.clients.RouteInv := run_routes init trivial
  exact Machine.Along.of_invariant (fun gate input inv ok => step_routes gate input inv ok.1)
    (fun gate input inv ok => step_traffic gate input inv ok.2) start (kept.and settled)

instance (message : GateClients.Received) (ctx : GateContext) : Decidable (message.Callable ctx) :=
  inferInstanceAs (Decidable (∃ packet ∈ _, _))

instance (gate : GateNode) : ∀ input, Decidable (SettledTraffic gate input)
  | .datagram .. => inferInstanceAs (Decidable (∀ message ∈ _, _ → _))
  | .gameMessage .. => inferInstanceAs (Decidable ((_ → ∀ target ∈ _, _) ∧ (_ → ∀ target ∈ _, _ → _)))
  | .connectorState .. | .connectorMessage .. | .heartbeatTimer .. | .authLogin .. | .removeSession ..
  | .clearRecord .. => .isTrue trivial

def sampleRpcMessage : Bytes := samplePacket clientEntityRpcMsgId 2 0 (.ok [1, 2, 3] : Except Unit Bytes)

def sampleRpcEnv : GateEnv where
  nowUnixMs := 2000
  admissionUnixMs := 2000
  laterUnixMs := 2000
  received := [sampleRpcMessage]

/-- An entity call of the small Gate's client. -/
def sampleEntityRpc : Input :=
  .datagram sampleRpcEnv { host := text "10.0.0.1", port := 40000 } (sampleSegment 1 sampleRpcMessage)

theorem traffic_confirmed_sample : machine.Along TrafficConfirmed sampleGate (sampleConfirmed ++ [sampleEntityRpc]) :=
  traffic_confirmed sampleGate_init (by decide +kernel) (by decide +kernel)

/-- The packet of a call handed to a Game. -/
def isForwardedCall : ClientEvent → Bool
  | .toGame _ packet => decide (HasMsgId packet relayForwardProxyCallMsgId)
  | _ => false

/-- The entity call of a client that waits for its avatar goes to the Game. -/
theorem waiting_client_forwarded :
    ¬ machine.Along TrafficConfirmed sampleGate
      (sampleLogin ++ [sampleSelect (text "0f8fad5b-d9cb-469f-a165-70867728950e")] ++ [sampleEntityRpc]) := by
  intro along
  obtain ⟨confirmed, -⟩ := along.append.2
  have forwarded : (sampleWaiting.clients.datagramMessages sampleWaiting.toGateContext sampleRpcEnv
      { host := text "10.0.0.1", port := 40000 } (sampleSegment 1 sampleRpcMessage)).any (fun message =>
        message.clients.waiting message.sessionId &&
          (message.events sampleWaiting.toGateContext sampleRpcEnv).any isForwardedCall) = true := by decide +kernel
  obtain ⟨message, mem, both⟩ := List.any_eq_true.mp forwarded
  obtain ⟨waits, sent⟩ := Bool.and_eq_true_iff.mp both
  obtain ⟨event, emitted, call⟩ := List.any_eq_true.mp sent
  cases event with
  | toGame routingId packet =>
    have settled := (confirmed message mem routingId packet emitted (of_decide_eq_true call)).settled
    rw [waits] at settled
    cases settled
  | _ => cases call

end GateNode

end XServer.Node
