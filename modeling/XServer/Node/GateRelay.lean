import XServer.Node.GateBook

/-!
# Relay integrity

What a Gate passes on for a Game: a push to the client of an avatar, a call to
the Game of an avatar, a call to a mailbox of a Game. `Relayed` says what is
sent and what was checked before; whenever the Gate reacts to such a message at
all, it reacts like this (`relay_integrity`).
-/

namespace XServer.Node
open XServer.Lib XServer.Lib.Wire XServer.Net XServer.Core

namespace GateClients

/-- A complete packet without flags and sequence number, from the registered
peer that it declares as its source. -/
structure FromPeer (ctx : GateContext) (routingId payload : Bytes) (packet : Packet) (declared : Bytes) : Prop where
  decoded : decodePacket payload = .ok packet
  complete : payload.length = packetHeaderSize + packet.payload.length
  flags : packet.header.flags = 0
  seq : packet.header.seq = packetSeqNone
  source : ∃ source, ctx.sessions.findByRoutingId routingId = some source ∧ source.registered = true ∧
    source.nodeId = declared

/-- The channel of a Game that is registered, connected and ready. -/
structure GameChannel (ctx : GateContext) (gameNodeId routingId : Bytes) (game : InnerNetworkSession) : Prop where
  found : ctx.sessions.findByNodeId gameNodeId = some game
  processType : game.processType = .game
  connected : game.connectionState = .connected
  registered : game.registered = true
  ready : game.innerNetworkReady = true
  channel : game.routingId = routingId
  named : routingId ≠ []

/-- What reacting to a relay message means: the message checked, and the one
thing sent for it. A push becomes one client packet with the relayed message
and no sequence number; the two kinds of calls are handed on byte by byte. -/
inductive Relayed (clients : GateClients) (ctx : GateContext) (routingId payload : Bytes) :
    UInt32 → List ClientEvent → Prop where
  | push {packet : Packet} {relay : RelayEntityCall} {sessionId : UInt64} {record : ClientSessionRecord} {sent : Bytes}
      (ok : Bool) (peer : FromPeer ctx routingId payload packet relay.sourceGameNodeId)
      (call : decodeRelayPushToClient packet.payload = .ok relay) (route : relay.routeGateNodeId = ctx.nodeId)
      (indexed : clients.sessionIdsByAvatar[relay.targetEntityId]? = some sessionId)
      (found : clients.clientSessionRecords[sessionId]? = some record) (avatar : record.avatarId = relay.targetEntityId)
      (wrapped : decodePacket sent = .ok {
        header := makePacketHeader relay.msgId packetSeqNone 0 (UInt32.ofNat relay.payload.length)
        payload := relay.payload }) :
      Relayed clients ctx routingId payload relayPushToClientMsgId [.sendPayload sessionId sent ok]
  | proxy {packet : Packet} {relay : RelayEntityCall} {sessionId : UInt64} {record : ClientSessionRecord}
      {gameRoutingId : Bytes} {game : InnerNetworkSession}
      (peer : FromPeer ctx routingId payload packet relay.sourceGameNodeId)
      (call : decodeRelayForwardProxyCall packet.payload = .ok relay) (route : relay.routeGateNodeId = ctx.nodeId)
      (indexed : clients.sessionIdsByAvatar[relay.targetEntityId]? = some sessionId)
      (found : clients.clientSessionRecords[sessionId]? = some record) (avatar : record.avatarId = relay.targetEntityId)
      (target : GameChannel ctx record.gameNodeId gameRoutingId game) :
      Relayed clients ctx routingId payload relayForwardProxyCallMsgId [.toGame gameRoutingId payload]
  | mailbox {packet : Packet} {relay : RelayForwardMailboxCall} {gameRoutingId : Bytes} {game : InnerNetworkSession}
      (peer : FromPeer ctx routingId payload packet relay.sourceGameNodeId)
      (call : decodeRelayForwardMailboxCall packet.payload = .ok relay)
      (target : GameChannel ctx relay.targetGameNodeId gameRoutingId game) :
      Relayed clients ctx routingId payload relayForwardMailboxCallMsgId [.toGame gameRoutingId payload]

/-! ## The checks -/

theorem decodePacket_complete {bytes : Bytes} {packet : Packet} (h : decodePacket bytes = .ok packet) :
    bytes.length = packetHeaderSize + packet.payload.length := by
  unfold decodePacket at h
  split at h
  · cases h
  rename_i header read
  split at h
  · cases h
  rename_i size sized
  split at h
  · cases h
  · rename_i exactly
    cases h
    have wire : packetHeaderSize + header.length.toNat = size := by
      unfold getPacketWireSize at sized
      split at sized
      · cases sized
      · exact Except.ok.inj sized
    have total : bytes.length = packetHeaderSize + header.length.toNat := (not_not.mp exactly).trans wire.symm
    rw [List.length_take, List.length_drop]
    omega

theorem decodeCall_some {payload : Bytes} {packet : Packet} (h : decodeCall payload = some packet) :
    decodePacket payload = .ok packet ∧ packet.header.flags = 0 ∧ packet.header.seq = packetSeqNone := by
  unfold decodeCall at h
  split at h
  · cases h
  · rename_i decoded
    split at h
    · cases h
    · rename_i plain
      cases h
      rw [not_or, not_not, not_not] at plain
      exact ⟨decoded, plain⟩

theorem fromPeer {ctx : GateContext} {routingId payload : Bytes} {packet : Packet} {source : InnerNetworkSession}
    (call : decodeCall payload = some packet) (registered : registeredSource ctx routingId = some source) :
    FromPeer ctx routingId payload packet source.nodeId := by
  obtain ⟨decoded, flags, seq⟩ := decodeCall_some call
  obtain ⟨found, known⟩ := Option.filter_eq_some_iff.mp registered
  exact ⟨decoded, decodePacket_complete decoded, flags, seq, source, found, known, rfl⟩

theorem acceptRelayEntityCall_some {ctx : GateContext} {decode : Bytes → Except RelayCodecErrorCode RelayEntityCall}
    {routingId payload : Bytes} {relay : RelayEntityCall}
    (h : acceptRelayEntityCall ctx decode routingId payload = some relay) :
    ∃ packet, FromPeer ctx routingId payload packet relay.sourceGameNodeId ∧ decode packet.payload = .ok relay ∧
      relay.routeGateNodeId = ctx.nodeId := by
  unfold acceptRelayEntityCall at h
  obtain ⟨packet, call, h⟩ := Option.bind_eq_some_iff.mp h
  obtain ⟨relay', decoded, h⟩ := Option.bind_eq_some_iff.mp h
  obtain ⟨source, registered, h⟩ := Option.bind_eq_some_iff.mp h
  split at h
  · cases h
  rename_i declared
  split at h
  · cases h
  · rename_i here
    cases h
    have peer := fromPeer call registered
    rw [not_not.mp declared] at peer
    exact ⟨packet, peer, ok_of_toOption decoded, not_not.mp here⟩

theorem resolveAvatarSession_some {clients : GateClients} {ctx : GateContext} {avatar : Bytes} {sessionId : UInt64}
    {record : ClientSessionRecord} (h : clients.resolveAvatarSession ctx avatar = some (sessionId, record)) :
    clients.sessionIdsByAvatar[avatar]? = some sessionId ∧
      clients.clientSessionRecords[sessionId]? = some record ∧ record.avatarId = avatar := by
  unfold resolveAvatarSession at h
  obtain ⟨owner, indexed, h⟩ := Option.bind_eq_some_iff.mp h
  obtain ⟨stored, found, h⟩ := Option.bind_eq_some_iff.mp h
  split at h
  · cases h
  · rename_i live
    cases h
    rw [not_or, not_or, not_not] at live
    exact ⟨indexed, found, live.2.1⟩

theorem availableGame_some {ctx : GateContext} {gameNodeId : Bytes} {game : InnerNetworkSession}
    (h : ctx.availableGame gameNodeId = some game) : GameChannel ctx gameNodeId game.routingId game := by
  obtain ⟨found, available⟩ := Option.filter_eq_some_iff.mp h
  simp only [InnerNetworkSession.isAvailableGame, Bool.and_eq_true, beq_iff_eq, bne_iff_ne] at available
  obtain ⟨⟨⟨⟨processType, connected⟩, registered⟩, ready⟩, named⟩ := available
  exact ⟨found, processType, connected, registered, ready, rfl, named⟩

/-- At most one Game gets the message, unchanged. -/
theorem forwardToGame_sent {ctx : GateContext} {env : GateEnv} {gameNodeId payload : Bytes}
    (sent : forwardToGame ctx env gameNodeId payload ≠ []) :
    ∃ game, GameChannel ctx gameNodeId game.routingId game ∧
      forwardToGame ctx env gameNodeId payload = [.toGame game.routingId payload] := by
  unfold forwardToGame at sent ⊢
  split at sent
  · exact absurd rfl sent
  · rename_i game available
    split at sent
    · rename_i accepted
      exact ⟨game, availableGame_some available, by rw [if_pos accepted]⟩
    · exact absurd rfl sent

/-! ## The three handlers -/

theorem push_relayed {clients : GateClients} {ctx : GateContext} {env : GateEnv} {routingId payload : Bytes}
    (sent : (clients.handleGamePushToClientMessage ctx env routingId payload).2 ≠ []) :
    Relayed clients ctx routingId payload relayPushToClientMsgId
      (clients.handleGamePushToClientMessage ctx env routingId payload).2 := by
  unfold handleGamePushToClientMessage at sent ⊢
  split at sent
  · exact absurd rfl sent
  · rename_i relay accepted
    obtain ⟨packet, peer, call, route⟩ := acceptRelayEntityCall_some accepted
    split at sent
    · exact absurd rfl sent
    · rename_i sessionId record resolved
      obtain ⟨indexed, found, avatar⟩ := resolveAvatarSession_some resolved
      split at sent
      · exact absurd rfl sent
      · rename_i bytes encoded
        exact .push _ peer call route indexed found avatar (decodePacket_encodePacket encoded)

theorem proxy_relayed {clients : GateClients} {ctx : GateContext} {env : GateEnv} {routingId payload : Bytes}
    (sent : clients.handleGameForwardProxyCallMessage ctx env routingId payload ≠ []) :
    Relayed clients ctx routingId payload relayForwardProxyCallMsgId
      (clients.handleGameForwardProxyCallMessage ctx env routingId payload) := by
  unfold handleGameForwardProxyCallMessage at sent ⊢
  split at sent
  · exact absurd rfl sent
  · rename_i relay accepted
    obtain ⟨packet, peer, call, route⟩ := acceptRelayEntityCall_some accepted
    split at sent
    · exact absurd rfl sent
    · rename_i sessionId record resolved
      obtain ⟨indexed, found, avatar⟩ := resolveAvatarSession_some resolved
      split at sent
      · exact absurd rfl sent
      · rename_i routed
        obtain ⟨game, target, eq⟩ := forwardToGame_sent sent
        simp only [if_neg routed, eq]
        exact .proxy peer call route indexed found avatar target

theorem mailbox_relayed {clients : GateClients} {ctx : GateContext} {env : GateEnv} {routingId payload : Bytes}
    (sent : handleGameForwardStubCallMessage ctx env routingId payload ≠ []) :
    Relayed clients ctx routingId payload relayForwardMailboxCallMsgId
      (handleGameForwardStubCallMessage ctx env routingId payload) := by
  unfold handleGameForwardStubCallMessage at sent ⊢
  split at sent
  · exact absurd rfl sent
  rename_i packet call
  split at sent
  · exact absurd rfl sent
  rename_i relay decoded
  split at sent
  · exact absurd rfl sent
  rename_i source registered
  split at sent
  · exact absurd rfl sent
  · rename_i declared
    obtain ⟨game, target, eq⟩ := forwardToGame_sent sent
    simp only [if_neg declared, eq]
    have peer := fromPeer call registered
    rw [not_not.mp declared] at peer
    exact .mailbox peer decoded target

end GateClients

namespace GateNode

/-! ## Dispatch -/

theorem step_push (gate : GateNode) (env : GateEnv) (routingId : Bytes) {payload : Bytes}
    (isPush : HasMsgId payload relayPushToClientMsgId) :
    gate.step (.gameMessage env routingId payload) =
      gate.onClients (gate.clients.handleGamePushToClientMessage gate.toGateContext env routingId payload) := by
  obtain ⟨raw, header, id⟩ := isPush
  simp only [step, handleGameMessage, header, id]
  rfl

theorem step_proxy (gate : GateNode) (env : GateEnv) (routingId : Bytes) {payload : Bytes}
    (isProxy : HasMsgId payload relayForwardProxyCallMsgId) :
    gate.step (.gameMessage env routingId payload) = gate.onClients
      (gate.clients, gate.clients.handleGameForwardProxyCallMessage gate.toGateContext env routingId payload) := by
  obtain ⟨raw, header, id⟩ := isProxy
  simp only [step, handleGameMessage, header, id]
  rfl

theorem step_mailbox (gate : GateNode) (env : GateEnv) (routingId : Bytes) {payload : Bytes}
    (isMailbox : HasMsgId payload relayForwardMailboxCallMsgId) :
    gate.step (.gameMessage env routingId payload) = gate.onClients
      (gate.clients, GateClients.handleGameForwardStubCallMessage gate.toGateContext env routingId payload) := by
  obtain ⟨raw, header, id⟩ := isMailbox
  simp only [step, handleGameMessage, header, id]
  rfl

/-- **Relay integrity.** Whatever the Gate sends in reaction to a push, a proxy
call or a mailbox call, it is the one relayed message and all checks were met. -/
theorem relay_integrity (gate : GateNode) (env : GateEnv) (routingId payload : Bytes) (raw : PacketHeader)
    (header : readRawHeader payload = some raw)
    (relays : raw.msgId = relayPushToClientMsgId ∨ raw.msgId = relayForwardProxyCallMsgId ∨
      raw.msgId = relayForwardMailboxCallMsgId)
    (sent : (gate.step (.gameMessage env routingId payload)).2 ≠ []) :
    ∃ events, (gate.step (.gameMessage env routingId payload)).2 = events.map .client ∧
      GateClients.Relayed gate.clients gate.toGateContext routingId payload raw.msgId events := by
  rcases relays with id | id | id
  · rw [step_push gate env routingId ⟨raw, header, id⟩] at sent ⊢
    refine ⟨_, rfl, ?_⟩
    rw [id]
    exact GateClients.push_relayed fun quiet => sent (by rw [onClients, quiet]; rfl)
  · rw [step_proxy gate env routingId ⟨raw, header, id⟩] at sent ⊢
    refine ⟨_, rfl, ?_⟩
    rw [id]
    exact GateClients.proxy_relayed fun quiet => sent (by rw [onClients, quiet]; rfl)
  · rw [step_mailbox gate env routingId ⟨raw, header, id⟩] at sent ⊢
    refine ⟨_, rfl, ?_⟩
    rw [id]
    exact GateClients.mailbox_relayed fun quiet => sent (by rw [onClients, quiet]; rfl)

/-- The Game's push to the client of the small Gate. -/
def samplePush : Bytes :=
  samplePacket relayPushToClientMsgId 0 0 (encodeRelayForwardProxyCall lowerCaseCall 68)

theorem relay_integrity_sample :
    ∃ events, (sampleWaiting.step (.gameMessage {} (text "Game0") samplePush)).2 = events.map .client ∧
      GateClients.Relayed sampleWaiting.clients sampleWaiting.toGateContext (text "Game0") samplePush
        relayPushToClientMsgId events :=
  relay_integrity sampleWaiting {} (text "Game0") samplePush (makePacketHeader relayPushToClientMsgId 0 0 64)
    (by decide +kernel) (.inl rfl) (by decide +kernel)

end GateNode

end XServer.Node
