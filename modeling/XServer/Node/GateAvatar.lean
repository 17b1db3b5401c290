import XServer.Net.Relay
import XServer.Node.GateAdmission

/-!
# A Gate serves its clients

`node/GateNode.cpp` and the datagram handler of `node/ClientNetwork.cpp`: a
client selects an avatar, the Gate asks a ready Game to create it and binds the
avatar to the session until the Game's answer confirms or undoes that; after it
the Gate relays calls between the client and its Game.
-/

namespace XServer.Node
open XServer.Lib XServer.Lib.Wire XServer.Net XServer.Core

/-! ## Reading JSON members -/

/-- A string member that is not empty, with the error of an empty one and that of any other. -/
def requiredJsonString (empty other : Bytes) (members : Table Bytes JsonScalar) (fieldName : String) : Except Bytes Bytes :=
  match members[text fieldName]? with
  | some (.string value) => if value = [] then .error empty else .ok value
  | _ => .error other

/-- A number that is not zero, with the error of zero and that of any other member. -/
def requiredJsonUInt64 (zero other : Bytes) (members : Table Bytes JsonScalar) (fieldName : String) :
    Except Bytes UInt64 :=
  match members[text fieldName]? with
  | some (.unsigned value) => if value = 0 then .error zero else .ok value
  | _ => .error other

/-- `TryReadRequiredJsonString`. -/
def tryReadRequiredJsonString (members : Table Bytes JsonScalar) (fieldName : String) : Except Bytes Bytes :=
  requiredJsonString (text ("JSON field '" ++ fieldName ++ "' must not be empty."))
    (text ("JSON field '" ++ fieldName ++ "' must be a string.")) members fieldName

/-- `TryReadRequiredJsonUInt64`. -/
def tryReadRequiredJsonUInt64 (members : Table Bytes JsonScalar) (fieldName : String) : Except Bytes UInt64 :=
  requiredJsonUInt64 (text ("JSON field '" ++ fieldName ++ "' must be greater than zero."))
    (text ("JSON field '" ++ fieldName ++ "' must be an unsigned integer.")) members fieldName

theorem requiredJsonString_ok {empty other : Bytes} {members : Table Bytes JsonScalar} {fieldName : String}
    {value : Bytes} (h : requiredJsonString empty other members fieldName = .ok value) :
    members[text fieldName]? = some (.string value) ∧ value ≠ [] := by
  unfold requiredJsonString at h
  split at h
  · rename_i found
    split at h
    · cases h
    · rename_i nonempty
      cases h
      exact ⟨found, nonempty⟩
  · cases h

theorem requiredJsonUInt64_ok {zero other : Bytes} {members : Table Bytes JsonScalar} {fieldName : String}
    {value : UInt64} (h : requiredJsonUInt64 zero other members fieldName = .ok value) :
    members[text fieldName]? = some (.unsigned value) ∧ value ≠ 0 := by
  unfold requiredJsonUInt64 at h
  split at h
  · rename_i found
    split at h
    · cases h
    · rename_i positive
      cases h
      exact ⟨found, positive⟩
  · cases h

/-- `TryReadRequiredJsonBoolean`. -/
def tryReadRequiredJsonBoolean (members : Table Bytes JsonScalar) (fieldName : String) : Except Bytes Bool :=
  match members[text fieldName]? with
  | some (.boolean value) => .ok value
  | _ => .error (text ("JSON field '" ++ fieldName ++ "' must be a boolean."))

/-- `TryParseJson`; the error is the exception's text under a heading. -/
def GateEnv.tryParseJson (env : GateEnv) (content : Bytes) : Except Bytes Json :=
  match env.parseJson content with
  | .error what => .error (text "Failed to parse JSON: " ++ what)
  | .ok json => .ok json

/-! ## Choosing a Game -/

/-- A session with a Game that calls can be sent to. -/
def InnerNetworkSession.isAvailableGame (session : InnerNetworkSession) : Bool :=
  session.processType == .game && session.connectionState == .connected && session.registered &&
    session.innerNetworkReady && session.routingId != []

/-- The session of the Game, if it is available. -/
def GateContext.availableGame (ctx : GateContext) (gameNodeId : Bytes) : Option InnerNetworkSession :=
  (ctx.sessions.findByNodeId gameNodeId).filter (·.isAvailableGame)

def GateContext.readyGameNodeIds (ctx : GateContext) : List Bytes :=
  ctx.games.filter fun gameNodeId => (ctx.availableGame gameNodeId).isSome

/-- `ResolveAvatarGameNodeId`: one of the ready Games, empty if there is none. -/
def GateContext.resolveAvatarGameNodeId (ctx : GateContext) (env : GateEnv) : Bytes :=
  ctx.readyGameNodeIds.getD (env.draw % ctx.readyGameNodeIds.length) []

/-! ## Selecting an avatar -/

/-- The members of the create request. -/
def createAvatarMembers (record : ClientSessionRecord) : List (Bytes × JsonScalar) :=
  [(text "accountId", .string record.accountId), (text "avatarId", .string record.avatarId),
    (text "gateNodeId", .string record.gateNodeId), (text "sessionId", .unsigned record.sessionId)]

/-- How an attempt ends: with a result, a message, or an exception. -/
inductive Attempt (α : Type) where
  | done (result : α)
  | rejected (error : Bytes)
  | threw

/-- `SendCreateAvatarEntityRequest`: the routing id and the packet sent to it. -/
def GateContext.sendCreateAvatarEntityRequest (ctx : GateContext) (env : GateEnv) (record : ClientSessionRecord) :
    Attempt (Bytes × Bytes) :=
  match ctx.availableGame record.gameNodeId with
  | none => .rejected (text "Target Game node is unavailable for avatar creation.")
  | some target =>
    match dump (jsonObject (createAvatarMembers record)) with
    | none => .threw
    | some payload =>
      match encodePacket (makePacketHeader gateCreateAvatarEntityMsgId packetSeqNone 0 (UInt32.ofNat payload.length))
          payload (packetHeaderSize + payload.length) with
      | .error e => .rejected (text "Failed to encode create-avatar packet: " ++ packetCodecErrorMessage e)
      | .ok packet =>
        if env.sendOk target.routingId packet then .done (target.routingId, packet) else .rejected env.sendErrorText

/-- The avatar id a select-avatar payload asks for. -/
def readSelectAvatarRequest (env : GateEnv) (payload : Bytes) : Except Bytes Bytes :=
  match env.tryParseJson payload with
  | .error e => .error (text "Select-avatar payload was not valid JSON: " ++ e)
  | .ok .other => .error (text "Select-avatar payload must be a JSON object.")
  | .ok (.object members) =>
    match tryReadRequiredJsonString members "action" with
    | .error e => .error e
    | .ok action =>
      if action ≠ text "selectAvatar" then .error (text "Select-avatar payload action must be 'selectAvatar'.")
      else
        match tryReadRequiredJsonString members "avatarId" with
        | .error e => .error e
        | .ok avatarId =>
          if isCanonicalGuidText avatarId then .ok avatarId
          else .error (text "Select-avatar payload avatarId must be a canonical GUID string.")

namespace GateClients

variable (clients : GateClients)

/-- The checks of `HandleClientSelectAvatarPacket` up to the create request: the
record it would leave. -/
def nextSelectAvatarRecord (ctx : GateContext) (env : GateEnv) (sessionId : UInt64) (packet : Packet) :
    Except Bytes ClientSessionRecord :=
  if packet.header.flags ≠ 0 ∨ packet.header.seq = packetSeqNone then
    .error (text "Client select-avatar packet envelope is invalid.")
  else
    match clients.clientSessionRecords[sessionId]? with
    | none => .error (text "Authenticated client session record is missing.")
    | some record =>
      if record.pendingSelectAvatarSeq ≠ 0 then
        .error (text "Client select-avatar request is already waiting for a server result.")
      else if record.avatarId ≠ [] then .error (text "Client session already has a bound avatar.")
      else
        match readSelectAvatarRequest env packet.payload with
        | .error e => .error e
        | .ok avatarId =>
          if (clients.sessionIdsByAvatar[avatarId]?).any (· != sessionId) then
            .error (text "Avatar is already bound to another active session.")
          else
            let gameNodeId := ctx.resolveAvatarGameNodeId env
            if gameNodeId = [] then .error (text "No ready Game node is available for avatar creation.")
            else .ok { record with
              avatarId, gameNodeId, pendingSelectAvatarSeq := packet.header.seq
              lastActiveUnixMs := env.laterUnixMs }

/-- The end of an accepted select: the record and both indexes. The old avatar
leaves the index when it is a different one. -/
def bindAvatar (sessionId : UInt64) (next : ClientSessionRecord) : GateClients :=
  let unbound :=
    match clients.clientSessionRecords[sessionId]? with
    | none => clients.sessionIdsByAvatar
    | some record =>
      if record.avatarId ≠ [] ∧ record.avatarId ≠ next.avatarId then clients.sessionIdsByAvatar.erase record.avatarId
      else clients.sessionIdsByAvatar
  { clients with
    clientSessionRecords := clients.clientSessionRecords.insert sessionId next
    sessionIdsByAccount := clients.sessionIdsByAccount.insert next.accountId sessionId
    sessionIdsByAvatar := unbound.insert next.avatarId sessionId }

def handleClientSelectAvatarPacket (ctx : GateContext) (env : GateEnv) (sessionId : UInt64) (packet : Packet) :
    Attempt (GateClients × ClientEvent) :=
  match clients.nextSelectAvatarRecord ctx env sessionId packet with
  | .error e => .rejected e
  | .ok next =>
    match ctx.sendCreateAvatarEntityRequest env next with
    | .rejected e => .rejected e
    | .threw => .threw
    | .done (routingId, sent) => .done (clients.bindAvatar sessionId next, .toGame routingId sent)

/-- The members of the answer to a select-avatar request. -/
def selectAvatarResultMembers (sessionId : UInt64) (success : Bool) (accountId avatarId gameNodeId error : Bytes) :
    List (Bytes × JsonScalar) :=
  [(text "action", .string (text "selectAvatarResult")), (text "success", .boolean success),
    (text "sessionId", .unsigned sessionId), (text "accountId", .string accountId),
    (text "avatarId", .string avatarId), (text "gameNodeId", .string gameNodeId)] ++
  if success then [] else [(text "error", .string error)]

/-- `ClientNetwork::SendPayload` as the Gate calls it. -/
def sendPayload (env : GateEnv) (sessionId : UInt64) (packet : Bytes) : GateClients × List ClientEvent :=
  let (net, ok) := clients.clientNetwork.sendPayload sessionId packet (env.kcpSendOk sessionId packet) env.laterUnixMs
  ({ clients with clientNetwork := net }, [.sendPayload sessionId packet ok])

def sendClientSelectAvatarResult (env : GateEnv) (sessionId : UInt64) (requestSeq : UInt32) (success : Bool)
    (accountId avatarId gameNodeId error : Bytes) : GateClients × List ClientEvent :=
  if requestSeq = packetSeqNone then (clients, [])
  else
    match dump (jsonObject (selectAvatarResultMembers sessionId success accountId avatarId gameNodeId error)) with
    | none => (clients, [.threw])
    | some payload =>
      match encodePacket (makePacketHeader clientSelectAvatarMsgId requestSeq
          (if success then kResponseFlags else kErrorResponseFlags) (UInt32.ofNat payload.length))
          payload (packetHeaderSize + payload.length) with
      | .error _ => (clients, [])
      | .ok packet => clients.sendPayload env sessionId packet

/-! ## Calls from the client -/

/-- A change of one record in place. -/
def modifyRecord (sessionId : UInt64) (f : ClientSessionRecord → ClientSessionRecord) : GateClients :=
  match clients.clientSessionRecords[sessionId]? with
  | none => clients
  | some record => { clients with clientSessionRecords := clients.clientSessionRecords.insert sessionId (f record) }

/-- The client was heard of. -/
def touchRecord (env : GateEnv) (sessionId : UInt64) : GateClients :=
  clients.modifyRecord sessionId fun record => { record with lastActiveUnixMs := env.laterUnixMs }

def handleClientEntityRpcPacket (ctx : GateContext) (env : GateEnv) (sessionId : UInt64) (packet : Packet) :
    Except Bytes (GateClients × ClientEvent) :=
  if packet.header.flags ≠ 0 ∨ packet.header.seq = packetSeqNone then
    .error (text "Client entity RPC packet envelope is invalid.")
  else
    match clients.clientSessionRecords[sessionId]? with
    | none => .error (text "Authenticated client session record is missing.")
    | some record =>
      if record.closed then .error (text "Authenticated client session is already closed.")
      else if record.avatarId = [] then .error (text "Client session does not have a bound avatar yet.")
      else if record.gameNodeId = [] then .error (text "Client session does not have a target Game route yet.")
      else if record.gateNodeId ≠ ctx.nodeId then
        .error (text "Client session route gate does not match the current Gate.")
      else if clients.sessionIdsByAvatar[record.avatarId]? ≠ some sessionId then
        .error (text "Client session avatar binding is stale.")
      else
        match ctx.availableGame record.gameNodeId with
        | none => .error (text "Target Game node is unavailable for client entity RPC forwarding.")
        | some target =>
          let relay : RelayEntityCall := {
            sourceGameNodeId := record.gameNodeId, routeGateNodeId := record.gateNodeId
            targetEntityId := record.avatarId, msgId := packet.header.msgId, relayFlags := 0
            payload := packet.payload }
          match getRelayForwardProxyCallWireSize relay with
          | .error e => .error (text "Failed to size client entity RPC relay payload: " ++ relayCodecErrorMessage e)
          | .ok size =>
            match encodeRelayForwardProxyCall relay size with
            | .error e =>
              .error (text "Failed to encode client entity RPC relay payload: " ++ relayCodecErrorMessage e)
            | .ok body =>
              match encodePacket (makePacketHeader relayForwardProxyCallMsgId packetSeqNone 0
                  (UInt32.ofNat body.length)) body (packetHeaderSize + body.length) with
              | .error e =>
                .error (text "Failed to encode client entity RPC relay packet: " ++ packetCodecErrorMessage e)
              | .ok sent =>
                if env.sendOk target.routingId sent then
                  .ok (clients.touchRecord env sessionId, .toGame target.routingId sent)
                else .error env.sendErrorText

/-- `HandleClientPayloadReceived`. A client hello and an unknown message are only
logged, and so is the error of a refused entity call. -/
def handleClientPayloadReceived (ctx : GateContext) (env : GateEnv) (sessionId : UInt64) (payload : Bytes) :
    GateClients × List ClientEvent :=
  let clients := clients.touchRecord env sessionId
  match decodePacket payload with
  | .error _ => (clients, [])
  | .ok packet =>
    if packet.header.msgId = clientSelectAvatarMsgId then
      match clients.handleClientSelectAvatarPacket ctx env sessionId packet with
      | .done (clients, event) => (clients, [event])
      | .threw => (clients, [.threw])
      | .rejected error =>
        let record := clients.clientSessionRecords[sessionId]?
        clients.sendClientSelectAvatarResult env sessionId packet.header.seq false
          ((record.map (·.accountId)).getD []) ((record.map (·.avatarId)).getD [])
          ((record.map (·.gameNodeId)).getD []) error
    else if packet.header.msgId = clientEntityRpcMsgId then
      match clients.handleClientEntityRpcPacket ctx env sessionId packet with
      | .error _ => (clients, [])
      | .ok (clients, event) => (clients, [event])
    else (clients, [])

/-! ## Datagrams -/

/-- `Touch` of the session a datagram or a message came in on. -/
def touchSession (env : GateEnv) (sessionId : UInt64) : GateClients :=
  { clients with clientNetwork := clients.clientNetwork.modifySession sessionId (·.touch env.nowUnixMs) }

/-- The messages KCP delivers, one by one; an exception ends the loop. -/
def receivePayloads (ctx : GateContext) (env : GateEnv) (sessionId : UInt64) :
    GateClients → List Bytes → GateClients × List ClientEvent
  | clients, [] => (clients, [])
  | clients, payload :: rest =>
    let (next, events) := (clients.touchSession env sessionId).handleClientPayloadReceived ctx env sessionId payload
    if .threw ∈ events then (next, events)
    else
      let (last, more) := receivePayloads ctx env sessionId next rest
      (last, events ++ more)

/-- The second half of `HandleIncomingDatagram`, once there is a session. -/
def feedDatagram (ctx : GateContext) (env : GateEnv) (sessionId : UInt64) (sessionCreated : Bool) :
    GateClients × List ClientEvent :=
  let clients := clients.touchSession env sessionId
  if env.kcpInputOk then receivePayloads ctx env sessionId clients env.received
  else if sessionCreated then ({ clients with clientNetwork := clients.clientNetwork.removeSession sessionId }, [])
  else (clients, [])

/-- The first half of `HandleIncomingDatagram`: the session the datagram belongs
to, and whether it was created for it. -/
def datagramSession (ctx : GateContext) (env : GateEnv) (endpoint : Endpoint) (datagram : Bytes) :
    GateClients × List ClientEvent × Option (UInt64 × Bool) :=
  if clients.clientNetwork.running = false then (clients, [], none)
  else
    match tryReadKcpConversation datagram with
    | none => (clients, [], none)
    | some conversation =>
      match clients.clientNetwork.findSessionByTransport conversation endpoint with
      | some session => (clients, [], some (session.sessionId, false))
      | none =>
        let (clients, events, created) := clients.openClientSession ctx env conversation endpoint
        (clients, events, created.map fun sessionId => (sessionId, true))

def handleIncomingDatagram (ctx : GateContext) (env : GateEnv) (endpoint : Endpoint) (datagram : Bytes) :
    GateClients × List ClientEvent :=
  match clients.datagramSession ctx env endpoint datagram with
  | (clients, events, none) => (clients, events)
  | (clients, events, some (sessionId, sessionCreated)) =>
    let (clients, more) := clients.feedDatagram ctx env sessionId sessionCreated
    (clients, events ++ more)

/-! ## Messages from a Game -/

/-- The payload of a create-avatar result. -/
structure AvatarCreateResult where
  action : Bytes
  success : Bool
  sessionId : UInt64
  accountId : Bytes
  avatarId : Bytes
  gameNodeId : Bytes
  gateNodeId : Bytes
  error : Bytes
  deriving DecidableEq, Repr

def readAvatarCreateResult (members : Table Bytes JsonScalar) : Except Bytes AvatarCreateResult := do
  let action ← tryReadRequiredJsonString members "action"
  let success ← tryReadRequiredJsonBoolean members "success"
  let sessionId ← tryReadRequiredJsonUInt64 members "sessionId"
  let accountId ← tryReadRequiredJsonString members "accountId"
  let avatarId ← tryReadRequiredJsonString members "avatarId"
  let gameNodeId ← tryReadRequiredJsonString members "gameNodeId"
  let gateNodeId ← tryReadRequiredJsonString members "gateNodeId"
  let error := match members[text "error"]? with
    | some (.string value) => value
    | _ => []
  pure { action, success, sessionId, accountId, avatarId, gameNodeId, gateNodeId, error }

/-- A packet without flags and sequence number, as Games send calls. -/
def decodeCall (payload : Bytes) : Option Packet :=
  match decodePacket payload with
  | .error _ => none
  | .ok packet => if packet.header.flags ≠ 0 ∨ packet.header.seq ≠ packetSeqNone then none else some packet

/-- The registered peer behind a routing id. -/
def registeredSource (ctx : GateContext) (routingId : Bytes) : Option InnerNetworkSession :=
  (ctx.sessions.findByRoutingId routingId).filter (·.registered)

/-- What the create-result handler acts on: the peer, the result and the pending
record it is for. -/
def pendingCreateResult (ctx : GateContext) (env : GateEnv) (routingId payload : Bytes) :
    Option (InnerNetworkSession × AvatarCreateResult × ClientSessionRecord) := do
  let packet ← decodeCall payload
  let source ← registeredSource ctx routingId
  let .object members ← (env.tryParseJson packet.payload).toOption | none
  let result ← (readAvatarCreateResult members).toOption
  if result.action ≠ text "createAvatarResult" then none
  else if result.gateNodeId ≠ ctx.nodeId then none
  else if source.nodeId ≠ result.gameNodeId then none
  else
    let record ← clients.clientSessionRecords[result.sessionId]?
    if record.pendingSelectAvatarSeq = 0 then none else some (source, result, record)

/-- `rollback_pending_selection` without the notification. -/
def unbindAvatar (sessionId : UInt64) (record : ClientSessionRecord) : GateClients :=
  { clients with
    sessionIdsByAvatar :=
      if record.avatarId ≠ [] then eraseIfAt clients.sessionIdsByAvatar record.avatarId sessionId
      else clients.sessionIdsByAvatar
    clientSessionRecords := clients.clientSessionRecords.insert sessionId
      { record with avatarId := [], gameNodeId := [], pendingSelectAvatarSeq := 0 } }

def rollbackPendingSelection (env : GateEnv) (result : AvatarCreateResult) (record : ClientSessionRecord)
    (rollbackError : Bytes) (notifyClient : Bool) : GateClients × List ClientEvent :=
  let clients := clients.unbindAvatar result.sessionId record
  if notifyClient then
    clients.sendClientSelectAvatarResult env result.sessionId record.pendingSelectAvatarSeq false
      result.accountId result.avatarId result.gameNodeId rollbackError
  else (clients, [])

/-- The route a confirmed avatar gives its session. -/
def routeTarget (ctx : GateContext) (source : InnerNetworkSession) (gameNodeId : Bytes) : ClientRouteTarget where
  gameNodeId := gameNodeId
  innerNetworkEndpoint := source.innerNetworkEndpoint
  routeEpoch := if ctx.clusterReadyEpoch = 0 then 1 else ctx.clusterReadyEpoch

/-- The session's way to its new route: the state it is left in, and the
message when it could not be bound. -/
def bindSessionRoute (session : ClientSession) (target : ClientRouteTarget) : ClientSession × Option Bytes :=
  let selecting := if session.routeState = .unassigned then session.setRouteSelecting else .ok session
  match selecting with
  | .error failure => (session, some failure.message)
  | .ok session =>
    if session.routeState = .selecting ∨ session.routeState = .routeLost then
      match session.bindRoute target with
      | .error failure => (session, some failure.message)
      | .ok session => (session, none)
    else (session, none)

def confirmAvatar (env : GateEnv) (result : AvatarCreateResult) (record : ClientSessionRecord) : GateClients :=
  { clients with
    clientSessionRecords := clients.clientSessionRecords.insert result.sessionId
      { record with
        pendingSelectAvatarSeq := 0, gameNodeId := result.gameNodeId, lastActiveUnixMs := env.laterUnixMs } }

def handleGameAvatarEntityCreateResultMessage (ctx : GateContext) (env : GateEnv) (routingId payload : Bytes) :
    GateClients × List ClientEvent :=
  match clients.pendingCreateResult ctx env routingId payload with
  | none => (clients, [])
  | some (source, result, record) =>
    if !result.success then
      clients.rollbackPendingSelection env result record
        (if result.error = [] then text "Game failed to create AvatarEntity." else result.error) true
    else
      match clients.clientNetwork.findSession result.sessionId with
      | none =>
        clients.rollbackPendingSelection env result record
          (text "Gate could not find the target client session for avatar confirmation.") false
      | some session =>
        let (session, failure) := bindSessionRoute session (routeTarget ctx source result.gameNodeId)
        let clients := { clients with
          clientNetwork := clients.clientNetwork.modifySession result.sessionId fun _ => session }
        match failure with
        | some message => clients.rollbackPendingSelection env result record message true
        | none =>
          (clients.confirmAvatar env result record).sendClientSelectAvatarResult env result.sessionId
            record.pendingSelectAvatarSeq true result.accountId result.avatarId result.gameNodeId []

/-- A relayed call that this Gate accepts from the peer that sent it. -/
def acceptRelayEntityCall (ctx : GateContext) (decode : Bytes → Except RelayCodecErrorCode RelayEntityCall)
    (routingId payload : Bytes) : Option RelayEntityCall := do
  let packet ← decodeCall payload
  let relay ← (decode packet.payload).toOption
  let source ← registeredSource ctx routingId
  if source.nodeId ≠ relay.sourceGameNodeId then none
  else if relay.routeGateNodeId ≠ ctx.nodeId then none
  else some relay

/-- The session the avatar is bound to, and its record. -/
def resolveAvatarSession (ctx : GateContext) (targetEntityId : Bytes) : Option (UInt64 × ClientSessionRecord) := do
  let sessionId ← clients.sessionIdsByAvatar[targetEntityId]?
  let record ← clients.clientSessionRecords[sessionId]?
  if record.closed ∨ record.avatarId ≠ targetEntityId ∨ record.gateNodeId ≠ ctx.nodeId then none
  else some (sessionId, record)

def handleGamePushToClientMessage (ctx : GateContext) (env : GateEnv) (routingId payload : Bytes) :
    GateClients × List ClientEvent :=
  match acceptRelayEntityCall ctx decodeRelayPushToClient routingId payload with
  | none => (clients, [])
  | some relay =>
    match clients.resolveAvatarSession ctx relay.targetEntityId with
    | none => (clients, [])
    | some (sessionId, _) =>
      match encodePacket (makePacketHeader relay.msgId packetSeqNone 0 (UInt32.ofNat relay.payload.length))
          relay.payload (packetHeaderSize + relay.payload.length) with
      | .error _ => (clients, [])
      | .ok packet => clients.sendPayload env sessionId packet

/-- Hand the whole message on to an available Game. -/
def forwardToGame (ctx : GateContext) (env : GateEnv) (gameNodeId payload : Bytes) : List ClientEvent :=
  match ctx.availableGame gameNodeId with
  | none => []
  | some target => if env.sendOk target.routingId payload then [.toGame target.routingId payload] else []

/-- `HandleGameForwardProxyCallMessage`; the record must also have a Game. -/
def handleGameForwardProxyCallMessage (ctx : GateContext) (env : GateEnv) (routingId payload : Bytes) :
    List ClientEvent :=
  match acceptRelayEntityCall ctx decodeRelayForwardProxyCall routingId payload with
  | none => []
  | some relay =>
    match clients.resolveAvatarSession ctx relay.targetEntityId with
    | none => []
    | some (_, record) =>
      if record.gameNodeId = [] then [] else forwardToGame ctx env record.gameNodeId payload

def handleGameForwardStubCallMessage (ctx : GateContext) (env : GateEnv) (routingId payload : Bytes) :
    List ClientEvent :=
  match decodeCall payload with
  | none => []
  | some packet =>
    match decodeRelayForwardMailboxCall packet.payload with
    | .error _ => []
    | .ok relay =>
      match registeredSource ctx routingId with
      | none => []
      | some source =>
        if source.nodeId ≠ relay.sourceGameNodeId then [] else forwardToGame ctx env relay.targetGameNodeId payload

end GateClients

end XServer.Node
