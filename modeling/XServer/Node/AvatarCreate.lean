import XServer.Node.GameNode
import XServer.Node.GateAnswer

/-!
# Creating an avatar

A Gate asks a Game to create the avatar that a client selected, and the Game
answers with a result: `HandleGateCreateAvatarEntity` and
`SendGateAvatarEntityCreateResult` of `node/GameNode.cpp`. The request is answered
when the Game can read it and its session with the Gate is ready, whatever the
managed runtime makes of it; on every other path no result is sent.
-/

namespace XServer.Node
open XServer.Lib XServer.Lib.Wire XServer.Net XServer.Core

/-! ## Packets -/

/-- `AvatarCreateRequestPayload`. -/
structure AvatarCreateRequest where
  accountId : Bytes
  avatarId : Bytes
  gateNodeId : Bytes
  sessionId : UInt64
  deriving DecidableEq, Repr

/-- What a Gate requests for a record. -/
def ClientSessionRecord.createRequest (record : ClientSessionRecord) : AvatarCreateRequest where
  accountId := record.accountId
  avatarId := record.avatarId
  gateNodeId := record.gateNodeId
  sessionId := record.sessionId

namespace AvatarCreateRequest

variable (request : AvatarCreateRequest)

def members : List (Bytes × JsonScalar) :=
  [(text "accountId", .string request.accountId), (text "avatarId", .string request.avatarId),
    (text "gateNodeId", .string request.gateNodeId), (text "sessionId", .unsigned request.sessionId)]

/-- A call without a sequence number, if its body can be written. -/
def callPacket (msgId : UInt32) (members : List (Bytes × JsonScalar)) : Option Bytes := do
  let body ← dump (jsonObject members)
  (encodePacket (makePacketHeader msgId packetSeqNone 0 (UInt32.ofNat body.length)) body
    (packetHeaderSize + body.length)).toOption

/-- The packet of the request. -/
def packet : Option Bytes := callPacket gateCreateAvatarEntityMsgId request.members

/-- The members of a result; an error is named only with a failure. -/
def resultMembers (gameNodeId : Bytes) (success : Bool) (error : Bytes) : List (Bytes × JsonScalar) :=
  [(text "action", .string (text "createAvatarResult")), (text "success", .boolean success),
    (text "sessionId", .unsigned request.sessionId), (text "accountId", .string request.accountId),
    (text "avatarId", .string request.avatarId), (text "gameNodeId", .string gameNodeId),
    (text "gateNodeId", .string request.gateNodeId)] ++
  if success = false ∧ error ≠ [] then [(text "error", .string error)] else []

/-- The packet of a result. -/
def resultPacket (gameNodeId : Bytes) (success : Bool) (error : Bytes) : Option Bytes :=
  callPacket gameAvatarEntityCreateResultMsgId (request.resultMembers gameNodeId success error)

/-- The packet is a result for the request. -/
def IsResult (gameNodeId packet : Bytes) : Prop :=
  ∃ success error, request.resultPacket gameNodeId success error = some packet

end AvatarCreateRequest

/-- What comes out of such a packet. -/
theorem callPacket_some {msgId : UInt32} {members : List (Bytes × JsonScalar)} {packet : Bytes}
    (written : AvatarCreateRequest.callPacket msgId members = some packet) :
    ∃ body, dump (jsonObject members) = some body ∧ HasMsgId packet msgId ∧
      decodePacket packet =
        .ok { header := makePacketHeader msgId packetSeqNone 0 (UInt32.ofNat body.length), payload := body } := by
  obtain ⟨body, dumped, encoded⟩ := Option.bind_eq_some_iff.mp written
  have encoded := ok_of_toOption encoded
  exact ⟨body, dumped, ⟨_, readRawHeader_encodePacket encoded, rfl⟩, decodePacket_encodePacket encoded⟩

/-! ## The Game -/

/-- The surroundings of a create request: beside those of any message the JSON
parser, and the managed runtime's `on_message`, if it exports it. -/
structure CreateEnv extends GameEnv where
  parseJson : Bytes → Except Bytes Json := fun _ => .error []
  onMessage : Option (Packet → Int32) := none

namespace GameNode

/-- `TryReadRequiredJsonString` of `node/GameNode.cpp`. -/
def tryReadRequiredJsonString (members : Table Bytes JsonScalar) (key : String) : Except Bytes Bytes :=
  requiredJsonString (text ("Avatar create payload field '" ++ key ++ "' must not be empty."))
    (text ("Avatar create payload is missing string field '" ++ key ++ "'.")) members key

/-- `TryReadRequiredJsonUInt64` of `node/GameNode.cpp`. -/
def tryReadRequiredJsonUInt64 (members : Table Bytes JsonScalar) (key : String) : Except Bytes UInt64 :=
  requiredJsonUInt64 (text ("Avatar create payload field '" ++ key ++ "' must be greater than zero."))
    (text ("Avatar create payload is missing unsigned integer field '" ++ key ++ "'.")) members key

def tryParseAvatarCreateRequestPayload (env : CreateEnv) (payload : Bytes) : Except Bytes AvatarCreateRequest :=
  match env.parseJson payload with
  | .error what => .error (text "Avatar create payload was not valid JSON: " ++ (text "Failed to parse JSON: " ++ what))
  | .ok .other => .error (text "Avatar create payload must be a JSON object.")
  | .ok (.object members) => do
    let accountId ← tryReadRequiredJsonString members "accountId"
    let avatarId ← tryReadRequiredJsonString members "avatarId"
    let gateNodeId ← tryReadRequiredJsonString members "gateNodeId"
    let sessionId ← tryReadRequiredJsonUInt64 members "sessionId"
    .ok { accountId, avatarId, gateNodeId, sessionId }

/-- A session with a Gate over which results can go. -/
def isReadyGate (session : InnerNetworkSession) : Bool :=
  session.processType == .gate && session.connectionState == .connected && session.registered &&
    session.innerNetworkReady

/-- `SendGateAvatarEntityCreateResult`: the packet handed to the connector. A body
that cannot be written is an exception, which ends the handler. -/
def sendGateAvatarEntityCreateResult (game : GameNode) (env : CreateEnv) (gate requestPayload : Bytes) (success : Bool)
    (errorMessage : Bytes) : Option Bytes :=
  match game.sessions.findByNodeId gate with
  | none => none
  | some session =>
    if isReadyGate session = false then none
    else
      match tryParseAvatarCreateRequestPayload env requestPayload with
      | .error _ => none
      | .ok request => (request.resultPacket game.nodeId success errorMessage).filter (env.sendOk gate)

/-- What the managed runtime makes of the request, and the error to report. -/
def managedCreate (game : GameNode) (env : CreateEnv) (packet : Packet) : Bool × Bytes :=
  match if game.managedExportsLoaded then env.onMessage else none with
  | none => (false, text "Game managed runtime is unavailable for create-avatar request.")
  | some onMessage =>
    if onMessage packet ≠ 0 then
      (false, text "Game managed runtime rejected create-avatar request with error code " ++
        text (toString (onMessage packet).toInt) ++ text ".")
    else (true, [])

def handleGateCreateAvatarEntity (game : GameNode) (env : CreateEnv) (gate : Bytes) (packet : Packet) : List GameEvent :=
  match game.sessions.findByNodeId gate with
  | none => []
  | some _ =>
    match tryParseAvatarCreateRequestPayload env packet.payload with
    | .error _ => []
    | .ok _ =>
      let (success, error) := game.managedCreate env packet
      GameEvent.sent gate (game.sendGateAvatarEntityCreateResult env gate packet.payload success error)

/-- The create request in a message of a Gate. -/
def createRequestIn (game : GameNode) (gate payload : Bytes) : Option Packet := do
  let _ ← game.sessions.findByNodeId gate
  let packet ← (decodePacket payload).toOption
  if packet.header.msgId = gateCreateAvatarEntityMsgId then some packet else none

/-- `HandleGateMessage` with avatar creation: every other message is handled as
`handleGateMessage` says. -/
def handleMessageOfGate (game : GameNode) (env : CreateEnv) (gate payload : Bytes) : GameNode × List GameEvent :=
  match game.createRequestIn gate payload with
  | none => game.step (.connectorMessage env.toGameEnv gate payload)
  | some packet =>
    if packet.header.flags ≠ 0 ∨ packet.header.seq ≠ packetSeqNone then (game, [])
    else (game, game.handleGateCreateAvatarEntity env gate packet)

/-! ## Requests that are answered -/

/-- The Game can answer the request: it reads in the body what the Gate wrote, its
session with the Gate is ready, and the result can be written and is taken. -/
structure Answers (game : GameNode) (env : CreateEnv) (gate : Bytes) (request : AvatarCreateRequest) (packet : Packet) :
    Prop where
  reads : tryParseAvatarCreateRequestPayload env packet.payload = .ok request
  ready : ∃ session, game.sessions.findByNodeId gate = some session ∧ isReadyGate session = true
  sends : ∃ sent, request.resultPacket game.nodeId (game.managedCreate env packet).1 (game.managedCreate env packet).2 =
    some sent ∧ env.sendOk gate sent = true

theorem handleGateCreateAvatarEntity_answers {game : GameNode} {env : CreateEnv} {gate : Bytes}
    {request : AvatarCreateRequest} {packet : Packet} (answers : Answers game env gate request packet) :
    ∃ sent, request.IsResult game.nodeId sent ∧ game.handleGateCreateAvatarEntity env gate packet = [.send gate sent] := by
  obtain ⟨session, found, ready⟩ := answers.ready
  obtain ⟨sent, result, taken⟩ := answers.sends
  refine ⟨sent, ⟨_, _, result⟩, ?_⟩
  unfold handleGateCreateAvatarEntity sendGateAvatarEntityCreateResult
  simp only [found, answers.reads, ready, Bool.true_eq_false, if_false, result, Option.filter_some, taken, if_true]
  rfl

/-- **A request that can be answered is answered**, with a result for it. -/
theorem handleMessageOfGate_answers {game : GameNode} {env : CreateEnv} {gate bytes : Bytes}
    {request : AvatarCreateRequest} {packet : Packet} (written : request.packet = some bytes)
    (decoded : decodePacket bytes = .ok packet) (answers : Answers game env gate request packet) :
    ∃ sent, request.IsResult game.nodeId sent ∧ game.handleMessageOfGate env gate bytes = (game, [.send gate sent]) := by
  obtain ⟨sent, result, handled⟩ := handleGateCreateAvatarEntity_answers answers
  obtain ⟨session, found, -⟩ := answers.ready
  obtain ⟨body, -, -, decoded'⟩ := callPacket_some written
  rw [decoded] at decoded'
  cases decoded'
  refine ⟨sent, result, ?_⟩
  unfold handleMessageOfGate
  have isCreate : game.createRequestIn gate bytes = some
      { header := makePacketHeader gateCreateAvatarEntityMsgId packetSeqNone 0 (UInt32.ofNat body.length),
        payload := body } := by
    simp [createRequestIn, found, decoded, Except.toOption, makePacketHeader]
  rw [isCreate]
  show (if _ then _ else _) = _
  rw [if_neg (by simp [makePacketHeader]), handled]

end GameNode

end XServer.Node
