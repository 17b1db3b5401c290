import XServer.Core.Json
import XServer.Node.ClientLink
import XServer.Node.ClientNetwork

/-!
# A Gate admits clients

`node/GateNode.cpp`: a login over HTTP reserves a conversation id for thirty
seconds; the first datagram with that id, from the address that logged in, opens
a session and consumes the reservation. The Gate keeps a record of each
authenticated session, with one index by account and one by avatar.

The handlers of clients read the rest of the node (`GateContext`) and change
only the clients' part of it (`GateClients`).
-/

namespace XServer.Node
open XServer.Lib XServer.Lib.Wire XServer.Net XServer.Core

structure ClientConversationReservation where
  account : Bytes
  remoteAddress : Bytes
  issuedAtUnixMs : UInt64
  expiresAtUnixMs : UInt64
  deriving DecidableEq, Repr

structure ClientSessionRecord where
  sessionId : UInt64
  conversation : UInt32
  accountId : Bytes
  avatarId : Bytes := []
  gameNodeId : Bytes := []
  gateNodeId : Bytes
  pendingSelectAvatarSeq : UInt32 := 0
  authenticatedAtUnixMs : UInt64
  lastActiveUnixMs : UInt64
  closed : Bool := false
  deriving DecidableEq, Repr

structure GateAuthLoginRequest where
  account : Bytes
  password : Bytes := []
  remoteAddress : Bytes
  deriving DecidableEq, Repr

structure GateAuthLoginResult where
  success : Bool := false
  statusCode : UInt16 := 200
  error : Bytes := []
  gateNodeId : Bytes := []
  kcpHost : Bytes := []
  kcpPort : UInt16 := 0
  conversation : UInt32 := 0
  issuedAtUnixMs : UInt64 := 0
  expiresAtUnixMs : UInt64 := 0
  deriving DecidableEq, Repr

/-- What the handlers of clients read of their node. -/
structure GateContext where
  nodeId : Bytes
  clientNetworkListenEndpoint : Endpoint
  games : List Bytes
  sessions : InnerNetworkSessionManager := {}
  clusterReady : Bool := false
  clusterReadyEpoch : UInt64 := 0
  deriving DecidableEq

/-- What they change. -/
structure GateClients where
  clientNetwork : ClientNetwork
  clientConversationReservations : Table UInt32 ClientConversationReservation := ∅
  clientSessionRecords : Table UInt64 ClientSessionRecord := ∅
  sessionIdsByAccount : Table Bytes UInt64 := ∅
  sessionIdsByAvatar : Table Bytes UInt64 := ∅
  nextClientConversation : UInt32 := 1
  deriving DecidableEq

/-- What a Gate's handlers ask of their surroundings. The clock is read several
times on the way of one datagram: on arrival (`nowUnixMs`), at admission and
after that. `draw` is the random choice of a Game, `received` the messages KCP
has complete, and an exception of the JSON parser is its text. -/
structure GateEnv extends LinkEnv where
  admissionUnixMs : UInt64 := 0
  laterUnixMs : UInt64 := 0
  clientRunOk : Bool := true
  authRunOk : Bool := true
  kcpValid : Bool := true
  kcpInputOk : Bool := true
  received : List Bytes := []
  kcpSendOk : UInt64 → Bytes → Bool := fun _ _ => true
  draw : Nat := 0
  sendErrorText : Bytes := []
  parseJson : Bytes → Except Bytes Json := fun _ => .error []

/-- What the handlers of clients do besides changing the state. `sendPayload`
is the call of `ClientNetwork::SendPayload` with its outcome, `toGame` a packet
handed to the inner network, `threw` an exception that leaves the handler. -/
inductive ClientEvent where
  | loginResult (result : GateAuthLoginResult)
  | reserved (conversation : UInt32) (reservation : ClientConversationReservation)
  | opened (sessionId : UInt64) (conversation : UInt32) (remoteAddress : Bytes)
      (reservation : ClientConversationReservation) (admittedAtUnixMs : UInt64)
  | sendPayload (sessionId : UInt64) (packet : Bytes) (ok : Bool)
  | toGame (routingId packet : Bytes)
  | threw
  deriving DecidableEq

/-! ## Addresses -/

def kConversationReservationLifetimeMs : UInt64 := 30000

def ipv4MappedPrefix : Bytes := text "::ffff:"

/-- `NormalizeClientAddress`: brackets dropped, then an IPv4-mapped prefix. -/
def normalizeClientAddress (host : Bytes) : Bytes :=
  let normalized := normalizeHost host
  if normalized.take ipv4MappedPrefix.length = ipv4MappedPrefix then normalized.drop ipv4MappedPrefix.length
  else normalized

def isWildcardBindHost (host : Bytes) : Bool :=
  host == text "0.0.0.0" || host == text "::" || host == text "[::]" || host == text "localhost"

def normalizeConnectorHost (host : Bytes) : Bytes :=
  if host = text "0.0.0.0" then text "127.0.0.1"
  else if host = text "::" ∨ host = text "[::]" then text "[::1]"
  else host

def GateContext.resolveAdvertisedClientHost (ctx : GateContext) (remoteAddress : Bytes) : Bytes :=
  if isWildcardBindHost ctx.clientNetworkListenEndpoint.host then
    if remoteAddress = [] then normalizeConnectorHost ctx.clientNetworkListenEndpoint.host else remoteAddress
  else normalizeClientAddress ctx.clientNetworkListenEndpoint.host

/-! ## Login -/

/-- A reservation past its end; an end of zero never comes. -/
def ClientConversationReservation.expired (r : ClientConversationReservation) (now : UInt64) : Bool :=
  r.expiresAtUnixMs != 0 && decide (r.expiresAtUnixMs ≤ now)

/-- The address fits the one that logged in, if that is known. -/
def ClientConversationReservation.admits (r : ClientConversationReservation) (remoteAddress : Bytes) : Bool :=
  r.remoteAddress == [] || remoteAddress == r.remoteAddress

namespace GateClients

variable (clients : GateClients)

def pruneExpiredClientConversationReservations (now : UInt64) : GateClients :=
  { clients with
    clientConversationReservations := clients.clientConversationReservations.keep fun _ r => !r.expired now }

/-- The next conversation id, never zero. -/
def succConversation (conversation : UInt32) : UInt32 := if conversation + 1 = 0 then 1 else conversation + 1

def conversationTaken (conversation : UInt32) : Bool :=
  clients.clientConversationReservations.contains conversation || clients.clientNetwork.hasConversation conversation

/-- `ConsumeNextClientConversation`: the ids from the counter on, once around
the 2^32 - 1 of them. Where all are taken the source returns zero. -/
def consumeNextClientConversation : Option (UInt32 × GateClients) :=
  let start := if clients.nextClientConversation = 0 then 1 else clients.nextClientConversation
  match scan succConversation clients.conversationTaken 4294967295 start with
  | none => none
  | some conversation => some (conversation, { clients with nextClientConversation := succConversation conversation })

def handleAuthLogin (ctx : GateContext) (env : GateEnv) (request : GateAuthLoginRequest) :
    GateClients × List ClientEvent :=
  if ctx.clusterReady = false ∨ clients.clientNetwork.running = false then
    (clients, [.loginResult { statusCode := 503, error := text "Gate client admission is not ready." }])
  else
    let now := env.nowUnixMs
    let clients := clients.pruneExpiredClientConversationReservations now
    match clients.consumeNextClientConversation with
    | none =>
      (clients, [.loginResult { statusCode := 503, error := text "Gate has no available client conversations." }])
    | some (conversation, clients) =>
      let remoteAddress := normalizeClientAddress request.remoteAddress
      let reservation : ClientConversationReservation := {
        account := request.account, remoteAddress
        issuedAtUnixMs := now, expiresAtUnixMs := now + kConversationReservationLifetimeMs }
      ({ clients with
          clientConversationReservations := clients.clientConversationReservations.insert conversation reservation },
        [.reserved conversation reservation,
          .loginResult {
            success := true, statusCode := 200, gateNodeId := ctx.nodeId
            kcpHost := ctx.resolveAdvertisedClientHost remoteAddress
            kcpPort := ctx.clientNetworkListenEndpoint.port, conversation
            issuedAtUnixMs := now, expiresAtUnixMs := reservation.expiresAtUnixMs }])

/-! ## Records -/

/-- An index without its entry for `key`, if that entry is `id`. -/
def eraseIfAt {κ : Type} [Ord κ] [Std.TransOrd κ] (index : Table κ UInt64) (key : κ) (id : UInt64) :
    Table κ UInt64 :=
  if index[key]? = some id then index.erase key else index

def clearClientSessionRecord (sessionId : UInt64) : GateClients :=
  match clients.clientSessionRecords[sessionId]? with
  | none => clients
  | some record =>
    { clients with
      sessionIdsByAccount :=
        if record.accountId ≠ [] then eraseIfAt clients.sessionIdsByAccount record.accountId sessionId
        else clients.sessionIdsByAccount
      sessionIdsByAvatar :=
        if record.avatarId ≠ [] then eraseIfAt clients.sessionIdsByAvatar record.avatarId sessionId
        else clients.sessionIdsByAvatar
      clientSessionRecords := clients.clientSessionRecords.erase sessionId }

def tryRegisterAuthenticatedClientSession (ctx : GateContext) (env : GateEnv)
    (reservation : ClientConversationReservation) (session : ClientSession) : Except Bytes GateClients :=
  if reservation.account = [] then .error (text "Authenticated client session account must not be empty.")
  else
    let clients := clients.clearClientSessionRecord session.sessionId
    .ok { clients with
      clientSessionRecords := clients.clientSessionRecords.insert session.sessionId {
        sessionId := session.sessionId, conversation := session.conversation, accountId := reservation.account
        gateNodeId := ctx.nodeId, authenticatedAtUnixMs := env.laterUnixMs, lastActiveUnixMs := env.laterUnixMs }
      sessionIdsByAccount := clients.sessionIdsByAccount.insert reservation.account session.sessionId }

/-! ## Opening a session -/

/-- `CanOpenClientSession`: the state it leaves and, when refused, the reason. -/
def canOpenClientSession (env : GateEnv) (conversation : UInt32) (endpoint : Endpoint) :
    GateClients × Except Bytes Unit :=
  let now := env.admissionUnixMs
  let clients := clients.pruneExpiredClientConversationReservations now
  match clients.clientConversationReservations[conversation]? with
  | none => (clients, .error (text "Conversation was not issued by Gate HTTP login."))
  | some reservation =>
    if reservation.expired now then
      ({ clients with
          clientConversationReservations := clients.clientConversationReservations.erase conversation },
        .error (text "Conversation reservation expired before the KCP session opened."))
    else if !reservation.admits (normalizeClientAddress endpoint.host) then
      (clients, .error (text "Conversation remote address did not match the HTTP login source."))
    else (clients, .ok ())

/-- `HandleClientSessionOpened` for the session just created. -/
def handleClientSessionOpened (ctx : GateContext) (env : GateEnv) (session : ClientSession) :
    Except Bytes (GateClients × ClientEvent) :=
  match clients.clientConversationReservations[session.conversation]? with
  | none => .error (text "Conversation reservation was missing when the client session opened.")
  | some reservation =>
    let remoteAddress := normalizeClientAddress session.remoteEndpoint.host
    if !reservation.admits remoteAddress then
      .error (text "Conversation remote address changed before the client session opened.")
    else
      match session.activate env.laterUnixMs with
      | .error failure => .error failure.message
      | .ok activated =>
        let clients := { clients with
          clientNetwork := clients.clientNetwork.modifySession session.sessionId fun _ => activated }
        match clients.tryRegisterAuthenticatedClientSession ctx env reservation activated with
        | .error e => .error e
        | .ok clients =>
          .ok ({ clients with
              clientConversationReservations := clients.clientConversationReservations.erase session.conversation },
            .opened session.sessionId session.conversation remoteAddress reservation env.admissionUnixMs)

/-- The part of `HandleIncomingDatagram` for a datagram without a session: the
id of the session it opened, if it did. A session the Gate turns down is
removed again. -/
def openClientSession (ctx : GateContext) (env : GateEnv) (conversation : UInt32) (endpoint : Endpoint) :
    GateClients × List ClientEvent × Option UInt64 :=
  match clients.canOpenClientSession env conversation endpoint with
  | (clients, .error _) => (clients, [], none)
  | (clients, .ok ()) =>
    match clients.clientNetwork.createSession conversation endpoint env.kcpValid env.nowUnixMs with
    | (net, none) => ({ clients with clientNetwork := net }, [], none)
    | (net, some session) =>
      match { clients with clientNetwork := net }.handleClientSessionOpened ctx env session with
      | .error _ => ({ clients with clientNetwork := net.removeSession session.sessionId }, [], none)
      | .ok (clients, event) => (clients, [event], some session.sessionId)

end GateClients

end XServer.Node
