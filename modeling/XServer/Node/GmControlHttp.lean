import XServer.Core.Json
import XServer.Net.Relay
import XServer.Node.GmNode
import XServer.Node.HttpRequest

/-!
# The GM's control requests

`RouteRequest` and `HandleRequest` of `node/GmControlHttpService.cpp` with the queries they
decode, and the broadcast of `node/GmNode.cpp` behind `/boardcase`. A handler returns its
response, or the text of the exception it leaves by, and what it handed to the network.
-/

namespace XServer.Node
open XServer.Core XServer.Lib XServer.Lib.Wire XServer.Net

/-! ## What a failed `dump()` throws -/

/-- `hex_bytes`. -/
def hexByte (byte : UInt8) : Bytes :=
  let nibble (n : Nat) : UInt8 := if n < 10 then UInt8.ofNat (48 + n) else UInt8.ofNat (55 + n)
  [nibble (byte.toNat / 16), nibble (byte.toNat % 16)]

/-- The first byte at which `decode` rejects, with its index. -/
def rejectedByte : Utf8State → Nat → Bytes → Option (Nat × UInt8)
  | _, _, [] => none
  | state, i, byte :: rest =>
    if state.decode byte = .reject then some (i, byte) else rejectedByte (state.decode byte) (i + 1) rest

/-- `what()` of the `type_error` for a string that is not valid. -/
def invalidUtf8What (value : Bytes) : Bytes :=
  match rejectedByte .accept 0 value with
  | some (i, byte) =>
    text "[json.exception.type_error.316] invalid UTF-8 byte at index " ++ text i.repr ++ text ": 0x" ++ hexByte byte
  | none =>
    text "[json.exception.type_error.316] incomplete UTF-8 string; last byte: 0x" ++ hexByte (value.getLastD 0)

/-- The text of a member that cannot be written: its key, or else its value. -/
def unwritableText (member : Bytes × JsonScalar) : Bytes :=
  match validUtf8 member.1, member.2 with
  | true, .string value => value
  | _, _ => member.1

def tryDump (members : Table Bytes JsonScalar) : Except Bytes Bytes :=
  match dump members with
  | some body => .ok body
  | none =>
    .error (invalidUtf8What (((members.toList.find? fun member => !writable member).map unwritableText).getD []))

/-! ## Targets and queries -/

def trySplitRequestTarget (target : Bytes) : Option (Bytes × Bytes) :=
  if target.head? ≠ some 47 then none
  else
    match search (text "?") target with
    | none => some (target, [])
    | some queryOffset => some (target.take queryOffset, target.drop (queryOffset + 1))

def tryHexNibble (ch : UInt8) : Option UInt8 :=
  if 48 ≤ ch ∧ ch ≤ 57 then some (ch - 48)
  else if 97 ≤ ch ∧ ch ≤ 102 then some (10 + (ch - 97))
  else if 65 ≤ ch ∧ ch ≤ 70 then some (10 + (ch - 65))
  else none

def tryUrlDecode : Bytes → Option Bytes
  | [] => some []
  | ch :: rest =>
    if ch = 43 then (tryUrlDecode rest).map (32 :: ·)
    else if ch ≠ 37 then (tryUrlDecode rest).map (ch :: ·)
    else
      match rest with
      | high :: low :: rest => do
        let high ← tryHexNibble high
        let low ← tryHexNibble low
        (tryUrlDecode rest).map (((high <<< 4) ||| low) :: ·)
      | _ => none

def segmentKey (segment : Bytes) : Bytes :=
  match search (text "=") segment with
  | none => segment
  | some equalsOffset => segment.take equalsOffset

def segmentValue (segment : Bytes) : Bytes :=
  match search (text "=") segment with
  | none => []
  | some equalsOffset => segment.drop (equalsOffset + 1)

/-- The value of the first segment with the key; the segments stand between ampersands, and
empty ones are passed over. -/
def tryGetDecodedQueryValue (query key : Bytes) : Option Bytes :=
  match (query.splitOn 38).find? fun segment => !segment.isEmpty && segmentKey segment == key with
  | none => none
  | some segment => tryUrlDecode (segmentValue segment)

/-! ## Responses -/

structure GmControlHttpResponse where
  statusCode : Nat := 200
  body : Bytes
  requestStop : Bool := false
  deriving DecidableEq, Repr

def jsonResponse (statusCode : Nat) (members : List (Bytes × JsonScalar)) : Except Bytes GmControlHttpResponse := do
  let body ← tryDump (jsonObject members)
  .ok { statusCode, body }

def buildJsonErrorResponse (statusCode : Nat) (message : Bytes) : Except Bytes GmControlHttpResponse :=
  jsonResponse statusCode [(text "error", .string message)]

/-! ## The broadcast -/

def kOnlineStubType : Bytes := text "OnlineStub"
def kOnlineStubBroadcastMsgId : UInt32 := 5201

/-- What a control request asks of the GM's surroundings besides: its node id, whether there is
an inner network, what that says when `Send` fails, and the text of `/status` or of the
exception its snapshot ends in. -/
structure ControlEnv extends GmEnv where
  nodeId : Bytes
  hasInnerNetwork : Bool
  lastErrorMessage : Bytes
  statusBody : Except Bytes Bytes

namespace GmNode

def serverStubEntry (gm : GmNode) (entityType : Bytes) : Option ServerStubEntry :=
  gm.stubs.entries.find? (·.entityType == entityType)

/-- The session a call can be sent on. -/
def callableGame (gm : GmNode) (nodeId : Bytes) : Option InnerNetworkSession :=
  (gm.sessions.findByNodeId nodeId).filter fun session =>
    session.processType == .game && session.connectionState == .connected && session.registered &&
      session.innerNetworkReady && !session.routingId.isEmpty

/-- The end of `TrySendStubCallToGame`: the packet handed to the network, or the error message. -/
def sendMailboxCall (env : ControlEnv) (routingId : Bytes) (relayMessage : RelayForwardMailboxCall) :
    Except Bytes GmEvent :=
  match getRelayForwardMailboxCallWireSize relayMessage with
  | .error e => .error (relayCodecErrorMessage e)
  | .ok wireSize =>
    match encodeRelayForwardMailboxCall relayMessage wireSize with
    | .error e => .error (relayCodecErrorMessage e)
    | .ok relayPayload =>
      match encodePacket (makePacketHeader relayForwardMailboxCallMsgId packetSeqNone 0
          (UInt32.ofNat relayPayload.length)) relayPayload (packetHeaderSize + relayPayload.length) with
      | .error e => .error (packetCodecErrorMessage e)
      | .ok packet =>
        if env.sendOk routingId packet then .ok (.send routingId packet) else .error env.lastErrorMessage

def trySendStubCallToGame (gm : GmNode) (env : ControlEnv) (targetGameNodeId targetStubType targetEntityId : Bytes)
    (msgId : UInt32) (payload : Bytes) : Except Bytes GmEvent :=
  if targetGameNodeId = [] ∨ targetStubType = [] ∨ msgId = 0 then .error (text "GM stub relay arguments are invalid.")
  else if env.hasInnerNetwork = false then .error (text "GM inner network is unavailable.")
  else
    match gm.callableGame targetGameNodeId with
    | none => .error (text "OnlineStub owner Game is unavailable on the inner network.")
    | some targetSession =>
      sendMailboxCall env targetSession.routingId {
        sourceGameNodeId := env.nodeId
        targetGameNodeId
        targetEntityId
        targetMailboxName := targetStubType
        mailboxCallMsgId := msgId
        relayFlags := 0
        payload }

/-- The entity id a call to a stub is addressed to. -/
def callEntityId (stub : ServerStubEntry) : Bytes :=
  if stub.entityId = unknownServerEntityId then [] else stub.entityId

def handleBoardcaseRequest (gm : GmNode) (env : ControlEnv) (message : Bytes) :
    Except Bytes GmControlHttpResponse × List GmEvent :=
  if message = [] then (buildJsonErrorResponse 400 (text "Broadcast message must not be empty."), [])
  else
    match (gm.serverStubEntry kOnlineStubType).filter fun stub =>
        !stub.ownerGameNodeId.isEmpty && stub.state == .ready with
    | none =>
      (jsonResponse 503 [(text "error", .string (text "OnlineStub owner is not available.")),
        (text "stubType", .string kOnlineStubType)], [])
    | some stub =>
      match gm.trySendStubCallToGame env stub.ownerGameNodeId kOnlineStubType (callEntityId stub)
          kOnlineStubBroadcastMsgId message with
      | .error errorMessage =>
        (jsonResponse 503 [
          (text "error", .string (if errorMessage = [] then
            text "Failed to forward boardcase message to OnlineStub owner." else errorMessage)),
          (text "stubType", .string kOnlineStubType),
          (text "ownerGameNodeId", .string stub.ownerGameNodeId)], [])
      | .ok sent =>
        -- the response is written after the call has gone out
        (jsonResponse 200 [
          (text "status", .string (text "forwarded")),
          (text "stubType", .string kOnlineStubType),
          (text "ownerGameNodeId", .string stub.ownerGameNodeId),
          (text "message", .string message)], [sent])

/-! ## Routes -/

def onlyMethodAllowed (method : String) (path : String) : Except Bytes GmControlHttpResponse :=
  buildJsonErrorResponse 405 (text ("Only " ++ method ++ " is allowed for " ++ path ++ "."))

def routeRequest (gm : GmNode) (env : ControlEnv) (method target : Bytes) :
    Except Bytes GmControlHttpResponse × List GmEvent :=
  match trySplitRequestTarget target with
  | none => (buildJsonErrorResponse 400 (text "HTTP request target is invalid."), [])
  | some (requestPath, requestQuery) =>
    if requestPath = text "/healthz" then
      if method ≠ text "GET" then (onlyMethodAllowed "GET" "/healthz", [])
      else (jsonResponse 200 [(text "status", .string (text "ok")), (text "nodeId", .string env.nodeId)], [])
    else if requestPath = text "/status" then
      if method ≠ text "GET" then (onlyMethodAllowed "GET" "/status", [])
      else (env.statusBody.map fun body => { body }, [])
    else if requestPath = text "/boardcase" then
      if method ≠ text "GET" then (onlyMethodAllowed "GET" "/boardcase", [])
      else
        match tryGetDecodedQueryValue requestQuery (text "msg") with
        | none => (buildJsonErrorResponse 400 (text "Query parameter 'msg' is required for /boardcase."), [])
        | some message =>
          if trimAscii message = [] then
            (buildJsonErrorResponse 400 (text "Query parameter 'msg' must not be empty."), [])
          else gm.handleBoardcaseRequest env message
    else if requestPath = text "/shutdown" then
      if method ≠ text "POST" then (onlyMethodAllowed "POST" "/shutdown", [])
      else
        ((jsonResponse 200 [(text "status", .string (text "stopping")), (text "nodeId", .string env.nodeId)]).map
          fun response => { response with requestStop := true }, [])
    else (buildJsonErrorResponse 404 (text "Control route was not found."), [])

/-- `HandleRequest`: an exception becomes a response of its own. -/
def handleRequest (gm : GmNode) (env : ControlEnv) (method target : Bytes) :
    Except Bytes GmControlHttpResponse × List GmEvent :=
  match gm.routeRequest env method target with
  | (.ok response, events) => (.ok response, events)
  | (.error what, events) =>
    (buildJsonErrorResponse 500 (text "Unhandled control handler exception: " ++ what), events)

end GmNode

end XServer.Node
