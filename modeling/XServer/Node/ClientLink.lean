import XServer.Node.InnerSession
import Mathlib.Data.Option.Basic

/-!
# The client side of a registration

A Game towards the GM and towards each Gate, and a Gate towards the GM, keep one
session for the link: they send a register request when the link comes up, then
heartbeats on a timer, each under a sequence number of the session. The two
nodes' copies of these functions agree up to a few fields; the common parts are
here, on the session alone. A session's `lastProtocolError` is diagnostic on this
side, nothing reads it, so these functions leave it alone.
-/

namespace XServer.Node
open XServer.Lib XServer.Lib.Wire XServer.Net

/-- What a handler asks of its surroundings: the clock, the outcome of handing a
packet to a peer, and the id of the next timer. -/
structure LinkEnv where
  nowUnixMs : UInt64 := 0
  sendOk : Bytes → Bytes → Bool := fun _ _ => true
  nextTimerId : Int64 := 1

/-- What a process knows of itself when it starts; `runtimeOk` is the outcome of
setting up its libraries. -/
structure NodeBoot where
  pid : UInt32 := 0
  startedAtUnixMs : UInt64 := 0
  runtimeOk : Bool := true

def gmRemoteNodeId : Bytes := text "GM"

/-- `kGameBuildVersion`, `kGateBuildVersion`. -/
def buildVersion : Bytes := text "dev"

def kResponseFlags : UInt16 := flagResponse
def kErrorResponseFlags : UInt16 := flagResponse ||| flagError

/-- `TimerErrorCode::IntervalMustBePositive` as a create result. -/
def timerIntervalMustBePositive : Int64 := -4

/-- `TimerManager::CreateRepeating`. -/
def LinkEnv.createRepeating (env : LinkEnv) (intervalMs : UInt32) : Int64 :=
  if intervalMs = 0 then timerIntervalMustBePositive else env.nextTimerId

/-- Encode a packet and hand it to the peer; the packet if that succeeds. -/
def LinkEnv.send (env : LinkEnv) (target : Bytes) (msgId seq : UInt32) (flags : UInt16) (body : Bytes) :
    Option Bytes :=
  match encodePacket (makePacketHeader msgId seq flags (UInt32.ofNat body.length)) body
      (packetHeaderSize + body.length) with
  | .error _ => none
  | .ok packet => if env.sendOk target packet then some packet else none

namespace InnerNetworkSession

/-- `ConsumeNextInnerSequence`: never zero. -/
def consumeNextInnerSequence (session : InnerNetworkSession) : UInt32 × InnerNetworkSession :=
  let seq := if session.nextSeq = packetSeqNone then 1 else session.nextSeq
  let next := seq + 1
  (seq, { session with nextSeq := if next = packetSeqNone then 1 else next })

/-- `CancelHeartbeatTimer`. -/
def cancelHeartbeatTimer (session : InnerNetworkSession) : InnerNetworkSession :=
  if session.heartbeatTimerId > 0 then { session with heartbeatTimerId := 0 } else session

/-- `StartOrResetHeartbeatTimer`. -/
def startOrResetHeartbeatTimer (session : InnerNetworkSession) (env : LinkEnv) (intervalMs : UInt32) :
    InnerNetworkSession :=
  let session := session.cancelHeartbeatTimer
  let timerResult := env.createRepeating intervalMs
  if timerResult > 0 then { session with heartbeatTimerId := timerResult } else session

/-- `SendRegisterRequest`. A request that is not handed over still used up a
sequence number once its body was encoded. -/
def sendRegisterRequest (session : InnerNetworkSession) (env : LinkEnv) (target : Bytes) (request : RegisterRequest) :
    InnerNetworkSession × Option Bytes :=
  if session.connectionState ≠ .connected ∨ session.registerInFlight = true then (session, none)
  else
    match getRegisterRequestWireSize request with
    | .error _ => (session, none)
    | .ok payloadSize =>
      match encodeRegisterRequest request payloadSize with
      | .error _ => (session, none)
      | .ok payload =>
        let (seq, session) := session.consumeNextInnerSequence
        match env.send target innerRegisterMsgId seq 0 payload with
        | none => (session, none)
        | some packet => ({ session with registerInFlight := true, registerSeq := seq }, some packet)

/-- `SendHeartbeatRequest`: not while one is unanswered. -/
def sendHeartbeatRequest (session : InnerNetworkSession) (env : LinkEnv) (target : Bytes) :
    InnerNetworkSession × Option Bytes :=
  if session.registered = false ∨ session.connectionState ≠ .connected ∨ session.heartbeatSeq ≠ 0 then (session, none)
  else
    match encodeHeartbeatRequest ⟨env.nowUnixMs, 0, ⟨0, 0, 0, 0, 0⟩⟩ heartbeatRequestSize with
    | .error _ => (session, none)
    | .ok payload =>
      let (seq, session) := session.consumeNextInnerSequence
      match env.send target innerHeartbeatMsgId seq 0 payload with
      | none => (session, none)
      | some packet => ({ session with heartbeatSeq := seq }, some packet)

/-- The tick of the session's heartbeat timer, if it has one. -/
def heartbeatTick (session : InnerNetworkSession) (env : LinkEnv) (target : Bytes) :
    InnerNetworkSession × Option Bytes :=
  if session.heartbeatTimerId > 0 then session.sendHeartbeatRequest env target else (session, none)

/-- The response belongs to the register request in flight. -/
def awaitsRegister (session : InnerNetworkSession) (seq : UInt32) : Bool :=
  session.registerSeq != 0 && seq == session.registerSeq

def awaitsHeartbeat (session : InnerNetworkSession) (seq : UInt32) : Bool :=
  session.heartbeatSeq != 0 && seq == session.heartbeatSeq

/-- What both nodes record of a successful registration. -/
def registerSucceeded (session : InnerNetworkSession) (env : LinkEnv) (response : RegisterSuccessResponse) :
    InnerNetworkSession :=
  { session with
    registered := true, heartbeatIntervalMs := response.heartbeatIntervalMs,
    heartbeatTimeoutMs := response.heartbeatTimeoutMs, lastServerNowUnixMs := response.serverNowUnixMs,
    lastHeartbeatAtUnixMs := env.nowUnixMs, heartbeatSeq := 0 }

/-- What both nodes record of a heartbeat response; the timer is restarted when
the timing changed or there was none. -/
def heartbeatSucceeded (session : InnerNetworkSession) (env : LinkEnv) (response : HeartbeatSuccessResponse) :
    InnerNetworkSession :=
  let changed := session.heartbeatIntervalMs ≠ response.heartbeatIntervalMs ∨
    session.heartbeatTimeoutMs ≠ response.heartbeatTimeoutMs ∨ session.heartbeatTimerId = 0
  let session := { session with
    heartbeatIntervalMs := response.heartbeatIntervalMs, heartbeatTimeoutMs := response.heartbeatTimeoutMs,
    lastServerNowUnixMs := response.serverNowUnixMs, lastHeartbeatAtUnixMs := env.nowUnixMs }
  if changed then session.startOrResetHeartbeatTimer env response.heartbeatIntervalMs else session

end InnerNetworkSession

/-! ## What these functions send -/

theorem LinkEnv.send_some {env : LinkEnv} {target body packet : Bytes} {msgId seq : UInt32} {flags : UInt16}
    (h : env.send target msgId seq flags body = some packet) :
    encodePacket (makePacketHeader msgId seq flags (UInt32.ofNat body.length)) body
      (packetHeaderSize + body.length) = .ok packet := by
  unfold LinkEnv.send at h
  split at h
  · cases h
  · rename_i encoded
    split at h
    · cases h
      exact encoded
    · cases h

theorem LinkEnv.send_msgId {env : LinkEnv} {target body packet : Bytes} {msgId seq : UInt32} {flags : UInt16}
    (h : env.send target msgId seq flags body = some packet) : HasMsgId packet msgId :=
  ⟨_, readRawHeader_encodePacket (LinkEnv.send_some h), rfl⟩

/-- The packets of a link's client side: a register request that names the
client, or a heartbeat. -/
def LinkPacket (nodeId packet : Bytes) : Prop :=
  (HasMsgId packet innerRegisterMsgId ∧ ∃ header body request, decodePacket packet = .ok ⟨header, body⟩ ∧
    decodeRegisterRequest body = .ok request ∧ request.nodeId = nodeId) ∨ HasMsgId packet innerHeartbeatMsgId

namespace InnerNetworkSession

/-- A register packet on the wire carries the request it was built from. -/
theorem sendRegisterRequest_some {session : InnerNetworkSession} {env : LinkEnv} {target packet : Bytes}
    {request : RegisterRequest} (h : (session.sendRegisterRequest env target request).2 = some packet) :
    LinkPacket request.nodeId packet := by
  unfold sendRegisterRequest at h
  split at h
  · cases h
  · split at h
    · cases h
    · split at h
      · cases h
      · rename_i body encoded
        simp only at h
        split at h
        · cases h
        · rename_i sent
          cases h
          exact .inl ⟨LinkEnv.send_msgId sent, _, body, request,
            decodePacket_encodePacket (LinkEnv.send_some sent), decodeRegisterRequest_encode encoded, rfl⟩

theorem sendHeartbeatRequest_some {session : InnerNetworkSession} {env : LinkEnv} {target packet : Bytes}
    (h : (session.sendHeartbeatRequest env target).2 = some packet) : HasMsgId packet innerHeartbeatMsgId := by
  unfold sendHeartbeatRequest at h
  split at h
  · cases h
  · split at h
    · cases h
    · simp only at h
      split at h
      · cases h
      · rename_i sent
        cases h
        exact LinkEnv.send_msgId sent

theorem heartbeatTick_some {session : InnerNetworkSession} {env : LinkEnv} {target packet : Bytes}
    (h : (session.heartbeatTick env target).2 = some packet) : HasMsgId packet innerHeartbeatMsgId := by
  unfold heartbeatTick at h
  split at h
  · exact sendHeartbeatRequest_some h
  · cases h

end InnerNetworkSession

end XServer.Node
