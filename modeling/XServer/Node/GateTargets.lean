import XServer.Node.GateSelect
import XServer.Node.GateTraffic
import XServer.Node.SessionMaps

/-!
# The Games a Gate turns to

A Gate picks a Game for a new avatar, and it hands calls of clients and of other
Games to one. It turns to Games that are connected, registered and ready: the last
message that it accepted from such a Game was a heartbeat, after a registration.
How long ago that was, no path asks (`targets_heard`).
-/

namespace XServer.Node
open XServer.Lib XServer.Lib.Wire XServer.Net XServer.Core

namespace GateClients

/-! ## What is handed to Games -/

/-- An answer to a client, or the exception in its place. -/
def IsAnswer : ClientEvent → Prop
  | .sendPayload .. | .threw => True
  | _ => False

def OnlyAnswers (events : List ClientEvent) : Prop := ∀ event ∈ events, IsAnswer event

theorem OnlyAnswers.nil : OnlyAnswers [] := nofun

theorem OnlyAnswers.silent {events : List ClientEvent} (answers : OnlyAnswers events) (routingId packet : Bytes) :
    .toGame routingId packet ∉ events := fun mem => answers _ mem

/-- What a message of a client comes to: an avatar is selected and its creation
requested, a call goes to a Game, or no Game hears of it. -/
inductive Served (clients : GateClients) (ctx : GateContext) (env : GateEnv) (sessionId : UInt64) :
    GateClients × List ClientEvent → Prop where
  | quiet {result : GateClients × List ClientEvent} (book : SameBook (clients.touchRecord env sessionId) result.1)
      (answers : OnlyAnswers result.2) : Served clients ctx env sessionId result
  | selected {packet : Packet} {next : ClientSessionRecord} {routingId sent : Bytes}
      (accepted : (clients.touchRecord env sessionId).nextSelectAvatarRecord ctx env sessionId packet = .ok next)
      (created : ctx.sendCreateAvatarEntityRequest env next = .done (routingId, sent)) :
      Served clients ctx env sessionId
        ((clients.touchRecord env sessionId).bindAvatar sessionId next, [.toGame routingId sent])
  | call {gameNodeId routingId sent : Bytes} {game : InnerNetworkSession}
      (target : GameChannel ctx gameNodeId routingId game) :
      Served clients ctx env sessionId
        ((clients.touchRecord env sessionId).touchRecord env sessionId, [.toGame routingId sent])

/-- The answer to a client. -/
theorem sendClientSelectAvatarResult_quiet (clients : GateClients) (env : GateEnv) (sessionId : UInt64) (requestSeq : UInt32)
    (success : Bool) (accountId avatarId gameNodeId error : Bytes) :
    let result := clients.sendClientSelectAvatarResult env sessionId requestSeq success accountId avatarId gameNodeId error
    SameBook clients result.1 ∧ OnlyAnswers result.2 := by
  unfold sendClientSelectAvatarResult
  split
  · exact ⟨.refl clients, .nil⟩
  split
  · exact ⟨.refl clients, by simp [OnlyAnswers, IsAnswer]⟩
  split
  · exact ⟨.refl clients, .nil⟩
  · exact ⟨⟨rfl, rfl, rfl, rfl⟩, by simp [sendPayload, OnlyAnswers, IsAnswer]⟩

theorem payload_served (clients : GateClients) (ctx : GateContext) (env : GateEnv) (sessionId : UInt64) (payload : Bytes) :
    Served clients ctx env sessionId (clients.handleClientPayloadReceived ctx env sessionId payload) := by
  unfold handleClientPayloadReceived
  simp only
  split
  · exact .quiet (.refl _) .nil
  split
  · split
    · rename_i done
      unfold handleClientSelectAvatarPacket at done
      split at done
      · cases done
      · rename_i next accepted
        split at done
        · cases done
        · cases done
        · rename_i created
          cases done
          exact .selected accepted created
    · exact .quiet (.refl _) (by simp [OnlyAnswers, IsAnswer])
    · obtain ⟨book, answers⟩ := sendClientSelectAvatarResult_quiet ..
      exact .quiet book answers
  split
  · split
    · exact .quiet (.refl _) .nil
    · rename_i ok
      obtain ⟨-, -, record, target, sent, -, -, available, eq⟩ := handleClientEntityRpcPacket_ok ok
      cases eq
      exact .call (availableGame_some available)
  · exact .quiet (.refl _) .nil

theorem sendCreateAvatarEntityRequest_done {ctx : GateContext} {env : GateEnv} {record : ClientSessionRecord}
    {routingId sent : Bytes} (h : ctx.sendCreateAvatarEntityRequest env record = .done (routingId, sent)) :
    ∃ game, GameChannel ctx record.gameNodeId routingId game := by
  unfold GateContext.sendCreateAvatarEntityRequest at h
  repeat' split at h
  all_goals try cases h
  rename_i game available _ _ _ _ _ _
  exact ⟨game, availableGame_some available⟩

/-- Every packet for a Game goes over the channel of one that is connected,
registered and ready. -/
def Targets (ctx : GateContext) (events : List ClientEvent) : Prop :=
  ∀ routingId packet, .toGame routingId packet ∈ events → ∃ gameNodeId game, GameChannel ctx gameNodeId routingId game

variable {ctx : GateContext} {env : GateEnv}

theorem targets_of_silent {events : List ClientEvent} (silent : ∀ routingId packet, .toGame routingId packet ∉ events) :
    Targets ctx events := fun routingId packet mem => absurd mem (silent routingId packet)

theorem Served.targets {clients : GateClients} {sessionId : UInt64} {result : GateClients × List ClientEvent}
    (served : Served clients ctx env sessionId result) : Targets ctx result.2 := by
  cases served with
  | quiet book answers => exact targets_of_silent answers.silent
  | selected accepted created =>
    intro routingId packet mem
    cases List.mem_singleton.mp mem
    obtain ⟨game, target⟩ := sendCreateAvatarEntityRequest_done created
    exact ⟨_, game, target⟩
  | call target =>
    intro routingId packet mem
    cases List.mem_singleton.mp mem
    exact ⟨_, _, target⟩

/-- Opening a session tells no Game. -/
theorem datagramSession_silent (clients : GateClients) (ctx : GateContext) (env : GateEnv) (endpoint : Endpoint)
    (datagram routingId packet : Bytes) :
    .toGame routingId packet ∉ (clients.datagramSession ctx env endpoint datagram).2.1 := by
  unfold datagramSession
  split
  · nofun
  split
  · nofun
  split
  · nofun
  · unfold openClientSession
    simp only
    split
    · nofun
    split
    · nofun
    split
    · nofun
    · rename_i clients' event opened
      obtain ⟨_, _, _, -, -, -, -, -, -, rfl, -⟩ := handleClientSessionOpened_ok opened
      simp

theorem datagram_targets (clients : GateClients) (endpoint : Endpoint) (datagram : Bytes) :
    Targets ctx (clients.handleIncomingDatagram ctx env endpoint datagram).2 := by
  rw [handleIncomingDatagram_events]
  intro routingId packet mem
  rcases List.mem_append.mp mem with opening | served
  · exact absurd opening (datagramSession_silent clients ctx env endpoint datagram routingId packet)
  · obtain ⟨message, -, mem⟩ := List.mem_flatMap.mp served
    exact (payload_served message.clients ctx env message.sessionId message.payload).targets routingId packet mem

theorem createResult_answers (clients : GateClients) (ctx : GateContext) (env : GateEnv) (source payload : Bytes) :
    OnlyAnswers (clients.handleGameAvatarEntityCreateResultMessage ctx env source payload).2 := by
  have rollback : ∀ (clients : GateClients) (result : AvatarCreateResult) (record : ClientSessionRecord) (error : Bytes)
      (notify : Bool), OnlyAnswers (clients.rollbackPendingSelection env result record error notify).2 := by
    intro clients result record error notify
    unfold rollbackPendingSelection
    simp only
    split
    · exact (sendClientSelectAvatarResult_quiet ..).2
    · exact .nil
  unfold handleGameAvatarEntityCreateResultMessage
  split
  · exact .nil
  split
  · exact rollback _ _ _ _ _
  split
  · exact rollback _ _ _ _ _
  simp only
  split
  · exact rollback _ _ _ _ _
  · exact (sendClientSelectAvatarResult_quiet ..).2

/-- A relayed message is an answer to a client, or it goes over the channel of a
Game. -/
theorem relayed_event {clients : GateClients} {source payload : Bytes} {msgId : UInt32} {events : List ClientEvent}
    (relayed : events ≠ [] → Relayed clients ctx source payload msgId events) {event : ClientEvent} (mem : event ∈ events) :
    IsAnswer event ∨ ∃ routingId packet gameNodeId game,
      event = .toGame routingId packet ∧ GameChannel ctx gameNodeId routingId game := by
  cases relayed (List.ne_nil_of_mem mem) with
  | push ok =>
    cases List.mem_singleton.mp mem
    exact .inl trivial
  | proxy _ _ _ _ _ _ target =>
    cases List.mem_singleton.mp mem
    exact .inr ⟨_, _, _, _, rfl, target⟩
  | mailbox _ _ target =>
    cases List.mem_singleton.mp mem
    exact .inr ⟨_, _, _, _, rfl, target⟩

theorem login_event {clients : GateClients} {request : GateAuthLoginRequest} {event : ClientEvent}
    (mem : event ∈ (clients.handleAuthLogin ctx env request).2) :
    (∃ result, event = .loginResult result) ∨ ∃ conversation reservation, event = .reserved conversation reservation := by
  unfold handleAuthLogin at mem
  split at mem
  · exact .inl ⟨_, List.mem_singleton.mp mem⟩
  simp only at mem
  split at mem
  · exact .inl ⟨_, List.mem_singleton.mp mem⟩
  · rcases List.mem_cons.mp mem with first | last
    · exact .inr ⟨_, _, first⟩
    · exact .inl ⟨_, List.mem_singleton.mp last⟩

end GateClients

namespace GateNode

/-- What concerns the GM's session tells no Game. -/
theorem onGmSession_silent (gate : GateNode) (f : InnerNetworkSession → InnerNetworkSession × Option Bytes)
    (event : ClientEvent) : .client event ∉ (gate.onGmSession f).2 := by
  unfold onGmSession
  split
  · nofun
  · simp

theorem handleConnectorStateChanged_silent (gate : GateNode) (env : GateEnv) (peer : Bytes) (state : ZmqConnectionState)
    (event : ClientEvent) : .client event ∉ (gate.handleConnectorStateChanged env peer state).2 := by
  unfold handleConnectorStateChanged
  split
  · nofun
  unfold handleGmConnectionStateChanged
  split
  · nofun
  simp only
  split
  · nofun
  split
  · exact onGmSession_silent _ _ event
  · nofun

theorem Replies.silent {routingId : Bytes} {events : List GateEvent} (replies : Replies routingId events)
    (event : ClientEvent) : .client event ∉ events := by
  intro mem
  obtain ⟨_, impossible⟩ := replies _ mem
  cases impossible

/-! ## Messages of Games -/

/-- The register request of a message that the Gate accepts: a request of a Game it
knows, over the channel of that Game. -/
def acceptedRegister (gate : GateNode) (routingId payload : Bytes) : Option RegisterRequest :=
  match decodePacket payload with
  | .error _ => none
  | .ok packet =>
    if packet.header.flags ≠ 0 ∨ packet.header.seq = packetSeqNone then none
    else
      match decodeRegisterRequest packet.payload with
      | .error _ => none
      | .ok request =>
        if request.processType ≠ innerProcessTypeGame then none
        else
          match (gate.sessions.findByNodeId request.nodeId).filter (·.processType = .game) with
          | none => none
          | some session => if session.routingId ≠ routingId then none else some request

/-- The heartbeat of a message that the Gate accepts, with the session of its sender:
one of a Game that is registered. -/
def acceptedHeartbeat (gate : GateNode) (routingId payload : Bytes) : Option (HeartbeatRequest × InnerNetworkSession) :=
  match GmNode.heartbeatRequestOf routingId payload with
  | none => none
  | some (_, request) =>
    match gate.sessions.findByRoutingId routingId with
    | none => none
    | some session => if session.processType ≠ .game ∨ session.registered = false then none else some (request, session)

theorem handleGameRegisterMessage_replies (gate : GateNode) (env : GateEnv) (routingId payload : Bytes) :
    Replies routingId (gate.handleGameRegisterMessage env routingId payload).2 := by
  unfold handleGameRegisterMessage
  split
  · exact nofun
  split
  · exact nofun
  simp only
  split
  · exact sendRegisterError_replies _ _ _ _
  split
  · exact sendRegisterError_replies _ _ _ _
  split
  · exact sendRegisterError_replies _ _ _ _
  split
  · exact sendRegisterError_replies _ _ _ _
  split
  · exact nofun
  · exact sendResponse_replies _ _ _ _ _ _

theorem handleGameHeartbeatMessage_replies (gate : GateNode) (env : GateEnv) (routingId payload : Bytes) :
    Replies routingId (gate.handleGameHeartbeatMessage env routingId payload).2 := by
  unfold handleGameHeartbeatMessage
  split
  · exact nofun
  split
  · exact nofun
  split
  · exact nofun
  simp only
  split
  · exact nofun
  · exact sendResponse_replies _ _ _ _ _ _

/-- An accepted register request is applied, any other is not. -/
theorem handleGameRegisterMessage_sessions (gate : GateNode) (env : GateEnv) (routingId payload : Bytes) :
    (gate.handleGameRegisterMessage env routingId payload).1.sessions =
      match gate.acceptedRegister routingId payload with
      | none => gate.sessions
      | some request => gate.sessions.modify request.nodeId (applyRegistration request routingId env.nowUnixMs) := by
  unfold handleGameRegisterMessage acceptedRegister
  cases decodePacket payload with
  | error e => rfl
  | ok packet =>
    simp only
    by_cases envelope : packet.header.flags ≠ 0 ∨ packet.header.seq = packetSeqNone
    · rw [if_pos envelope, if_pos envelope]
    rw [if_neg envelope, if_neg envelope]
    cases decodeRegisterRequest packet.payload with
    | error e => rfl
    | ok request =>
      simp only
      by_cases other : request.processType ≠ innerProcessTypeGame
      · rw [if_pos other, if_pos other]
      rw [if_neg other, if_neg other]
      cases (gate.sessions.findByNodeId request.nodeId).filter (·.processType = .game) with
      | none => rfl
      | some session =>
        simp only
        by_cases channel : session.routingId ≠ routingId
        · rw [if_pos channel, if_pos channel]
        rw [if_neg channel, if_neg channel]
        simp only
        split
        · rfl
        · rfl

/-- An accepted heartbeat refreshes the session it came over. -/
theorem handleGameHeartbeatMessage_sessions (gate : GateNode) (env : GateEnv) (routingId payload : Bytes) :
    (gate.handleGameHeartbeatMessage env routingId payload).1.sessions =
      match gate.acceptedHeartbeat routingId payload with
      | none => gate.sessions
      | some (request, _) => gate.sessions.modifyByRoutingId routingId (refreshGame request routingId env.nowUnixMs) := by
  unfold handleGameHeartbeatMessage acceptedHeartbeat
  cases GmNode.heartbeatRequestOf routingId payload with
  | none => rfl
  | some read =>
    simp only
    cases gate.sessions.findByRoutingId routingId with
    | none => rfl
    | some session =>
      simp only
      by_cases unusable : session.processType ≠ .game ∨ session.registered = false
      · rw [if_pos unusable, if_pos unusable]
      rw [if_neg unusable, if_neg unusable]
      simp only
      split
      · rfl
      · rfl

theorem mem_onClients {gate : GateNode} {result : GateClients × List ClientEvent} {event : ClientEvent} :
    .client event ∈ (gate.onClients result).2 ↔ event ∈ result.2 := by
  constructor
  · intro mem
    obtain ⟨event, mem, same⟩ := List.mem_map.mp mem
    cases same
    exact mem
  · exact fun mem => List.mem_map.mpr ⟨event, mem, rfl⟩

/-- What a message of a Game has clients and Games hear. -/
theorem gameMessage_event {gate : GateNode} {env : GateEnv} {source payload : Bytes} {event : ClientEvent}
    (mem : .client event ∈ (gate.handleGameMessage env source payload).2) :
    GateClients.IsAnswer event ∨ ∃ routingId packet gameNodeId game,
      event = .toGame routingId packet ∧ GateClients.GameChannel gate.toGateContext gameNodeId routingId game := by
  unfold handleGameMessage at mem
  split at mem
  · cases mem
  simp only at mem
  split at mem
  · exact absurd mem ((handleGameRegisterMessage_replies gate env source payload).silent _)
  split at mem
  · exact absurd mem ((handleGameHeartbeatMessage_replies gate env source payload).silent _)
  split at mem
  · exact .inl (GateClients.createResult_answers _ _ _ _ _ event (mem_onClients.mp mem))
  split at mem
  · exact GateClients.relayed_event GateClients.push_relayed (mem_onClients.mp mem)
  split at mem
  · exact GateClients.relayed_event GateClients.proxy_relayed (mem_onClients.mp mem)
  split at mem
  · exact GateClients.relayed_event (@GateClients.mailbox_relayed gate.clients _ _ _ _) (mem_onClients.mp mem)
  · cases mem

/-- Every packet that a step has for a Game goes to one that is available. -/
theorem step_targets (gate : GateNode) (input : Input) {routingId packet : Bytes}
    (sent : .client (.toGame routingId packet) ∈ (gate.step input).2) :
    ∃ gameNodeId game, GateClients.GameChannel gate.toGateContext gameNodeId routingId game := by
  cases input with
  | connectorState env peer state => exact absurd sent (handleConnectorStateChanged_silent gate env peer state _)
  | connectorMessage env peer payload => cases sent
  | gameMessage env source payload =>
    rcases gameMessage_event sent with answer | ⟨_, _, gameNodeId, game, same, target⟩
    · exact answer.elim
    · cases same
      exact ⟨gameNodeId, game, target⟩
  | heartbeatTimer env => exact absurd sent (onGmSession_silent gate _ _)
  | authLogin env request =>
    rcases GateClients.login_event (mem_onClients.mp sent) with ⟨_, impossible⟩ | ⟨_, _, impossible⟩
    · cases impossible
    · cases impossible
  | datagram env endpoint datagram =>
    exact GateClients.datagram_targets gate.clients endpoint datagram routingId packet (mem_onClients.mp sent)
  | removeSession sessionId => cases sent
  | clearRecord sessionId => cases sent

/-! ## Signs of life -/

/-- The messages by which a Game shows that it is there. -/
inductive SignOfLife where
  | registered
  | beat
  deriving DecidableEq

/-- The sign of life of this Game that a step accepts, with the Gate's clock. -/
def heardFrom (gameNodeId : Bytes) (gate : GateNode) : Input → Option (SignOfLife × UInt64)
  | .gameMessage env routingId payload =>
    if HasMsgId payload innerRegisterMsgId then
      ((gate.acceptedRegister routingId payload).filter (·.nodeId = gameNodeId)).map fun _ => (.registered, env.nowUnixMs)
    else if HasMsgId payload innerHeartbeatMsgId then
      ((gate.acceptedHeartbeat routingId payload).filter (·.2.nodeId = gameNodeId)).map fun _ => (.beat, env.nowUnixMs)
    else none
  | _ => none

/-- What a step does to the session of a Game. -/
inductive GameStep (gameNodeId : Bytes) (gate : GateNode) (input : Input) (gate' : GateNode) : Prop where
  | kept (unheard : heardFrom gameNodeId gate input = none)
      (same : gate'.sessions.findByNodeId gameNodeId = gate.sessions.findByNodeId gameNodeId)
  | registered {session : InnerNetworkSession} {request : RegisterRequest} {routingId : Bytes} {now : UInt64}
      (heard : heardFrom gameNodeId gate input = some (.registered, now))
      (found : gate.sessions.findByNodeId gameNodeId = some session)
      (after : gate'.sessions.findByNodeId gameNodeId = some (applyRegistration request routingId now session))
  | beat {session : InnerNetworkSession} {request : HeartbeatRequest} {routingId : Bytes} {now : UInt64}
      (heard : heardFrom gameNodeId gate input = some (.beat, now))
      (found : gate.sessions.findByNodeId gameNodeId = some session) (registered : session.registered = true)
      (after : gate'.sessions.findByNodeId gameNodeId = some (refreshGame request routingId now session))

theorem acceptedRegister_known {gate : GateNode} {routingId payload : Bytes} {request : RegisterRequest}
    (accepted : gate.acceptedRegister routingId payload = some request) :
    ∃ session, gate.sessions.findByNodeId request.nodeId = some session := by
  unfold acceptedRegister at accepted
  split at accepted
  · cases accepted
  split at accepted
  · cases accepted
  split at accepted
  · cases accepted
  split at accepted
  · cases accepted
  split at accepted
  · cases accepted
  rename_i session known
  split at accepted
  · cases accepted
  · cases accepted
    exact ⟨session, (Option.filter_eq_some_iff.mp known).1⟩

theorem acceptedHeartbeat_known {gate : GateNode} {routingId payload : Bytes} {request : HeartbeatRequest}
    {session : InnerNetworkSession} (accepted : gate.acceptedHeartbeat routingId payload = some (request, session)) :
    gate.sessions.findByRoutingId routingId = some session ∧ session.registered = true := by
  unfold acceptedHeartbeat at accepted
  split at accepted
  · cases accepted
  split at accepted
  · cases accepted
  rename_i found
  split at accepted
  · cases accepted
  · rename_i usable
    cases accepted
    rw [not_or, Bool.not_eq_false] at usable
    exact ⟨found, usable.2⟩

theorem gameMessage_register {gate : GateNode} {env : GateEnv} {routingId payload : Bytes}
    (register : HasMsgId payload innerRegisterMsgId) :
    gate.step (.gameMessage env routingId payload) = gate.handleGameRegisterMessage env routingId payload := by
  obtain ⟨raw, read, isRegister⟩ := register
  simp only [step, handleGameMessage, read, isRegister, if_true]

theorem gameMessage_heartbeat {gate : GateNode} {env : GateEnv} {routingId payload : Bytes}
    (heartbeat : HasMsgId payload innerHeartbeatMsgId) :
    gate.step (.gameMessage env routingId payload) = gate.handleGameHeartbeatMessage env routingId payload := by
  obtain ⟨raw, read, isHeartbeat⟩ := heartbeat
  have other : innerHeartbeatMsgId ≠ innerRegisterMsgId := by decide
  simp only [step, handleGameMessage, read, isHeartbeat, if_neg other, if_true]

/-- No other message of a Game touches a session. -/
theorem gameMessage_other {gate : GateNode} {env : GateEnv} {routingId payload : Bytes}
    (register : ¬ HasMsgId payload innerRegisterMsgId) (heartbeat : ¬ HasMsgId payload innerHeartbeatMsgId) :
    (gate.step (.gameMessage env routingId payload)).1.sessions = gate.sessions := by
  simp only [step, handleGameMessage]
  split
  · rfl
  rename_i raw read
  split
  · rename_i isRegister
    exact absurd ⟨raw, read, isRegister⟩ register
  split
  · rename_i isHeartbeat
    exact absurd ⟨raw, read, isHeartbeat⟩ heartbeat
  repeat' split
  all_goals rfl

/-- An input that is no message of a Game leaves the sessions of the Games alone. -/
theorem step_otherSession {gate : GateNode} {input : Input} {gameNodeId : Bytes} (isGame : gameNodeId ≠ gmRemoteNodeId)
    (other : ∀ env routingId payload, input ≠ .gameMessage env routingId payload) :
    (gate.step input).1.sessions.findByNodeId gameNodeId = gate.sessions.findByNodeId gameNodeId := by
  refine @Steps.invariant _ _ _ (fun s => s.sessions.findByNodeId gameNodeId = gate.sessions.findByNodeId gameNodeId)
    (fun s es u same act => ?_) _ _ _ (step_acts gate input) rfl
  cases act with
  | clients result => exact same
  | notify arrived kind =>
    rw [handleClusterReadyNotify_sessions]
    exact same
  | gm found op =>
    rw [InnerNetworkSessionManager.findByNodeId_modify, if_neg isGame.symm]
    exact same
  | refused replies => exact same
  | registered arrived found isGame channel replies => exact absurd arrived (other _ _ _)
  | beat arrived read found isGame registered replies => exact absurd arrived (other _ _ _)

theorem step_gameStep {gate : GateNode} (maps : gate.sessions.Corresponds) {gameNodeId : Bytes}
    (isGame : gameNodeId ≠ gmRemoteNodeId) (input : Input) : GameStep gameNodeId gate input (gate.step input).1 := by
  cases input with
  | gameMessage env routingId payload =>
    by_cases register : HasMsgId payload innerRegisterMsgId
    · have sessions := handleGameRegisterMessage_sessions gate env routingId payload
      rw [gameMessage_register register]
      cases accepted : gate.acceptedRegister routingId payload with
      | none =>
        rw [accepted] at sessions
        exact .kept (by simp [heardFrom, register, accepted]) (by rw [sessions])
      | some request =>
        rw [accepted] at sessions
        obtain ⟨session, found⟩ := acceptedRegister_known accepted
        by_cases own : request.nodeId = gameNodeId
        · subst own
          have heard : heardFrom request.nodeId gate (.gameMessage env routingId payload) =
              some (.registered, env.nowUnixMs) := by simp [heardFrom, register, accepted]
          have after : (gate.handleGameRegisterMessage env routingId payload).1.sessions.findByNodeId request.nodeId =
              some (applyRegistration request routingId env.nowUnixMs session) := by
            rw [sessions, InnerNetworkSessionManager.findByNodeId_modify, if_pos rfl, found]
            rfl
          exact .registered heard found after
        · refine .kept (by simp [heardFrom, register, accepted, own]) ?_
          rw [sessions, InnerNetworkSessionManager.findByNodeId_modify, if_neg own]
    by_cases heartbeat : HasMsgId payload innerHeartbeatMsgId
    · have sessions := handleGameHeartbeatMessage_sessions gate env routingId payload
      rw [gameMessage_heartbeat heartbeat]
      cases accepted : gate.acceptedHeartbeat routingId payload with
      | none =>
        rw [accepted] at sessions
        exact .kept (by simp [heardFrom, register, heartbeat, accepted]) (by rw [sessions])
      | some beat =>
        obtain ⟨request, session⟩ := beat
        obtain ⟨routed, registered⟩ := acceptedHeartbeat_known accepted
        rw [accepted] at sessions
        simp only [maps.modifyByRoutingId_eq routed] at sessions
        have found := (maps.found.mp routed).2.2
        by_cases own : session.nodeId = gameNodeId
        · subst own
          have heard : heardFrom session.nodeId gate (.gameMessage env routingId payload) = some (.beat, env.nowUnixMs) := by
            simp [heardFrom, register, heartbeat, accepted]
          have after : (gate.handleGameHeartbeatMessage env routingId payload).1.sessions.findByNodeId session.nodeId =
              some (refreshGame request routingId env.nowUnixMs session) := by
            rw [sessions, InnerNetworkSessionManager.findByNodeId_modify, if_pos rfl, found]
            rfl
          exact .beat heard found registered after
        · refine .kept (by simp [heardFrom, register, heartbeat, accepted, own]) ?_
          rw [sessions, InnerNetworkSessionManager.findByNodeId_modify, if_neg own]
    · exact .kept (by simp [heardFrom, register, heartbeat]) (by rw [gameMessage_other register heartbeat])
  | connectorState env peer state => exact .kept rfl (step_otherSession isGame nofun)
  | connectorMessage env peer payload => exact .kept rfl (step_otherSession isGame nofun)
  | heartbeatTimer env => exact .kept rfl (step_otherSession isGame nofun)
  | authLogin env request => exact .kept rfl (step_otherSession isGame nofun)
  | datagram env endpoint datagram => exact .kept rfl (step_otherSession isGame nofun)
  | removeSession sessionId => exact .kept rfl (step_otherSession isGame nofun)
  | clearRecord sessionId => exact .kept rfl (step_otherSession isGame nofun)

/-- What the latest sign of life left in the session of a Game. -/
def Tracks : Option (SignOfLife × UInt64) → InnerNetworkSession → Prop
  | none, session => session.registered = false
  | some (.registered, now), session => session.lastHeartbeatAtUnixMs = now ∧ session.innerNetworkReady = false ∧
      session.heartbeatTimeoutMs = defaultHeartbeatTimeoutMs
  | some (.beat, now), session => session.lastHeartbeatAtUnixMs = now ∧
      session.heartbeatTimeoutMs = defaultHeartbeatTimeoutMs

/-- The session maps agree, and the session of this Game is as it was last heard of. -/
structure HeardInv (gameNodeId : Bytes) (heard : Option (SignOfLife × UInt64)) (gate : GateNode) : Prop where
  maps : gate.sessions.Corresponds
  tracks : ∀ session, gate.sessions.findByNodeId gameNodeId = some session → Tracks heard session

theorem step_heardInv {gameNodeId : Bytes} (isGame : gameNodeId ≠ gmRemoteNodeId)
    (heard : Option (SignOfLife × UInt64)) (gate : GateNode) (input : Input) (inv : HeardInv gameNodeId heard gate) :
    HeardInv gameNodeId ((heardFrom gameNodeId gate input).or heard) (gate.step input).1 := by
  refine ⟨step_corresponds gate input inv.maps, fun session' found' => ?_⟩
  cases step_gameStep inv.maps isGame input with
  | kept unheard same =>
    rw [unheard, Option.none_or]
    exact inv.tracks session' (same ▸ found')
  | registered sign found after =>
    rw [sign, Option.some_or]
    rw [after] at found'
    cases found'
    exact ⟨rfl, rfl, rfl⟩
  | beat sign found registered after =>
    rw [sign, Option.some_or]
    rw [after] at found'
    cases found'
    exact ⟨rfl, rfl⟩

/-- The Game has a registered session. -/
def KnownGame (gameNodeId : Bytes) (gate : GateNode) : Prop :=
  ∃ session, gate.sessions.findByNodeId gameNodeId = some session ∧ session.registered = true

/-- The step accepts a registration of this Game. -/
def Registers (gameNodeId : Bytes) (gate : GateNode) (input : Input) : Prop :=
  ∃ now, heardFrom gameNodeId gate input = some (.registered, now)

/-- A Game is registered once its registration was accepted, and stays so. -/
theorem step_knownGame {gameNodeId : Bytes} (isGame : gameNodeId ≠ gmRemoteNodeId) (gate : GateNode) (input : Input)
    (maps : gate.sessions.Corresponds) :
    KnownGame gameNodeId (gate.step input).1 ↔ KnownGame gameNodeId gate ∨ Registers gameNodeId gate input := by
  unfold KnownGame Registers
  cases step_gameStep maps isGame input with
  | kept unheard same => simp [unheard, same]
  | registered sign found after => exact iff_of_true ⟨_, after, rfl⟩ (.inr ⟨_, sign⟩)
  | beat sign found registered after => exact iff_of_true ⟨_, after, rfl⟩ (.inl ⟨_, found, registered⟩)

/-- The GM's session is not routed to. -/
def GmUnrouted (gate : GateNode) : Prop :=
  gate.sessions.Corresponds ∧
    ∀ session, gate.sessions.findByNodeId gmRemoteNodeId = some session → session.routingId = []

/-- No session changes its routing id. -/
theorem Act.routingId {input : Input} {gate gate' : GateNode} {events : List GateEvent} {nodeId : Bytes}
    {session' : InnerNetworkSession} (act : Act input gate events gate') (maps : gate.sessions.Corresponds)
    (found' : gate'.sessions.findByNodeId nodeId = some session') :
    ∃ session, gate.sessions.findByNodeId nodeId = some session ∧ session'.routingId = session.routingId := by
  cases act with
  | clients result => exact ⟨session', found', rfl⟩
  | notify arrived kind =>
    rw [handleClusterReadyNotify_sessions] at found'
    exact ⟨session', found', rfl⟩
  | gm found op =>
    obtain ⟨session, held, rfl | ⟨same, rfl⟩⟩ := InnerNetworkSessionManager.findByNodeId_modify_some found'
    · exact ⟨session', held, rfl⟩
    · rw [same, held] at found
      cases found
      exact ⟨_, held, op.keeps.2⟩
  | refused replies => exact ⟨session', found', rfl⟩
  | registered arrived found isGame channel replies =>
    obtain ⟨session, held, rfl | ⟨same, rfl⟩⟩ := InnerNetworkSessionManager.findByNodeId_modify_some found'
    · exact ⟨session', held, rfl⟩
    · rw [same, held] at found
      cases found
      exact ⟨_, held, channel.symm⟩
  | beat arrived read found isGame registered replies =>
    obtain ⟨session, held, rfl | ⟨routed, rfl⟩⟩ := InnerNetworkSessionManager.findByNodeId_modifyByRoutingId_some found'
    · exact ⟨session', held, rfl⟩
    · exact ⟨session, held, (maps.found.mp routed).2.1.symm⟩

theorem Act.gmUnrouted {input : Input} {gate gate' : GateNode} {events : List GateEvent}
    (act : Act input gate events gate') (inv : GmUnrouted gate) : GmUnrouted gate' := by
  refine ⟨act.corresponds inv.1, fun session' found' => ?_⟩
  obtain ⟨session, held, same⟩ := act.routingId inv.1 found'
  exact same.trans (inv.2 session held)

theorem step_gmUnrouted (gate : GateNode) (input : Input) (inv : GmUnrouted gate) : GmUnrouted (gate.step input).1 :=
  @Steps.invariant _ _ _ GmUnrouted (fun _ _ _ inv act => act.gmUnrouted inv) _ _ _ (step_acts gate input) inv

theorem onInit_gmUnrouted {config : ClusterConfig} {self : NodeEntry} {boot : GateBoot} {gate : GateNode}
    (init : onInit config self boot = some gate) : GmUnrouted gate := by
  refine ⟨onInit_corresponds init, ?_⟩
  simp only [onInit, Option.bind_eq_bind, Option.bind_eq_some_iff] at init
  obtain ⟨_, -, _, -, _, -, _, -, gm, gmOk, sessions, gamesOk, _, -, eq⟩ := init
  cases eq
  -- the GM is entered first, and no Game can take its place
  have start : ∃ session, gm.findByNodeId gmRemoteNodeId = some session ∧ session.routingId = [] := by
    obtain ⟨-, entries, -⟩ := InnerNetworkSessionManager.register_ok (ok_of_toOption gmOk)
    rw [InnerNetworkSessionManager.findByNodeId, entries, Table.get_insert_self]
    exact ⟨_, rfl, rfl⟩
  have after : ∃ session, sessions.findByNodeId gmRemoteNodeId = some session ∧ session.routingId = [] := by
    refine @InnerNetworkSessionManager.foldlM_register _
      (fun m => ∃ session, m.findByNodeId gmRemoteNodeId = some session ∧ session.routingId = []) _
      (fun game m m' accepted held => ?_) _ _ _ start gamesOk
    obtain ⟨session, found, unrouted⟩ := held
    obtain ⟨absent, entries, -⟩ := InnerNetworkSessionManager.register_ok accepted
    refine ⟨session, ?_, unrouted⟩
    rw [InnerNetworkSessionManager.findByNodeId, entries, Table.get_insert_of_ne]
    · exact found
    · intro same
      rw [same, found] at absent
      cases absent
  obtain ⟨session, found, unrouted⟩ := after
  intro session' found'
  rw [found] at found'
  cases found'
  exact unrouted

/-- When the Game of this session was last heard of in a run: the last register or
heartbeat message accepted from it was a heartbeat, at the time in the session, and
a registration of it was accepted before. -/
structure HeardLast (start : GateNode) (is : List Input) (gameNodeId : Bytes) (game : InnerNetworkSession) : Prop where
  last : machine.latest (heardFrom gameNodeId) start is = some (.beat, game.lastHeartbeatAtUnixMs)
  registered : machine.Sometime (Registers gameNodeId) start is
  timeout : game.heartbeatTimeoutMs = defaultHeartbeatTimeoutMs

/-- A Game that a Gate can turn to was heard of. -/
theorem heardLast_of_channel {config : ClusterConfig} {self : NodeEntry} {boot : GateBoot} {start : GateNode}
    (init : onInit config self boot = some start) (is : List Input) {gameNodeId routingId : Bytes}
    {game : InnerNetworkSession}
    (target : GateClients.GameChannel (machine.run start is).1.toGateContext gameNodeId routingId game) :
    HeardLast start is gameNodeId game := by
  have unrouted := @Machine.invariant _ _ _ machine GmUnrouted step_gmUnrouted _ _ (onInit_gmUnrouted init) ⟨is, rfl⟩
  have isGame : gameNodeId ≠ gmRemoteNodeId := by
    rintro rfl
    exact target.named (target.channel.symm.trans (unrouted.2 game target.found))
  have fresh : ∀ session, start.sessions.findByNodeId gameNodeId = some session → session.registered = false :=
    @onInit_sessions (·.registered = false) _ _ _ _ init (fun _ => rfl) gameNodeId
  have maps := onInit_corresponds init
  have inv := @Machine.run_latest _ _ _ machine _ _ _ (step_heardInv isGame) start none ⟨maps, fresh⟩ is
  rw [Option.or_none] at inv
  have tracks := inv.tracks game target.found
  have known := (@Machine.run_iff_sometime _ _ _ machine (·.sessions.Corresponds) (KnownGame gameNodeId) _
    (fun gate input maps => step_corresponds gate input maps) (step_knownGame isGame) start maps is).mp
    ⟨game, target.found, target.registered⟩
  have registered : machine.Sometime (Registers gameNodeId) start is := by
    refine known.resolve_left ?_
    rintro ⟨session, found, registered⟩
    exact absurd (registered.symm.trans (fresh session found)) (by decide)
  have last : machine.latest (heardFrom gameNodeId) start is = some (.beat, game.lastHeartbeatAtUnixMs) ∧
      game.heartbeatTimeoutMs = defaultHeartbeatTimeoutMs := by
    generalize machine.latest (heardFrom gameNodeId) start is = heard at tracks ⊢
    match heard, tracks with
    | none, unregistered => exact absurd (target.registered.symm.trans unregistered) (by decide)
    | some (.registered, now), ⟨_, notReady, _⟩ => exact absurd (target.ready.symm.trans notReady) (by decide)
    | some (.beat, now), ⟨time, timeout⟩ => exact ⟨by rw [time], timeout⟩
  exact ⟨last.1, registered, last.2⟩

/-- **A Gate turns only to Games it heard of.** Over every run: the Game it would
select, and every Game it hands a packet to, is connected, registered and ready, and
the last message accepted from it was a heartbeat. -/
theorem targets_heard {config : ClusterConfig} {self : NodeEntry} {boot : GateBoot} {start : GateNode}
    (init : onInit config self boot = some start) (is : List Input) :
    (∀ env : GateEnv, (machine.run start is).1.toGateContext.resolveAvatarGameNodeId env ≠ [] →
      ∃ game, GateClients.GameChannel (machine.run start is).1.toGateContext
          ((machine.run start is).1.toGateContext.resolveAvatarGameNodeId env) game.routingId game ∧
        HeardLast start is ((machine.run start is).1.toGateContext.resolveAvatarGameNodeId env) game) ∧
      ∀ (input : Input) (routingId packet : Bytes),
        .client (.toGame routingId packet) ∈ ((machine.run start is).1.step input).2 →
        ∃ gameNodeId game, GateClients.GameChannel (machine.run start is).1.toGateContext gameNodeId routingId game ∧
          HeardLast start is gameNodeId game := by
  constructor
  · intro env selected
    obtain ⟨game, available⟩ := GateClients.resolveAvatarGameNodeId_available selected
    have target := GateClients.availableGame_some available
    exact ⟨game, target, heardLast_of_channel init is target⟩
  · intro input routingId packet sent
    obtain ⟨gameNodeId, game, target⟩ := step_targets _ input sent
    exact ⟨gameNodeId, game, target, heardLast_of_channel init is target⟩

/-- The small Gate's client selects its avatar 19 seconds after the Game's heartbeat. -/
def sampleLateSelect : Input :=
  let members := sampleSelectMembers (text "0f8fad5b-d9cb-469f-a165-70867728950e")
  let body := (dump members).getD []
  let message := samplePacket clientSelectAvatarMsgId 1 0 (.ok body : Except Unit Bytes)
  .datagram {
      nowUnixMs := 20000, admissionUnixMs := 20000, laterUnixMs := 20000
      received := [message]
      parseJson := fun content => if content = body then .ok (.object members) else .error [] }
    { host := text "10.0.0.1", port := 40000 } (sampleSegment 0 message)

/-- The event hands a packet to this Game's channel. -/
def handsTo (gameRoutingId : Bytes) : GateEvent → Bool
  | .client (.toGame routingId _) => routingId == gameRoutingId
  | _ => false

theorem handsTo_some {gameRoutingId : Bytes} {event : GateEvent} (h : handsTo gameRoutingId event = true) :
    ∃ packet, event = .client (.toGame gameRoutingId packet) := by
  unfold handsTo at h
  split at h
  · rename_i routingId packet
    exact ⟨packet, by rw [eq_of_beq h]⟩
  · cases h

theorem targets_heard_sample :
    ∃ gameNodeId game, GateClients.GameChannel (machine.run sampleGate sampleLogin).1.toGateContext gameNodeId (text "Game0") game ∧
      HeardLast sampleGate sampleLogin gameNodeId game := by
  have sent : ((machine.run sampleGate sampleLogin).1.step sampleLateSelect).2.any (handsTo (text "Game0")) = true := by
    decide +kernel
  obtain ⟨event, mem, kind⟩ := List.any_eq_true.mp sent
  obtain ⟨packet, rfl⟩ := handsTo_some kind
  exact (targets_heard sampleGate_init sampleLogin).2 sampleLateSelect _ packet mem

/-- The clock of the step. -/
def Input.nowUnixMs : Input → UInt64
  | .connectorState env _ _ => env.nowUnixMs
  | .connectorMessage env _ _ => env.nowUnixMs
  | .gameMessage env _ _ => env.nowUnixMs
  | .heartbeatTimer env => env.nowUnixMs
  | .authLogin env _ => env.nowUnixMs
  | .datagram env _ _ => env.nowUnixMs
  | .removeSession _ => 0
  | .clearRecord _ => 0

/-- Every Game that the step hands a packet to was heard of within its time limit. -/
def TargetsFresh (gate : GateNode) (input : Input) : Prop :=
  ∀ routingId packet, .client (.toGame routingId packet) ∈ (gate.step input).2 →
    ∀ gameNodeId game, GateClients.GameChannel gate.toGateContext gameNodeId routingId game →
      input.nowUnixMs - game.lastHeartbeatAtUnixMs < game.heartbeatTimeoutMs.toUInt64

/-- A Game that has been silent for longer than its time limit gets the new avatar. -/
theorem silent_game_selected : ¬ machine.Along TargetsFresh sampleGate (sampleLogin ++ [sampleLateSelect]) := by
  intro along
  obtain ⟨fresh, -⟩ := along.append.2
  obtain ⟨sent, silent⟩ :
      ((machine.run sampleGate sampleLogin).1.step sampleLateSelect).2.any (handsTo (text "Game0")) = true ∧
        ∃ game ∈ (machine.run sampleGate sampleLogin).1.toGateContext.availableGame (text "Game0"),
          game.routingId = text "Game0" ∧
            ¬ sampleLateSelect.nowUnixMs - game.lastHeartbeatAtUnixMs < game.heartbeatTimeoutMs.toUInt64 := by decide +kernel
  obtain ⟨game, available, channel, stale⟩ := silent
  obtain ⟨event, mem, kind⟩ := List.any_eq_true.mp sent
  obtain ⟨packet, rfl⟩ := handsTo_some kind
  have target := GateClients.availableGame_some available
  rw [channel] at target
  exact stale (fresh _ packet mem (text "Game0") game target)

end GateNode

end XServer.Node
