import XServer.Node.GameMesh

/-!
# The session a Game keeps for one peer

`PeerOp` lists what a Game ever does to the session of a peer, each as the
function that the handlers call; every act is such an operation or leaves the
session alone (`step_peer`). The sequence numbers,
flags and timer of a Gate session agree in every reachable state, a link that is
down leaves nothing of them, and a response is taken only for a request that was
sent since the link last went down (`gate_sessions`).
-/

namespace XServer.Node
open XServer.Lib XServer.Lib.Wire XServer.Net XServer.Core

namespace InnerNetworkSession

theorem consumeNextInnerSequence_ne (session : InnerNetworkSession) : session.consumeNextInnerSequence.1 ≠ 0 := by
  unfold consumeNextInnerSequence
  simp only
  split
  · decide
  · assumption

/-- The packet is a request with this message id and sequence number. -/
def IsRequest (msgId seq : UInt32) (packet : Bytes) : Prop :=
  ∃ header body, decodePacket packet = .ok ⟨header, body⟩ ∧ header.msgId = msgId ∧ header.flags = 0 ∧ header.seq = seq

theorem isRequest_of_send {env : LinkEnv} {target body packet : Bytes} {msgId seq : UInt32}
    (sent : env.send target msgId seq 0 body = some packet) : IsRequest msgId seq packet :=
  ⟨_, _, decodePacket_encodePacket (LinkEnv.send_some sent), rfl, rfl, rfl⟩

/-- What sending a register request leaves: a request in flight under a sequence
number that is not zero, or nothing but a new `nextSeq`. -/
theorem sendRegisterRequest_result (session : InnerNetworkSession) (env : LinkEnv) (target : Bytes)
    (request : RegisterRequest) :
    (∃ seq nextSeq packet, seq ≠ 0 ∧ session.connectionState = .connected ∧ IsRequest innerRegisterMsgId seq packet ∧
      session.sendRegisterRequest env target request =
        ({ session with nextSeq, registerInFlight := true, registerSeq := seq }, some packet)) ∨
    ∃ nextSeq, session.sendRegisterRequest env target request = ({ session with nextSeq }, none) := by
  unfold sendRegisterRequest
  split
  · exact .inr ⟨session.nextSeq, rfl⟩
  · rename_i usable
    rw [not_or, ne_eq, Decidable.not_not] at usable
    split
    · exact .inr ⟨session.nextSeq, rfl⟩
    split
    · exact .inr ⟨session.nextSeq, rfl⟩
    simp only
    split
    · exact .inr ⟨_, rfl⟩
    · rename_i packet sent
      exact .inl ⟨_, _, packet, session.consumeNextInnerSequence_ne, usable.1, isRequest_of_send sent, rfl⟩

/-- What a tick of the heartbeat timer leaves: a heartbeat under a sequence number
that is not zero, or nothing but a new `nextSeq`. -/
theorem heartbeatTick_result (session : InnerNetworkSession) (env : LinkEnv) (target : Bytes) :
    (∃ seq nextSeq packet, seq ≠ 0 ∧ session.connectionState = .connected ∧ session.registered = true ∧
      IsRequest innerHeartbeatMsgId seq packet ∧
      session.heartbeatTick env target = ({ session with nextSeq, heartbeatSeq := seq }, some packet)) ∨
    ∃ nextSeq, session.heartbeatTick env target = ({ session with nextSeq }, none) := by
  unfold heartbeatTick
  split
  · unfold sendHeartbeatRequest
    split
    · exact .inr ⟨session.nextSeq, rfl⟩
    rename_i usable
    simp only [not_or, Bool.not_eq_false, ne_eq, Decidable.not_not] at usable
    split
    · exact .inr ⟨session.nextSeq, rfl⟩
    simp only
    split
    · exact .inr ⟨_, rfl⟩
    · rename_i packet sent
      exact .inl ⟨_, _, packet, session.consumeNextInnerSequence_ne, usable.2.1, usable.1, isRequest_of_send sent, rfl⟩
  · exact .inr ⟨session.nextSeq, rfl⟩

end InnerNetworkSession

namespace GameNode

/-! ## What a step does to one session -/

/-- What a Game does to the session of a peer, with the packet it hands over. The
state of a Gate's link is only set to `Connected`; any other state resets the
session. -/
inductive PeerOp (peer : Bytes) (session : InnerNetworkSession) : InnerNetworkSession → Option Bytes → Prop where
  | link {request : RegisterRequest} {session' : InnerNetworkSession} {packet : Option Bytes}
      (op : LinkOp request peer session session' packet) : PeerOp peer session session' packet
  | state {state : ZmqConnectionState} (passed : peer = gmRemoteNodeId ∨ state = .connected) :
      PeerOp peer session { session with connectionState := state } none
  | reset {state : ZmqConnectionState} (isGate : peer ≠ gmRemoteNodeId) (down : state ≠ .connected) :
      PeerOp peer session (resetGateSession state session) none

/-- A change of a Game as the session of `peer` sees it. -/
inductive PeerChange (peer : Bytes) (game : GameNode) : List GameEvent → GameNode → Prop where
  | apart {events : List GameEvent} {game' : GameNode}
      (same : game'.sessions.findByNodeId peer = game.sessions.findByNodeId peer) : PeerChange peer game events game'
  | op {session session' : InnerNetworkSession} {packet : Option Bytes} {game' : GameNode}
      (found : game.sessions.findByNodeId peer = some session) (op : PeerOp peer session session' packet)
      (now : game'.sessions.findByNodeId peer = some session') :
      PeerChange peer game (GameEvent.sent peer packet) game'

/-- A handler call as a sequence of such changes. -/
def PeerChanges (peer : Bytes) (game : GameNode) (result : GameNode × List GameEvent) : Prop :=
  Steps (PeerChange peer) game result.2 result.1

variable {peer : Bytes}

/-- One session is written: it is the peer's, or the peer's stays as it is. -/
theorem modify_peer {game : GameNode} {other : Bytes} {session : InnerNetworkSession} {packet : Option Bytes}
    {f : InnerNetworkSession → InnerNetworkSession} (found : game.sessions.findByNodeId other = some session)
    (op : PeerOp other session (f session) packet) :
    PeerChange peer game (GameEvent.sent other packet) { game with sessions := game.sessions.modify other f } := by
  by_cases same : other = peer
  · subst same
    refine .op found op ?_
    rw [InnerNetworkSessionManager.findByNodeId_modify, if_pos rfl, found]
    rfl
  · refine .apart ?_
    rw [InnerNetworkSessionManager.findByNodeId_modify, if_neg same]

theorem Opening.peerChange {game game' : GameNode} {input : Input} {events : List GameEvent}
    (opening : Opening game input events game') : PeerChange peer game events game' := by
  cases opening with
  | nothing => exact .apart rfl
  | @state env other state session found passed =>
    exact @modify_peer peer game other session none (fun s => { s with connectionState := state }) found (.state passed)
  | @reset env other state session found isGate down =>
    exact @modify_peer peer game other session none (resetGateSession state) found (.reset isGate down)
  | apply latched brought => exact .apart rfl
  | ready taken => exact .apart rfl

theorem Act.peerChange {origin game game' : GameNode} {input : Input} {events : List GameEvent}
    (act : Act origin input game events game') : PeerChange peer game events game' := by
  cases act with
  | link found op => exact modify_peer found (.link op)
  | online serverNowUnixMs => exact .apart rfl
  | @mesh env looked unlatched complete =>
    rcases game.latch.sendMeshReadyReport_cases env with ⟨packet, -, sent⟩ | unsent
    · rw [sent]
      exact .apart rfl
    · rw [unsent]
      exact .apart rfl
  | report latched complete unreported encoded decoded => exact .apart rfl

/-- **Every input is a sequence of operations** on the session of a peer. -/
theorem step_peer (peer : Bytes) (game : GameNode) (input : Input) : PeerChanges peer game (game.step input) :=
  (step_handled game input).steps (fun _ _ opening => Steps.single opening.peerChange)
    fun _ _ _ act => Steps.single act.peerChange

/-! ## The Gate sessions -/

/-- The flags, sequence numbers and timer of a Gate session. -/
structure GateSession (session : InnerNetworkSession) : Prop where
  down : session.connectionState ≠ .connected → session.registered = false ∧ session.innerNetworkReady = false ∧
    session.registerInFlight = false ∧ session.registerSeq = 0 ∧ session.heartbeatSeq = 0 ∧ session.heartbeatTimerId = 0
  inFlight : session.registerInFlight = true ↔ session.registerSeq ≠ 0
  asking : session.registerInFlight = true → session.registered = false
  beating : session.heartbeatSeq ≠ 0 ∨ session.innerNetworkReady = true → session.registered = true

/-- A timer id is never negative: errors of the timer manager are not stored. -/
def TimerValid (session : InnerNetworkSession) : Prop := 0 ≤ session.heartbeatTimerId

theorem TimerValid.cancel {session : InnerNetworkSession} (valid : TimerValid session) :
    session.cancelHeartbeatTimer = { session with heartbeatTimerId := 0 } := by
  unfold InnerNetworkSession.cancelHeartbeatTimer
  split
  · rfl
  · rename_i none
    have zero : session.heartbeatTimerId = 0 := Int64.le_antisymm (Int64.not_lt.mp none) valid
    rw [← zero]

/-- A timer that is started or restarted changes nothing but the timer's id. -/
theorem TimerValid.start {session : InnerNetworkSession} (valid : TimerValid session) (env : LinkEnv)
    (intervalMs : UInt32) :
    ∃ timer, 0 ≤ timer ∧
      session.startOrResetHeartbeatTimer env intervalMs = { session with heartbeatTimerId := timer } := by
  unfold InnerNetworkSession.startOrResetHeartbeatTimer
  rw [valid.cancel]
  simp only
  split
  · rename_i created
    exact ⟨_, Int64.le_of_lt created, rfl⟩
  · exact ⟨0, Int64.le_refl 0, rfl⟩

/-- A session that awaits a register response: its link is up, and it has neither
a registration nor a heartbeat nor a ready mark. -/
theorem GateSession.awaits {session : InnerNetworkSession} (h : GateSession session) (awaited : session.registerSeq ≠ 0) :
    session.connectionState = .connected ∧ session.registered = false ∧ session.heartbeatSeq = 0 ∧
      session.innerNetworkReady = false := by
  have unregistered := h.asking (h.inFlight.mpr awaited)
  have idle : ¬ (session.heartbeatSeq ≠ 0 ∨ session.innerNetworkReady = true) := by
    intro beating
    rw [h.beating beating] at unregistered
    cases unregistered
  rw [not_or, ne_eq, Decidable.not_not, Bool.not_eq_true] at idle
  refine ⟨?_, unregistered, idle⟩
  by_contra down
  exact awaited (h.down down).2.2.2.1

theorem GateSession.connected {session : InnerNetworkSession} (h : GateSession session)
    (registered : session.registered = true) : session.connectionState = .connected := by
  by_contra down
  rw [(h.down down).1] at registered
  cases registered

/-- A registered session asks for nothing. -/
theorem GateSession.settled {session : InnerNetworkSession} (h : GateSession session)
    (registered : session.registered = true) : session.registerInFlight = false ∧ session.registerSeq = 0 := by
  have none : session.registerInFlight = false := by
    by_contra asking
    rw [Bool.not_eq_false] at asking
    rw [h.asking asking] at registered
    cases registered
  refine ⟨none, ?_⟩
  by_contra awaited
  rw [h.inFlight.mpr awaited] at none
  cases none

theorem registerResponse_sound {session : InnerNetworkSession} (env : GameEnv) (packet : Packet)
    (h : GateSession session) (timer : TimerValid session) :
    GateSession (registerResponse env packet session).1 ∧ TimerValid (registerResponse env packet session).1 := by
  unfold registerResponse
  split
  · exact ⟨h, timer⟩
  rename_i awaited
  simp only [InnerNetworkSession.awaitsRegister, Bool.not_eq_true', Bool.not_eq_false, Bool.and_eq_true, bne_iff_ne,
    ne_eq] at awaited
  obtain ⟨connected, unregistered, unbeaten, unready⟩ := h.awaits awaited.1
  -- refused or not understood: the session is idle again
  have idle : GateSession { session with registerInFlight := false, registerSeq := 0, registered := false } := by
    refine ⟨fun down => absurd connected down, by simp, by simp, fun beating => ?_⟩
    simp [unbeaten, unready] at beating
  simp only
  split
  · exact ⟨idle, timer⟩
  split
  · exact ⟨idle, timer⟩
  · rename_i response _
    have start : TimerValid { ({ session with registerInFlight := false, registerSeq := 0 }).registerSucceeded
        env.toLinkEnv response with innerNetworkReady := false } := timer
    obtain ⟨id, valid, eq⟩ := start.start env.toLinkEnv response.heartbeatIntervalMs
    rw [eq]
    exact ⟨⟨fun down => absurd connected down, by simp [InnerNetworkSession.registerSucceeded],
      by simp [InnerNetworkSession.registerSucceeded], fun _ => rfl⟩, valid⟩

theorem heartbeatResponse_sound {session : InnerNetworkSession} (env : GameEnv) (packet : Packet)
    (h : GateSession session) (timer : TimerValid session) :
    GateSession (heartbeatResponse env packet session).1 ∧ TimerValid (heartbeatResponse env packet session).1 := by
  unfold heartbeatResponse
  split
  · exact ⟨h, timer⟩
  rename_i awaited
  simp only [InnerNetworkSession.awaitsHeartbeat, Bool.not_eq_true', Bool.not_eq_false, Bool.and_eq_true, bne_iff_ne,
    ne_eq] at awaited
  have registered := h.beating (.inl awaited.1)
  have connected := h.connected registered
  obtain ⟨notAsking, noSeq⟩ := h.settled registered
  have beaten : ∀ {session' : InnerNetworkSession}, session'.connectionState = session.connectionState →
      session'.registered = session.registered → session'.registerInFlight = session.registerInFlight →
      session'.registerSeq = session.registerSeq → GateSession session' := by
    intro session' state reg inFlight seq
    refine ⟨fun down => absurd (state.trans connected) down, ?_, fun asking => ?_, fun _ => reg.trans registered⟩
    · rw [inFlight, seq]
      exact h.inFlight
    · rw [inFlight, notAsking] at asking
      cases asking
  simp only
  split
  · exact ⟨beaten rfl rfl rfl rfl, timer⟩
  rename_i response _
  have start : TimerValid { session with
      heartbeatSeq := 0, heartbeatIntervalMs := response.heartbeatIntervalMs
      heartbeatTimeoutMs := response.heartbeatTimeoutMs, lastServerNowUnixMs := response.serverNowUnixMs
      lastHeartbeatAtUnixMs := env.nowUnixMs } := timer
  obtain ⟨id, valid, eq⟩ := start.start env.toLinkEnv response.heartbeatIntervalMs
  unfold InnerNetworkSession.heartbeatSucceeded
  simp only [eq]
  split
  · exact ⟨beaten rfl rfl rfl rfl, valid⟩
  · exact ⟨beaten rfl rfl rfl rfl, timer⟩

theorem LinkOp.sound {request : RegisterRequest} {session session' : InnerNetworkSession} {packet : Option Bytes}
    (op : LinkOp request peer session session' packet) (h : GateSession session) (timer : TimerValid session) :
    GateSession session' ∧ TimerValid session' := by
  cases op with
  | ask env idle =>
    rcases session.sendRegisterRequest_result env peer request with ⟨seq, nextSeq, sent, ne, connected, -, eq⟩ | ⟨nextSeq, eq⟩
    · rw [eq]
      exact ⟨⟨fun down => absurd connected down, ⟨fun _ => ne, fun _ => rfl⟩, fun _ => idle.1, h.beating⟩, timer⟩
    · rw [eq]
      exact ⟨⟨h.down, h.inFlight, h.asking, h.beating⟩, timer⟩
  | tick env =>
    rcases session.heartbeatTick_result env peer with ⟨seq, nextSeq, sent, ne, connected, registered, -, eq⟩ | ⟨nextSeq, eq⟩
    · rw [eq]
      exact ⟨⟨fun down => absurd connected down, h.inFlight, h.asking, fun _ => registered⟩, timer⟩
    · rw [eq]
      exact ⟨⟨h.down, h.inFlight, h.asking, h.beating⟩, timer⟩
  | registerResponse env packet => exact registerResponse_sound env packet h timer
  | heartbeatResponse env packet => exact heartbeatResponse_sound env packet h timer

/-- Every operation on a Gate's session keeps it sound. -/
theorem PeerOp.sound {session session' : InnerNetworkSession} {packet : Option Bytes}
    (op : PeerOp peer session session' packet) (isGate : peer ≠ gmRemoteNodeId) (h : GateSession session)
    (timer : TimerValid session) : GateSession session' ∧ TimerValid session' := by
  cases op with
  | link op => exact op.sound h timer
  | state passed =>
    have up := passed.resolve_left isGate
    exact ⟨⟨fun down => absurd up down, h.inFlight, h.asking, h.beating⟩, timer⟩
  | reset _ down =>
    unfold resetGateSession
    rw [timer.cancel]
    exact ⟨⟨fun _ => ⟨rfl, rfl, rfl, rfl, rfl, rfl⟩, by simp, by simp, by simp⟩, Int64.le_refl 0⟩

/-- What every operation on the peer's session keeps. -/
theorem PeerChange.keeps {P : InnerNetworkSession → Prop} {game game' : GameNode} {events : List GameEvent}
    (change : PeerChange peer game events game')
    (keeps : ∀ session session' packet, PeerOp peer session session' packet → P session → P session')
    (h : AtPeer P peer game) : AtPeer P peer game' := by
  intro session found
  cases change with
  | apart same => exact h session (same ▸ found)
  | op held op now =>
    rw [now] at found
    cases found
    exact keeps _ _ _ op (h _ held)

theorem step_sound (isGate : peer ≠ gmRemoteNodeId) (game : GameNode) (input : Input)
    (h : AtPeer (fun session => GateSession session ∧ TimerValid session) peer game) :
    AtPeer (fun session => GateSession session ∧ TimerValid session) peer (game.step input).1 :=
  Steps.invariant (fun _ _ _ h change => change.keeps (fun _ _ _ op h => op.sound isGate h.1 h.2) h)
    (step_peer peer game input) h

/-! ## Responses across a drop -/

/-- A request with this message id and sequence number was handed to the peer. -/
def Requested (events : List GameEvent) (peer : Bytes) (msgId seq : UInt32) : Prop :=
  ∃ packet, .send peer packet ∈ events ∧ InnerNetworkSession.IsRequest msgId seq packet

theorem Requested.mono {events : List GameEvent} {msgId seq : UInt32} (h : Requested events peer msgId seq)
    (more : List GameEvent) : Requested (events ++ more) peer msgId seq := by
  obtain ⟨packet, sent, request⟩ := h
  exact ⟨packet, List.mem_append_left _ sent, request⟩

theorem requested_sent {msgId seq : UInt32} {packet : Bytes} (request : InnerNetworkSession.IsRequest msgId seq packet)
    (events : List GameEvent) : Requested (events ++ GameEvent.sent peer (some packet)) peer msgId seq :=
  ⟨packet, List.mem_append_right _ (List.mem_singleton_self _), request⟩

/-- The requests that a session awaits an answer to are among these events. -/
structure AwaitsSent (peer : Bytes) (events : List GameEvent) (session : InnerNetworkSession) : Prop where
  register : session.registerSeq ≠ 0 → Requested events peer innerRegisterMsgId session.registerSeq
  heartbeat : session.heartbeatSeq ≠ 0 → Requested events peer innerHeartbeatMsgId session.heartbeatSeq

/-- A session that awaits no more than before. -/
theorem AwaitsSent.less {events : List GameEvent} {session session' : InnerNetworkSession}
    (h : AwaitsSent peer events session) (more : List GameEvent)
    (register : session'.registerSeq = session.registerSeq ∨ session'.registerSeq = 0)
    (heartbeat : session'.heartbeatSeq = session.heartbeatSeq ∨ session'.heartbeatSeq = 0) :
    AwaitsSent peer (events ++ more) session' := by
  refine ⟨fun awaited => ?_, fun awaited => ?_⟩
  · have same := register.resolve_right awaited
    rw [same] at awaited ⊢
    exact (h.register awaited).mono more
  · have same := heartbeat.resolve_right awaited
    rw [same] at awaited ⊢
    exact (h.heartbeat awaited).mono more

theorem registerResponse_seqs (env : GameEnv) (packet : Packet) (session : InnerNetworkSession) :
    ((registerResponse env packet session).1.registerSeq = session.registerSeq ∨
        (registerResponse env packet session).1.registerSeq = 0) ∧
      ((registerResponse env packet session).1.heartbeatSeq = session.heartbeatSeq ∨
        (registerResponse env packet session).1.heartbeatSeq = 0) := by
  unfold registerResponse
  split
  · exact ⟨.inl rfl, .inl rfl⟩
  simp only
  split
  · exact ⟨.inr rfl, .inl rfl⟩
  split
  · exact ⟨.inr rfl, .inl rfl⟩
  · rename_i response _
    have timer := InnerNetworkSession.startOrResetHeartbeatTimer_link
      { ({ session with registerInFlight := false, registerSeq := 0 }).registerSucceeded env.toLinkEnv response with
        innerNetworkReady := false } env.toLinkEnv response.heartbeatIntervalMs
    exact ⟨.inr timer.seq, .inr timer.beats⟩

theorem heartbeatResponse_seqs (env : GameEnv) (packet : Packet) (session : InnerNetworkSession) :
    (heartbeatResponse env packet session).1.registerSeq = session.registerSeq ∧
      ((heartbeatResponse env packet session).1.heartbeatSeq = session.heartbeatSeq ∨
        (heartbeatResponse env packet session).1.heartbeatSeq = 0) := by
  unfold heartbeatResponse
  split
  · exact ⟨rfl, .inl rfl⟩
  simp only
  split
  · exact ⟨rfl, .inr rfl⟩
  · rename_i response _
    have same := InnerNetworkSession.heartbeatSucceeded_link { session with heartbeatSeq := 0 } env.toLinkEnv response
    exact ⟨same.seq, .inr same.beats⟩

theorem LinkOp.awaitsSent {request : RegisterRequest} {session session' : InnerNetworkSession} {packet : Option Bytes}
    (op : LinkOp request peer session session' packet) {events : List GameEvent} (h : AwaitsSent peer events session) :
    AwaitsSent peer (events ++ GameEvent.sent peer packet) session' := by
  cases op with
  | ask env idle =>
    rcases session.sendRegisterRequest_result env peer request with ⟨seq, nextSeq, sent, -, -, isRequest, eq⟩ | ⟨nextSeq, eq⟩
    · rw [eq]
      exact ⟨fun _ => requested_sent isRequest events, fun awaited => (h.heartbeat awaited).mono _⟩
    · rw [eq]
      exact h.less _ (.inl rfl) (.inl rfl)
  | tick env =>
    rcases session.heartbeatTick_result env peer with ⟨seq, nextSeq, sent, -, -, -, isRequest, eq⟩ | ⟨nextSeq, eq⟩
    · rw [eq]
      exact ⟨fun awaited => (h.register awaited).mono _, fun _ => requested_sent isRequest events⟩
    · rw [eq]
      exact h.less _ (.inl rfl) (.inl rfl)
  | registerResponse env packet =>
    have seqs := registerResponse_seqs env packet session
    exact h.less _ seqs.1 seqs.2
  | heartbeatResponse env packet =>
    have seqs := heartbeatResponse_seqs env packet session
    exact h.less _ (.inl seqs.1) seqs.2

theorem PeerOp.awaitsSent {session session' : InnerNetworkSession} {packet : Option Bytes}
    (op : PeerOp peer session session' packet) {events : List GameEvent} (h : AwaitsSent peer events session) :
    AwaitsSent peer (events ++ GameEvent.sent peer packet) session' := by
  cases op with
  | link op => exact op.awaitsSent h
  | state passed => exact h.less _ (.inl rfl) (.inl rfl)
  | reset isGate down => exact h.less _ (.inr rfl) (.inr rfl)

theorem step_awaitsSent (game : GameNode) (events : List GameEvent) (input : Input)
    (h : AtPeer (AwaitsSent peer events) peer game) :
    AtPeer (AwaitsSent peer (events ++ (game.step input).2)) peer (game.step input).1 := by
  refine @Steps.trace _ _ _ (fun s t => AtPeer (AwaitsSent peer t) peer s) (fun s t es u inv change => ?_) _ _ events _
    (step_peer peer game input) h
  intro session found
  cases change with
  | apart same => exact (inv session (same ▸ found)).less es (.inl rfl) (.inl rfl)
  | op held op now =>
    rw [now] at found
    cases found
    exact op.awaitsSent (inv _ held)

/-- A response that changes a session is the one that the session awaits. -/
theorem responseOf_awaited {env : GameEnv} {packet : Packet} {response : InnerNetworkSession → InnerNetworkSession × Bool}
    {session : InnerNetworkSession} (taken : responseOf env packet = some response)
    (changed : response session ≠ (session, false)) :
    packet.header.msgId = innerRegisterMsgId ∧ session.awaitsRegister packet.header.seq = true ∨
      packet.header.msgId = innerHeartbeatMsgId ∧ session.awaitsHeartbeat packet.header.seq = true := by
  unfold responseOf at taken
  split at taken
  · cases taken
  split at taken
  · rename_i isRegister
    split at taken
    · cases taken
      refine .inl ⟨isRegister, ?_⟩
      by_contra other
      apply changed
      unfold registerResponse
      rw [if_pos (by simp [other])]
    · cases taken
  split at taken
  · rename_i isHeartbeat
    split at taken
    · cases taken
      refine .inr ⟨isHeartbeat, ?_⟩
      by_contra other
      apply changed
      unfold heartbeatResponse
      rw [if_pos (by simp [other])]
    · cases taken
  · cases taken

/-- A Gate's message that changes the session of the Gate is the response that the
session awaits. -/
theorem gateMessage_awaited {game : GameNode} {env : GameEnv} {gate payload : Bytes} (isGate : gate ≠ gmRemoteNodeId)
    (changed : (game.step (.connectorMessage env gate payload)).1.sessions.findByNodeId gate ≠
      game.sessions.findByNodeId gate) :
    ∃ session packet, game.sessions.findByNodeId gate = some session ∧ decodePacket payload = .ok packet ∧
      (packet.header.msgId = innerRegisterMsgId ∧ session.awaitsRegister packet.header.seq = true ∨
        packet.header.msgId = innerHeartbeatMsgId ∧ session.awaitsHeartbeat packet.header.seq = true) := by
  simp only [step, handleConnectorMessage, if_neg isGate, handleGateMessage_eq] at changed
  split at changed
  · exact absurd rfl changed
  rename_i response taken
  obtain ⟨packet, decoded, isResponse⟩ := Option.bind_eq_some_iff.mp taken
  cases found : game.sessions.findByNodeId gate with
  | none => simp [updateSession, found] at changed
  | some session =>
    refine ⟨session, packet, rfl, ok_of_toOption decoded, responseOf_awaited isResponse fun same => changed ?_⟩
    -- a response that leaves the session as it is changes nothing
    unfold updateSession
    rw [found]
    simp only [same, Bool.false_and, Bool.false_eq_true, if_false]
    rw [InnerNetworkSessionManager.findByNodeId_modify, if_pos rfl, found]
    rfl

/-- In the run `js` from this state, a message of the Gate changes the Gate's
session only as the response to a request of that run. -/
def AppliesRequested (gate : Bytes) (game : GameNode) (js : List Input) : Prop :=
  ∀ env payload,
    ((machine.run game js).1.step (.connectorMessage env gate payload)).1.sessions.findByNodeId gate ≠
      (machine.run game js).1.sessions.findByNodeId gate →
    ∃ packet, decodePacket payload = .ok packet ∧
      Requested (machine.run game js).2 gate packet.header.msgId packet.header.seq

theorem appliesRequested_of_reset {game : GameNode} {gate : Bytes} (isGate : gate ≠ gmRemoteNodeId)
    (reset : AtPeer (fun session => session.registerSeq = 0 ∧ session.heartbeatSeq = 0) gate game) (js : List Input) :
    AppliesRequested gate game js := by
  intro env payload changed
  have start : AtPeer (AwaitsSent gate []) gate game := by
    intro session found
    obtain ⟨noRegister, noHeartbeat⟩ := reset session found
    exact ⟨fun awaited => absurd noRegister awaited, fun awaited => absurd noHeartbeat awaited⟩
  have sent : AtPeer (AwaitsSent gate ([] ++ (machine.run game js).2)) gate (machine.run game js).1 :=
    @Machine.run_trace _ _ _ machine (fun s t => AtPeer (AwaitsSent gate t) gate s)
      (fun s t i h => step_awaitsSent s t i h) _ _ start js
  obtain ⟨session, packet, found, decoded, applied⟩ := gateMessage_awaited isGate changed
  refine ⟨packet, decoded, ?_⟩
  rcases applied with ⟨isRegister, awaited⟩ | ⟨isHeartbeat, awaited⟩
  · simp only [InnerNetworkSession.awaitsRegister, Bool.and_eq_true, bne_iff_ne, ne_eq, beq_iff_eq] at awaited
    rw [isRegister, awaited.2]
    exact (sent session found).register awaited.1
  · simp only [InnerNetworkSession.awaitsHeartbeat, Bool.and_eq_true, bne_iff_ne, ne_eq, beq_iff_eq] at awaited
    rw [isHeartbeat, awaited.2]
    exact (sent session found).heartbeat awaited.1

/-- **The Gate sessions of a Game**, in every run: flags, sequence numbers and timer
agree, and whatever happens after the link of the Gate went down, a message of the
Gate is taken only as the response to a request that was sent since then. -/
theorem gate_sessions {config : ClusterConfig} {self : NodeEntry} {boot : NodeBoot} {game : GameNode}
    (init : onInit config self boot = some game) {gate : Bytes} (listed : gate ∈ config.gateNodeIds) (is : List Input) :
    AtPeer GateSession gate (machine.run game is).1 ∧
      ∀ env state js, state ≠ .connected →
        AppliesRequested gate (machine.run game (is ++ [.connectorState env gate state])).1 js := by
  have isGate : gate ≠ gmRemoteNodeId := fun isGm => gm_not_gate config (isGm ▸ listed)
  have sound : ∀ is, AtPeer (fun session => GateSession session ∧ TimerValid session) gate (machine.run game is).1 := by
    intro is
    refine Machine.run_invariant (fun s i h _ => step_sound isGate s i h) ?_ (Machine.along_true game is)
    refine onInit_sessions init (fun r unready => ⟨⟨fun _ => ?_, ?_, ?_, ?_⟩, Int64.le_refl 0⟩) gate
    · exact ⟨rfl, unready, rfl, rfl, rfl, rfl⟩
    · simp [InnerNetworkSessionRegistration.toSession]
    · simp [InnerNetworkSessionRegistration.toSession]
    · simp [InnerNetworkSessionRegistration.toSession, unready]
  refine ⟨fun session found => (sound is session found).1, fun env state js down => ?_⟩
  refine appliesRequested_of_reset isGate (fun session found => ?_) js
  have states : session.connectionState = state := by
    rw [Machine.run_append] at found
    simp only [Machine.run, machine, step, handleConnectorStateChanged, if_neg isGate,
      handleGateConnectionStateChanged] at found
    split at found
    · rename_i none
      rw [none] at found
      cases found
    · rw [if_pos down, InnerNetworkSessionManager.findByNodeId_modify, if_pos rfl] at found
      obtain ⟨before, -, rfl⟩ := Option.map_eq_some_iff.mp found
      rfl
  obtain ⟨-, -, -, noRegister, noHeartbeat, -⟩ := (sound _ session found).1.down (states ▸ down)
  exact ⟨noRegister, noHeartbeat⟩

/-- The small Game's Gate link goes down and comes up again: the session asks under
a new sequence number. -/
theorem gate_sessions_sample :
    AtPeer GateSession (text "Gate0") (machine.run sampleGame sampleMeshed).1 ∧
      AppliesRequested (text "Gate0")
        (machine.run sampleGame (sampleMeshed ++ [.connectorState {} (text "Gate0") .disconnected])).1
        [.connectorState {} (text "Gate0") .connected] ∧
      ((machine.run sampleGame (sampleMeshed ++ [.connectorState {} (text "Gate0") .disconnected,
        .connectorState {} (text "Gate0") .connected])).1.sessions.findByNodeId (text "Gate0")).map (·.registerSeq) =
          some 3 := by
  have listed : text "Gate0" ∈ sampleConfig.gateNodeIds := by decide +kernel
  obtain ⟨sound, applies⟩ := gate_sessions sampleGame_init listed sampleMeshed
  exact ⟨sound, applies {} .disconnected _ (by decide), by decide +kernel⟩

end GameNode

end XServer.Node
