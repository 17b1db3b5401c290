import XServer.Lib.Mail
import XServer.Node.Cluster
import XServer.Node.GamePeer

/-!
# Heartbeats over a network that loses packets

A Game or Gate that sent a heartbeat sends no other one before the answer is there:
the tick of the timer does nothing while the session has an outstanding sequence
number. So the heartbeats of a session go on exactly as long as every one of them
is answered. In a run in which no awaited heartbeat or answer is lost and every
awaited heartbeat that arrives is answered, an outstanding number always has its
packet in flight (`heartbeats_survive`).
-/

namespace XServer.Node
open XServer.Lib XServer.Lib.Wire XServer.Net XServer.Core

/-! ## Packets -/

/-- The sequence number of a heartbeat, as the receiver of a channel reads it. -/
def heartbeatRequestSeq (routingId payload : Bytes) : Option UInt32 :=
  (GmNode.heartbeatRequestOf routingId payload).map (·.1.header.seq)

/-- The sequence number of the answer to a heartbeat. -/
def heartbeatResponseSeq (payload : Bytes) : Option UInt32 := do
  let packet ← (decodePacket payload).toOption
  guard (packet.header.msgId = innerHeartbeatMsgId ∧ packet.header.flags = kResponseFlags)
  some packet.header.seq

theorem heartbeatResponseSeq_some {payload : Bytes} {seq : UInt32} (h : heartbeatResponseSeq payload = some seq) :
    ∃ packet, decodePacket payload = .ok packet ∧ packet.header.msgId = innerHeartbeatMsgId ∧
      packet.header.flags = kResponseFlags ∧ packet.header.seq = seq := by
  simp only [heartbeatResponseSeq, Option.bind_eq_bind, Option.bind_eq_some_iff, Option.guard_eq_some'] at h
  obtain ⟨packet, decoded, _, ⟨kind, flags⟩, same⟩ := h
  exact ⟨packet, ok_of_toOption decoded, kind, flags, Option.some.inj same⟩

/-- An answer as the GM and the Gates encode it. -/
theorem heartbeatResponseSeq_encode {body packet : Bytes} {seq : UInt32} {capacity : Nat}
    (encoded : encodePacket (makePacketHeader innerHeartbeatMsgId seq flagResponse (UInt32.ofNat body.length)) body
      capacity = .ok packet) : heartbeatResponseSeq packet = some seq := by
  simp [heartbeatResponseSeq, decodePacket_encodePacket encoded, Except.toOption, makePacketHeader, kResponseFlags]

/-- The packet is a heartbeat with this sequence number on every channel. -/
def HeartbeatPacket (seq : UInt32) (packet : Bytes) : Prop :=
  ∀ routingId, routingId ≠ [] → heartbeatRequestSeq routingId packet = some seq

theorem heartbeatPacket_encode {m : HeartbeatRequest} (valid : validateHeartbeatRequest m = .ok ()) {seq : UInt32}
    (started : seq ≠ 0) {packet : Bytes} {capacity : Nat}
    (encoded : encodePacket (makePacketHeader innerHeartbeatMsgId seq 0
      (UInt32.ofNat (heartbeatRequestBytes m).length)) (heartbeatRequestBytes m) capacity = .ok packet) :
    HeartbeatPacket seq packet := by
  intro routingId named
  have flags : isValidPacketFlags 0 = true := by decide
  simp [heartbeatRequestSeq, GmNode.heartbeatRequestOf, named, readRawHeader_encodePacket encoded,
    decodePacket_encodePacket encoded, Except.toOption, makePacketHeader, decodeHeartbeatRequest_bytes valid,
    flags, packetSeqNone, started]

namespace InnerNetworkSession

theorem heartbeat_valid (now : UInt64) : validateHeartbeatRequest ⟨now, 0, ⟨0, 0, 0, 0, 0⟩⟩ = .ok () := rfl

/-- A tick keeps the outstanding number, or it hands over a heartbeat with a new one. -/
theorem heartbeatTick_outcome (session : InnerNetworkSession) (env : LinkEnv) (target : Bytes) :
    (session.heartbeatTick env target).1.heartbeatSeq = session.heartbeatSeq ∨
      ∃ packet, (session.heartbeatTick env target).2 = some packet ∧
        HeartbeatPacket (session.heartbeatTick env target).1.heartbeatSeq packet := by
  unfold heartbeatTick
  split
  · unfold sendHeartbeatRequest
    rw [encodeHeartbeatRequest_ok (heartbeat_valid env.nowUnixMs)]
    split
    · exact .inl rfl
    simp only
    split
    · exact .inl rfl
    · rename_i packet sent
      exact .inr ⟨packet, rfl, heartbeatPacket_encode (heartbeat_valid _) session.consumeNextInnerSequence_ne
        (LinkEnv.send_some sent)⟩
  · exact .inl rfl

/-- A session that may send heartbeats and waits for none hands one over at the next
tick, under its next sequence number. -/
theorem heartbeatTick_sends {session : InnerNetworkSession} (env : LinkEnv) (target : Bytes)
    (timer : session.heartbeatTimerId > 0) (registered : session.registered = true)
    (connected : session.connectionState = .connected) (idle : session.heartbeatSeq = 0) :
    ∃ packet, HeartbeatPacket session.consumeNextInnerSequence.1 packet ∧
      (env.sendOk target packet = true → (session.heartbeatTick env target).2 = some packet) := by
  have body : (heartbeatRequestBytes ⟨env.nowUnixMs, 0, ⟨0, 0, 0, 0, 0⟩⟩).length ≤ 4294967295 := by
    simp [heartbeatRequestBytes, loadSnapshotBytes]
  have encoded := @encodePacket_make innerHeartbeatMsgId session.consumeNextInnerSequence.1 0 _ (by decide) body
  generalize headerBytes _ ++ heartbeatRequestBytes _ = packet at encoded
  refine ⟨packet, heartbeatPacket_encode (heartbeat_valid env.nowUnixMs) session.consumeNextInnerSequence_ne encoded,
    fun takes => ?_⟩
  have sent : env.send target innerHeartbeatMsgId session.consumeNextInnerSequence.1 0
      (heartbeatRequestBytes ⟨env.nowUnixMs, 0, ⟨0, 0, 0, 0, 0⟩⟩) = some packet := by
    unfold LinkEnv.send
    rw [encoded]
    exact if_pos takes
  unfold heartbeatTick sendHeartbeatRequest
  rw [if_pos timer, if_neg (by simp [registered, connected, idle]),
    encodeHeartbeatRequest_ok (heartbeat_valid env.nowUnixMs)]
  simp only [sent]

/-- The session waits for the answer to a heartbeat that it waited for before, or
to one that was handed over since. -/
def AwaitsHeartbeat (before : Option InnerNetworkSession) (handed : Bytes → Prop) (session' : InnerNetworkSession) : Prop :=
  session'.heartbeatSeq ≠ 0 →
    (∃ session, before = some session ∧ session.heartbeatSeq = session'.heartbeatSeq) ∨
      ∃ packet, handed packet ∧ HeartbeatPacket session'.heartbeatSeq packet

variable {before : Option InnerNetworkSession} {handed handed' : Bytes → Prop} {session session' : InnerNetworkSession}

theorem AwaitsHeartbeat.start (session : InnerNetworkSession) : AwaitsHeartbeat (some session) handed session :=
  fun _ => .inl ⟨session, rfl, rfl⟩

/-- A change that keeps the outstanding number, ends the wait or hands over a new heartbeat. -/
theorem AwaitsHeartbeat.next (h : AwaitsHeartbeat before handed session) (more : ∀ packet, handed packet → handed' packet)
    (change : session'.heartbeatSeq = session.heartbeatSeq ∨ session'.heartbeatSeq = 0 ∨
      ∃ sent, handed' sent ∧ HeartbeatPacket session'.heartbeatSeq sent) : AwaitsHeartbeat before handed' session' := by
  intro outstanding
  rcases change with same | none | sent
  · rw [same] at outstanding ⊢
    rcases h outstanding with origin | ⟨packet, sent, beats⟩
    · exact .inl origin
    · exact .inr ⟨packet, more packet sent, beats⟩
  · exact absurd none outstanding
  · exact .inr sent

end InnerNetworkSession

/-! ## The client side in a Game -/

namespace GameNode

theorem PeerOp.heartbeatSeq {peer : Bytes} {session session' : InnerNetworkSession} {packet : Option Bytes}
    (op : PeerOp peer session session' packet) :
    session'.heartbeatSeq = session.heartbeatSeq ∨ session'.heartbeatSeq = 0 ∨
      ∃ sent, packet = some sent ∧ HeartbeatPacket session'.heartbeatSeq sent := by
  cases op with
  | link op =>
    cases op with
    | ask env idle =>
      rcases session.sendRegisterRequest_result env peer _ with ⟨seq, nextSeq, sent, -, -, -, eq⟩ | ⟨nextSeq, eq⟩
      · rw [eq]
        exact .inl rfl
      · rw [eq]
        exact .inl rfl
    | tick env =>
      rcases session.heartbeatTick_outcome env peer with same | sent
      · exact .inl same
      · exact .inr (.inr sent)
    | registerResponse env packet =>
      rcases (registerResponse_seqs env packet session).2 with same | none
      · exact .inl same
      · exact .inr (.inl none)
    | heartbeatResponse env packet =>
      rcases (heartbeatResponse_seqs env packet session).2 with same | none
      · exact .inl same
      · exact .inr (.inl none)
  | state passed => exact .inl rfl
  | reset isGate down => exact .inr (.inl rfl)

theorem step_awaitsHeartbeat (peer : Bytes) (game : GameNode) (input : Input) :
    AtPeer (InnerNetworkSession.AwaitsHeartbeat (game.sessions.findByNodeId peer)
      fun packet => .send peer packet ∈ (game.step input).2) peer (game.step input).1 := by
  refine @Steps.trace _ _ _ (fun s t => AtPeer (InnerNetworkSession.AwaitsHeartbeat (game.sessions.findByNodeId peer)
    fun packet => .send peer packet ∈ t) peer s) (fun s t es u inv change => ?_) _ _ [] _ (step_peer peer game input)
    fun session found => by rw [found]; exact .start session
  intro session found
  have more : ∀ packet, .send peer packet ∈ t → .send peer packet ∈ t ++ es := fun _ => List.mem_append_left _
  cases change with
  | apart same => exact (inv session (same ▸ found)).next more (.inl rfl)
  | op held op now =>
    rw [now] at found
    cases found
    refine (inv _ held).next more ?_
    rcases op.heartbeatSeq with same | none | ⟨sent, rfl, beats⟩
    · exact .inl same
    · exact .inr (.inl none)
    · exact .inr (.inr ⟨sent, List.mem_append_right _ (List.mem_singleton_self _), beats⟩)

theorem heartbeatResponse_answered {env : GameEnv} {packet : Packet} {session : InnerNetworkSession}
    (outstanding : session.heartbeatSeq ≠ 0) (answer : packet.header.seq = session.heartbeatSeq) :
    (heartbeatResponse env packet session).1.heartbeatSeq = 0 := by
  unfold heartbeatResponse
  rw [if_neg (by simp [InnerNetworkSession.awaitsHeartbeat, outstanding, answer])]
  simp only
  split
  · rfl
  · rename_i response _
    exact (InnerNetworkSession.heartbeatSucceeded_link { session with heartbeatSeq := 0 } env.toLinkEnv response).beats

theorem updateSession_found {game : GameNode} {peer : Bytes} {session : InnerNetworkSession}
    (found : game.sessions.findByNodeId peer = some session) (f : InnerNetworkSession → InnerNetworkSession × Bool) :
    (game.updateSession peer f).1.sessions.findByNodeId peer = some (f session).1 := by
  unfold updateSession
  rw [found]
  simp only [InnerNetworkSessionManager.findByNodeId_modify, if_pos, found, Option.map_some]

theorem checkAllLocalStubsReady_sessions (game : GameNode) (env : GameEnv) :
    (game.checkAllLocalStubsReady env).1.sessions = game.sessions := by
  unfold checkAllLocalStubsReady
  split
  · rfl
  split
  · rfl
  split
  · rfl
  unfold sendServiceReadyReport
  split
  · rfl
  simp only
  split
  · rfl
  split
  · rfl
  split
  · rfl
  · rfl

theorem checkMesh_sessions (game : GameNode) (env : GameEnv) : (game.checkMesh env).1.sessions = game.sessions := by
  unfold checkMesh
  split
  · unfold onAllGateConnected
    split
    · rfl
    · rcases game.latch.sendMeshReadyReport_cases env with ⟨packet, -, sent⟩ | unsent
      · exact (checkAllLocalStubsReady_sessions _ env).trans (congrArg (fun result => result.1.sessions) sent)
      · exact (checkAllLocalStubsReady_sessions _ env).trans (congrArg (fun result => result.1.sessions) unsent)
  · rfl

/-- The answer to the outstanding heartbeat ends the wait. -/
theorem step_heartbeatAnswered {game : GameNode} {peer payload : Bytes} {session : InnerNetworkSession} (env : GameEnv)
    (found : game.sessions.findByNodeId peer = some session) (outstanding : session.heartbeatSeq ≠ 0)
    (answer : heartbeatResponseSeq payload = some session.heartbeatSeq) :
    AtPeer (·.heartbeatSeq = 0) peer (game.step (.connectorMessage env peer payload)).1 := by
  obtain ⟨packet, decoded, kind, flags, seq⟩ := heartbeatResponseSeq_some answer
  have named : packet.header.seq ≠ packetSeqNone := by
    rw [seq]
    exact outstanding
  have notRegister : packet.header.msgId ≠ innerRegisterMsgId := by
    rw [kind]
    decide
  have zero := @heartbeatResponse_answered env packet session outstanding seq
  have written := updateSession_found found (heartbeatResponse env packet)
  intro session' found'
  by_cases isGm : peer = gmRemoteNodeId
  · subst isGm
    have notNotify : packet.header.msgId ≠ innerClusterNodesOnlineNotifyMsgId := by
      rw [kind]
      decide
    have notSync : packet.header.msgId ≠ innerServerStubOwnershipSyncMsgId := by
      rw [kind]
      decide
    have notRelay : packet.header.msgId ≠ relayForwardMailboxCallMsgId := by
      rw [kind]
      decide
    simp only [step, handleConnectorMessage, if_true, handleGmMessage, decoded, if_neg notNotify, if_neg notSync,
      if_neg notRelay, dispatchResponse, if_neg named, if_neg notRegister, if_pos kind, if_pos flags,
      handleHeartbeatResponse] at found'
    rw [written] at found'
    cases found'
    exact zero
  · have response : (decodePacket payload).toOption.bind (responseOf env) = some (heartbeatResponse env packet) := by
      simp only [decoded, Except.toOption, Option.bind_some, responseOf, if_neg named, if_neg notRegister, if_pos kind,
        if_pos flags]
    simp only [step, handleConnectorMessage, if_neg isGm, handleGateMessage_eq, response] at found'
    split at found'
    · rw [checkMesh_sessions, written] at found'
      cases found'
      exact zero
    · rw [written] at found'
      cases found'
      exact zero

end GameNode

/-! ## The client side in a Gate -/

namespace GateNode

theorem registerResponse_heartbeatSeq (env : GateEnv) (packet : Packet) (session : InnerNetworkSession) :
    (registerResponse env packet session).heartbeatSeq = session.heartbeatSeq ∨
      (registerResponse env packet session).heartbeatSeq = 0 := by
  unfold registerResponse
  split
  · exact .inl rfl
  simp only
  split
  · split
    · exact .inl rfl
    · exact .inl rfl
  split
  · exact .inl rfl
  · rename_i response _
    have timer := InnerNetworkSession.startOrResetHeartbeatTimer_link
      (({ session with registerInFlight := false, registerSeq := 0 }).registerSucceeded env.toLinkEnv response)
      env.toLinkEnv response.heartbeatIntervalMs
    exact .inr timer.beats

theorem heartbeatResponse_heartbeatSeq (env : GateEnv) (packet : Packet) (session : InnerNetworkSession) :
    (heartbeatResponse env packet session).heartbeatSeq =
      if session.awaitsHeartbeat packet.header.seq = true then 0 else session.heartbeatSeq := by
  unfold heartbeatResponse
  cases awaited : session.awaitsHeartbeat packet.header.seq with
  | false => rfl
  | true =>
    simp only [Bool.not_true, Bool.false_eq_true, if_false, if_true]
    split
    · rfl
    · rename_i response _
      exact (InnerNetworkSession.heartbeatSucceeded_link { session with heartbeatSeq := 0 } env.toLinkEnv response).beats

theorem GmOp.heartbeatSeq {request : RegisterRequest} {session session' : InnerNetworkSession} {packet : Option Bytes}
    (op : GmOp request session session' packet) :
    session'.heartbeatSeq = session.heartbeatSeq ∨ session'.heartbeatSeq = 0 ∨
      ∃ sent, packet = some sent ∧ HeartbeatPacket session'.heartbeatSeq sent := by
  cases op with
  | ask env =>
    rcases session.sendRegisterRequest_result env gmRemoteNodeId request with ⟨seq, nextSeq, sent, -, -, -, eq⟩ | ⟨nextSeq, eq⟩
    · rw [eq]
      exact .inl rfl
    · rw [eq]
      exact .inl rfl
  | tick env =>
    rcases session.heartbeatTick_outcome env gmRemoteNodeId with same | sent
    · exact .inl same
    · exact .inr (.inr sent)
  | registerResponse env packet =>
    rcases registerResponse_heartbeatSeq env packet session with same | none
    · exact .inl same
    · exact .inr (.inl none)
  | heartbeatResponse env packet =>
    rw [heartbeatResponse_heartbeatSeq]
    split
    · exact .inr (.inl rfl)
    · exact .inl rfl
  | state state => exact .inl rfl
  | reset => exact .inr (.inl rfl)

theorem Act.gmSession {input : Input} {gate gate' : GateNode} {events : List GateEvent} (act : Act input gate events gate')
    {session' : InnerNetworkSession} (found : gate'.sessions.findByNodeId gmRemoteNodeId = some session') :
    ∃ session, gate.sessions.findByNodeId gmRemoteNodeId = some session ∧
      (session'.heartbeatSeq = session.heartbeatSeq ∨ session'.heartbeatSeq = 0 ∨
        ∃ sent, .toGm sent ∈ events ∧ HeartbeatPacket session'.heartbeatSeq sent) := by
  cases act with
  | clients result => exact ⟨session', found, .inl rfl⟩
  | notify arrived kind =>
    rw [handleClusterReadyNotify_sessions] at found
    exact ⟨session', found, .inl rfl⟩
  | gm filed op =>
    rw [InnerNetworkSessionManager.findByNodeId_modify, if_pos rfl, filed] at found
    cases found
    refine ⟨_, filed, ?_⟩
    rcases op.heartbeatSeq with same | none | ⟨sent, rfl, beats⟩
    · exact .inl same
    · exact .inr (.inl none)
    · exact .inr (.inr ⟨sent, List.mem_singleton_self _, beats⟩)
  | refused replies => exact ⟨session', found, .inl rfl⟩
  | registered arrived filed isGame channel replies =>
    obtain ⟨session, before, rfl | ⟨-, rfl⟩⟩ := InnerNetworkSessionManager.findByNodeId_modify_some found
    · exact ⟨_, before, .inl rfl⟩
    · exact ⟨_, before, .inl rfl⟩
  | beat arrived read filed isGame registered replies =>
    obtain ⟨session, before, rfl | ⟨-, rfl⟩⟩ := InnerNetworkSessionManager.findByNodeId_modifyByRoutingId_some found
    · exact ⟨_, before, .inl rfl⟩
    · exact ⟨_, before, .inl rfl⟩

theorem step_awaitsHeartbeat (gate : GateNode) (input : Input) {session' : InnerNetworkSession}
    (found : (gate.step input).1.sessions.findByNodeId gmRemoteNodeId = some session') :
    InnerNetworkSession.AwaitsHeartbeat (gate.sessions.findByNodeId gmRemoteNodeId)
      (fun packet => .toGm packet ∈ (gate.step input).2) session' := by
  refine @Steps.trace _ _ _ (fun s t => ∀ session', s.sessions.findByNodeId gmRemoteNodeId = some session' →
    InnerNetworkSession.AwaitsHeartbeat (gate.sessions.findByNodeId gmRemoteNodeId) (fun packet => .toGm packet ∈ t) session')
    (fun s t es u inv act session' found => ?_) _ _ [] _ (step_acts gate input)
    (fun session found => by rw [found]; exact .start session) session' found
  obtain ⟨session, before, change⟩ := act.gmSession found
  refine (inv session before).next (fun _ => List.mem_append_left _) ?_
  rcases change with same | none | ⟨sent, handed, beats⟩
  · exact .inl same
  · exact .inr (.inl none)
  · exact .inr (.inr ⟨sent, List.mem_append_right _ handed, beats⟩)

/-- The answer to the outstanding heartbeat ends the wait. -/
theorem step_heartbeatAnswered {gate : GateNode} {payload : Bytes} {session session' : InnerNetworkSession} (env : GateEnv)
    (found : gate.sessions.findByNodeId gmRemoteNodeId = some session) (outstanding : session.heartbeatSeq ≠ 0)
    (answer : heartbeatResponseSeq payload = some session.heartbeatSeq)
    (found' : (gate.step (.connectorMessage env gmRemoteNodeId payload)).1.sessions.findByNodeId gmRemoteNodeId =
      some session') : session'.heartbeatSeq = 0 := by
  obtain ⟨packet, decoded, kind, flags, seq⟩ := heartbeatResponseSeq_some answer
  have named : packet.header.seq ≠ packetSeqNone := by
    rw [seq]
    exact outstanding
  have notNotify : packet.header.msgId ≠ innerClusterReadyNotifyMsgId := by
    rw [kind]
    decide
  have notRegister : packet.header.msgId ≠ innerRegisterMsgId := by
    rw [kind]
    decide
  simp only [step, handleConnectorMessage, ne_eq, not_true_eq_false, if_false, handleGmMessage, found, decoded,
    if_neg notNotify, if_neg named, if_neg notRegister, if_pos kind, if_pos flags] at found'
  rw [InnerNetworkSessionManager.findByNodeId_modify, if_pos rfl, found] at found'
  cases found'
  rw [heartbeatResponse_heartbeatSeq, if_pos (by simp [InnerNetworkSession.awaitsHeartbeat, outstanding, seq])]

end GateNode

/-! ## The receivers -/

theorem heartbeatRequestSeq_some {routingId payload : Bytes} {seq : UInt32}
    (h : heartbeatRequestSeq routingId payload = some seq) :
    ∃ raw packet request, readRawHeader payload = some raw ∧ raw.msgId = innerHeartbeatMsgId ∧
      GmNode.heartbeatRequestOf routingId payload = some (packet, request) ∧ packet.header.seq = seq := by
  obtain ⟨⟨packet, request⟩, read, same⟩ := Option.map_eq_some_iff.mp h
  have checks := read
  simp only [GmNode.heartbeatRequestOf, Option.bind_eq_bind, Option.bind_eq_some_iff, Option.guard_eq_some'] at checks
  obtain ⟨_, -, raw, header, _, ⟨-, -, kind⟩, -⟩ := checks
  exact ⟨raw, packet, request, header, kind, read, same⟩

def heartbeatAnswerBody (now : UInt64) : Bytes :=
  heartbeatSuccessResponseBytes ⟨defaultHeartbeatIntervalMs, defaultHeartbeatTimeoutMs, now⟩

/-- The packet that answers a heartbeat. -/
def heartbeatAnswer (seq : UInt32) (now : UInt64) : Bytes :=
  headerBytes (makePacketHeader innerHeartbeatMsgId seq flagResponse (UInt32.ofNat (heartbeatAnswerBody now).length)) ++
    heartbeatAnswerBody now

theorem encodePacket_heartbeatAnswer (seq : UInt32) (now : UInt64) :
    encodePacket (makePacketHeader innerHeartbeatMsgId seq flagResponse (UInt32.ofNat (heartbeatAnswerBody now).length))
      (heartbeatAnswerBody now) (packetHeaderSize + (heartbeatAnswerBody now).length) = .ok (heartbeatAnswer seq now) :=
  encodePacket_make (by decide) (by simp [heartbeatAnswerBody, heartbeatSuccessResponseBytes])

theorem heartbeatResponseSeq_answer (seq : UInt32) (now : UInt64) :
    heartbeatResponseSeq (heartbeatAnswer seq now) = some seq :=
  heartbeatResponseSeq_encode (encodePacket_heartbeatAnswer seq now)

theorem encodeHeartbeatSuccessResponse_answer (now : UInt64) :
    encodeHeartbeatSuccessResponse ⟨defaultHeartbeatIntervalMs, defaultHeartbeatTimeoutMs, now⟩ heartbeatSuccessResponseSize =
      .ok (heartbeatAnswerBody now) :=
  encodeHeartbeatSuccessResponse_ok rfl

/-- The GM answers heartbeats of a channel whose session is registered and has not
timed out, if the network takes the answer. -/
def GmNode.AnswersHeartbeat (gm : GmNode) (env : GmEnv) (routingId : Bytes) (seq : UInt32) : Prop :=
  (∃ session ∈ gm.sessions.findByRoutingId routingId, session.registered = true ∧ session.heartbeatTimedOut = false) ∧
    env.sendOk routingId (heartbeatAnswer seq env.nowUnixMs) = true

instance (gm : GmNode) (env : GmEnv) (routingId : Bytes) (seq : UInt32) :
    Decidable (gm.AnswersHeartbeat env routingId seq) := inferInstanceAs (Decidable (_ ∧ _))

theorem GmNode.sendHeartbeatSuccess_taken {env : GmEnv} {routingId : Bytes} {seq : UInt32}
    (takes : env.sendOk routingId (heartbeatAnswer seq env.nowUnixMs) = true) :
    sendHeartbeatSuccess env routingId seq = [.send routingId (heartbeatAnswer seq env.nowUnixMs)] := by
  have sent : env.send routingId innerHeartbeatMsgId seq flagResponse (heartbeatAnswerBody env.nowUnixMs) =
      some (heartbeatAnswer seq env.nowUnixMs) := by
    unfold GmEnv.send
    rw [encodePacket_heartbeatAnswer]
    exact if_pos takes
  unfold sendHeartbeatSuccess
  rw [encodeHeartbeatSuccessResponse_answer]
  simp only [sent]
  rfl

theorem GmNode.step_answersHeartbeat {gm : GmNode} {env : GmEnv} {routingId payload : Bytes} {seq : UInt32}
    (request : heartbeatRequestSeq routingId payload = some seq) (answers : gm.AnswersHeartbeat env routingId seq) :
    .send routingId (heartbeatAnswer seq env.nowUnixMs) ∈ (gm.step (.message env routingId payload)).2 := by
  obtain ⟨raw, packet, body, header, kind, read, rfl⟩ := heartbeatRequestSeq_some request
  obtain ⟨⟨session, found, registered, alive⟩, takes⟩ := answers
  have notRegister : raw.msgId ≠ innerRegisterMsgId := by
    rw [kind]
    decide
  simp only [step, handleInnerMessage, header, if_neg notRegister, if_pos kind, handleHeartbeatMessage, read,
    Option.mem_def.mp found]
  rw [if_neg (by simp [registered, alive]), sendHeartbeatSuccess_taken takes]
  exact List.mem_singleton_self _

/-- A Gate answers heartbeats of a channel that a Game is registered over, if the
network takes the answer. -/
def GateNode.AnswersHeartbeat (gate : GateNode) (env : GateEnv) (routingId : Bytes) (seq : UInt32) : Prop :=
  (∃ session ∈ gate.sessions.findByRoutingId routingId, session.processType = .game ∧ session.registered = true) ∧
    env.sendOk routingId (heartbeatAnswer seq env.nowUnixMs) = true

instance (gate : GateNode) (env : GateEnv) (routingId : Bytes) (seq : UInt32) :
    Decidable (gate.AnswersHeartbeat env routingId seq) := inferInstanceAs (Decidable (_ ∧ _))

theorem GateNode.step_answersHeartbeat {gate : GateNode} {env : GateEnv} {routingId payload : Bytes} {seq : UInt32}
    (request : heartbeatRequestSeq routingId payload = some seq) (answers : gate.AnswersHeartbeat env routingId seq) :
    .reply routingId (heartbeatAnswer seq env.nowUnixMs) ∈ (gate.step (.gameMessage env routingId payload)).2 := by
  obtain ⟨raw, packet, body, header, kind, read, rfl⟩ := heartbeatRequestSeq_some request
  obtain ⟨⟨session, found, isGame, registered⟩, takes⟩ := answers
  have notRegister : raw.msgId ≠ innerRegisterMsgId := by
    rw [kind]
    decide
  have sent : env.send routingId innerHeartbeatMsgId packet.header.seq kResponseFlags (heartbeatAnswerBody env.nowUnixMs) =
      some (heartbeatAnswer packet.header.seq env.nowUnixMs) := by
    unfold LinkEnv.send
    rw [kResponseFlags, encodePacket_heartbeatAnswer]
    exact if_pos takes
  simp only [step, handleGameMessage, header, if_neg notRegister, if_pos kind, handleGameHeartbeatMessage, read,
    Option.mem_def.mp found]
  rw [if_neg (by simp [isGame, registered]), encodeHeartbeatSuccessResponse_answer]
  simp only [sendResponse, sent]
  exact List.mem_singleton_self _

/-! ## The cluster -/

/-- A link that heartbeats go over: of a Game or Gate to the GM, or of a Game to a Gate. -/
inductive HeartbeatLink where
  | gm (nodeId : Bytes)
  | gate (game gate : Bytes)
  deriving DecidableEq

/-- The link of a Game's connector. -/
def HeartbeatLink.ofConnector (nodeId peer : Bytes) : HeartbeatLink :=
  if peer = gmRemoteNodeId then .gm nodeId else .gate nodeId peer

def Envelope.link : Envelope → HeartbeatLink
  | .toGm source _ => .gm source
  | .fromGm target _ => .gm target
  | .toGate game gate _ => .gate game gate
  | .toGame gate game _ => .gate game gate

/-- The sequence number of the heartbeat or answer in an envelope. -/
def Envelope.heartbeatSeq : Envelope → Option UInt32
  | .toGm source payload => heartbeatRequestSeq source payload
  | .fromGm _ payload => heartbeatResponseSeq payload
  | .toGate game _ payload => heartbeatRequestSeq game payload
  | .toGame _ _ payload => heartbeatResponseSeq payload

namespace Cluster

/-- The session of a Game or Gate for its end of a link. -/
inductive ClientSession (cluster : Cluster) : HeartbeatLink → InnerNetworkSession → Prop where
  | game {nodeId peer : Bytes} {game : GameNode} {session : InnerNetworkSession}
      (stored : cluster.games[nodeId]? = some game) (found : game.sessions.findByNodeId peer = some session) :
      ClientSession cluster (.ofConnector nodeId peer) session
  | gate {nodeId : Bytes} {gate : GateNode} {session : InnerNetworkSession}
      (stored : cluster.gates[nodeId]? = some gate) (found : gate.sessions.findByNodeId gmRemoteNodeId = some session) :
      ClientSession cluster (.gm nodeId) session

/-- What is awaited over a link are the answers to outstanding heartbeats, by sequence number. -/
def heartbeatMail (link : HeartbeatLink) : Mail Cluster Envelope UInt32 where
  network := network
  awaits cluster seq := seq ≠ 0 ∧ ∃ session, cluster.ClientSession link session ∧ session.heartbeatSeq = seq
  carries envelope seq := envelope.link = link ∧ envelope.heartbeatSeq = some seq

/-- The packet is a heartbeat or an answer that the client of the link still waits for. -/
def HeartbeatAwaited (link : HeartbeatLink) (cluster : Cluster) (envelope : Envelope) : Prop :=
  ∃ seq, (heartbeatMail link).awaits cluster seq ∧ (heartbeatMail link).carries envelope seq

/-- The receiver answers the heartbeat in the envelope, if it is one. -/
def AnswersHeartbeat (cluster : Cluster) (env : DeliveryEnv) : Envelope → Prop
  | .toGm source payload => ∀ seq ∈ heartbeatRequestSeq source payload, cluster.gm.AnswersHeartbeat env.gm source seq
  | .toGate game gate payload => ∀ seq ∈ heartbeatRequestSeq game payload, ∃ node ∈ cluster.gates[gate]?,
      node.AnswersHeartbeat env.gate game seq
  | .fromGm .. => True
  | .toGame .. => True

instance (cluster : Cluster) (env : DeliveryEnv) : DecidablePred (cluster.AnswersHeartbeat env)
  -- not by going through all sequence numbers
  | .toGm source payload => @Option.decidableForallMem _ _ inferInstance (heartbeatRequestSeq source payload)
  | .toGate game _ payload => @Option.decidableForallMem _ _ inferInstance (heartbeatRequestSeq game payload)
  | .fromGm .. => inferInstanceAs (Decidable True)
  | .toGame .. => inferInstanceAs (Decidable True)

/-- No awaited heartbeat or answer of the link is lost, and every awaited heartbeat
of it that arrives is answered. -/
def KeepsHeartbeats (link : HeartbeatLink) (cluster : Cluster) : Input → Prop
  | .lose index => ∀ envelope, cluster.network[index]? = some envelope → ¬ HeartbeatAwaited link cluster envelope
  | .deliver env index => ∀ envelope, cluster.network[index]? = some envelope → HeartbeatAwaited link cluster envelope →
      cluster.AnswersHeartbeat env envelope
  | _ => True

variable {config : ClusterConfig} {cluster : Cluster} {link : HeartbeatLink}

/-- The nodes are the configured ones. -/
structure Configured (config : ClusterConfig) (cluster : Cluster) : Prop where
  games : ∀ (nodeId : Bytes) (game : GameNode), cluster.games[nodeId]? = some game → nodeId ∈ config.gameNodeIds
  gates : ∀ (nodeId : Bytes) (gate : GateNode), cluster.gates[nodeId]? = some gate → nodeId ∈ config.gateNodeIds

theorem Configured.game_named (nodes : Configured config cluster) {nodeId : Bytes} (game : GameNode)
    (stored : cluster.games[nodeId]? = some game) : nodeId ≠ [] := by
  rintro rfl
  exact absurd (config.parse_game (nodes.games [] game stored)) (by decide)

theorem Configured.gate_named (nodes : Configured config cluster) {nodeId : Bytes} (gate : GateNode)
    (stored : cluster.gates[nodeId]? = some gate) : nodeId ≠ [] := by
  rintro rfl
  exact absurd (config.parse_gate (nodes.gates [] gate stored)) (by decide)

/-- No Game has the name of a Gate. -/
theorem Configured.disjoint (nodes : Configured config cluster) {nodeId : Bytes} {game : GameNode} {gate : GateNode}
    (game_stored : cluster.games[nodeId]? = some game) (gate_stored : cluster.gates[nodeId]? = some gate) : False := by
  have isGame := config.parse_game (nodes.games nodeId game game_stored)
  rw [config.parse_gate (nodes.gates nodeId gate gate_stored)] at isGame
  cases isGame

/-- Packets in flight do not matter to it. -/
theorem Configured.of_nodes {cluster' : Cluster} (nodes : Configured config cluster)
    (games : cluster'.games = cluster.games) (gates : cluster'.gates = cluster.gates) : Configured config cluster' :=
  ⟨by rw [games]; exact nodes.games, by rw [gates]; exact nodes.gates⟩

theorem gameStep_configured (nodes : Configured config cluster) (nodeId : Bytes) (input : GameNode.Input) :
    Configured config (cluster.gameStep nodeId input).1 := by
  unfold gameStep
  split
  · exact nodes
  rename_i game stored
  refine ⟨fun other game' stored' => ?_, nodes.gates⟩
  by_cases same : nodeId = other
  · subst same
    exact nodes.games _ game stored
  · rw [Table.get_insert_of_ne _ _ same] at stored'
    exact nodes.games other game' stored'

theorem gateStep_configured (nodes : Configured config cluster) (nodeId : Bytes) (input : GateNode.Input) :
    Configured config (cluster.gateStep nodeId input).1 := by
  unfold gateStep
  split
  · exact nodes
  rename_i gate stored
  refine ⟨nodes.games, fun other gate' stored' => ?_⟩
  by_cases same : nodeId = other
  · subst same
    exact nodes.gates _ gate stored
  · rw [Table.get_insert_of_ne _ _ same] at stored'
    exact nodes.gates other gate' stored'

theorem receive_configured (nodes : Configured config cluster) (env : DeliveryEnv) (envelope : Envelope) :
    Configured config (cluster.receive env envelope).1 := by
  cases envelope with
  | toGm source payload => exact nodes.of_nodes rfl rfl
  | fromGm target payload =>
    simp only [receive]
    split
    · exact gameStep_configured nodes _ _
    · exact gateStep_configured nodes _ _
  | toGate game gate payload => exact gateStep_configured nodes _ _
  | toGame gate game payload => exact gameStep_configured nodes _ _

theorem step_configured (nodes : Configured config cluster) (input : Input) : Configured config (cluster.step input).1 := by
  cases input with
  | deliver env index =>
    simp only [step]
    split
    · exact nodes
    · refine receive_configured ?_ env _
      exact nodes.of_nodes rfl rfl
  | lose index => exact nodes.of_nodes rfl rfl
  | gm input isLocal => exact nodes.of_nodes rfl rfl
  | game nodeId input isLocal => exact gameStep_configured nodes nodeId input
  | gate nodeId input isLocal => exact gateStep_configured nodes nodeId input
  | managedSend game gate packet => exact nodes.of_nodes rfl rfl

theorem init_configured (config : ClusterConfig) (gameBoot : Bytes → NodeBoot) (gateBoot : Bytes → GateBoot) :
    Configured config (init config gameBoot gateBoot) := by
  constructor
  · intro nodeId game stored
    rcases Table.get_insertAll_some stored with none | ⟨self, listed, rfl, -⟩
    · simp at none
    · exact List.mem_map_of_mem listed
  · intro nodeId gate stored
    rcases Table.get_insertAll_some stored with none | ⟨self, listed, rfl, -⟩
    · simp at none
    · exact List.mem_map_of_mem listed

/-! ## Packets stay in flight -/

theorem gameStep_network (cluster : Cluster) (nodeId : Bytes) (input : GameNode.Input) :
    ∀ envelope ∈ cluster.network, envelope ∈ (cluster.gameStep nodeId input).1.network := by
  intro envelope mem
  unfold gameStep
  split
  · exact mem
  · exact List.mem_append_left _ mem

theorem gateStep_network (cluster : Cluster) (nodeId : Bytes) (input : GateNode.Input) :
    ∀ envelope ∈ cluster.network, envelope ∈ (cluster.gateStep nodeId input).1.network := by
  intro envelope mem
  unfold gateStep
  split
  · exact mem
  · exact List.mem_append_left _ mem

theorem receive_network (cluster : Cluster) (env : DeliveryEnv) (taken : Envelope) :
    ∀ envelope ∈ cluster.network, envelope ∈ (cluster.receive env taken).1.network := by
  cases taken with
  | toGm source payload => exact fun _ => List.mem_append_left _
  | fromGm target payload =>
    simp only [receive]
    split
    · exact gameStep_network cluster _ _
    · exact gateStep_network cluster _ _
  | toGate game gate payload => exact gateStep_network cluster _ _
  | toGame gate game payload => exact gameStep_network cluster _ _

/-! ## The sessions of the clients -/

theorem ClientSession.atGm {nodeId : Bytes} {session : InnerNetworkSession} (h : cluster.ClientSession (.gm nodeId) session) :
    (∃ game, cluster.games[nodeId]? = some game ∧ game.sessions.findByNodeId gmRemoteNodeId = some session) ∨
      ∃ gate, cluster.gates[nodeId]? = some gate ∧ gate.sessions.findByNodeId gmRemoteNodeId = some session := by
  generalize is : HeartbeatLink.gm nodeId = link at h
  cases h with
  | game stored found =>
    unfold HeartbeatLink.ofConnector at is
    split at is
    · rename_i toGm
      cases is
      exact .inl ⟨_, stored, toGm ▸ found⟩
    · cases is
  | gate stored found =>
    cases is
    exact .inr ⟨_, stored, found⟩

theorem ClientSession.atGate {game gate : Bytes} {session : InnerNetworkSession}
    (h : cluster.ClientSession (.gate game gate) session) :
    ∃ node, cluster.games[game]? = some node ∧ node.sessions.findByNodeId gate = some session := by
  generalize is : HeartbeatLink.gate game gate = link at h
  cases h with
  | game stored found =>
    unfold HeartbeatLink.ofConnector at is
    split at is
    · cases is
    · cases is
      exact ⟨_, stored, found⟩
  | gate stored found => cases is

/-- Packets in flight do not matter to the sessions. -/
theorem ClientSession.of_nodes {cluster' : Cluster} {session : InnerNetworkSession}
    (h : cluster.ClientSession link session) (games : cluster'.games = cluster.games) (gates : cluster'.gates = cluster.gates) :
    cluster'.ClientSession link session := by
  cases h with
  | game stored found => exact .game (games ▸ stored) found
  | gate stored found => exact .gate (gates ▸ stored) found

theorem awaits_of_nodes {cluster' : Cluster} {seq : UInt32} (h : (heartbeatMail link).awaits cluster seq)
    (games : cluster'.games = cluster.games) (gates : cluster'.gates = cluster.gates) :
    (heartbeatMail link).awaits cluster' seq := by
  obtain ⟨outstanding, session, client, same⟩ := h
  exact ⟨outstanding, session, client.of_nodes games gates, same⟩

theorem gmStep_renews (cluster : Cluster) (input : GmNode.Input) :
    (heartbeatMail link).Renews cluster (cluster.gmStep input).1 :=
  fun _ awaited => .inl (awaits_of_nodes awaited rfl rfl)

/-- A heartbeat that a Game handed over is in flight. -/
theorem inFlight_game {nodeId peer packet : Bytes} {seq : UInt32} {game : GameNode} {events : List GameEvent}
    (named : nodeId ≠ []) (sent : .send peer packet ∈ events) (beats : HeartbeatPacket seq packet) :
    (heartbeatMail (.ofConnector nodeId peer)).InFlight { cluster with
      games := cluster.games.insert nodeId game
      network := cluster.network ++ events.filterMap (GameEvent.envelope nodeId) } seq := by
  refine ⟨_, List.mem_append_right _ (List.mem_filterMap.mpr ⟨_, sent, rfl⟩), ?_⟩
  unfold HeartbeatLink.ofConnector
  split
  · exact ⟨rfl, beats nodeId named⟩
  · exact ⟨rfl, beats nodeId named⟩

theorem gameStep_renews {nodeId : Bytes} (named : ∀ game, cluster.games[nodeId]? = some game → nodeId ≠ [])
    (input : GameNode.Input) : (heartbeatMail link).Renews cluster (cluster.gameStep nodeId input).1 := by
  rintro seq ⟨outstanding, session, client, rfl⟩
  unfold gameStep at client ⊢
  split at client
  · exact .inl ⟨outstanding, session, client, rfl⟩
  rename_i node stored
  cases client with
  | @game other peer game session stored' found =>
    by_cases same : nodeId = other
    · subst same
      rw [Table.get_insert_self] at stored'
      cases stored'
      rcases GameNode.step_awaitsHeartbeat peer node input session found outstanding with
        ⟨before, held, same⟩ | ⟨packet, sent, beats⟩
      · exact .inl ⟨outstanding, before, .game stored held, same⟩
      · exact .inr (inFlight_game (named node stored) sent beats)
    · rw [Table.get_insert_of_ne _ _ same] at stored'
      exact .inl ⟨outstanding, session, .game stored' found, rfl⟩
  | gate stored' found => exact .inl ⟨outstanding, session, .gate stored' found, rfl⟩

theorem gateStep_renews {nodeId : Bytes} (named : ∀ gate, cluster.gates[nodeId]? = some gate → nodeId ≠ [])
    (input : GateNode.Input) : (heartbeatMail link).Renews cluster (cluster.gateStep nodeId input).1 := by
  rintro seq ⟨outstanding, session, client, rfl⟩
  unfold gateStep at client ⊢
  split at client
  · exact .inl ⟨outstanding, session, client, rfl⟩
  rename_i node stored
  cases client with
  | game stored' found => exact .inl ⟨outstanding, session, .game stored' found, rfl⟩
  | @gate other gate session stored' found =>
    by_cases same : nodeId = other
    · subst same
      rw [Table.get_insert_self] at stored'
      cases stored'
      rcases GateNode.step_awaitsHeartbeat node input found outstanding with ⟨before, held, same⟩ | ⟨packet, sent, beats⟩
      · exact .inl ⟨outstanding, before, .gate stored held, same⟩
      · exact .inr ⟨_, List.mem_append_right _ (List.mem_filterMap.mpr ⟨_, sent, rfl⟩), rfl, beats nodeId (named node stored)⟩
    · rw [Table.get_insert_of_ne _ _ same] at stored'
      exact .inl ⟨outstanding, session, .gate stored' found, rfl⟩

theorem receive_renews (nodes : Configured config cluster) (env : DeliveryEnv) (envelope : Envelope) :
    (heartbeatMail link).Renews cluster (cluster.receive env envelope).1 := by
  cases envelope with
  | toGm source payload => exact gmStep_renews cluster _
  | fromGm target payload =>
    simp only [receive]
    split
    · exact gameStep_renews nodes.game_named _
    · exact gateStep_renews nodes.gate_named _
  | toGate game gate payload => exact gateStep_renews nodes.gate_named _
  | toGame gate game payload => exact gameStep_renews nodes.game_named _

/-- An answer that reaches its Game ends the wait. -/
theorem gameStep_answered {nodeId peer payload : Bytes} {env : GameEnv} {game game' : GameNode}
    {before after : InnerNetworkSession} (stored : cluster.games[nodeId]? = some game)
    (held : game.sessions.findByNodeId peer = some before) (outstanding : before.heartbeatSeq ≠ 0)
    (answer : heartbeatResponseSeq payload = some before.heartbeatSeq)
    (stored' : (cluster.gameStep nodeId (.connectorMessage env peer payload)).1.games[nodeId]? = some game')
    (held' : game'.sessions.findByNodeId peer = some after) : after.heartbeatSeq = 0 := by
  simp only [gameStep, stored, Table.get_insert_self, Option.some.injEq] at stored'
  subst stored'
  exact GameNode.step_heartbeatAnswered env held outstanding answer after held'

theorem gateStep_answered {nodeId payload : Bytes} {env : GateEnv} {gate gate' : GateNode}
    {before after : InnerNetworkSession} (stored : cluster.gates[nodeId]? = some gate)
    (held : gate.sessions.findByNodeId gmRemoteNodeId = some before) (outstanding : before.heartbeatSeq ≠ 0)
    (answer : heartbeatResponseSeq payload = some before.heartbeatSeq)
    (stored' : (cluster.gateStep nodeId (.connectorMessage env gmRemoteNodeId payload)).1.gates[nodeId]? = some gate')
    (held' : gate'.sessions.findByNodeId gmRemoteNodeId = some after) : after.heartbeatSeq = 0 := by
  simp only [gateStep, stored, Table.get_insert_self, Option.some.injEq] at stored'
  subst stored'
  exact GateNode.step_heartbeatAnswered env held outstanding answer held'

/-- Whoever waited for the packet that arrives does not any more, or the answer is
on its way. -/
theorem receive_answered (nodes : Configured config cluster) {env : DeliveryEnv} {envelope : Envelope}
    {seq : UInt32} (awaited : (heartbeatMail link).awaits cluster seq)
    (carried : (heartbeatMail link).carries envelope seq) (answers : cluster.AnswersHeartbeat env envelope)
    (still : (heartbeatMail link).awaits (cluster.receive env envelope).1 seq) :
    (heartbeatMail link).InFlight (cluster.receive env envelope).1 seq := by
  obtain ⟨outstanding, before, client, waits⟩ := awaited
  obtain ⟨-, after, client', waits'⟩ := still
  obtain ⟨rfl, carries⟩ := carried
  subst waits
  -- a session that still waits contradicts an answer that ended the wait
  cases envelope with
  | toGm source payload =>
    have sent := GmNode.step_answersHeartbeat carries (answers _ carries)
    exact ⟨_, List.mem_append_right _ (List.mem_filterMap.mpr ⟨_, sent, rfl⟩), rfl, heartbeatResponseSeq_answer _ _⟩
  | toGate game gate payload =>
    obtain ⟨node, stored, answers⟩ := answers _ carries
    have sent := GateNode.step_answersHeartbeat carries answers
    simp only [receive, gateStep, Option.mem_def.mp stored]
    exact ⟨_, List.mem_append_right _ (List.mem_filterMap.mpr ⟨_, sent, rfl⟩), rfl, heartbeatResponseSeq_answer _ _⟩
  | toGame gate game payload =>
    obtain ⟨node, stored, held⟩ := client.atGate
    obtain ⟨node', stored', held'⟩ := client'.atGate
    have none := gameStep_answered stored held outstanding carries stored' held'
    exact absurd (waits'.symm.trans none) outstanding
  | fromGm target payload =>
    unfold receive at client' ⊢
    rcases client.atGm with ⟨node, stored, held⟩ | ⟨node, stored, held⟩
    · simp only [stored] at client' ⊢
      rcases client'.atGm with ⟨node', stored', held'⟩ | ⟨node', stored', held'⟩
      · have none := gameStep_answered stored held outstanding carries stored' held'
        exact absurd (waits'.symm.trans none) outstanding
      · exact ((gameStep_configured nodes _ _).disjoint (by rw [gameStep, stored]; exact Table.get_insert_self _ _ _) stored').elim
    · have noGame : cluster.games[target]? = none := by
        rw [Option.eq_none_iff_forall_ne_some]
        exact fun game found => nodes.disjoint found stored
      simp only [noGame] at client' ⊢
      rcases client'.atGm with ⟨node', stored', held'⟩ | ⟨node', stored', held'⟩
      · exact ((gateStep_configured nodes _ _).disjoint stored' (by rw [gateStep, stored]; exact Table.get_insert_self _ _ _)).elim
      · have none := gateStep_answered stored held outstanding carries stored' held'
        exact absurd (waits'.symm.trans none) outstanding

/-! ## Runs -/

/-- The nodes are the configured ones, and whatever heartbeat the link awaits is in flight. -/
structure HeartbeatInv (config : ClusterConfig) (link : HeartbeatLink) (cluster : Cluster) : Prop where
  nodes : Configured config cluster
  covered : (heartbeatMail link).Covered cluster

theorem step_heartbeatInv (cluster : Cluster) (input : Input) (inv : HeartbeatInv config link cluster)
    (keeps : KeepsHeartbeats link cluster input) : HeartbeatInv config link (cluster.step input).1 := by
  refine ⟨step_configured inv.nodes input, ?_⟩
  cases input with
  | deliver env index =>
    simp only [step]
    split
    · exact inv.covered
    rename_i envelope found
    have nodes : Configured config { cluster with network := cluster.network.eraseIdx index } := inv.nodes.of_nodes rfl rfl
    refine @Mail.Covered.take _ _ _ _ _ _ envelope inv.covered (fun other mem => ?_) (fun seq awaited => ?_)
      fun seq awaited carried still => ?_
    · rcases mem_eraseIdx_of_mem mem found with same | kept
      · exact .inl same
      · exact .inr (receive_network _ env envelope other kept)
    · rcases receive_renews nodes env envelope seq awaited with before | sent
      · exact .inl (awaits_of_nodes before rfl rfl)
      · exact .inr sent
    · have answers := keeps envelope found ⟨seq, awaited, carried⟩
      refine receive_answered nodes (awaits_of_nodes awaited rfl rfl) carried ?_ still
      -- who answers does not depend on the packets in flight
      cases envelope with
      | toGm source payload => exact answers
      | fromGm target payload => trivial
      | toGate game gate payload => exact answers
      | toGame gate game payload => trivial
  | lose index =>
    intro seq awaited
    have before : (heartbeatMail link).awaits cluster seq := awaits_of_nodes awaited rfl rfl
    obtain ⟨envelope, mem, carried⟩ := inv.covered seq before
    cases found : cluster.network[index]? with
    | none =>
      have kept : envelope ∈ cluster.network.eraseIdx index := by
        rw [List.eraseIdx_of_length_le (List.getElem?_eq_none_iff.mp found)]
        exact mem
      exact ⟨envelope, kept, carried⟩
    | some lost =>
      rcases mem_eraseIdx_of_mem mem found with rfl | kept
      · exact absurd ⟨seq, before, carried⟩ (keeps _ found)
      · exact ⟨envelope, kept, carried⟩
  | gm input isLocal => exact inv.covered.grow (fun _ => List.mem_append_left _) (gmStep_renews cluster input)
  | game nodeId input isLocal =>
    exact inv.covered.grow (gameStep_network cluster nodeId input) (gameStep_renews inv.nodes.game_named input)
  | gate nodeId input isLocal =>
    exact inv.covered.grow (gateStep_network cluster nodeId input) (gateStep_renews inv.nodes.gate_named input)
  | managedSend game gate packet =>
    exact inv.covered.grow (fun _ => List.mem_append_left _) fun _ awaited => .inl (awaits_of_nodes awaited rfl rfl)

/-- A link whose session waits for nothing. -/
def IdleLink (link : HeartbeatLink) (cluster : Cluster) : Prop :=
  ∀ session, cluster.ClientSession link session → session.heartbeatSeq = 0

theorem IdleLink.covered (idle : IdleLink link cluster) : (heartbeatMail link).Covered cluster := by
  rintro seq ⟨outstanding, session, client, rfl⟩
  exact absurd (idle session client) outstanding

/-- A link is idle at first. -/
theorem init_idle (config : ClusterConfig) (gameBoot : Bytes → NodeBoot) (gateBoot : Bytes → GateBoot)
    (link : HeartbeatLink) : IdleLink link (init config gameBoot gateBoot) := by
  intro session client
  cases client with
  | game stored found =>
    rcases Table.get_insertAll_some stored with none | ⟨self, -, rfl, made⟩
    · simp at none
    · exact @GameNode.onInit_sessions (·.heartbeatSeq = 0) _ _ _ _ made (fun _ _ => rfl) _ session found
  | gate stored found =>
    rcases Table.get_insertAll_some stored with none | ⟨self, -, rfl, made⟩
    · simp at none
    · exact @GateNode.onInit_sessions (·.heartbeatSeq = 0) _ _ _ _ made (fun _ => rfl) _ session found

/-- A session that is due to send: registered and connected, with a timer, and
neither its last heartbeat nor the answer to it is in flight. -/
structure Due (link : HeartbeatLink) (cluster : Cluster) (session : InnerNetworkSession) : Prop where
  registered : session.registered = true
  connected : session.connectionState = .connected
  timer : session.heartbeatTimerId > 0
  nothing : session.heartbeatSeq ≠ 0 → ¬ (heartbeatMail link).InFlight cluster session.heartbeatSeq

/-- When its session is due, the next tick hands a heartbeat with the session's next
sequence number to the network. -/
structure HeartbeatsGoOn (link : HeartbeatLink) (cluster : Cluster) : Prop where
  game : ∀ (nodeId peer : Bytes) (game : GameNode) (session : InnerNetworkSession) (env : GameEnv),
    link = .ofConnector nodeId peer → cluster.games[nodeId]? = some game →
    game.sessions.findByNodeId peer = some session → Due link cluster session →
    ∃ packet, HeartbeatPacket session.consumeNextInnerSequence.1 packet ∧
      (env.sendOk peer packet = true → .send peer packet ∈ (game.step (.heartbeatTimer env peer)).2)
  gate : ∀ (nodeId : Bytes) (gate : GateNode) (session : InnerNetworkSession) (env : GateEnv),
    link = .gm nodeId → cluster.gates[nodeId]? = some gate →
    gate.sessions.findByNodeId gmRemoteNodeId = some session → Due link cluster session →
    ∃ packet, HeartbeatPacket session.consumeNextInnerSequence.1 packet ∧
      (env.sendOk gmRemoteNodeId packet = true → .toGm packet ∈ (gate.step (.heartbeatTimer env)).2)

/-- Where nothing is in flight, nothing is outstanding. -/
theorem Due.tick {session : InnerNetworkSession} (due : Due link cluster session)
    (covered : (heartbeatMail link).Covered cluster) (client : cluster.ClientSession link session) (env : LinkEnv)
    (peer : Bytes) :
    ∃ packet, HeartbeatPacket session.consumeNextInnerSequence.1 packet ∧
      (env.sendOk peer packet = true → (session.heartbeatTick env peer).2 = some packet) := by
  have idle : session.heartbeatSeq = 0 := by
    by_contra outstanding
    exact due.nothing outstanding (covered session.heartbeatSeq ⟨outstanding, session, client, rfl⟩)
  exact session.heartbeatTick_sends env peer due.timer due.registered due.connected idle

theorem HeartbeatInv.goOn (inv : HeartbeatInv config link cluster) : HeartbeatsGoOn link cluster := by
  constructor
  · rintro nodeId peer game session env rfl stored found due
    obtain ⟨packet, beats, sent⟩ := due.tick inv.covered (.game stored found) env.toLinkEnv peer
    refine ⟨packet, beats, fun takes => ?_⟩
    simp only [GameNode.step, GameNode.heartbeatTimerFired, GameNode.onSession, found, sent takes]
    exact List.mem_singleton_self _
  · rintro nodeId gate session env rfl stored found due
    obtain ⟨packet, beats, sent⟩ := due.tick inv.covered (.gate stored found) env.toLinkEnv gmRemoteNodeId
    refine ⟨packet, beats, fun takes => ?_⟩
    simp only [GateNode.step, GateNode.heartbeatTimerFired, GateNode.onGmSession, found, sent takes]
    exact List.mem_singleton_self _

/-- **Heartbeats go on as long as none is lost.** In every run, over every link: if
since the link was idle, as it is at first and after a registration, none of its
awaited heartbeats or answers was lost, and every one that arrived was answered. -/
theorem heartbeats_survive (config : ClusterConfig) (gameBoot : Bytes → NodeBoot) (gateBoot : Bytes → GateBoot)
    (before after : List Input) (link : HeartbeatLink)
    (idle : IdleLink link (machine.run (init config gameBoot gateBoot) before).1)
    (kept : machine.Along (KeepsHeartbeats link) (machine.run (init config gameBoot gateBoot) before).1 after) :
    HeartbeatsGoOn link (machine.run (init config gameBoot gateBoot) (before ++ after)).1 := by
  have nodes : Configured config (machine.run (init config gameBoot gateBoot) before).1 :=
    @Machine.invariant _ _ _ machine (Configured config) (fun _ input nodes => step_configured nodes input) _ _
      (init_configured config gameBoot gateBoot) ⟨before, rfl⟩
  rw [Machine.run_append]
  exact (Machine.run_invariant (fun cluster input inv keeps => step_heartbeatInv cluster input inv keeps)
    ⟨nodes, idle.covered⟩ kept).goOn

theorem keeps_of_answers {env : DeliveryEnv} {index : Nat}
    (answers : ∀ envelope ∈ cluster.network[index]?, cluster.AnswersHeartbeat env envelope) :
    KeepsHeartbeats link cluster (.deliver env index) :=
  fun envelope found _ => answers envelope found

def sampleGateTicks : Input := .gate (text "Gate0") (.heartbeatTimer {}) rfl

/-- A heartbeat of the Gate is answered, and it is due for the next one. -/
theorem heartbeats_survive_sample :
    HeartbeatsGoOn (.gm (text "Gate0"))
        (machine.run sampleCluster ([] ++ (sampleGateRegisters ++ [sampleGateTicks, sampleDeliver, sampleDeliver]))).1 ∧
      ((machine.run sampleCluster (sampleGateRegisters ++ [sampleGateTicks, sampleDeliver, sampleDeliver])).1.gates[text
        "Gate0"]?.bind (·.sessions.findByNodeId gmRemoteNodeId)).map (fun session => (session.registered, session.heartbeatSeq)) =
          some (true, 0) := by
  refine ⟨?_, by decide +kernel⟩
  unfold sampleCluster
  have idle : IdleLink (.gm (text "Gate0")) (init sampleConfig (fun _ => {}) fun _ => GateNode.sampleBoot) :=
    init_idle sampleConfig _ _ _
  refine heartbeats_survive sampleConfig _ _ [] _ _ idle ⟨trivial, ?_, ?_, trivial, ?_, ?_, trivial⟩
  · exact keeps_of_answers (by decide +kernel)
  · exact keeps_of_answers (by decide +kernel)
  · exact keeps_of_answers (by decide +kernel)
  · exact keeps_of_answers (by decide +kernel)

/-- The Gate's heartbeat is lost: nothing is in flight, and the next tick sends nothing. -/
theorem lost_heartbeat_ends_them :
    ¬ HeartbeatsGoOn (.gm (text "Gate0"))
      (machine.run sampleCluster (sampleGateRegisters ++ [sampleGateTicks, .lose 0])).1 := by
  have stuck : ∃ gate ∈ (machine.run sampleCluster (sampleGateRegisters ++ [sampleGateTicks, .lose 0])).1.gates[text "Gate0"]?,
      ∃ session ∈ gate.sessions.findByNodeId gmRemoteNodeId, session.registered = true ∧
        session.connectionState = .connected ∧ session.heartbeatTimerId > 0 ∧
        (gate.step (.heartbeatTimer {})).2 = [] := by
    decide +kernel
  have empty : (machine.run sampleCluster (sampleGateRegisters ++ [sampleGateTicks, .lose 0])).1.network = [] := by
    decide +kernel
  generalize (machine.run sampleCluster (sampleGateRegisters ++ [sampleGateTicks, .lose 0])).1 = cluster at stuck empty ⊢
  obtain ⟨gate, stored, session, found, registered, connected, timer, silent⟩ := stuck
  intro goOn
  have due : Due (.gm (text "Gate0")) cluster session := by
    refine ⟨registered, connected, timer, ?_⟩
    rintro - ⟨envelope, mem, -⟩
    exact absurd (empty ▸ mem : envelope ∈ []) List.not_mem_nil
  obtain ⟨packet, -, sent⟩ := goOn.gate (text "Gate0") gate session {} rfl stored found due
  have mem := sent rfl
  rw [silent] at mem
  cases mem

end Cluster

end XServer.Node
