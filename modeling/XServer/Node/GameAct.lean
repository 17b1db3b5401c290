import XServer.Node.GameNode

/-!
# What a Game does, act by act

A handler call opens with a changed link state, an applied sync or a stored ready
callback, if its input brings one; a sequence of acts follows: operations on the
sessions of links, the mesh flag, a report (`step_handled`). Whatever is said about
the links, the stubs or the reports of a Game is said of these; the handlers
themselves are read here only.
-/

namespace XServer.Node
open XServer.Lib XServer.Lib.Wire XServer.Net XServer.Core

/-- A session that is neither registered nor about to be. -/
def Idle (session : InnerNetworkSession) : Prop := session.registered = false ∧ session.registerInFlight = false

instance (session : InnerNetworkSession) : Decidable (Idle session) := inferInstanceAs (Decidable (_ ∧ _))

namespace GameNode

/-! ## Acts -/

/-- What a Game does to the session of a link whose state stays, with the packet it
hands over. -/
inductive LinkOp (request : RegisterRequest) (peer : Bytes) (session : InnerNetworkSession) :
    InnerNetworkSession → Option Bytes → Prop where
  | ask (env : LinkEnv) (idle : Idle session) :
      LinkOp request peer session (session.sendRegisterRequest env peer request).1
        (session.sendRegisterRequest env peer request).2
  | tick (env : LinkEnv) :
      LinkOp request peer session (session.heartbeatTick env peer).1 (session.heartbeatTick env peer).2
  | registerResponse (env : GameEnv) (packet : Packet) :
      LinkOp request peer session (registerResponse env packet session).1 none
  | heartbeatResponse (env : GameEnv) (packet : Packet) :
      LinkOp request peer session (heartbeatResponse env packet session).1 none

/-- The handler of a response with a usable envelope, on the session. -/
def responseOf (env : GameEnv) (packet : Packet) : Option (InnerNetworkSession → InnerNetworkSession × Bool) :=
  if packet.header.seq = packetSeqNone then none
  else if packet.header.msgId = innerRegisterMsgId then
    if packet.header.flags = kResponseFlags ∨ packet.header.flags = kErrorResponseFlags then
      some (registerResponse env packet)
    else none
  else if packet.header.msgId = innerHeartbeatMsgId then
    if packet.header.flags = kResponseFlags then some (heartbeatResponse env packet) else none
  else none

/-- All nodes are online. -/
def notedOnline (game : GameNode) (serverNowUnixMs : UInt64) : GameNode :=
  { game with allNodesOnline := true, lastClusterNodesOnlineServerNowUnixMs := serverNowUnixMs }

/-- The state in which the handler of an input asks whether the mesh is complete:
after the response of a Gate, or once the connectors to the Gates are started. -/
def meshCheck (game : GameNode) : Input → Option (GameNode × GameEnv)
  | .connectorMessage env peer payload => do
    let packet ← (decodePacket payload).toOption
    if peer = gmRemoteNodeId then
      guard (packet.header.msgId = innerClusterNodesOnlineNotifyMsgId)
      let notify ← game.notifyBody decodeClusterNodesOnlineNotify packet
      guard (notify.allNodesOnline = true)
      some (((game.notedOnline notify.serverNowUnixMs).startGateConnectors env).1, env)
    else
      let response ← responseOf env packet
      let result := game.updateSession peer response
      guard (result.2 = true ∧ result.1.allNodesOnline = true)
      some (result.1, env)
  | _ => none

/-- The mesh flag goes up. -/
def latch (game : GameNode) : GameNode := { game with meshReady := { game.meshReady with current := true } }

/-- Every owned stub is ready, by count. -/
structure LocalStubsReady (game : GameNode) : Prop where
  epoch : game.ownership.assignmentEpoch ≠ 0
  owned : game.ownership.ownedAssignments ≠ []
  count : game.serviceReady.readyEntries.length = game.ownership.ownedAssignments.length

/-- A ready callback is stored: it is for the current epoch, fits the ABI and names
an owned type. -/
def takesReady (game : GameNode) (assignmentEpoch : UInt64) (entry : ManagedServerStubReadyEntry) : Bool :=
  game.managedExportsLoaded && assignmentEpoch != 0 && assignmentEpoch == game.ownership.assignmentEpoch &&
    entry.ready != 0 && decide (entry.entityType.length ≤ managedMaxUtf8Bytes) &&
    decide (entry.entityId.length ≤ managedMaxUtf8Bytes) &&
    game.ownership.ownedAssignments.any fun owned => owned.entityType == entry.entityType

/-- How the handling of an input opens. -/
inductive Opening (game : GameNode) : Input → List GameEvent → GameNode → Prop where
  | nothing (input : Input) : Opening game input [] game
  | state {env : GameEnv} {peer : Bytes} {state : ZmqConnectionState} {session : InnerNetworkSession}
      (found : game.sessions.findByNodeId peer = some session) (passed : peer = gmRemoteNodeId ∨ state = .connected) :
      Opening game (.connectorState env peer state) []
        { game with sessions := game.sessions.modify peer fun s => { s with connectionState := state } }
  | reset {env : GameEnv} {peer : Bytes} {state : ZmqConnectionState} {session : InnerNetworkSession}
      (found : game.sessions.findByNodeId peer = some session) (isGate : peer ≠ gmRemoteNodeId)
      (down : state ≠ .connected) :
      Opening game (.connectorState env peer state) []
        { game with sessions := game.sessions.modify peer (resetGateSession state) }
  | apply {input : Input} {sync : ServerStubOwnershipSync} (latched : game.meshReady.current = true)
      (brought : game.ownershipSyncOf input = some sync) :
      Opening game input [.applied sync] (game.createAllLocalStubs sync)
  | ready {env : GameEnv} {assignmentEpoch : UInt64} {entry : ManagedServerStubReadyEntry}
      (taken : game.takesReady assignmentEpoch entry = true) :
      Opening game (.serverStubReady env assignmentEpoch entry) [] { game with serviceReady := { game.serviceReady with
        readyEntries := upsertReadyEntry game.serviceReady.readyEntries entry.toReadyEntry } }

/-- The acts that follow, within the handling of `input` in the state `origin`. -/
inductive Act (origin : GameNode) (input : Input) (game : GameNode) : List GameEvent → GameNode → Prop where
  | link {peer : Bytes} {session session' : InnerNetworkSession} {packet : Option Bytes}
      (found : game.sessions.findByNodeId peer = some session)
      (op : LinkOp game.registerRequest peer session session' packet) :
      Act origin input game (GameEvent.sent peer packet)
        { game with sessions := game.sessions.modify peer fun _ => session' }
  | online (serverNowUnixMs : UInt64) : Act origin input game [] (game.notedOnline serverNowUnixMs)
  | mesh {env : GameEnv} (looked : origin.meshCheck input = some (game, env))
      (unlatched : game.meshReady.current = false) (complete : game.areAllGateSessionsConnected = true) :
      Act origin input game (game.latch.sendMeshReadyReport env).2 (game.latch.sendMeshReadyReport env).1
  | report {env : GameEnv} {packet body : Bytes} (latched : game.meshReady.current = true)
      (complete : LocalStubsReady game)
      (unreported : game.serviceReady.lastReportedAssignmentEpoch ≠ game.ownership.assignmentEpoch)
      (encoded : encodePacket (makePacketHeader innerGameServiceReadyReportMsgId packetSeqNone 0
        (UInt32.ofNat body.length)) body (packetHeaderSize + body.length) = .ok packet)
      (decoded : decodeGameServiceReadyReport body = .ok (game.serviceReadyReport env)) :
      Act origin input game [.reported (game.serviceReadyReport env), .send gmRemoteNodeId packet]
        { game with serviceReady := { game.serviceReady with
          lastReportedAssignmentEpoch := game.ownership.assignmentEpoch
          lastReportedAtUnixMs := env.stubReportUnixMs } }

/-- A sequence of acts. -/
def Acts (origin : GameNode) (input : Input) (game : GameNode) (result : GameNode × List GameEvent) : Prop :=
  Steps (Act origin input) game result.2 result.1

/-- A handler call: the opening and the acts that follow. -/
inductive Handled (game : GameNode) (input : Input) : GameNode × List GameEvent → Prop where
  | intro {middle : GameNode} {opened : List GameEvent} {result : GameNode × List GameEvent}
      (opening : Opening game input opened middle) (acts : Acts game input middle result) :
      Handled game input (result.1, opened ++ result.2)

variable {origin : GameNode} {input : Input}

theorem Acts.refl (game : GameNode) : Acts origin input game (game, []) := Steps.nil game

theorem Acts.seq {game : GameNode} {first second : GameNode × List GameEvent} (h : Acts origin input game first)
    (h' : Acts origin input first.1 second) : Acts origin input game (second.1, first.2 ++ second.2) := Steps.append h h'

/-- A silent act before a handler. -/
theorem Acts.after {game game' : GameNode} {result : GameNode × List GameEvent} (h : Acts origin input game' result)
    (first : Act origin input game [] game') : Acts origin input game result := Steps.cons first h

/-- Acts without an opening. -/
theorem Acts.handled {game : GameNode} {result : GameNode × List GameEvent} (h : Acts game input game result) :
    Handled game input result := .intro (.nothing input) h

theorem Handled.refl (game : GameNode) : Handled game input (game, []) := (Acts.refl game).handled

/-- A silent opening, and then a handler. -/
theorem Opening.handled {game middle : GameNode} {result : GameNode × List GameEvent}
    (opening : Opening game input [] middle) (h : Acts game input middle result) : Handled game input result :=
  .intro opening h

/-- What the opening and every act are made of, the handler call is made of. -/
theorem Handled.steps {change : GameNode → List GameEvent → GameNode → Prop} {game : GameNode}
    {result : GameNode × List GameEvent} (h : Handled game input result)
    (opens : ∀ events middle, Opening game input events middle → Steps change game events middle)
    (act : ∀ s events t, Act game input s events t → Steps change s events t) : Steps change game result.2 result.1 := by
  obtain ⟨opening, acts⟩ := h
  exact (opens _ _ opening).append (Steps.refine act acts)

/-! ## Links -/

theorem onSession_acts {game : GameNode} {peer : Bytes} {f : InnerNetworkSession → InnerNetworkSession × Option Bytes}
    (op : ∀ session, game.sessions.findByNodeId peer = some session →
      LinkOp game.registerRequest peer session (f session).1 (f session).2) :
    Acts origin input game (game.onSession peer f) := by
  unfold onSession
  split
  · exact .refl game
  · rename_i session found
    exact Steps.single (.link found (op session found))

theorem updateSession_acts (game : GameNode) (peer : Bytes) {f : InnerNetworkSession → InnerNetworkSession × Bool}
    (op : ∀ session, LinkOp game.registerRequest peer session (f session).1 none) :
    Acts origin input game ((game.updateSession peer f).1, []) := by
  unfold updateSession
  split
  · exact .refl game
  · rename_i session found
    have written : Act origin input game [] _ := .link found (op session)
    exact Steps.single written

theorem sendRegisterTo_acts {game : GameNode} (env : GameEnv) {peer : Bytes} {session : InnerNetworkSession}
    (found : game.sessions.findByNodeId peer = some session) (idle : Idle session) :
    Acts origin input game (game.sendRegisterTo env peer) := by
  refine onSession_acts fun session' found' => .ask env.toLinkEnv ?_
  rw [found] at found'
  cases found'
  exact idle

/-- The session of a peer once the state of its link was set. -/
theorem findByNodeId_state {game : GameNode} {peer : Bytes} {session : InnerNetworkSession} {state : ZmqConnectionState}
    (found : game.sessions.findByNodeId peer = some session) :
    (game.sessions.modify peer fun s => { s with connectionState := state }).findByNodeId peer =
      some { session with connectionState := state } := by
  rw [InnerNetworkSessionManager.findByNodeId_modify, if_pos rfl, found]
  rfl

theorem handleConnectorStateChanged_handled (game : GameNode) (env : GameEnv) (peer : Bytes) (state : ZmqConnectionState) :
    Handled game (.connectorState env peer state) (game.handleConnectorStateChanged env peer state) := by
  unfold handleConnectorStateChanged
  split
  · rename_i isGm
    subst isGm
    unfold handleGmConnectionStateChanged
    split
    · exact .refl game
    · rename_i session found
      have changed : Opening game (.connectorState env gmRemoteNodeId state) [] _ := .state found (.inl rfl)
      simp only
      split
      · exact changed.handled (.refl _)
      split
      · rename_i idle
        exact changed.handled (sendRegisterTo_acts env (findByNodeId_state found) idle)
      · exact changed.handled (.refl _)
  · rename_i isGate
    unfold handleGateConnectionStateChanged
    split
    · exact .refl game
    · rename_i session found
      split
      · rename_i down
        have changed : Opening game (.connectorState env peer state) [] _ := .reset found isGate down
        exact changed.handled (.refl _)
      · rename_i up
        rw [ne_eq, Decidable.not_not] at up
        have changed : Opening game (.connectorState env peer state) [] _ := .state found (.inr up)
        simp only
        split
        · rename_i idle
          exact changed.handled (sendRegisterTo_acts env (findByNodeId_state found) idle.2)
        · exact changed.handled (.refl _)

theorem startGateConnectors_acts (game : GameNode) (env : GameEnv) :
    Acts origin input game (game.startGateConnectors env) := by
  unfold startGateConnectors
  -- the loop is over the configured Gates, with the acts so far as invariant
  suffices ∀ (gates : List Bytes) (state : GameNode × List GameEvent), Acts origin input game state →
      Acts origin input game (gates.foldl (startGateConnector env) state) from this game.gates _ (.refl game)
  intro gates
  induction gates with
  | nil => exact fun state h => h
  | cons gate gates ih =>
    intro state h
    apply ih
    unfold startGateConnector
    split
    · exact h
    split
    · exact h
    rename_i session found
    split
    · rename_i idle
      exact h.seq (sendRegisterTo_acts env found idle.2)
    · exact h

/-! ## Reports -/

/-- A mesh-ready report: the packet goes to the GM and its time is noted, or
nothing happens. -/
theorem sendMeshReadyReport_cases (game : GameNode) (env : GameEnv) :
    (∃ packet, HasMsgId packet innerGameGateMeshReadyReportMsgId ∧ game.sendMeshReadyReport env =
      ({ game with meshReady := { game.meshReady with lastReportedAtUnixMs := env.meshReportUnixMs } },
        [.send gmRemoteNodeId packet])) ∨
    game.sendMeshReadyReport env = (game, []) := by
  unfold sendMeshReadyReport
  split
  · exact .inr rfl
  split
  · exact .inr rfl
  split
  · exact .inr rfl
  · rename_i packet sent
    exact .inl ⟨packet, LinkEnv.send_msgId sent, rfl⟩

theorem sendServiceReadyReport_acts {game : GameNode} (env : GameEnv) (latched : game.meshReady.current = true)
    (complete : LocalStubsReady game)
    (unreported : game.serviceReady.lastReportedAssignmentEpoch ≠ game.ownership.assignmentEpoch) :
    Acts origin input game (game.sendServiceReadyReport env) := by
  unfold sendServiceReadyReport
  split
  · exact .refl game
  simp only
  split
  · exact .refl game
  split
  · exact .refl game
  rename_i body encodedBody
  split
  · exact .refl game
  · rename_i packet sent
    have encoded := LinkEnv.send_some sent
    have fits : body.length ≤ 4294967295 := (encodePacket_ok encoded).2.2.1
    exact Steps.single (.report latched complete unreported encoded (decodeGameServiceReadyReport_encode encodedBody fits))

theorem checkAllLocalStubsReady_acts (game : GameNode) (env : GameEnv) :
    Acts origin input game (game.checkAllLocalStubsReady env) := by
  unfold checkAllLocalStubsReady
  split
  · exact .refl game
  rename_i started
  simp only [Bool.or_eq_true, Bool.not_eq_true', beq_iff_eq, not_or, Bool.not_eq_false] at started
  split
  · exact .refl game
  rename_i counted
  simp only [Bool.or_eq_true, bne_iff_ne, ne_eq, not_or, Decidable.not_not, List.isEmpty_iff] at counted
  split
  · exact .refl game
  · rename_i unreported
    exact sendServiceReadyReport_acts env started.1 ⟨started.2, counted.1, counted.2⟩ unreported

theorem checkMesh_acts {game : GameNode} {env : GameEnv} (looked : origin.meshCheck input = some (game, env)) :
    Acts origin input game (game.checkMesh env) := by
  unfold checkMesh
  split
  · rename_i complete
    simp only [Bool.and_eq_true, Bool.not_eq_true'] at complete
    unfold onAllGateConnected
    rw [if_neg (by simp [complete.1])]
    have mesh : Acts origin input game (game.latch.sendMeshReadyReport env) :=
      Steps.single (.mesh looked complete.1 complete.2)
    exact mesh.seq (checkAllLocalStubsReady_acts _ env)
  · exact .refl game

/-! ## Messages -/

/-- A message of a Gate: its response is applied to the session, and if it was
awaited the mesh is looked at. -/
theorem handleGateMessage_eq (game : GameNode) (env : GameEnv) (gate payload : Bytes) :
    game.handleGateMessage env gate payload =
      match (decodePacket payload).toOption.bind (responseOf env) with
      | none => (game, [])
      | some response =>
        if (game.updateSession gate response).2 && (game.updateSession gate response).1.allNodesOnline then
          (game.updateSession gate response).1.checkMesh env
        else ((game.updateSession gate response).1, []) := by
  unfold handleGateMessage
  split
  · rename_i unknown
    split
    · rfl
    · simp [updateSession, unknown]
  split
  · rename_i undecoded
    rw [undecoded]
    rfl
  rename_i packet decoded
  rw [decoded]
  simp only [Except.toOption, Option.bind_some]
  unfold responseOf dispatchResponse
  split
  · rename_i relayed
    split
    · rfl
    · rename_i response taken
      revert taken
      split
      · nofun
      rcases relayed with isProxy | isMailbox | isCreate
      · simp [isProxy, show relayForwardProxyCallMsgId ≠ innerRegisterMsgId by decide,
          show relayForwardProxyCallMsgId ≠ innerHeartbeatMsgId by decide]
      · simp [isMailbox, show relayForwardMailboxCallMsgId ≠ innerRegisterMsgId by decide,
          show relayForwardMailboxCallMsgId ≠ innerHeartbeatMsgId by decide]
      · simp [isCreate, show gateCreateAvatarEntityMsgId ≠ innerRegisterMsgId by decide,
          show gateCreateAvatarEntityMsgId ≠ innerHeartbeatMsgId by decide]
  split
  · rfl
  split
  · split
    · rfl
    · rfl
  split
  · split
    · rfl
    · rfl
  · rfl

theorem responseOf_op {env : GameEnv} {packet : Packet} {response : InnerNetworkSession → InnerNetworkSession × Bool}
    (taken : responseOf env packet = some response) (request : RegisterRequest) (peer : Bytes)
    (session : InnerNetworkSession) : LinkOp request peer session (response session).1 none := by
  unfold responseOf at taken
  split at taken
  · cases taken
  split at taken
  · split at taken
    · cases taken
      exact .registerResponse env packet
    · cases taken
  split at taken
  · split at taken
    · cases taken
      exact .heartbeatResponse env packet
    · cases taken
  · cases taken

theorem handleGateMessage_acts (game : GameNode) (env : GameEnv) {gate : Bytes} (isGate : gate ≠ gmRemoteNodeId)
    (payload : Bytes) :
    Acts game (.connectorMessage env gate payload) game (game.handleGateMessage env gate payload) := by
  rw [handleGateMessage_eq]
  split
  · exact .refl game
  rename_i response taken
  obtain ⟨packet, decoded, isResponse⟩ := Option.bind_eq_some_iff.mp taken
  have updated : Acts game (.connectorMessage env gate payload) game ((game.updateSession gate response).1, []) :=
    updateSession_acts game gate (responseOf_op isResponse game.registerRequest gate)
  split
  · rename_i awaited
    rw [Bool.and_eq_true] at awaited
    refine updated.seq (checkMesh_acts ?_)
    simp [meshCheck, decoded, isGate, isResponse, awaited]
  · exact updated

theorem handleClusterNodesOnlineNotify_acts {game : GameNode} (env : GameEnv) {payload : Bytes} {packet : Packet}
    (decoded : decodePacket payload = .ok packet) (kind : packet.header.msgId = innerClusterNodesOnlineNotifyMsgId) :
    Acts game (.connectorMessage env gmRemoteNodeId payload) game (game.handleClusterNodesOnlineNotify env packet) := by
  unfold handleClusterNodesOnlineNotify
  split
  · exact .refl game
  rename_i notify body
  split
  · exact .refl game
  · rename_i all
    rw [Bool.not_eq_true', Bool.not_eq_false] at all
    have started : Acts game (.connectorMessage env gmRemoteNodeId payload) game
        ((game.notedOnline notify.serverNowUnixMs).startGateConnectors env) :=
      .after (startGateConnectors_acts _ env) (.online notify.serverNowUnixMs)
    refine started.seq (checkMesh_acts ?_)
    simp [meshCheck, decoded, Except.toOption, kind, body, all]

theorem handleServerStubOwnershipSync_handled {game : GameNode} (env : GameEnv) {payload : Bytes} {packet : Packet}
    (decoded : decodePacket payload = .ok packet) (kind : packet.header.msgId = innerServerStubOwnershipSyncMsgId) :
    Handled game (.connectorMessage env gmRemoteNodeId payload) (game.handleServerStubOwnershipSync env packet) := by
  unfold handleServerStubOwnershipSync
  split
  · exact .refl game
  rename_i sync accepted
  have latched : game.meshReady.current = true := by
    simp only [acceptOwnershipSync, Option.bind_eq_bind, Option.bind_eq_some_iff, Option.guard_eq_some'] at accepted
    obtain ⟨_, -, _, latched, -⟩ := accepted
    exact latched
  have brought : game.ownershipSyncOf (.connectorMessage env gmRemoteNodeId payload) = some sync := by
    simp only [ownershipSyncOf, if_true, decoded, kind]
    exact accepted
  split
  · exact .refl game
  · exact .intro (.apply latched brought) (checkAllLocalStubsReady_acts _ env)

/-- A response of the GM. -/
theorem gmResponse_acts (game : GameNode) (env : GameEnv) (packet : Packet) :
    Acts origin input game (game.dispatchResponse packet (game.handleRegisterResponse env packet)
      (game.handleHeartbeatResponse env packet)) := by
  unfold dispatchResponse
  split
  · exact .refl game
  split
  · split
    · exact updateSession_acts game _ fun _ => .registerResponse env packet
    · exact .refl game
  split
  · split
    · exact updateSession_acts game _ fun _ => .heartbeatResponse env packet
    · exact .refl game
  · exact .refl game

/-- A ready callback is stored and the stubs are counted, or nothing happens. -/
theorem handleManagedServerStubReady_eq (game : GameNode) (env : GameEnv) (assignmentEpoch : UInt64)
    (entry : ManagedServerStubReadyEntry) :
    game.handleManagedServerStubReady env assignmentEpoch entry =
      if game.takesReady assignmentEpoch entry then
        checkAllLocalStubsReady { game with serviceReady := { game.serviceReady with
          readyEntries := upsertReadyEntry game.serviceReady.readyEntries entry.toReadyEntry } } env
      else (game, []) := by
  unfold handleManagedServerStubReady takesReady
  split
  · rename_i other
    rw [if_neg]
    simp only [Bool.or_eq_true, Bool.not_eq_true', beq_iff_eq, bne_iff_ne] at other
    simp only [Bool.and_eq_true, bne_iff_ne, ne_eq, beq_iff_eq, decide_eq_true_eq]
    rintro ⟨⟨⟨⟨⟨⟨loaded, started⟩, current⟩, ready⟩, -⟩, -⟩, -⟩
    rcases other with ((unloaded | zero) | stale) | unready
    · rw [loaded] at unloaded
      cases unloaded
    · exact started zero
    · exact stale current
    · exact ready unready
  rename_i current
  simp only [Bool.or_eq_true, Bool.not_eq_true', beq_iff_eq, bne_iff_ne, not_or, Bool.not_eq_false, ne_eq,
    Decidable.not_not] at current
  split
  · rename_i long
    rw [if_neg]
    simp only [Bool.and_eq_true, decide_eq_true_eq]
    omega
  rename_i fits
  rw [not_or, Nat.not_lt, Nat.not_lt] at fits
  split
  · rename_i unowned
    rw [if_neg]
    rw [Bool.and_eq_true]
    rintro ⟨-, owned⟩
    rw [owned] at unowned
    cases unowned
  · rename_i owned
    rw [Bool.not_eq_true', Bool.not_eq_false] at owned
    rw [if_pos]
    simp only [Bool.and_eq_true, bne_iff_ne, ne_eq, beq_iff_eq, decide_eq_true_eq]
    exact ⟨⟨⟨⟨⟨⟨current.1.1.1, current.1.1.2⟩, current.1.2⟩, current.2⟩, fits.1⟩, fits.2⟩, owned⟩

/-- **Every input is handled** by an opening and acts. -/
theorem step_handled (game : GameNode) (input : Input) : Handled game input (game.step input) := by
  cases input with
  | connectorState env peer state => exact handleConnectorStateChanged_handled game env peer state
  | heartbeatTimer env peer =>
    have ticked : Acts game (.heartbeatTimer env peer) game (game.heartbeatTimerFired env peer) :=
      onSession_acts fun session _ => .tick env.toLinkEnv
    exact ticked.handled
  | serverStubReady env assignmentEpoch entry =>
    simp only [step, handleManagedServerStubReady_eq]
    split
    · rename_i taken
      exact .intro (.ready taken) (checkAllLocalStubsReady_acts _ env)
    · exact .refl game
  | connectorMessage env peer payload =>
    simp only [step, handleConnectorMessage]
    split
    · rename_i isGm
      subst isGm
      unfold handleGmMessage
      split
      · exact .refl game
      rename_i packet decoded
      split
      · rename_i kind
        exact (handleClusterNodesOnlineNotify_acts env decoded kind).handled
      split
      · rename_i kind
        exact handleServerStubOwnershipSync_handled env decoded kind
      split
      · exact .refl game
      · exact (gmResponse_acts game env packet).handled
    · rename_i isGate
      exact (handleGateMessage_acts game env isGate payload).handled

end GameNode

end XServer.Node
