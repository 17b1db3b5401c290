import XServer.Core.ClusterConfig
import XServer.Node.GmPeers

/-!
# Registration at the GM

`RollStep` says once what a handler call does to the GM's rolls: the session
table and the lists of nodes that registered for the startup. From it follow
two facts that each need a condition of its own. A request is granted or leaves
no trace, unless its answer cannot be sent (`register_atomic_iff`). A silent node
keeps its place, unless another process type takes its id (`first_request_granted`).
-/

namespace XServer.Node
open XServer.Lib XServer.Lib.Wire XServer.Net XServer.Core

namespace GmNode

/-! ## Granting a request -/

/-- A well-formed register request: its sequence number, its content and the
process type it is for. -/
def registerOf (payload : Bytes) : Option (UInt32 × RegisterRequest × ProcessType) := do
  let packet ← registerEnvelope payload
  let request ← (decodeRegisterRequest packet.payload).toOption
  let processType ← toCoreProcessType request.processType
  some (packet.header.seq, request, processType)

/-- What the session table makes of a well-formed request: the registration and
the table with it. -/
def grantRegister (gm : GmNode) (env : GmEnv) (routingId payload : Bytes) :
    Option (UInt32 × InnerNetworkSessionRegistration × InnerNetworkSessionManager) := do
  let (seq, request, processType) ← registerOf payload
  let registration := registrationOf request processType routingId env.nowUnixMs
  let sessions ← (gm.sessions.register registration).toOption
  some (seq, registration, sessions)

/-- The body of the answer that grants a registration. -/
def grantBody (env : GmEnv) : Bytes :=
  bigEndian 4 defaultHeartbeatIntervalMs.toNat ++
    (bigEndian 4 defaultHeartbeatTimeoutMs.toNat ++ bigEndian 8 env.nowUnixMs.toNat)

/-- The default heartbeat times pass their own check. -/
theorem defaultTiming_valid (now : UInt64) :
    validateRegisterSuccessResponse ⟨defaultHeartbeatIntervalMs, defaultHeartbeatTimeoutMs, now⟩ = .ok () := by
  have order : ¬ defaultHeartbeatIntervalMs ≥ defaultHeartbeatTimeoutMs := by decide
  rw [validateRegisterSuccessResponse, validateHeartbeatTiming, if_neg order]

theorem encode_grantBody (env : GmEnv) :
    encodeRegisterSuccessResponse ⟨defaultHeartbeatIntervalMs, defaultHeartbeatTimeoutMs, env.nowUnixMs⟩
      registerSuccessResponseSize = .ok (grantBody env) := by
  have emits : Emits (writeRegisterSuccessResponse
      ⟨defaultHeartbeatIntervalMs, defaultHeartbeatTimeoutMs, env.nowUnixMs⟩) (grantBody env) :=
    ((emits_uint32 _).seq <| (emits_uint32 _).seq (emits_uint64 _)).mapError
  unfold encodeRegisterSuccessResponse
  rw [defaultTiming_valid]
  exact emits.encodeInto (by simp [grantBody, registerSuccessResponseSize])

/-- The packet of that answer. -/
def grantPacket (env : GmEnv) (seq : UInt32) : Bytes :=
  headerBytes (makePacketHeader innerRegisterMsgId seq flagResponse (UInt32.ofNat (grantBody env).length)) ++ grantBody env

theorem send_grant (env : GmEnv) (routingId : Bytes) (seq : UInt32) :
    env.send routingId innerRegisterMsgId seq flagResponse (grantBody env) =
      if env.sendOk routingId (grantPacket env seq) then some (grantPacket env seq) else none := by
  have short : (grantBody env).length ≤ 4294967295 := by simp [grantBody]
  have encoded := @encodePacket_make innerRegisterMsgId seq flagResponse (grantBody env) (by decide) short
  unfold GmEnv.send
  rw [encoded]
  rfl

/-! ## What registering does -/

/-- The table after a granted registration. -/
def grantedSessions (env : GmEnv) (registration : InnerNetworkSessionRegistration)
    (sessions : InnerNetworkSessionManager) : InnerNetworkSessionManager :=
  sessions.modify registration.nodeId (applyRegistrationState registration env.nowUnixMs)

/-- The state once the answer is out and the startup list extended. -/
def recorded (gm : GmNode) (env : GmEnv) (registration : InnerNetworkSessionRegistration)
    (sessions : InnerNetworkSessionManager) : GmNode :=
  { gm with sessions := grantedSessions env registration sessions }.recordStartupRegistration registration.processType
    registration.nodeId

/-- What a register message does: nothing but an answer, or a registration. The
startup list follows only if the answer could be sent, and with the last node
the nodes-online phase begins. -/
inductive RegisterOutcome (gm : GmNode) (env : GmEnv) (routingId payload : Bytes) : GmNode × List GmEvent → Prop where
  | refused {events : List GmEvent} (none : gm.grantRegister env routingId payload = none)
      (answers : ∀ event ∈ events, ∃ seq code, event ∈ sendRegisterError env routingId seq code) :
      RegisterOutcome gm env routingId payload (gm, events)
  | unanswered {seq : UInt32} {registration : InnerNetworkSessionRegistration} {sessions : InnerNetworkSessionManager}
      (granted : gm.grantRegister env routingId payload = some (seq, registration, sessions))
      (unsent : env.sendOk routingId (grantPacket env seq) = false) :
      RegisterOutcome gm env routingId payload ({ gm with sessions := grantedSessions env registration sessions }, [])
  | answered {seq : UInt32} {registration : InnerNetworkSessionRegistration} {sessions : InnerNetworkSessionManager}
      (granted : gm.grantRegister env routingId payload = some (seq, registration, sessions))
      (sent : env.sendOk routingId (grantPacket env seq) = true) :
      RegisterOutcome gm env routingId payload
        (gm.recorded env registration sessions, [.send routingId (grantPacket env seq)])
  | online {seq : UInt32} {registration : InnerNetworkSessionRegistration} {sessions : InnerNetworkSessionManager}
      (granted : gm.grantRegister env routingId payload = some (seq, registration, sessions))
      (sent : env.sendOk routingId (grantPacket env seq) = true)
      (closed : (gm.recorded env registration sessions).startup.allNodesOnline = false)
      (complete : (gm.recorded env registration sessions).areAllExpectedNodesOnline = true) :
      RegisterOutcome gm env routingId payload
        (((gm.recorded env registration sessions).onAllNodeOnline env).1,
          .send routingId (grantPacket env seq) :: ((gm.recorded env registration sessions).onAllNodeOnline env).2)

theorem completeRegistration_outcome {gm : GmNode} {env : GmEnv} {routingId payload : Bytes} {seq : UInt32}
    {registration : InnerNetworkSessionRegistration} {sessions : InnerNetworkSessionManager}
    (granted : gm.grantRegister env routingId payload = some (seq, registration, sessions)) :
    RegisterOutcome gm env routingId payload (gm.completeRegistration env routingId seq registration sessions) := by
  unfold completeRegistration
  simp only [encode_grantBody, send_grant]
  cases sent : env.sendOk routingId (grantPacket env seq) with
  | false => exact .unanswered granted sent
  | true =>
    simp only [if_true]
    split
    · rename_i opens
      simp only [Bool.and_eq_true, Bool.not_eq_true'] at opens
      exact .online granted sent opens.1 opens.2
    · exact .answered granted sent

theorem registerOutcome (gm : GmNode) (env : GmEnv) (routingId payload : Bytes) :
    RegisterOutcome gm env routingId payload (gm.handleRegisterMessage env routingId payload) := by
  unfold handleRegisterMessage
  split
  · rename_i malformed
    exact .refused (by simp [grantRegister, registerOf, malformed]) nofun
  · rename_i packet envelope
    simp only
    split
    · rename_i error undecoded
      exact .refused (by simp [grantRegister, registerOf, envelope, undecoded, Except.toOption])
        fun event mem => ⟨_, _, mem⟩
    · rename_i request decoded
      split
      · rename_i unknown
        exact .refused (by simp [grantRegister, registerOf, envelope, decoded, unknown, Except.toOption])
          fun event mem => ⟨_, _, mem⟩
      · rename_i processType known
        have wellFormed : registerOf payload = some (packet.header.seq, request, processType) := by
          simp [registerOf, envelope, decoded, known, Except.toOption]
        split
        · rename_i held
          refine .refused ?_ fun event mem => ⟨_, _, mem⟩
          cases accepted : gm.sessions.register (registrationOf request processType routingId env.nowUnixMs) with
          | error e => simp [grantRegister, wellFormed, accepted, Except.toOption]
          | ok sessions =>
            have free := (InnerNetworkSessionManager.register_ok accepted).1
            exact absurd (held.symm.trans free) (by simp)
        · split
          · rename_i refused
            exact .refused (by simp [grantRegister, wellFormed, refused, Except.toOption])
              fun event mem => ⟨_, _, mem⟩
          · rename_i sessions accepted
            exact completeRegistration_outcome (by simp [grantRegister, wellFormed, accepted, Except.toOption])

theorem grantRegister_some {gm : GmNode} {env : GmEnv} {routingId payload : Bytes} {seq : UInt32}
    {registration : InnerNetworkSessionRegistration} {sessions : InnerNetworkSessionManager}
    (h : gm.grantRegister env routingId payload = some (seq, registration, sessions)) :
    ∃ request processType, registerOf payload = some (seq, request, processType) ∧
      registration = registrationOf request processType routingId env.nowUnixMs ∧
      gm.sessions.register registration = .ok sessions := by
  obtain ⟨⟨seq', request, processType⟩, wellFormed, h⟩ := Option.bind_eq_some_iff.mp h
  obtain ⟨sessions', accepted, h⟩ := Option.bind_eq_some_iff.mp h
  cases h
  exact ⟨request, processType, wellFormed, rfl, ok_of_toOption accepted⟩

/-- The sessions after a grant: the new one is registered, the others are as they
were. -/
theorem findByNodeId_granted {gm : GmNode} {env : GmEnv} {registration : InnerNetworkSessionRegistration}
    {sessions : InnerNetworkSessionManager} (accepted : gm.sessions.register registration = .ok sessions)
    (nodeId : Bytes) :
    (grantedSessions env registration sessions).findByNodeId nodeId =
      if registration.nodeId = nodeId then
        some (applyRegistrationState registration env.nowUnixMs registration.toSession)
      else gm.sessions.findByNodeId nodeId := by
  obtain ⟨-, entries, -⟩ := InnerNetworkSessionManager.register_ok accepted
  rw [grantedSessions, InnerNetworkSessionManager.findByNodeId_modify]
  by_cases same : registration.nodeId = nodeId
  · subst same
    rw [if_pos rfl, if_pos rfl, InnerNetworkSessionManager.findByNodeId, entries, Table.get_insert_self]
    rfl
  · rw [if_neg same, if_neg same, InnerNetworkSessionManager.findByNodeId, entries, Table.get_insert_of_ne _ _ same]
    rfl

/-! ## All or nothing -/

/-- A packet that grants the request with this sequence number. -/
def IsGrant (packet : Bytes) (seq : UInt32) : Prop :=
  ∃ header body answer, decodePacket packet = .ok ⟨header, body⟩ ∧ header.msgId = innerRegisterMsgId ∧
    header.flags = flagResponse ∧ header.seq = seq ∧ decodeRegisterSuccessResponse body = .ok answer

theorem grantPacket_isGrant (env : GmEnv) (seq : UInt32) : IsGrant (grantPacket env seq) seq := by
  have short : (grantBody env).length ≤ 4294967295 := by simp [grantBody]
  have encoded := @encodePacket_make innerRegisterMsgId seq flagResponse (grantBody env) (by decide) short
  have reads : Reads readRegisterSuccessResponse (grantBody env)
      ⟨defaultHeartbeatIntervalMs, defaultHeartbeatTimeoutMs, env.nowUnixMs⟩ :=
    ((reads_uint32 _).bind <| (reads_uint32 _).bind <| (reads_uint64 _).last rfl).mapError
  exact ⟨_, _, _, decodePacket_encodePacket encoded, rfl, rfl, rfl, reads.decodeExact (defaultTiming_valid env.nowUnixMs)⟩

/-- The node is on the startup list it belongs to. -/
def OnStartupList (gm : GmNode) (processType : ProcessType) (nodeId : Bytes) : Prop :=
  (processType = .gate → nodeId ∈ gm.startup.expectedGateNodeIds → nodeId ∈ gm.startup.registeredGateNodeIds) ∧
    (processType = .game → nodeId ∈ gm.expectedGameNodeIds → nodeId ∈ gm.startup.registeredGameNodeIds)

/-- The request was accepted: its node has a registered session, a grant was
handed to the network, and a node that is expected is on its list. -/
def RegisterAccepted (routingId payload : Bytes) (result : GmNode × List GmEvent) : Prop :=
  ∃ seq request processType session packet, registerOf payload = some (seq, request, processType) ∧
    result.1.sessions.findByNodeId request.nodeId = some session ∧ session.registered = true ∧
    .send routingId packet ∈ result.2 ∧ IsGrant packet seq ∧ result.1.OnStartupList processType request.nodeId

/-- All or nothing: the request was accepted, or the sessions and the startup
state are as before. -/
def RegisterAtomic (gm : GmNode) (env : GmEnv) (routingId payload : Bytes) : Prop :=
  RegisterAccepted routingId payload (gm.handleRegisterMessage env routingId payload) ∨
    (gm.handleRegisterMessage env routingId payload).1.sessions = gm.sessions ∧
      (gm.handleRegisterMessage env routingId payload).1.startup = gm.startup

theorem recordStartupRegistration_onList (gm : GmNode) (processType : ProcessType) (nodeId : Bytes) :
    (gm.recordStartupRegistration processType nodeId).OnStartupList processType nodeId := by
  unfold recordStartupRegistration
  cases processType with
  | gm => exact ⟨nofun, nofun⟩
  | gate =>
    refine ⟨fun _ expected => ?_, nofun⟩
    simp only at expected ⊢
    split
    · rename_i skipped
      rw [if_pos skipped] at expected
      simpa [expected] using skipped
    · exact List.mem_append_right _ (List.mem_singleton_self nodeId)
  | game =>
    refine ⟨nofun, fun _ expected => ?_⟩
    simp only at expected ⊢
    split
    · rename_i skipped
      rw [if_pos skipped] at expected
      simp only [Bool.or_eq_true, decide_eq_true_eq, List.contains_iff_mem] at skipped
      refine skipped.resolve_left fun missing => ?_
      obtain ⟨entry, mem, rfl⟩ := List.mem_map.mp expected
      simpa using List.find?_eq_none.mp missing entry mem
    · exact List.mem_append_right _ (List.mem_singleton_self nodeId)

@[simp] theorem recordStartupRegistration_sessions (gm : GmNode) (processType : ProcessType) (nodeId : Bytes) :
    (gm.recordStartupRegistration processType nodeId).sessions = gm.sessions := by
  obtain ⟨gates, games, eq⟩ := recordStartupRegistration_eq gm processType nodeId
  rw [eq]
  rfl

theorem recorded_sessions (gm : GmNode) (env : GmEnv) (registration : InnerNetworkSessionRegistration)
    (sessions : InnerNetworkSessionManager) :
    (gm.recorded env registration sessions).sessions = grantedSessions env registration sessions :=
  recordStartupRegistration_sessions ..

theorem onAllNodeOnline_eq {gm : GmNode} (env : GmEnv) (closed : gm.startup.allNodesOnline = false) :
    (gm.onAllNodeOnline env).1 = gm.withNodesOnline env.laterUnixMs := (onAllNodeOnline_open gm env closed).1

/-- A grant whose answer is out meets all that acceptance asks for. -/
theorem recorded_accepted {gm : GmNode} {env : GmEnv} {routingId payload : Bytes} {seq : UInt32}
    {registration : InnerNetworkSessionRegistration} {sessions : InnerNetworkSessionManager}
    (granted : gm.grantRegister env routingId payload = some (seq, registration, sessions)) :
    ∃ request processType session, registerOf payload = some (seq, request, processType) ∧
      (gm.recorded env registration sessions).sessions.findByNodeId request.nodeId = some session ∧
      session.registered = true ∧ (gm.recorded env registration sessions).OnStartupList processType request.nodeId := by
  obtain ⟨request, processType, wellFormed, rfl, accepted⟩ := grantRegister_some granted
  have found := @findByNodeId_granted gm env _ _ accepted request.nodeId
  rw [if_pos (by rfl), ← recorded_sessions gm] at found
  exact ⟨request, processType, _, wellFormed, found, rfl, recordStartupRegistration_onList ..⟩

/-- A granted registration changes the sessions: its node had none. -/
theorem grantedSessions_ne {gm : GmNode} {env : GmEnv} {routingId payload : Bytes} {seq : UInt32}
    {registration : InnerNetworkSessionRegistration} {sessions : InnerNetworkSessionManager}
    (granted : gm.grantRegister env routingId payload = some (seq, registration, sessions)) :
    grantedSessions env registration sessions ≠ gm.sessions := by
  intro unchanged
  obtain ⟨-, -, -, -, accepted⟩ := grantRegister_some granted
  have held := @findByNodeId_granted gm env _ _ accepted registration.nodeId
  have free := (InnerNetworkSessionManager.register_ok accepted).1
  rw [if_pos rfl, unchanged] at held
  exact absurd (held.symm.trans free) (by simp)

/-- **Atomic registration.** A register message is accepted as a whole or leaves
no trace, exactly when the answer to a request that the session table grants can
be sent. -/
theorem register_atomic_iff (gm : GmNode) (env : GmEnv) (routingId payload : Bytes) :
    RegisterAtomic gm env routingId payload ↔
      ∀ (seq : UInt32) (registration : InnerNetworkSessionRegistration) (sessions : InnerNetworkSessionManager),
        gm.grantRegister env routingId payload = some (seq, registration, sessions) →
        env.sendOk routingId (grantPacket env seq) = true := by
  unfold RegisterAtomic
  have outcome := registerOutcome gm env routingId payload
  generalize gm.handleRegisterMessage env routingId payload = result at outcome ⊢
  cases outcome with
  | refused none answers =>
    constructor
    · intro _ seq registration sessions granted
      rw [none] at granted
      cases granted
    · intro _
      exact .inr ⟨rfl, rfl⟩
  | @unanswered seq registration sessions granted unsent =>
    constructor
    · rintro (⟨_, _, _, _, _, -, -, -, sent, -⟩ | ⟨unchanged, -⟩)
      · cases sent
      · -- the session that was entered is still there
        exact absurd unchanged (grantedSessions_ne granted)
    · intro sendable
      rw [sendable seq registration sessions granted] at unsent
      cases unsent
  | @answered seq registration sessions granted sent =>
    constructor
    · intro _ seq' registration' sessions' granted'
      rw [granted] at granted'
      cases granted'
      exact sent
    · intro _
      obtain ⟨request, processType, session, wellFormed, found, registered, listed⟩ := recorded_accepted granted
      exact .inl ⟨seq, request, processType, session, grantPacket env seq, wellFormed, found, registered,
        List.mem_singleton_self _, grantPacket_isGrant env seq, listed⟩
  | @online seq registration sessions granted sent closed complete =>
    constructor
    · intro _ seq' registration' sessions' granted'
      rw [granted] at granted'
      cases granted'
      exact sent
    · intro _
      obtain ⟨request, processType, session, wellFormed, found, registered, listed⟩ := recorded_accepted granted
      refine .inl ⟨seq, request, processType, session, grantPacket env seq, wellFormed, ?_, registered,
        List.mem_cons_self, grantPacket_isGrant env seq, ?_⟩
      · rw [onAllNodeOnline_eq env closed]
        exact found
      · rw [onAllNodeOnline_eq env closed]
        exact listed

/-- A register request as a node of this type sends it. -/
def sampleRegister (processType : UInt16) (nodeId : Bytes) : Bytes :=
  samplePacket innerRegisterMsgId 1 0 (encodeRegisterRequest
    { processType, processFlags := 0, nodeId, pid := 1, startedAtUnixMs := 1, innerNetworkEndpoint := sampleEndpoint 5100
      buildVersion := [], capabilityTags := [], load := ⟨0, 0, 0, 0, 0⟩ } 200)

/-- The GM of the small cluster. -/
def sampleGm : GmNode := GmNode.init sampleConfig.gateNodeIds sampleConfig.gameNodeIds

/-- The answer to the Gate cannot be sent: its session stays, and it is on no
list. -/
theorem unsent_answer_leaves_session :
    ¬ RegisterAtomic sampleGm { nowUnixMs := 1000, sendOk := fun _ _ => false } (text "Gate0")
      (sampleRegister innerProcessTypeGate (text "Gate0")) := by
  rintro (⟨_, _, _, _, packet, -, -, -, sent, -⟩ | ⟨unchanged, -⟩)
  · have silent : (sampleGm.handleRegisterMessage { nowUnixMs := 1000, sendOk := fun _ _ => false } (text "Gate0")
        (sampleRegister innerProcessTypeGate (text "Gate0"))).2 = [] := by decide +kernel
    rw [silent] at sent
    cases sent
  · revert unchanged
    decide +kernel

/-! ## The rolls -/

/-- The startup lists and what they are compared with are as before. -/
structure SameRolls (gm gm' : GmNode) : Prop where
  expectedGates : gm'.startup.expectedGateNodeIds = gm.startup.expectedGateNodeIds
  expectedGames : gm'.expectedGameNodeIds = gm.expectedGameNodeIds
  gates : gm'.startup.registeredGateNodeIds = gm.startup.registeredGateNodeIds
  games : gm'.startup.registeredGameNodeIds = gm.startup.registeredGameNodeIds
  online : gm'.startup.allNodesOnline = gm.startup.allNodesOnline

/-- What one handler call does to the rolls. -/
inductive RollStep (gm : GmNode) (input : Input) : GmNode × List GmEvent → Prop where
  | kept {gm' : GmNode} {events : List GmEvent} (rolls : SameRolls gm gm') (sessions : gm'.sessions = gm.sessions) :
      RollStep gm input (gm', events)
  | refreshed {gm' : GmNode} {events : List GmEvent} {nodeId : Bytes} {load : LoadSnapshot} {now : UInt64}
      (rolls : SameRolls gm gm') (sessions : gm'.sessions = gm.sessions.modify nodeId (refreshHeartbeat load now)) :
      RollStep gm input (gm', events)
  | scanned {env : GmEnv} (scan : input = .timeoutScan env) : RollStep gm input (gm.handleTimeoutScan env)
  | register {env : GmEnv} {routingId payload : Bytes} {result : GmNode × List GmEvent}
      (arrived : input = .message env routingId payload) (kind : HasMsgId payload innerRegisterMsgId)
      (outcome : RegisterOutcome gm env routingId payload result) : RollStep gm input result

theorem SameRolls.refl (gm : GmNode) : SameRolls gm gm := ⟨rfl, rfl, rfl, rfl, rfl⟩

theorem SameRolls.trans {a b c : GmNode} (ab : SameRolls a b) (bc : SameRolls b c) : SameRolls a c where
  expectedGates := bc.expectedGates.trans ab.expectedGates
  expectedGames := bc.expectedGames.trans ab.expectedGames
  gates := bc.gates.trans ab.gates
  games := bc.games.trans ab.games
  online := bc.online.trans ab.online

theorem ensureServerStubAssignments_startup (gm : GmNode) (env : GmEnv) :
    (gm.ensureServerStubAssignments env).2.startup = gm.startup := by
  unfold ensureServerStubAssignments
  split
  · rfl
  simp only
  split
  · rfl
  split <;> rfl

/-- The rolls do not depend on the flag of the ownership phase. -/
theorem SameRolls.of_startup {gm gm' : GmNode} {ready : Bool}
    (same : gm'.startup = { gm.startup with allExpectedGamesMeshReady := ready }) : SameRolls gm gm' := by
  constructor
  · rw [same]
  · rw [expectedGameNodeIds, same]
    rfl
  · rw [same]
  · rw [same]
  · rw [same]

theorem onAllGameReady_rolls (gm : GmNode) (env : GmEnv) : SameRolls gm (gm.onAllGameReady env).1 := by
  unfold onAllGameReady
  split
  · exact .refl gm
  · have kept := ensureServerStubAssignments_startup
      { gm with startup := { gm.startup with allExpectedGamesMeshReady := true } } env
    simp only
    split
    · rename_i failed
      rw [failed] at kept
      exact .of_startup kept
    · rename_i assigned
      rw [assigned] at kept
      split <;> exact .of_startup kept

theorem handleGameGateMeshReadyReport_rolls (gm : GmNode) (input : Input) (env : GmEnv) (routingId payload : Bytes) :
    RollStep gm input (gm.handleGameGateMeshReadyReport env routingId payload) := by
  unfold handleGameGateMeshReadyReport
  split
  · exact .kept (.refl gm) rfl
  · rename_i session report accepted
    have marked : SameRolls gm (gm.markMeshReady session.nodeId report.reportedAtUnixMs) :=
      ⟨rfl, expectedGameNodeIds_markMeshReady .., rfl, rfl, rfl⟩
    simp only
    split
    · exact .kept (marked.trans (onAllGameReady_rolls _ env)) (onAllGameReady_sessions _ env)
    · exact .kept marked rfl

theorem handleGameStubsReadyReport_rolls (gm : GmNode) (input : Input) (env : GmEnv) (routingId payload : Bytes) :
    RollStep gm input (gm.handleGameStubsReadyReport env routingId payload) := by
  unfold handleGameStubsReadyReport
  split
  · exact .kept (.refl gm) rfl
  simp only
  split
  · unfold onAllStubReady
    split
    · exact .kept ⟨rfl, rfl, rfl, rfl, rfl⟩ rfl
    · exact .kept ⟨rfl, rfl, rfl, rfl, rfl⟩ rfl
  · exact .kept ⟨rfl, rfl, rfl, rfl, rfl⟩ rfl

theorem handleHeartbeatMessage_rolls (gm : GmNode) (input : Input) (env : GmEnv) (routingId payload : Bytes) :
    RollStep gm input (gm.handleHeartbeatMessage env routingId payload) := by
  unfold handleHeartbeatMessage
  split
  · exact .kept (.refl gm) rfl
  split
  · exact .kept (.refl gm) rfl
  split
  · exact .kept (.refl gm) rfl
  unfold InnerNetworkSessionManager.modifyByRoutingId
  split
  · exact .kept (.refl gm) rfl
  split
  · exact .kept (.refl gm) rfl
  · exact .refreshed ⟨rfl, rfl, rfl, rfl, rfl⟩ rfl

/-- **Every input is a `RollStep`.** -/
theorem step_rollStep (gm : GmNode) (input : Input) : RollStep gm input (gm.step input) := by
  cases input with
  | message env routingId payload =>
    simp only [step, handleInnerMessage]
    split
    · exact .kept (.refl gm) rfl
    rename_i raw read
    split
    · rename_i isRegister
      exact .register rfl ⟨raw, read, isRegister⟩ (registerOutcome gm env routingId payload)
    split
    · exact handleHeartbeatMessage_rolls gm _ env routingId payload
    split
    · exact handleGameGateMeshReadyReport_rolls gm _ env routingId payload
    split
    · exact handleGameStubsReadyReport_rolls gm _ env routingId payload
    · exact .kept (.refl gm) rfl
  | timeoutScan env => exact .scanned rfl
  | peerDisconnected routingId => exact .kept (.refl gm) rfl

/-! ## Whose id it is -/

/-- The process type and the node id that a register message is for. -/
def Input.registers : Input → Option (ProcessType × Bytes)
  | .message _ _ payload =>
    if HasMsgId payload innerRegisterMsgId then (registerOf payload).map fun (_, request, processType) =>
      (processType, request.nodeId)
    else none
  | _ => none

/-- A configured node. -/
def Expects (config : ClusterConfig) : ProcessType → Bytes → Prop
  | .gate, nodeId => nodeId ∈ config.gateNodeIds
  | .game, nodeId => nodeId ∈ config.gameNodeIds
  | .gm, _ => False

theorem Expects.configured {config : ClusterConfig} {processType : ProcessType} {nodeId : Bytes}
    (h : Expects config processType nodeId) : nodeId ∈ config.gateNodeIds ++ config.gameNodeIds := by
  cases processType with
  | gate => exact List.mem_append_left _ h
  | game => exact List.mem_append_right _ h
  | gm => exact h.elim

/-- A configured node id belongs to one process type. -/
theorem Expects.unique {config : ClusterConfig} {a b : ProcessType} {nodeId : Bytes} (ha : Expects config a nodeId)
    (hb : Expects config b nodeId) : a = b := by
  have clash : ∀ id, id ∈ config.gateNodeIds → id ∈ config.gameNodeIds → False := by
    intro id gate game
    have parsed := config.parse_gate gate
    rw [config.parse_game game] at parsed
    cases parsed
  cases a <;> cases b
  all_goals first
    | rfl
    | exact ha.elim
    | exact hb.elim
    | exact (clash nodeId ha hb).elim
    | exact (clash nodeId hb ha).elim

/-- The message comes over a channel that no node has. -/
def Input.OverFreeChannel (gm : GmNode) : Input → Prop
  | .message _ routingId _ => routingId = [] ∨ gm.sessions.nodeIdByRoutingKey[routingId]? = none
  | _ => False

/-- A register message for a configured node id that nobody holds, over a channel that nobody has,
carries the configured process type. -/
def OwnType (config : ClusterConfig) (gm : GmNode) (input : Input) : Prop :=
  ∀ pair, input.registers = some pair → pair.2 ∈ config.gateNodeIds ++ config.gameNodeIds →
    gm.sessions.findByNodeId pair.2 = none → input.OverFreeChannel gm → Expects config pair.1 pair.2

/-- A register message enters the session of its request or leaves the table
alone. -/
theorem RegisterOutcome.sessions {gm : GmNode} {env : GmEnv} {routingId payload : Bytes}
    {result : GmNode × List GmEvent} (h : RegisterOutcome gm env routingId payload result) :
    result.1.sessions = match gm.grantRegister env routingId payload with
      | none => gm.sessions
      | some (_, registration, sessions) => grantedSessions env registration sessions := by
  cases h with
  | refused none => rw [none]
  | unanswered granted unsent => rw [granted]
  | answered granted sent =>
    rw [granted]
    exact recorded_sessions ..
  | online granted sent closed complete =>
    rw [granted, onAllNodeOnline_eq env closed]
    exact recorded_sessions ..

theorem registers_of_grant {gm : GmNode} {env : GmEnv} {routingId payload : Bytes} {seq : UInt32}
    {registration : InnerNetworkSessionRegistration} {sessions : InnerNetworkSessionManager}
    (kind : HasMsgId payload innerRegisterMsgId)
    (granted : gm.grantRegister env routingId payload = some (seq, registration, sessions)) :
    (Input.message env routingId payload).registers = some (registration.processType, registration.nodeId) := by
  obtain ⟨request, processType, wellFormed, rfl, -⟩ := grantRegister_some granted
  simp only [Input.registers, if_pos kind, wellFormed]
  rfl

/-- What the session of a node is after a step: as it was up to the marks of a
heartbeat or a scan, or the new one of a register message for the node, which had none. -/
theorem step_session (gm : GmNode) (input : Input) (nodeId : Bytes) :
    (∃ f : InnerNetworkSession → InnerNetworkSession, (∀ session, (f session).processType = session.processType) ∧
      (gm.step input).1.sessions.findByNodeId nodeId = (gm.sessions.findByNodeId nodeId).map f) ∨
    ∃ session, (gm.step input).1.sessions.findByNodeId nodeId = some session ∧
      input.registers = some (session.processType, nodeId) ∧ gm.sessions.findByNodeId nodeId = none ∧
      input.OverFreeChannel gm := by
  have same : ∀ {sessions : InnerNetworkSessionManager}, sessions = gm.sessions →
      sessions.findByNodeId nodeId = (gm.sessions.findByNodeId nodeId).map id := by
    rintro sessions rfl
    exact Option.map_id'.symm
  have roll := step_rollStep gm input
  generalize gm.step input = result at roll ⊢
  cases roll with
  | kept rolls sessions => exact .inl ⟨id, fun _ => rfl, same sessions⟩
  | @refreshed gm' events other load now rolls sessions =>
    rw [sessions, InnerNetworkSessionManager.findByNodeId_modify]
    split
    · exact .inl ⟨refreshHeartbeat load now, fun _ => rfl, rfl⟩
    · exact .inl ⟨id, fun _ => rfl, same rfl⟩
  | @scanned env scan =>
    refine .inl ⟨timeoutSession env.nowUnixMs, fun session => ?_, ?_⟩
    · unfold timeoutSession
      split
      · rfl
      split
      · rfl
      split <;> rfl
    · exact InnerNetworkSessionManager.findByNodeId_mapSessions ..
  | @register env routingId payload result arrived kind outcome =>
    have after := outcome.sessions
    split at after
    · exact .inl ⟨id, fun _ => rfl, same after⟩
    · rename_i seq registration sessions granted
      obtain ⟨request, processType, -, own, accepted⟩ := grantRegister_some granted
      have absent := (InnerNetworkSessionManager.register_ok accepted).1
      have unused := InnerNetworkSessionManager.register_unused accepted
      rw [after, findByNodeId_granted accepted]
      split
      · rename_i named
        rw [named] at absent
        rw [arrived, registers_of_grant kind granted, named]
        refine .inr ⟨_, rfl, rfl, absent, ?_⟩
        rw [own] at unused
        exact unused
      · exact .inl ⟨id, fun _ => rfl, same rfl⟩

/-- A configured id is held by a node of the configured type. -/
def OwnOccupants (config : ClusterConfig) (gm : GmNode) : Prop :=
  ∀ (nodeId : Bytes) (session : InnerNetworkSession), nodeId ∈ config.gateNodeIds ++ config.gameNodeIds →
    gm.sessions.findByNodeId nodeId = some session → Expects config session.processType nodeId

theorem step_ownOccupants {config : ClusterConfig} (gm : GmNode) (input : Input) (inv : OwnOccupants config gm)
    (own : OwnType config gm input) : OwnOccupants config (gm.step input).1 := by
  intro nodeId session configured found
  rcases step_session gm input nodeId with ⟨f, keeps, eq⟩ | ⟨new, eq, registers, absent, free⟩
  · rw [eq] at found
    obtain ⟨before, held, rfl⟩ := Option.map_eq_some_iff.mp found
    rw [keeps]
    exact inv nodeId before configured held
  · rw [eq] at found
    cases found
    exact own _ registers configured absent free

/-- As long as a node does not ask, its id is held by nobody: another type is refused. -/
theorem step_absent {config : ClusterConfig} {processType : ProcessType} {nodeId : Bytes}
    (expected : Expects config processType nodeId) (gm : GmNode) (input : Input)
    (absent : gm.sessions.findByNodeId nodeId = none)
    (ok : OwnType config gm input ∧ input.registers ≠ some (processType, nodeId)) :
    (gm.step input).1.sessions.findByNodeId nodeId = none := by
  obtain ⟨own, silent⟩ := ok
  rcases step_session gm input nodeId with ⟨f, -, eq⟩ | ⟨new, -, registers, -, free⟩
  · rw [eq, absent]
    rfl
  · have same := (own _ registers expected.configured absent free).unique expected
    exact absurd (same ▸ registers) silent

theorem registerOf_some {payload : Bytes} {seq : UInt32} {request : RegisterRequest} {processType : ProcessType}
    (h : registerOf payload = some (seq, request, processType)) :
    request.nodeId ≠ [] ∧ request.innerNetworkEndpoint.host ≠ [] ∧ request.innerNetworkEndpoint.port ≠ 0 := by
  obtain ⟨packet, -, h⟩ := Option.bind_eq_some_iff.mp h
  obtain ⟨request', decoded, h⟩ := Option.bind_eq_some_iff.mp h
  obtain ⟨processType', -, h⟩ := Option.bind_eq_some_iff.mp h
  cases h
  cases outcome : decodeRegisterRequest packet.payload with
  | error e => rw [outcome] at decoded; cases decoded
  | ok request' =>
    rw [outcome] at decoded
    cases decoded
    have valid := (decodeExact_ok outcome).2
    unfold validateRegisterRequest at valid
    split at valid
    · cases valid
    split at valid
    · cases valid
    split at valid
    · cases valid
    rename_i named
    split at valid
    · cases valid
    · rename_i endpoint
      unfold validateEndpoint at endpoint
      split at endpoint
      · cases endpoint
      split at endpoint
      · cases endpoint
      · rename_i host port
        exact ⟨named, host, port⟩

/-- A free node id and a free routing id are granted. -/
theorem grantRegister_of_free {gm : GmNode} {env : GmEnv} {routingId payload : Bytes} {seq : UInt32}
    {request : RegisterRequest} {processType : ProcessType}
    (wellFormed : registerOf payload = some (seq, request, processType))
    (absent : gm.sessions.findByNodeId request.nodeId = none)
    (unused : gm.sessions.nodeIdByRoutingKey[routingId]? = none) :
    ∃ sessions, gm.grantRegister env routingId payload =
      some (seq, registrationOf request processType routingId env.nowUnixMs, sessions) := by
  obtain ⟨named, host, port⟩ := registerOf_some wellFormed
  have valid : InnerNetworkSessionManager.validateRegistration
      (registrationOf request processType routingId env.nowUnixMs) = .ok () := by
    simp [InnerNetworkSessionManager.validateRegistration, registrationOf, named, host, port]
  have freeNode : gm.sessions.entriesByNodeId.contains request.nodeId = false := by
    rw [← Std.ExtTreeMap.isSome_getElem?_eq_contains, show gm.sessions.entriesByNodeId[request.nodeId]? = none from absent]
    rfl
  have freeRoute : gm.sessions.nodeIdByRoutingKey.contains routingId = false := by
    rw [← Std.ExtTreeMap.isSome_getElem?_eq_contains, unused]
    rfl
  have accepted : ∃ sessions,
      gm.sessions.register (registrationOf request processType routingId env.nowUnixMs) = .ok sessions := by
    unfold InnerNetworkSessionManager.register
    rw [valid]
    simp only
    rw [if_neg (by exact Bool.eq_false_iff.mp freeNode), if_neg (by simp [registrationOf, freeRoute])]
    exact ⟨_, rfl⟩
  obtain ⟨sessions, accepted⟩ := accepted
  exact ⟨sessions, by simp [grantRegister, wellFormed, accepted, Except.toOption]⟩

theorem step_register {gm : GmNode} {env : GmEnv} {routingId payload : Bytes} (register : HasMsgId payload innerRegisterMsgId) :
    gm.step (.message env routingId payload) = gm.handleRegisterMessage env routingId payload := by
  obtain ⟨raw, read, isRegister⟩ := register
  simp only [step, handleInnerMessage, read, isRegister, if_true]

/-- What a request over a free channel for a free id comes to: the node has its
session, and the request is accepted if the network takes the answer. -/
def Granted (gm : GmNode) (env : GmEnv) (routingId payload : Bytes) (processType : ProcessType) (nodeId : Bytes) : Prop :=
  (∃ session, (gm.step (.message env routingId payload)).1.sessions.findByNodeId nodeId = some session ∧
    session.registered = true ∧ session.processType = processType ∧ session.routingId = routingId) ∧
  ((∀ packet, env.sendOk routingId packet = true) →
    RegisterAccepted routingId payload (gm.step (.message env routingId payload)))

theorem granted_of_free {gm : GmNode} {env : GmEnv} {routingId payload : Bytes} {seq : UInt32}
    {request : RegisterRequest} {processType : ProcessType} (kind : HasMsgId payload innerRegisterMsgId)
    (wellFormed : registerOf payload = some (seq, request, processType))
    (absent : gm.sessions.findByNodeId request.nodeId = none)
    (unused : gm.sessions.nodeIdByRoutingKey[routingId]? = none) :
    Granted gm env routingId payload processType request.nodeId := by
  obtain ⟨sessions, granted⟩ := @grantRegister_of_free _ env _ _ _ _ _ wellFormed absent unused
  obtain ⟨-, -, -, -, accepted⟩ := grantRegister_some granted
  have found := @findByNodeId_granted _ env _ _ accepted request.nodeId
  rw [if_pos (by rfl)] at found
  unfold Granted
  rw [step_register kind]
  have after := (registerOutcome gm env routingId payload).sessions
  rw [granted] at after
  constructor
  · rw [after]
    exact ⟨_, found, rfl, rfl, rfl⟩
  · intro sends
    have atomic : RegisterAtomic gm env routingId payload :=
      (register_atomic_iff gm env routingId payload).mpr fun _ _ _ _ => sends _
    refine atomic.resolve_right fun unchanged => ?_
    rw [← unchanged.1, after, found] at absent
    cases absent

/-- **A silent node keeps its place.** If every register message that finds a configured
id and its channel free carries the configured type, such an id is held only by its own
node; and as long as a node has not asked, its first well-formed request over a free
channel is granted. -/
theorem first_request_granted (config : ClusterConfig) {is : List Input}
    (own : machine.Along (OwnType config) (GmNode.init config.gateNodeIds config.gameNodeIds) is) :
    OwnOccupants config (machine.run (GmNode.init config.gateNodeIds config.gameNodeIds) is).1 ∧
      ∀ (processType : ProcessType) (nodeId : Bytes), Expects config processType nodeId →
        (∀ input ∈ is, input.registers ≠ some (processType, nodeId)) →
        ∀ (env : GmEnv) (routingId payload : Bytes) (seq : UInt32) (request : RegisterRequest),
          HasMsgId payload innerRegisterMsgId → registerOf payload = some (seq, request, processType) →
          request.nodeId = nodeId →
          (machine.run (GmNode.init config.gateNodeIds
            config.gameNodeIds) is).1.sessions.nodeIdByRoutingKey[routingId]? = none →
          Granted (machine.run (GmNode.init config.gateNodeIds config.gameNodeIds) is).1 env routingId payload
            processType nodeId := by
  constructor
  · refine Machine.run_invariant step_ownOccupants ?_ own
    intro nodeId session _ found
    simp [GmNode.init, InnerNetworkSessionManager.findByNodeId] at found
  · intro processType nodeId expected silent env routingId payload seq request kind wellFormed named unused
    -- nobody holds the id: its own node is silent, and no other type is granted it
    have absent : (machine.run (GmNode.init config.gateNodeIds config.gameNodeIds) is).1.sessions.findByNodeId
        nodeId = none := by
      refine @Machine.run_invariant _ _ _ machine
        (fun gm input => OwnType config gm input ∧ input.registers ≠ some (processType, nodeId))
        (fun gm => gm.sessions.findByNodeId nodeId = none) (step_absent expected) _ _ ?_
        (own.and (Machine.along_of_forall _ silent))
      simp [GmNode.init, InnerNetworkSessionManager.findByNodeId]
    subst named
    exact granted_of_free kind wellFormed absent unused

instance (config : ClusterConfig) : ∀ (processType : ProcessType) (nodeId : Bytes),
    Decidable (Expects config processType nodeId)
  | .gate, nodeId => inferInstanceAs (Decidable (nodeId ∈ config.gateNodeIds))
  | .game, nodeId => inferInstanceAs (Decidable (nodeId ∈ config.gameNodeIds))
  | .gm, _ => inferInstanceAs (Decidable False)

instance (gm : GmNode) : ∀ input : Input, Decidable (input.OverFreeChannel gm)
  | .message _ _ _ => inferInstanceAs (Decidable (_ ∨ _))
  | .timeoutScan _ => inferInstanceAs (Decidable False)
  | .peerDisconnected _ => inferInstanceAs (Decidable False)

instance (config : ClusterConfig) (gm : GmNode) (input : Input) : Decidable (OwnType config gm input) :=
  inferInstanceAs (Decidable (∀ pair ∈ input.registers, pair.2 ∈ config.gateNodeIds ++ config.gameNodeIds →
    gm.sessions.findByNodeId pair.2 = none → input.OverFreeChannel gm → Expects config pair.1 pair.2))

/-- A node of this type asks for this id, over a channel of that name. -/
def sampleAsk (processType : UInt16) (nodeId : Bytes) (now : UInt64) : Input :=
  .message { nowUnixMs := now, laterUnixMs := now } nodeId (sampleRegister processType nodeId)

/-- The Gate has registered, and the Game asks for the first time. -/
theorem first_request_granted_sample :
    machine.Along (OwnType sampleConfig) sampleGm [sampleAsk innerProcessTypeGate (text "Gate0") 1000] ∧
      Granted (machine.run sampleGm [sampleAsk innerProcessTypeGate (text "Gate0") 1000]).1 {} (text "Game0")
        (sampleRegister innerProcessTypeGame (text "Game0")) .game (text "Game0") := by
  have own : machine.Along (OwnType sampleConfig) sampleGm [sampleAsk innerProcessTypeGate (text "Gate0") 1000] := by
    decide +kernel
  have asked : (registerOf (sampleRegister innerProcessTypeGame (text "Game0"))).isSome = true := by decide +kernel
  obtain ⟨⟨seq, request, processType⟩, wellFormed⟩ := Option.isSome_iff_exists.mp asked
  have content : (registerOf (sampleRegister innerProcessTypeGame (text "Game0"))).map
      (fun read => (read.2.2, read.2.1.nodeId)) = some (.game, text "Game0") := by decide +kernel
  rw [wellFormed] at content
  obtain ⟨rfl, named⟩ := Prod.mk.inj (Option.some.inj content)
  refine ⟨own, (first_request_granted sampleConfig own).2 .game (text "Game0") ?_ ?_ {} (text "Game0")
    (sampleRegister innerProcessTypeGame (text "Game0")) seq request ?_ wellFormed named ?_⟩
  · decide +kernel
  · decide +kernel
  · decide +kernel
  · decide +kernel

/-- A Game that goes by the name of the Gate registers first. The Gate has not
asked and its channel is free, yet its own request is refused. -/
theorem wrong_type_takes_id :
    Expects sampleConfig .gate (text "Gate0") ∧
      (∀ input ∈ [.message { nowUnixMs := 1000 } (text "Game9") (sampleRegister innerProcessTypeGame (text "Gate0"))],
        Input.registers input ≠ some (.gate, text "Gate0")) ∧
      (registerOf (sampleRegister innerProcessTypeGate (text "Gate0"))).map
        (fun read => (read.2.2, read.2.1.nodeId)) = some (.gate, text "Gate0") ∧
      (machine.run sampleGm [.message { nowUnixMs := 1000 } (text "Game9")
        (sampleRegister innerProcessTypeGame (text "Gate0"))]).1.sessions.nodeIdByRoutingKey[text "Gate0"]? = none ∧
      ¬ Granted (machine.run sampleGm [.message { nowUnixMs := 1000 } (text "Game9")
        (sampleRegister innerProcessTypeGame (text "Gate0"))]).1 { nowUnixMs := 2000 } (text "Gate0")
        (sampleRegister innerProcessTypeGate (text "Gate0")) .gate (text "Gate0") := by
  refine ⟨by decide +kernel, by decide +kernel, by decide +kernel, by decide +kernel, ?_⟩
  rintro ⟨⟨session, found, -, typed, -⟩, -⟩
  have held : (((machine.run sampleGm [.message { nowUnixMs := 1000 } (text "Game9")
      (sampleRegister innerProcessTypeGame (text "Gate0"))]).1.step (.message { nowUnixMs := 2000 } (text "Gate0")
        (sampleRegister innerProcessTypeGate (text "Gate0")))).1.sessions.findByNodeId (text "Gate0")).map
          (fun session => session.processType) = some .game := by decide +kernel
  rw [found] at held
  rw [Option.map_some, typed] at held
  cases held

end GmNode

end XServer.Node
