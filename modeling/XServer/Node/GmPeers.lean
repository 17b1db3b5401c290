import XServer.Node.GmStartup

/-!
# What the GM takes from its peers and tells them

`SessionStep` says once what a handler call can do to the session table. From it
follow the two facts about sessions that hold across the inner network: a session
is filed under the node that registered it (`Named`), and no session is ever
dropped, nor does one that timed out come back (`Retains`). `step_stubs` traces a
ready stub to the report it was taken from, and `step_notify` a cluster-ready
notify to the phase that sends it.
-/

namespace XServer.Node
open XServer.Lib XServer.Lib.Wire XServer.Net

/-- Timed out by the scan. -/
structure InnerNetworkSession.Expired (session : InnerNetworkSession) : Prop where
  timedOut : session.heartbeatTimedOut = true
  unregistered : session.registered = false

namespace InnerNetworkSessionManager

variable {m m' : InnerNetworkSessionManager}

/-- Sessions are filed under their own node id, and routing ids are node ids. -/
structure Named (m : InnerNetworkSessionManager) : Prop where
  routing : ∀ {routingId nodeId : Bytes}, m.nodeIdByRoutingKey[routingId]? = some nodeId → nodeId = routingId
  filed : ∀ {nodeId : Bytes} {session : InnerNetworkSession},
    m.findByNodeId nodeId = some session → session.nodeId = nodeId

theorem named_empty : Named {} := ⟨fun h => by simp at h, fun h => by simp [findByNodeId] at h⟩

theorem Named.found (named : m.Named) {routingId : Bytes} {session : InnerNetworkSession}
    (found : m.findByRoutingId routingId = some session) : session.nodeId = routingId := by
  obtain ⟨nodeId, indexed, filed⟩ := findByRoutingId_some found
  rw [named.filed filed, named.routing indexed]

theorem Named.modify (named : m.Named) {nodeId : Bytes} {f : InnerNetworkSession → InnerNetworkSession}
    (keeps : ∀ session, session.nodeId = nodeId → (f session).nodeId = nodeId) : (m.modify nodeId f).Named := by
  refine ⟨fun indexed => named.routing (by rwa [nodeIdByRoutingKey_modify] at indexed), fun {other session} found => ?_⟩
  rw [findByNodeId_modify] at found
  split at found
  · rename_i same
    obtain ⟨before, filed, rfl⟩ := Option.map_eq_some_iff.mp found
    rw [← same]
    exact keeps before (same ▸ named.filed filed)
  · exact named.filed found

/-- A node that registers under its own node id. -/
theorem Named.register (named : m.Named) {r : InnerNetworkSessionRegistration} (accepted : m.register r = .ok m')
    (own : r.nodeId = r.routingId) : m'.Named := by
  obtain ⟨-, entries, index⟩ := register_ok accepted
  refine ⟨fun {routingId nodeId} indexed => ?_, fun {nodeId session} found => ?_⟩
  · rw [index] at indexed
    split at indexed
    · by_cases same : r.routingId = routingId
      · subst same
        rw [Table.get_insert_self] at indexed
        cases indexed
        exact own
      · rw [Table.get_insert_of_ne _ _ same] at indexed
        exact named.routing indexed
    · exact named.routing indexed
  · rw [findByNodeId, entries] at found
    by_cases same : r.nodeId = nodeId
    · subst same
      rw [Table.get_insert_self] at found
      cases found
      rfl
    · rw [Table.get_insert_of_ne _ _ same] at found
      exact named.filed found

theorem Named.mapSessions (named : m.Named) {f : InnerNetworkSession → InnerNetworkSession}
    (keeps : ∀ session, (f session).nodeId = session.nodeId) : (m.mapSessions f).Named := by
  refine ⟨named.routing, fun found => ?_⟩
  rw [findByNodeId_mapSessions] at found
  obtain ⟨before, filed, rfl⟩ := Option.map_eq_some_iff.mp found
  rw [keeps, named.filed filed]

/-- No session is lost, and one that expired stays expired. -/
def Retains (m m' : InnerNetworkSessionManager) : Prop :=
  ∀ (nodeId : Bytes) (session : InnerNetworkSession), m.findByNodeId nodeId = some session →
    ∃ session', m'.findByNodeId nodeId = some session' ∧ (session.Expired → session'.Expired)

theorem Retains.refl (m : InnerNetworkSessionManager) : Retains m m := fun _ session found => ⟨session, found, id⟩

theorem Retains.trans {a b c : InnerNetworkSessionManager} (ab : Retains a b) (bc : Retains b c) : Retains a c := by
  intro nodeId session found
  obtain ⟨middle, found', expired⟩ := ab nodeId session found
  obtain ⟨last, found'', expired'⟩ := bc nodeId middle found'
  exact ⟨last, found'', expired' ∘ expired⟩

theorem Retains.modify {nodeId : Bytes} {f : InnerNetworkSession → InnerNetworkSession}
    (keeps : ∀ session, m.findByNodeId nodeId = some session → session.Expired → (f session).Expired) :
    Retains m (m.modify nodeId f) := by
  intro other session found
  rw [findByNodeId_modify]
  by_cases same : nodeId = other
  · subst same
    rw [if_pos rfl, found]
    exact ⟨f session, rfl, keeps session found⟩
  · rw [if_neg same]
    exact ⟨session, found, id⟩

theorem Retains.register {r : InnerNetworkSessionRegistration} (accepted : m.register r = .ok m') : Retains m m' := by
  obtain ⟨fresh, entries, -⟩ := register_ok accepted
  intro nodeId session found
  have other : r.nodeId ≠ nodeId := by
    rintro rfl
    rw [fresh] at found
    cases found
  exact ⟨session, by rw [findByNodeId, entries, Table.get_insert_of_ne _ _ other]; exact found, id⟩

theorem Retains.mapSessions {f : InnerNetworkSession → InnerNetworkSession}
    (keeps : ∀ session, session.Expired → (f session).Expired) : Retains m (m.mapSessions f) := by
  intro nodeId session found
  exact ⟨f session, by rw [findByNodeId_mapSessions, found]; rfl, keeps session⟩

end InnerNetworkSessionManager

namespace GmNode

/-! ## Sessions -/

/-- What one handler call can do to the session table. -/
inductive SessionStep (gm : GmNode) (input : Input) : InnerNetworkSessionManager → Prop where
  | same : SessionStep gm input gm.sessions
  | registered {routingId payload : Bytes} {packet : Packet} {request : RegisterRequest} {processType : ProcessType}
      {now : UInt64} {sessions : InnerNetworkSessionManager}
      (arrived : input.Carries routingId payload innerRegisterMsgId) (envelope : registerEnvelope payload = some packet)
      (decoded : decodeRegisterRequest packet.payload = .ok request)
      (accepted : gm.sessions.register (registrationOf request processType routingId now) = .ok sessions) :
      SessionStep gm input (sessions.modify request.nodeId
        (applyRegistrationState (registrationOf request processType routingId now) now))
  | refreshed {nodeId : Bytes} {load : LoadSnapshot} {now : UInt64} {session : InnerNetworkSession}
      (found : gm.sessions.findByNodeId nodeId = some session) (live : session.heartbeatTimedOut = false) :
      SessionStep gm input (gm.sessions.modify nodeId (refreshHeartbeat load now))
  | scanned {now : UInt64} : SessionStep gm input (gm.sessions.mapSessions (timeoutSession now))

@[simp] theorem onAllNodeOnline_sessions (gm : GmNode) (env : GmEnv) :
    (gm.onAllNodeOnline env).1.sessions = gm.sessions := by
  unfold onAllNodeOnline
  split <;> rfl

theorem ensureServerStubAssignments_sessions (gm : GmNode) (env : GmEnv) :
    (gm.ensureServerStubAssignments env).2.sessions = gm.sessions := by
  unfold ensureServerStubAssignments
  split
  · rfl
  · simp only
    split
    · rfl
    · split <;> rfl

@[simp] theorem onAllGameReady_sessions (gm : GmNode) (env : GmEnv) :
    (gm.onAllGameReady env).1.sessions = gm.sessions := by
  unfold onAllGameReady
  split
  · rfl
  · have kept := ensureServerStubAssignments_sessions
      { gm with startup := { gm.startup with allExpectedGamesMeshReady := true } } env
    simp only
    split
    · rename_i failed
      rwa [failed] at kept
    · rename_i assigned
      rw [assigned] at kept
      split <;> exact kept

@[simp] theorem onAllStubReady_sessions (gm : GmNode) (env : GmEnv) :
    (gm.onAllStubReady env).1.sessions = gm.sessions := by
  unfold onAllStubReady
  split <;> rfl

theorem completeRegistration_sessions (gm : GmNode) (env : GmEnv) (routingId : Bytes) (seq : UInt32)
    (registration : InnerNetworkSessionRegistration) (sessions : InnerNetworkSessionManager) :
    (gm.completeRegistration env routingId seq registration sessions).1.sessions =
      sessions.modify registration.nodeId (applyRegistrationState registration env.nowUnixMs) := by
  unfold completeRegistration
  simp only
  split
  · rfl
  · split
    · rfl
    · obtain ⟨gates, games, recorded⟩ := recordStartupRegistration_eq
        { gm with sessions := sessions.modify registration.nodeId (applyRegistrationState registration env.nowUnixMs) }
        registration.processType registration.nodeId
      rw [recorded]
      split
      · simp only [onAllNodeOnline_sessions]
        rfl
      · rfl

theorem handleRegisterMessage_sessions (gm : GmNode) {env : GmEnv} {routingId payload : Bytes}
    (arrived : (Input.message env routingId payload).Carries routingId payload innerRegisterMsgId) :
    SessionStep gm (.message env routingId payload) (gm.handleRegisterMessage env routingId payload).1.sessions := by
  unfold handleRegisterMessage
  split
  · exact .same
  · rename_i packet envelope
    simp only
    split
    · exact .same
    · rename_i request decoded
      split
      · exact .same
      · split
        · exact .same
        · split
          · exact .same
          · rename_i sessions accepted
            rw [completeRegistration_sessions]
            exact .registered arrived envelope decoded accepted

theorem handleHeartbeatMessage_sessions (gm : GmNode) (input : Input) (env : GmEnv) (routingId payload : Bytes) :
    SessionStep gm input (gm.handleHeartbeatMessage env routingId payload).1.sessions := by
  unfold handleHeartbeatMessage
  split
  · exact .same
  · split
    · exact .same
    · rename_i session found
      split
      · exact .same
      · rename_i live
        simp only [Bool.or_eq_true, Bool.not_eq_true', not_or, Bool.not_eq_false, Bool.not_eq_true] at live
        obtain ⟨nodeId, indexed, filed⟩ := InnerNetworkSessionManager.findByRoutingId_some found
        have given : routingId ≠ [] := by
          rintro rfl
          simp [InnerNetworkSessionManager.findByRoutingId] at found
        simp only [InnerNetworkSessionManager.modifyByRoutingId, if_neg given, indexed]
        exact .refreshed filed live.2

/-- **Every input is a `SessionStep`.** -/
theorem step_sessionStep (gm : GmNode) (i : Input) : SessionStep gm i (gm.step i).1.sessions := by
  cases i with
  | message env routingId payload =>
    simp only [step, handleInnerMessage]
    split
    · exact .same
    · rename_i raw read
      split
      · rename_i register
        exact handleRegisterMessage_sessions gm ⟨⟨env, rfl⟩, raw, read, register⟩
      · split
        · exact handleHeartbeatMessage_sessions gm _ env routingId payload
        · split
          · unfold handleGameGateMeshReadyReport
            split
            · exact .same
            · simp only
              split
              · rw [onAllGameReady_sessions]
                exact .same
              · exact .same
          · split
            · unfold handleGameStubsReadyReport
              split
              · exact .same
              · simp only
                split
                · rw [onAllStubReady_sessions]
                  exact .same
                · exact .same
            · exact .same
  | timeoutScan env => exact .scanned
  | peerDisconnected routingId => exact .same

/-- A register request names the node whose link it came over. -/
def Input.Authentic (input : Input) : Prop :=
  ∀ {routingId payload : Bytes} {packet : Packet} {request : RegisterRequest},
    input.Carries routingId payload innerRegisterMsgId → decodePacket payload = .ok packet →
      decodeRegisterRequest packet.payload = .ok request → request.nodeId = routingId

theorem registerEnvelope_decoded {payload : Bytes} {packet : Packet} (h : registerEnvelope payload = some packet) :
    decodePacket payload = .ok packet := by
  unfold registerEnvelope at h
  split at h
  · cases h
  · rename_i decoded
    split at h
    · cases h
    · cases h
      exact decoded

theorem timeoutSession_nodeId (now : UInt64) (session : InnerNetworkSession) :
    (timeoutSession now session).nodeId = session.nodeId := by
  unfold timeoutSession
  split
  · rfl
  · split
    · rfl
    · split <;> rfl

theorem timeoutSession_expired (now : UInt64) (session : InnerNetworkSession) (expired : session.Expired) :
    (timeoutSession now session).Expired := by
  unfold timeoutSession
  split
  · exact expired
  · split
    · exact expired
    · split
      · exact expired
      · exact ⟨rfl, rfl⟩

theorem SessionStep.named {gm : GmNode} {input : Input} {sessions : InnerNetworkSessionManager}
    (h : SessionStep gm input sessions) (authentic : input.Authentic) (named : gm.sessions.Named) :
    sessions.Named := by
  cases h with
  | same => exact named
  | registered arrived envelope decoded accepted =>
    have own := authentic arrived (registerEnvelope_decoded envelope) decoded
    exact (named.register accepted own).modify fun _ _ => rfl
  | refreshed found live => exact named.modify fun _ same => same
  | scanned => exact named.mapSessions (timeoutSession_nodeId _)

theorem SessionStep.retains {gm : GmNode} {input : Input} {sessions : InnerNetworkSessionManager}
    (h : SessionStep gm input sessions) : gm.sessions.Retains sessions := by
  cases h with
  | same => exact InnerNetworkSessionManager.Retains.refl _
  | registered arrived envelope decoded accepted =>
    -- the new session is filed where there was none
    obtain ⟨fresh, -, -⟩ := InnerNetworkSessionManager.register_ok accepted
    intro nodeId session found
    have other : nodeId ≠ _ := fun same => by rw [same] at found; exact absurd (found.symm.trans fresh) (by simp)
    obtain ⟨session', found', expired⟩ := InnerNetworkSessionManager.Retains.register accepted nodeId session found
    refine ⟨session', ?_, expired⟩
    rw [InnerNetworkSessionManager.findByNodeId_modify, if_neg (by exact other.symm)]
    exact found'
  | @refreshed nodeId load now session found live =>
    refine InnerNetworkSessionManager.Retains.modify fun other found' expired => ?_
    rw [found] at found'
    cases found'
    exact absurd (expired.timedOut.symm.trans live) (by simp)
  | scanned => exact InnerNetworkSessionManager.Retains.mapSessions (timeoutSession_expired _)

theorem registeredGame_nodeId {gm : GmNode} (named : gm.sessions.Named) {routingId : Bytes}
    {session : InnerNetworkSession} (h : gm.registeredGame routingId = some session) : session.nodeId = routingId :=
  named.found (Option.filter_eq_some_iff.mp h).1

/-! ## Ready stubs -/

theorem mem_applyReadyEntry {nodeId : Bytes} {entries : List ServerStubEntry} {ready : ServerStubReadyEntry}
    {e : ServerStubEntry} (mem : e ∈ applyReadyEntry nodeId entries ready) :
    e ∈ entries ∨ ready.ready = true ∧ ready.entityType = e.entityType ∧ ready.entityId = e.entityId ∧
      e.ownerGameNodeId = nodeId := by
  unfold applyReadyEntry at mem
  split at mem
  · exact .inl mem
  · rename_i isReady
    split at mem
    · exact .inl mem
    · rcases mem_modifyFirst mem with mem | ⟨a, -, found, rfl⟩
      · exact .inl mem
      · simp only [Bool.and_eq_true, beq_iff_eq] at found
        exact .inr ⟨by simpa using isReady, found.2.1.symm, rfl, found.1⟩

theorem mem_applyReadyEntries {nodeId : Bytes} {ready : List ServerStubReadyEntry} {entries : List ServerStubEntry}
    {e : ServerStubEntry} (mem : e ∈ ready.foldl (applyReadyEntry nodeId) entries) :
    e ∈ entries ∨ ∃ r ∈ ready, r.ready = true ∧ r.entityType = e.entityType ∧ r.entityId = e.entityId ∧
      e.ownerGameNodeId = nodeId := by
  induction ready generalizing entries with
  | nil => exact .inl mem
  | cons r rest ih =>
    rcases ih mem with mem | ⟨r', listed, source⟩
    · rcases mem_applyReadyEntry mem with mem | source
      · exact .inl mem
      · exact .inr ⟨r, List.mem_cons_self, source⟩
    · exact .inr ⟨r', List.mem_cons_of_mem _ listed, source⟩

/-- The input is a report from the Game behind `routingId` that names this stub
as ready. -/
def Input.Reports (input : Input) (routingId : Bytes) (entry : ServerStubEntry) : Prop :=
  ∃ payload packet report, input.Carries routingId payload innerGameServiceReadyReportMsgId ∧
    decodePacket payload = .ok packet ∧ decodeGameServiceReadyReport packet.payload = .ok report ∧
    report.assignmentEpoch = serverStubOwnershipAssignmentEpoch ∧
    ∃ r ∈ report.entries, r.ready = true ∧ r.entityType = entry.entityType ∧ r.entityId = entry.entityId

theorem reportEnvelope_decoded {payload : Bytes} {packet : Packet} (h : reportEnvelope payload = some packet) :
    decodePacket payload = .ok packet := by
  simp only [reportEnvelope, Option.bind_eq_bind, Option.bind_eq_some_iff] at h
  obtain ⟨packet', decoded, _, -, same⟩ := h
  cases same
  cases d : decodePacket payload with
  | error e => rw [d] at decoded; cases decoded
  | ok p => rw [d] at decoded; cases decoded; rfl

theorem mem_accepted {gm : GmNode} {input : Input} {routingId payload : Bytes} {session : InnerNetworkSession}
    {report : GameServiceReadyReport} (named : gm.sessions.Named)
    (arrived : input.Carries routingId payload innerGameServiceReadyReportMsgId)
    (accepted : gm.acceptStubsReadyReport routingId payload = some (session, report)) {e : ServerStubEntry}
    (mem : e ∈ report.entries.foldl (applyReadyEntry session.nodeId) gm.stubs.entries) :
    e ∈ gm.stubs.entries ∨ input.Reports e.ownerGameNodeId e := by
  rcases mem_applyReadyEntries mem with mem | ⟨r, listed, isReady, type, id, owner⟩
  · exact .inl mem
  · obtain ⟨packet, envelope, decoded, sender, -, -, epoch⟩ := acceptStubsReadyReport_some accepted
    rw [registeredGame_nodeId named sender] at owner
    rw [owner]
    exact .inr ⟨payload, packet, report, arrived, reportEnvelope_decoded envelope, decoded, epoch, r, listed,
      isReady, type, id⟩

/-- A stub that is ready after a step was ready before, or its owner reports it now. -/
theorem step_stubs {gm : GmNode} {i : Input} (inv : StartupInv gm) (named : gm.sessions.Named) {e : ServerStubEntry}
    (mem : e ∈ (gm.step i).1.stubs.entries) (ready : e.state = .ready) :
    e ∈ gm.stubs.entries ∨ i.Reports e.ownerGameNodeId e := by
  have h := step_startupStep gm i
  generalize (gm.step i).1 = gm', GmEvent.phases (gm.step i).2 = ps at h mem
  cases h with
  | bookkeeping => exact .inl mem
  | nodesOnline closed => exact .inl mem
  | meshReport => exact .inl mem
  | @ownership nodeId reportedAt env online closed complete =>
    obtain ⟨table, state, assigned⟩ := onAllGameReady_opens inv nodeId reportedAt env closed complete
    rw [state] at mem
    rw [(assigned e mem).2.2] at ready
    cases ready
  | readyReport arrived accepted => exact mem_accepted named arrived accepted mem
  | gateOpen arrived accepted closed allReady => exact mem_accepted named arrived accepted mem

theorem StartupStep.expected {gm gm' : GmNode} {i : Input} {ps : List GmEvent} (h : StartupStep gm i gm' ps)
    (inv : StartupInv gm) : gm'.expectedGameNodeIds = gm.expectedGameNodeIds := by
  cases h with
  | bookkeeping => rfl
  | nodesOnline closed => rfl
  | @meshReport nodeId reportedAt => exact expectedGameNodeIds_markMeshReady gm nodeId reportedAt
  | @ownership nodeId reportedAt env online closed complete =>
    obtain ⟨table, state, -⟩ := onAllGameReady_opens inv nodeId reportedAt env closed complete
    rw [state]
    exact expectedGameNodeIds_markMeshReady gm nodeId reportedAt
  | readyReport arrived accepted => rfl
  | gateOpen arrived accepted closed allReady => rfl

/-! ## Packets sent -/

/-- Everything sent is of one of these kinds. -/
def SendsOnly (kinds : List UInt32) (events : List GmEvent) : Prop :=
  ∀ routingId packet : Bytes, .send routingId packet ∈ events → ∃ kind ∈ kinds, HasMsgId packet kind

theorem SendsOnly.nil (kinds : List UInt32) : SendsOnly kinds [] := fun _ _ mem => by cases mem

theorem SendsOnly.flatMap {α : Type} {kinds : List UInt32} {f : α → List GmEvent} (targets : List α)
    (each : ∀ a, SendsOnly kinds (f a)) : SendsOnly kinds (targets.flatMap f) := by
  intro routingId packet mem
  obtain ⟨a, -, mem⟩ := List.mem_flatMap.mp mem
  exact each a routingId packet mem

/-- A phase event is not a packet. -/
theorem SendsOnly.phase {kinds : List UInt32} {e : GmEvent} {events : List GmEvent}
    (phase : ∀ routingId packet, GmEvent.send routingId packet ≠ e) (h : SendsOnly kinds events) :
    SendsOnly kinds (e :: events) := by
  intro routingId packet mem
  rcases List.mem_cons.mp mem with same | mem
  · exact absurd same (phase routingId packet)
  · exact h routingId packet mem

theorem sendsOnly_sent {kinds : List UInt32} (env : GmEnv) (target body : Bytes) {msgId : UInt32} (seq : UInt32)
    (flags : UInt16) (listed : msgId ∈ kinds) :
    SendsOnly kinds (GmEvent.sent target (env.send target msgId seq flags body)) := by
  intro routingId packet mem
  simp only [GmEvent.sent, List.mem_map, Option.mem_toList] at mem
  obtain ⟨packet', sent, same⟩ := mem
  cases same
  exact ⟨msgId, listed, GmEnv.send_msgId sent⟩

theorem sendRegisterError_sends (env : GmEnv) (routingId : Bytes) (seq : UInt32) (code : Int32) :
    SendsOnly [innerRegisterMsgId, innerClusterNodesOnlineNotifyMsgId] (sendRegisterError env routingId seq code) := by
  unfold sendRegisterError
  split
  · exact .nil _
  · exact sendsOnly_sent _ _ _ _ _ (by simp)

theorem onAllNodeOnline_sends (gm : GmNode) (env : GmEnv) :
    SendsOnly [innerRegisterMsgId, innerClusterNodesOnlineNotifyMsgId] (gm.onAllNodeOnline env).2 := by
  unfold onAllNodeOnline
  split
  · exact .nil _
  · refine .phase (by simp) (.flatMap _ fun session => ?_)
    unfold sendClusterNodesOnlineNotifyToGame
    split
    · exact .nil _
    · exact sendsOnly_sent _ _ _ _ _ (by simp)

theorem completeRegistration_sends (gm : GmNode) (env : GmEnv) (routingId : Bytes) (seq : UInt32)
    (registration : InnerNetworkSessionRegistration) (sessions : InnerNetworkSessionManager) :
    SendsOnly [innerRegisterMsgId, innerClusterNodesOnlineNotifyMsgId]
      (gm.completeRegistration env routingId seq registration sessions).2 := by
  unfold completeRegistration
  simp only
  split
  · exact .nil _
  · split
    · exact .nil _
    · rename_i response sent
      have answered : HasMsgId response innerRegisterMsgId := GmEnv.send_msgId sent
      split
      · intro target packet mem
        rcases List.mem_cons.mp mem with same | mem
        · cases same
          exact ⟨_, by simp, answered⟩
        · exact onAllNodeOnline_sends _ env target packet mem
      · intro target packet mem
        cases List.mem_singleton.mp mem
        exact ⟨_, by simp, answered⟩

theorem handleRegisterMessage_sends (gm : GmNode) (env : GmEnv) (routingId payload : Bytes) :
    SendsOnly [innerRegisterMsgId, innerClusterNodesOnlineNotifyMsgId]
      (gm.handleRegisterMessage env routingId payload).2 := by
  unfold handleRegisterMessage
  split
  · exact .nil _
  · simp only
    split
    · exact sendRegisterError_sends _ _ _ _
    · split
      · exact sendRegisterError_sends _ _ _ _
      · split
        · exact sendRegisterError_sends _ _ _ _
        · split
          · exact sendRegisterError_sends _ _ _ _
          · exact completeRegistration_sends _ _ _ _ _ _

theorem handleHeartbeatMessage_sends (gm : GmNode) (env : GmEnv) (routingId payload : Bytes) :
    SendsOnly [innerHeartbeatMsgId] (gm.handleHeartbeatMessage env routingId payload).2 := by
  unfold handleHeartbeatMessage
  split
  · exact .nil _
  · split
    · exact .nil _
    · split
      · exact .nil _
      · unfold sendHeartbeatSuccess
        split
        · exact .nil _
        · exact sendsOnly_sent _ _ _ _ _ (by simp)

theorem handleGameGateMeshReadyReport_sends (gm : GmNode) (env : GmEnv) (routingId payload : Bytes) :
    SendsOnly [innerServerStubOwnershipSyncMsgId] (gm.handleGameGateMeshReadyReport env routingId payload).2 := by
  unfold handleGameGateMeshReadyReport
  split
  · exact .nil _
  · simp only
    split
    · unfold onAllGameReady
      split
      · exact .nil _
      · simp only
        split
        · exact .phase (by simp) (.nil _)
        · split
          · exact .phase (by simp) (.nil _)
          · refine .phase (by simp) (.flatMap _ fun session => ?_)
            unfold sendOwnershipSyncToGame
            split
            · exact .nil _
            · split
              · exact .nil _
              · exact sendsOnly_sent _ _ _ _ _ (by simp)
    · exact .nil _

theorem SendsOnly.excludes {kinds : List UInt32} {events : List GmEvent} (h : SendsOnly kinds events)
    {routingId packet : Bytes} {msgId : UInt32} (mem : .send routingId packet ∈ events) (kind : HasMsgId packet msgId) :
    msgId ∈ kinds := by
  obtain ⟨kind', listed, found⟩ := h routingId packet mem
  rwa [kind.unique found]

/-- The GM tells a Gate that the cluster is ready only once it is. -/
theorem step_notify {gm : GmNode} {i : Input} {routingId packet : Bytes}
    (sent : .send routingId packet ∈ (gm.step i).2) (kind : HasMsgId packet innerClusterReadyNotifyMsgId) :
    (gm.step i).1.startup.gateOpen = true := by
  cases i with
  | message env source payload =>
    simp only [step, handleInnerMessage] at sent ⊢
    split at sent
    · cases sent
    · split at sent
      · exact absurd ((handleRegisterMessage_sends gm env source payload).excludes sent kind) (by decide)
      · split at sent
        · exact absurd ((handleHeartbeatMessage_sends gm env source payload).excludes sent kind) (by decide)
        · split at sent
          · exact absurd ((handleGameGateMeshReadyReport_sends gm env source payload).excludes sent kind) (by decide)
          · split at sent
            · rename_i h1 h2 h3 h4
              rw [if_neg h1, if_neg h2, if_neg h3, if_pos h4]
              unfold handleGameStubsReadyReport at sent ⊢
              split at sent
              · cases sent
              · simp only at sent ⊢
                split at sent
                · rename_i opens
                  simp only [opens, if_true]
                  unfold onAllStubReady at sent ⊢
                  split at sent
                  · cases sent
                  · rename_i closed
                    rw [if_neg closed]
                · cases sent
            · cases sent
  | timeoutScan env => cases sent
  | peerDisconnected peer => cases sent

end GmNode

end XServer.Node
