import XServer.Node.Cluster

/-!
# Registering again

The GM refuses every register request of a node it holds a session for, and it
holds one for good: a node that timed out or that reset its own end of the link
is never registered again. A Gate, by contrast, lets a known Game register again.
-/

namespace XServer.Node.Cluster
open XServer.Lib XServer.Lib.Wire XServer.Net XServer.Core

/-! ## Requests and answers -/

/-- The request of a well-formed register packet. -/
def registerRequestOf (payload : Bytes) : Option RegisterRequest := do
  let packet ← GmNode.registerEnvelope payload
  guard (packet.header.msgId = innerRegisterMsgId)
  let request ← (decodeRegisterRequest packet.payload).toOption
  guard ((GmNode.toCoreProcessType request.processType).isSome = true)
  some request

/-- A well-formed register packet of this node. -/
def IsRegisterRequest (nodeId payload : Bytes) : Prop := (registerRequestOf payload).map (·.nodeId) = some nodeId

instance decidableIsRegisterRequest (nodeId payload : Bytes) : Decidable (IsRegisterRequest nodeId payload) :=
  inferInstanceAs (Decidable (_ = _))

theorem IsRegisterRequest.spec {nodeId payload : Bytes} (h : IsRegisterRequest nodeId payload) :
    ∃ packet request processType, GmNode.registerEnvelope payload = some packet ∧
      packet.header.msgId = innerRegisterMsgId ∧ decodeRegisterRequest packet.payload = .ok request ∧
      GmNode.toCoreProcessType request.processType = some processType ∧ request.nodeId = nodeId := by
  obtain ⟨request, found, named⟩ := Option.map_eq_some_iff.mp h
  simp only [registerRequestOf, Option.bind_eq_bind, Option.bind_eq_some_iff, Option.guard_eq_some'] at found
  obtain ⟨packet, envelope, _, kind, request', decoded, _, known, same⟩ := found
  cases same
  obtain ⟨processType, known⟩ := Option.isSome_iff_exists.mp known
  refine ⟨packet, request, processType, envelope, kind, ?_, known, named⟩
  cases d : decodeRegisterRequest packet.payload with
  | error e => rw [d] at decoded; cases decoded
  | ok r => rw [d] at decoded; cases decoded; rfl

/-- A response that grants a registration. -/
def IsSuccessResponse (packet : Bytes) : Prop :=
  ∃ header body response, decodePacket packet = .ok ⟨header, body⟩ ∧ header.msgId = innerRegisterMsgId ∧
    header.flags = flagResponse ∧ decodeRegisterSuccessResponse body = .ok response

/-- A response that refuses a registration because the node id is taken. -/
def IsConflictResponse (packet : Bytes) : Prop :=
  ∃ header body, decodePacket packet = .ok ⟨header, body⟩ ∧ header.msgId = innerRegisterMsgId ∧
    header.flags = flagResponse ||| flagError ∧ decodeRegisterErrorResponse body = .ok ⟨innerNodeIdConflict, 0⟩

theorem IsConflictResponse.not_success {packet : Bytes} (h : IsConflictResponse packet) : ¬ IsSuccessResponse packet := by
  rintro ⟨header', body', response, decoded', -, flags', -⟩
  obtain ⟨header, body, decoded, -, flags, -⟩ := h
  rw [decoded] at decoded'
  cases decoded'
  rw [flags] at flags'
  exact absurd flags' (by decide)

/-- The request is granted, and the node's session is registered again. -/
def Recovers (cluster : Cluster) (env : DeliveryEnv) (nodeId payload : Bytes) : Prop :=
  (∃ packet, .gm (.send nodeId packet) ∈ (cluster.receive env (.toGm nodeId payload)).2 ∧ IsSuccessResponse packet) ∧
    ∃ session, (cluster.receive env (.toGm nodeId payload)).1.gm.sessions.findByNodeId nodeId = some session ∧
      session.registered = true

/-- The request changes nothing at the GM, and no answer to it is a grant. -/
structure Refused (cluster : Cluster) (env : DeliveryEnv) (nodeId payload : Bytes) : Prop where
  unchanged : (cluster.receive env (.toGm nodeId payload)).1.gm = cluster.gm
  answers : ∀ event ∈ (cluster.receive env (.toGm nodeId payload)).2,
    ∃ packet, event = .gm (.send nodeId packet) ∧ IsConflictResponse packet

theorem Refused.not_recovers {cluster : Cluster} {env : DeliveryEnv} {nodeId payload : Bytes}
    (h : Refused cluster env nodeId payload) : ¬ Recovers cluster env nodeId payload := by
  rintro ⟨⟨packet, sent, granted⟩, -⟩
  obtain ⟨packet', same, conflict⟩ := h.answers _ sent
  cases same
  exact conflict.not_success granted

/-- The conflict answer as the GM encodes it. -/
theorem sendRegisterError_conflict {env : GmEnv} {nodeId : Bytes} {seq : UInt32} {event : GmEvent}
    (sent : event ∈ GmNode.sendRegisterError env nodeId seq innerNodeIdConflict) :
    ∃ packet, event = .send nodeId packet ∧ IsConflictResponse packet := by
  unfold GmNode.sendRegisterError at sent
  split at sent
  · cases sent
  · rename_i body encoded
    simp only [GmEvent.sent, List.mem_map, Option.mem_toList] at sent
    obtain ⟨packet, handed, rfl⟩ := sent
    have wire := GmEnv.send_some handed
    have decoded : decodeRegisterErrorResponse body = .ok ⟨innerNodeIdConflict, 0⟩ := by
      have fixed : encodeRegisterErrorResponse ⟨innerNodeIdConflict, 0⟩ registerErrorResponseSize =
          .ok [0, 0, 11, 185, 0, 0, 0, 0] := by decide +kernel
      rw [fixed] at encoded
      cases encoded
      decide +kernel
    exact ⟨packet, rfl, _, body, decodePacket_encodePacket wire, rfl, rfl, decoded⟩

/-- A node with a session is refused, whatever state the session is in. -/
theorem refused_of_held {cluster : Cluster} {nodeId payload : Bytes} {session : InnerNetworkSession}
    (held : cluster.gm.sessions.findByNodeId nodeId = some session) (env : DeliveryEnv)
    (wellFormed : IsRegisterRequest nodeId payload) : Refused cluster env nodeId payload := by
  obtain ⟨packet, request, processType, envelope, kind, decoded, known, rfl⟩ := wellFormed.spec
  have raw : readRawHeader payload = some packet.header :=
    readRawHeader_of_decodePacket (GmNode.registerEnvelope_decoded envelope)
  have handled : cluster.gm.step (.message env.gm request.nodeId payload) =
      (cluster.gm, GmNode.sendRegisterError env.gm request.nodeId packet.header.seq innerNodeIdConflict) := by
    simp only [GmNode.step, GmNode.handleInnerMessage, raw, kind, if_true, GmNode.handleRegisterMessage, envelope,
      decoded, known, held]
  refine ⟨by simp only [receive, gmStep, handled], fun event mem => ?_⟩
  simp only [receive, gmStep, handled, List.mem_map] at mem
  obtain ⟨event', sent, rfl⟩ := mem
  obtain ⟨packet', same, conflict⟩ := sendRegisterError_conflict sent
  exact ⟨packet', by rw [same], conflict⟩

/-! ## Sessions over a run -/

theorem gameStep_gm (cluster : Cluster) (nodeId : Bytes) (input : GameNode.Input) :
    (cluster.gameStep nodeId input).1.gm = cluster.gm := by
  unfold gameStep
  split <;> rfl

theorem gateStep_gm (cluster : Cluster) (nodeId : Bytes) (input : GateNode.Input) :
    (cluster.gateStep nodeId input).1.gm = cluster.gm := by
  unfold gateStep
  split <;> rfl

theorem gmStep_retains (cluster : Cluster) (input : GmNode.Input) :
    cluster.gm.sessions.Retains (cluster.gmStep input).1.gm.sessions :=
  (GmNode.step_sessionStep cluster.gm input).retains

theorem receive_retains (cluster : Cluster) (env : DeliveryEnv) (envelope : Envelope) :
    cluster.gm.sessions.Retains (cluster.receive env envelope).1.gm.sessions := by
  cases envelope with
  | toGm source payload => exact gmStep_retains cluster _
  | fromGm target payload =>
    simp only [receive]
    split
    · rw [gameStep_gm]
      exact InnerNetworkSessionManager.Retains.refl _
    · rw [gateStep_gm]
      exact InnerNetworkSessionManager.Retains.refl _
  | toGate game gate payload =>
    simp only [receive, gateStep_gm]
    exact InnerNetworkSessionManager.Retains.refl _
  | toGame gate game payload =>
    simp only [receive, gameStep_gm]
    exact InnerNetworkSessionManager.Retains.refl _

theorem step_retains (cluster : Cluster) (input : Input) :
    cluster.gm.sessions.Retains (cluster.step input).1.gm.sessions := by
  cases input with
  | deliver env index =>
    simp only [step]
    split
    · exact InnerNetworkSessionManager.Retains.refl _
    · exact receive_retains { cluster with network := cluster.network.eraseIdx index } env _
  | lose index => exact InnerNetworkSessionManager.Retains.refl _
  | gm input isLocal => exact gmStep_retains cluster input
  | game nodeId input isLocal =>
    simp only [step, gameStep_gm]
    exact InnerNetworkSessionManager.Retains.refl _
  | gate nodeId input isLocal =>
    simp only [step, gateStep_gm]
    exact InnerNetworkSessionManager.Retains.refl _
  | managedSend game gate packet => exact InnerNetworkSessionManager.Retains.refl _

/-- The GM keeps the sessions it has, and those that expired stay so. -/
theorem run_retains (cluster : Cluster) (is : List Input) :
    cluster.gm.sessions.Retains (machine.run cluster is).1.gm.sessions :=
  @Machine.run_relates _ _ _ machine (fun _ => True)
    (fun a b : Cluster => a.gm.sessions.Retains b.gm.sessions)
    (fun _ => InnerNetworkSessionManager.Retains.refl _) (fun _ _ _ ab bc => ab.trans bc) (fun _ _ _ => trivial)
    (fun cluster input _ => step_retains cluster input) cluster trivial is

/-! ## Results -/

/-- **No node is registered twice.** Once the GM holds a session for a node, it
refuses every register request of that node, after any further events; and if the
session had timed out, it is unregistered ever after. -/
theorem reregistration_refused (config : ClusterConfig) (gameBoot : Bytes → NodeBoot) (gateBoot : Bytes → GateBoot)
    (is : List Input) {nodeId : Bytes} {session : InnerNetworkSession}
    (held : (machine.run (init config gameBoot gateBoot) is).1.gm.sessions.findByNodeId nodeId = some session)
    (js : List Input) (env : DeliveryEnv) {payload : Bytes} (request : IsRegisterRequest nodeId payload) :
    ¬ Recovers (machine.run (init config gameBoot gateBoot) (is ++ js)).1 env nodeId payload ∧
      Refused (machine.run (init config gameBoot gateBoot) (is ++ js)).1 env nodeId payload ∧
      (session.Expired → ∃ session',
        (machine.run (init config gameBoot gateBoot) (is ++ js)).1.gm.sessions.findByNodeId nodeId = some session' ∧
          session'.registered = false) := by
  rw [Machine.run_append]
  obtain ⟨session', held', expired⟩ := run_retains _ js nodeId session held
  have refused := refused_of_held held' env request
  exact ⟨refused.not_recovers, refused, fun timedOut => ⟨session', held', (expired timedOut).unregistered⟩⟩

/-- The GM's scan finds the Gate silent, its link drops and comes back, and it
asks again. -/
def sampleReconnect : List Input :=
  [.gm (.timeoutScan { nowUnixMs := 20000 }) rfl,
    .gate (text "Gate0") (.connectorState {} gmRemoteNodeId .disconnected) rfl, sampleGateConnects]

/-- The second request, as it is in flight after that. -/
def sampleSecondRequest : Bytes :=
  match (machine.run sampleCluster (sampleGateRegisters ++ sampleReconnect)).1.network with
  | .toGm _ payload :: _ => payload
  | _ => []

theorem sampleSecondRequest_wellFormed : IsRegisterRequest (text "Gate0") sampleSecondRequest := by decide +kernel

theorem sampleGate_held : ((machine.run sampleCluster sampleGateRegisters).1.gm.sessions.findByNodeId
    (text "Gate0")).isSome = true := by decide +kernel

theorem reregistration_refused_sample :
    Refused (machine.run sampleCluster (sampleGateRegisters ++ sampleReconnect)).1 sampleSurroundings (text "Gate0")
      sampleSecondRequest := by
  obtain ⟨session, held⟩ := Option.isSome_iff_exists.mp sampleGate_held
  unfold sampleCluster at held ⊢
  exact (reregistration_refused sampleConfig _ _ sampleGateRegisters held sampleReconnect sampleSurroundings
    sampleSecondRequest_wellFormed).2.1

/-- The Gate timed out at the GM, reset its own end and asks again in a
well-formed request; it is not registered. -/
theorem timed_out_gate_not_registered_again :
    ((machine.run sampleCluster (sampleGateRegisters ++ sampleReconnect)).1.gm.sessions.findByNodeId
        (text "Gate0")).map (fun session => (session.heartbeatTimedOut, session.registered)) = some (true, false) ∧
      (machine.run sampleCluster (sampleGateRegisters ++ sampleReconnect)).1.network =
        [.toGm (text "Gate0") sampleSecondRequest] ∧
      IsRegisterRequest (text "Gate0") sampleSecondRequest ∧
      ¬ Recovers (machine.run sampleCluster (sampleGateRegisters ++ sampleReconnect)).1 sampleSurroundings
        (text "Gate0") sampleSecondRequest := by
  refine ⟨by decide +kernel, by decide +kernel, sampleSecondRequest_wellFormed, ?_⟩
  obtain ⟨session, held⟩ := Option.isSome_iff_exists.mp sampleGate_held
  obtain ⟨session', held', -⟩ := run_retains _ sampleReconnect _ session held
  rw [← Machine.run_append] at held'
  exact (refused_of_held held' _ sampleSecondRequest_wellFormed).not_recovers

end XServer.Node.Cluster
