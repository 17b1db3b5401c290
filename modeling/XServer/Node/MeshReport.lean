import XServer.Node.GamePeer
import XServer.Node.GameProvenance

/-!
# The mesh-ready report

The mesh flag goes up in the handler that finds the mesh complete, before the
report is sent; whether the report goes out is not looked at again. Once the flag
is up no handler sends one (`run_latched`), so the flag stands for a report exactly
if the GM could be reached at that moment (`mesh_settled_iff`).
-/

namespace XServer.Node.GameNode
open XServer.Lib XServer.Lib.Wire XServer.Net XServer.Core

/-- A mesh-ready report was handed to the GM's connector. -/
def MeshReported (events : List GameEvent) : Prop :=
  ∃ packet, .send gmRemoteNodeId packet ∈ events ∧ HasMsgId packet innerGameGateMeshReadyReportMsgId

theorem meshReported_append {events more : List GameEvent} :
    MeshReported (events ++ more) ↔ MeshReported events ∨ MeshReported more := by
  simp only [MeshReported, List.mem_append, or_and_right, exists_or]

theorem not_meshReported_nil : ¬ MeshReported [] := by
  rintro ⟨packet, mem, -⟩
  cases mem

/-- The network takes the mesh-ready report. -/
def takesMeshReport (env : GameEnv) : Bool :=
  match encodeGameGateMeshReadyReport ⟨0, env.meshReportUnixMs⟩ gameGateMeshReadyReportSize with
  | .error _ => false
  | .ok payload => (env.send gmRemoteNodeId innerGameGateMeshReadyReportMsgId packetSeqNone 0 payload).isSome

theorem sendMeshReadyReport_reported (game : GameNode) (env : GameEnv) :
    MeshReported (game.sendMeshReadyReport env).2 ↔ game.gmReachable = true ∧ takesMeshReport env = true := by
  unfold sendMeshReadyReport takesMeshReport
  split
  · rename_i unreachable
    rw [Bool.not_eq_true'] at unreachable
    simp [unreachable, not_meshReported_nil]
  rename_i reachable
  rw [Bool.not_eq_true', Bool.not_eq_false] at reachable
  cases encodeGameGateMeshReadyReport ⟨0, env.meshReportUnixMs⟩ gameGateMeshReadyReportSize with
  | error e => simp [not_meshReported_nil]
  | ok payload =>
    simp only
    split
    · rename_i unsent
      simp [unsent, not_meshReported_nil]
    · rename_i packet sent
      rw [sent]
      exact iff_of_true ⟨packet, List.mem_singleton_self _, LinkEnv.send_msgId sent⟩ ⟨reachable, rfl⟩

/-! ## The moment of the check -/

/-- Before the mesh is looked at, neither the flag nor the reach of the GM changes. -/
structure SameReach (game game' : GameNode) : Prop where
  mesh : game'.meshReady = game.meshReady
  reach : game'.gmReachable = game.gmReachable

theorem SameReach.trans {a b c : GameNode} (h : SameReach a b) (h' : SameReach b c) : SameReach a c :=
  ⟨h'.mesh.trans h.mesh, h'.reach.trans h.reach⟩

/-- A session is written: it is a Gate's, or it stays as registered and as
connected as it was. -/
theorem sameReach_modify {game : GameNode} {peer : Bytes} {session session' : InnerNetworkSession}
    (found : game.sessions.findByNodeId peer = some session)
    (kept : peer = gmRemoteNodeId → session'.registered = session.registered ∧
      session'.connectionState = session.connectionState) :
    SameReach game { game with sessions := game.sessions.modify peer fun _ => session' } := by
  refine ⟨rfl, ?_⟩
  unfold gmReachable
  simp only [InnerNetworkSessionManager.findByNodeId_modify]
  by_cases isGm : peer = gmRemoteNodeId
  · obtain ⟨registered, state⟩ := kept isGm
    subst isGm
    simp only [if_true, found, Option.map_some, registered, state]
  · rw [if_neg isGm]

theorem sendRegisterTo_reach (game : GameNode) (env : GameEnv) (peer : Bytes) :
    SameReach game (game.sendRegisterTo env peer).1 := by
  unfold sendRegisterTo onSession
  split
  · exact ⟨rfl, rfl⟩
  · rename_i session found
    refine sameReach_modify found fun _ => ?_
    rcases session.sendRegisterRequest_result env.toLinkEnv peer game.registerRequest with
      ⟨seq, nextSeq, packet, -, -, -, eq⟩ | ⟨nextSeq, eq⟩
    · simp only [eq, and_self]
    · simp only [eq, and_self]

theorem startGateConnectors_reach (game : GameNode) (env : GameEnv) :
    SameReach game (game.startGateConnectors env).1 := by
  unfold startGateConnectors
  suffices ∀ (gates : List Bytes) (state : GameNode × List GameEvent), SameReach game state.1 →
      SameReach game (gates.foldl (startGateConnector env) state).1 from this game.gates _ ⟨rfl, rfl⟩
  intro gates
  induction gates with
  | nil => exact fun state h => h
  | cons gate gates ih =>
    intro state h
    apply ih
    unfold startGateConnector
    split
    · exact h
    split
    · exact h
    split
    · exact h.trans (sendRegisterTo_reach state.1 env gate)
    · exact h

theorem updateSession_reach (game : GameNode) {gate : Bytes} (isGate : gate ≠ gmRemoteNodeId)
    (f : InnerNetworkSession → InnerNetworkSession × Bool) : SameReach game (game.updateSession gate f).1 := by
  unfold updateSession
  split
  · exact ⟨rfl, rfl⟩
  · rename_i session found
    exact sameReach_modify found fun isGm => absurd isGm isGate

/-- What `meshCheck` gives: the state in which the handler goes on with `checkMesh`. -/
theorem meshCheck_some {game mesh : GameNode} {input : Input} {env : GameEnv}
    (looked : game.meshCheck input = some (mesh, env)) :
    SameReach game mesh ∧ (game.step input).1 = (mesh.checkMesh env).1 := by
  cases input with
  | connectorState => cases looked
  | heartbeatTimer => cases looked
  | serverStubReady => cases looked
  | connectorMessage env' peer payload =>
    simp only [meshCheck, Option.bind_eq_bind, Option.bind_eq_some_iff] at looked
    obtain ⟨packet, decoded, looked⟩ := looked
    split at looked
    · rename_i isGm
      simp only [Option.bind_eq_some_iff, Option.guard_eq_some'] at looked
      obtain ⟨_, kind, notify, body, _, all, eq⟩ := looked
      cases eq
      have noted : SameReach game (game.notedOnline notify.serverNowUnixMs) := ⟨rfl, rfl⟩
      refine ⟨noted.trans (startGateConnectors_reach _ env), ?_⟩
      simp only [step, handleConnectorMessage, if_pos isGm, handleGmMessage, ok_of_toOption decoded, if_pos kind,
        handleClusterNodesOnlineNotify, body, all, Bool.not_true, Bool.false_eq_true, if_false]
      rfl
    · rename_i isGate
      simp only [Option.bind_eq_some_iff, Option.guard_eq_some'] at looked
      obtain ⟨response, isResponse, _, awaited, eq⟩ := looked
      cases eq
      refine ⟨updateSession_reach game isGate response, ?_⟩
      simp only [step, handleConnectorMessage, if_neg isGate, handleGateMessage_eq, decoded, Option.bind_some, isResponse,
        awaited, Bool.and_self, if_true]

/-! ## What a step does to the flag -/

/-- The flag and the mesh-ready reports of a handler call: nothing happens to them,
or the mesh is found complete and the flag goes up. -/
inductive MeshStep (game : GameNode) (input : Input) : GameNode × List GameEvent → Prop where
  | quiet {result : GameNode × List GameEvent} (same : result.1.meshReady.current = game.meshReady.current)
      (silent : ¬ MeshReported result.2) : MeshStep game input result
  | latched {result : GameNode × List GameEvent} {mesh : GameNode} {env : GameEnv}
      (looked : game.meshCheck input = some (mesh, env)) (unlatched : game.meshReady.current = false)
      (complete : mesh.areAllGateSessionsConnected = true) (now : result.1.meshReady.current = true)
      (reported : MeshReported result.2 ↔ game.gmReachable = true ∧ takesMeshReport env = true) :
      MeshStep game input result

theorem Opening.meshStep {game game' : GameNode} {input : Input} {events : List GameEvent}
    (opening : Opening game input events game') : MeshStep game input (game', events) := by
  cases opening with
  | nothing => exact .quiet rfl not_meshReported_nil
  | state found passed => exact .quiet rfl not_meshReported_nil
  | reset found isGate down => exact .quiet rfl not_meshReported_nil
  | apply latched brought =>
    refine .quiet rfl ?_
    rintro ⟨packet, mem, -⟩
    cases List.mem_singleton.mp mem
  | ready taken => exact .quiet rfl not_meshReported_nil

/-- No packet of a link is a mesh-ready report. -/
theorem LinkOp.not_meshReported {request : RegisterRequest} {peer : Bytes} {session session' : InnerNetworkSession}
    {packet : Option Bytes} (op : LinkOp request peer session session' packet) :
    ¬ MeshReported (GameEvent.sent peer packet) := by
  rintro ⟨sent, mem, kind⟩
  simp only [GameEvent.sent, List.mem_map, Option.mem_toList] at mem
  obtain ⟨packet, rfl, same⟩ := mem
  cases same
  rcases op.packet with ⟨register, -⟩ | heartbeat
  · exact absurd (kind.unique register) (by decide)
  · exact absurd (kind.unique heartbeat) (by decide)

/-- An act is the one that raises the flag, or it leaves flag and report alone. -/
theorem Act.meshStep {origin game game' : GameNode} {input : Input} {events : List GameEvent}
    (act : Act origin input game events game') :
    (game'.meshReady.current = game.meshReady.current ∧ ¬ MeshReported events) ∨
      ∃ env, origin.meshCheck input = some (game, env) ∧ game.meshReady.current = false ∧
        game.areAllGateSessionsConnected = true ∧ game'.meshReady.current = true ∧
        (MeshReported events ↔ game.gmReachable = true ∧ takesMeshReport env = true) := by
  cases act with
  | link found op => exact .inl ⟨rfl, op.not_meshReported⟩
  | online serverNowUnixMs => exact .inl ⟨rfl, not_meshReported_nil⟩
  | @mesh env looked unlatched complete =>
    refine .inr ⟨env, looked, unlatched, complete, ?_, game.latch.sendMeshReadyReport_reported env⟩
    rcases game.latch.sendMeshReadyReport_cases env with ⟨packet, -, sent⟩ | unsent
    · rw [sent]
      rfl
    · rw [unsent]
      rfl
  | @report env packet body latched complete unreported encoded decoded =>
    refine .inl ⟨rfl, ?_⟩
    rintro ⟨sent, mem, kind⟩
    have same : sent = packet := by simpa using mem
    subst same
    have own : HasMsgId sent innerGameServiceReadyReportMsgId := ⟨_, readRawHeader_encodePacket encoded, rfl⟩
    exact absurd (kind.unique own) (by decide)

/-- An act after others. -/
theorem MeshStep.act {game s u : GameNode} {input : Input} {events more : List GameEvent}
    (h : MeshStep game input (s, events)) (act : Act game input s more u) : MeshStep game input (u, events ++ more) := by
  cases h with
  | quiet same silent =>
    rcases act.meshStep with ⟨kept, quiet⟩ | ⟨env, looked, unlatched, complete, now, reported⟩
    · refine .quiet (kept.trans same) ?_
      rw [meshReported_append, not_or]
      exact ⟨silent, quiet⟩
    · refine .latched looked (same ▸ unlatched) complete now ?_
      rw [meshReported_append, or_iff_right silent, reported, (meshCheck_some looked).1.reach]
  | latched looked unlatched complete now reported =>
    rcases act.meshStep with ⟨kept, quiet⟩ | ⟨env, -, again, -⟩
    · refine .latched looked unlatched complete (kept.trans now) ?_
      rw [meshReported_append, or_iff_left quiet]
      exact reported
    · rw [now] at again
      cases again

theorem step_mesh (game : GameNode) (input : Input) : MeshStep game input (game.step input) := by
  have handled := step_handled game input
  generalize game.step input = result at handled ⊢
  obtain ⟨opening, acts⟩ := handled
  exact @Steps.trace _ _ _ (fun s t => MeshStep game input (s, t)) (fun _ _ _ _ h act => h.act act) _ _ _ _ acts
    opening.meshStep

/-- A mesh that is found complete raises the flag. -/
theorem step_latches {game mesh : GameNode} {input : Input} {env : GameEnv}
    (looked : game.meshCheck input = some (mesh, env)) (unlatched : game.meshReady.current = false)
    (complete : mesh.areAllGateSessionsConnected = true) : (game.step input).1.meshReady.current = true := by
  obtain ⟨same, stepped⟩ := meshCheck_some looked
  rw [← same.mesh] at unlatched
  rw [stepped]
  unfold checkMesh onAllGateConnected
  rw [if_pos (by simp [unlatched, complete]), if_neg (by simp [unlatched])]
  have up : (mesh.latch.sendMeshReadyReport env).1.meshReady.current = true := by
    rcases mesh.latch.sendMeshReadyReport_cases env with ⟨packet, -, sent⟩ | unsent
    · rw [sent]
      rfl
    · rw [unsent]
      rfl
  have acts : Acts game input _ _ := checkAllLocalStubsReady_acts (mesh.latch.sendMeshReadyReport env).1 env
  have links : LinkChanges game input _ _ := Steps.refine (fun _ _ _ act => Act.links act) acts
  exact links.latched up

/-! ## Over every run -/

/-- Once the flag is up it stays up, and no mesh-ready report is sent. -/
theorem run_latched {game : GameNode} (up : game.meshReady.current = true) (is : List Input) :
    (machine.run game is).1.meshReady.current = true ∧ ¬ MeshReported (machine.run game is).2 := by
  refine @Machine.run_trace _ _ _ machine (fun s t => s.meshReady.current = true ∧ ¬ MeshReported t)
    (fun s t i h => ?_) game [] ⟨up, not_meshReported_nil⟩ is
  have stepped := step_mesh s i
  simp only [machine]
  generalize s.step i = result at stepped ⊢
  cases stepped with
  | quiet same silent =>
    rw [meshReported_append, not_or]
    exact ⟨same.trans h.1, h.2, silent⟩
  | latched looked unlatched =>
    rw [h.1] at unlatched
    cases unlatched

/-- As long as the flag is down nothing was reported. -/
theorem run_unlatched (game : GameNode) (is : List Input) (down : (machine.run game is).1.meshReady.current = false) :
    ¬ MeshReported (machine.run game is).2 := by
  refine @Machine.run_trace _ _ _ machine (fun s t => s.meshReady.current = false → ¬ MeshReported t)
    (fun s t i h down => ?_) game [] (fun _ => not_meshReported_nil) is down
  have stepped := step_mesh s i
  simp only [machine] at down ⊢
  generalize s.step i = result at stepped down ⊢
  cases stepped with
  | quiet same silent =>
    rw [meshReported_append, not_or]
    exact ⟨h (same ▸ down), silent⟩
  | latched looked unlatched complete now =>
    rw [now] at down
    cases down

/-- After the run, a Game that is marked mesh ready has reported it to the GM, or
some way to go on does. -/
def MeshSettled (game : GameNode) (is : List Input) : Prop :=
  (machine.run game is).1.meshReady.current = true →
    MeshReported (machine.run game is).2 ∨ ∃ js, MeshReported (machine.run (machine.run game is).1 js).2

/-- If the mesh is found complete for the first time, the GM session is registered
and connected and the network takes the report. -/
def MeshReportTaken (game : GameNode) (input : Input) : Prop :=
  ∀ mesh env, game.meshCheck input = some (mesh, env) → game.meshReady.current = false →
    mesh.areAllGateSessionsConnected = true → game.gmReachable = true ∧ takesMeshReport env = true

instance (game : GameNode) (input : Input) : Decidable (MeshReportTaken game input) :=
  match looked : game.meshCheck input with
  | none => .isTrue fun mesh env some => by rw [looked] at some; cases some
  | some (mesh, env) =>
    decidable_of_iff (game.meshReady.current = false → mesh.areAllGateSessionsConnected = true →
        game.gmReachable = true ∧ takesMeshReport env = true)
      ⟨fun h mesh' env' some => by rw [looked] at some; cases some; exact h, fun h => h mesh env looked⟩

/-- If the flag stands for a report all along, the report was taken when the flag
went up: later steps do not send one. -/
theorem meshReportTaken_of_settled {game : GameNode} {is : List Input}
    (settled : ∀ js, js <+: is → MeshSettled game js) : machine.Along MeshReportTaken game is := by
  refine Machine.along_iff_prefix.mpr fun js i begins mesh env looked unlatched complete => ?_
  by_contra untaken
  have up := step_latches looked unlatched complete
  have silent : ¬ MeshReported ((machine.run game js).1.step i).2 := by
    cases step_mesh (machine.run game js).1 i with
    | quiet same silent => exact silent
    | latched looked' _ _ _ reported =>
      rw [looked] at looked'
      cases looked'
      rw [reported]
      exact untaken
  have ended : (machine.run game (js ++ [i])).1 = ((machine.run game js).1.step i).1 := machine.run_append game js [i]
  rcases settled (js ++ [i]) begins (ended ▸ up) with before | ⟨later, after⟩
  · rw [machine.run_append_trace, meshReported_append] at before
    rcases before with earlier | now
    · exact run_unlatched game js unlatched earlier
    · simp only [Machine.run, machine, List.append_nil] at now
      exact silent now
  · rw [ended] at after
    exact (run_latched up later).2 after

/-- A report that is taken when the flag goes up is in the trace from then on. -/
theorem run_meshReported {game : GameNode} {is : List Input} (down : game.meshReady.current = false)
    (taken : machine.Along MeshReportTaken game is) (up : (machine.run game is).1.meshReady.current = true) :
    MeshReported (machine.run game is).2 := by
  refine @Machine.run_trace_along _ _ _ machine _ (fun s t => s.meshReady.current = true → MeshReported t)
    (fun s t i h taken up => ?_) game [] is (fun up => ?_) taken up
  · have stepped := step_mesh s i
    simp only [machine] at up ⊢
    generalize s.step i = result at stepped up ⊢
    rw [meshReported_append]
    cases stepped with
    | quiet same silent => exact .inl (h (same ▸ up))
    | latched looked unlatched complete now reported =>
      exact .inr (reported.mpr (taken _ _ looked unlatched complete))
  · rw [down] at up
    cases up

/-- **The mesh flag stands for a report** in every state of a run exactly if the GM
can be reached whenever the mesh is found complete. -/
theorem mesh_settled_iff {config : ClusterConfig} {self : NodeEntry} {boot : NodeBoot} {game : GameNode}
    (init : onInit config self boot = some game) (is : List Input) :
    (∀ js, js <+: is → MeshSettled game js) ↔ machine.Along MeshReportTaken game is := by
  refine ⟨meshReportTaken_of_settled, fun taken js begins up => ?_⟩
  obtain ⟨rest, rfl⟩ := begins
  have down : game.meshReady.current = false := by
    rw [(onInit_mesh init).2]
  exact .inl (run_meshReported down taken.append.1 up)

theorem mesh_settled_sample :
    (∀ js, js <+: sampleMeshed → MeshSettled sampleGame js) ∧
      (machine.run sampleGame sampleMeshed).1.meshReady.current = true := by
  have taken : machine.Along MeshReportTaken sampleGame sampleMeshed := by decide +kernel
  exact ⟨(mesh_settled_iff sampleGame_init _).mpr taken, by decide +kernel⟩

/-- The GM link goes down just before the Gate's heartbeat answer arrives. -/
def sampleUnreported : List Input :=
  sampleMeshed.take 6 ++ .connectorState {} gmRemoteNodeId .disconnected :: sampleMeshed.drop 6

/-- The Game is marked mesh ready, has reported nothing and never will. -/
theorem unreachable_gm_not_told : ¬ ∀ js, js <+: sampleUnreported → MeshSettled sampleGame js := by
  intro settled
  have untaken : ¬ machine.Along MeshReportTaken sampleGame sampleUnreported := by decide +kernel
  exact untaken (meshReportTaken_of_settled settled)

end XServer.Node.GameNode
