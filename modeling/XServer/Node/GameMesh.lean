import XServer.Node.GameLink

/-!
# The mesh of a Game and its Gates

A Game takes part in the ownership phase once every Gate session was connected,
registered and ready at the same time. That moment is latched in a flag; the
sessions go on changing. As long as no Gate link goes down under the flag, it
tells the truth whenever the Game applies a sync or sends a report
(`stub_steps_meshed`).
-/

namespace XServer.Node.GameNode
open XServer.Lib XServer.Lib.Wire XServer.Net XServer.Core

/-- The Gate's session is connected, registered and ready. -/
def GateReady (game : GameNode) (gate : Bytes) : Prop :=
  ∃ session, game.sessions.findByNodeId gate = some session ∧ session.connectionState = .connected ∧
    session.registered = true ∧ session.innerNetworkReady = true

instance (game : GameNode) (gate : Bytes) : Decidable (GateReady game gate) :=
  inferInstanceAs (Decidable (∃ session ∈ game.sessions.findByNodeId gate, session.connectionState = .connected ∧
    session.registered = true ∧ session.innerNetworkReady = true))

theorem areAllGateSessionsConnected_ready {game : GameNode} (h : game.areAllGateSessionsConnected = true) :
    ∀ gate ∈ game.gates, GateReady game gate := by
  intro gate mem
  simp only [areAllGateSessionsConnected, Bool.and_eq_true, List.all_eq_true] at h
  have ready := h.2 gate mem
  split at ready
  · cases ready
  · rename_i session found
    simp only [Bool.and_eq_true, beq_iff_eq] at ready
    exact ⟨session, found, ready.1.1, ready.1.2, ready.2⟩

/-- The mesh flag tells the truth about the configured Gates. -/
structure MeshInv (config : ClusterConfig) (game : GameNode) : Prop where
  gates : game.gates = config.gateNodeIds
  links : ∀ gate, AtPeer LinkInv gate game
  ready : game.meshReady.current = true → ∀ gate ∈ config.gateNodeIds, GateReady game gate

/-- While the mesh is ready, no configured Gate's link goes down. -/
def GatesStay (game : GameNode) (input : Input) : Prop :=
  game.meshReady.current = true →
    ∀ env gate state, input = .connectorState env gate state → gate ∈ game.gates → state = .connected

instance (game : GameNode) : ∀ input, Decidable (game.GatesStay input)
  | .connectorState _ gate state =>
    decidable_of_iff (game.meshReady.current = true → gate ∈ game.gates → state = .connected)
      ⟨fun h latched _ _ _ same mem => by cases same; exact h latched mem, fun h latched mem => h latched _ _ _ rfl mem⟩
  | .connectorMessage _ _ _ => .isTrue nofun
  | .heartbeatTimer _ _ => .isTrue nofun
  | .serverStubReady _ _ _ => .isTrue nofun

theorem gm_not_gate (config : ClusterConfig) : gmRemoteNodeId ∉ config.gateNodeIds := by
  intro mem
  have parsed := config.parse_gate mem
  exact absurd parsed (by decide)

theorem GateReady.modify {game : GameNode} {gate other : Bytes} {f : InnerNetworkSession → InnerNetworkSession}
    (ready : GateReady game gate)
    (kept : ∀ session, game.sessions.findByNodeId gate = some session → other = gate →
      session.connectionState = .connected → session.registered = true → session.innerNetworkReady = true →
      (f session).connectionState = .connected ∧ (f session).registered = true ∧ (f session).innerNetworkReady = true) :
    GateReady { game with sessions := game.sessions.modify other f } gate := by
  obtain ⟨session, found, connected, registered, isReady⟩ := ready
  unfold GateReady
  rw [InnerNetworkSessionManager.findByNodeId_modify, found]
  split
  · rename_i same
    exact ⟨f session, rfl, kept session found same connected registered isReady⟩
  · exact ⟨session, rfl, connected, registered, isReady⟩

theorem LinkChange.mesh_ready {config : ClusterConfig} {origin game game' : GameNode} {input : Input}
    {events : List GameEvent} (change : LinkChange origin input game events game') (stay : GatesStay origin input)
    (inv : MeshInv config game) :
    game'.meshReady.current = true → ∀ gate ∈ config.gateNodeIds, GateReady game' gate := by
  intro latched gate listed
  cases change with
  | apart same gated =>
    unfold GateReady
    rw [same.sessions]
    exact inv.ready (same.mesh ▸ latched) gate listed
  | link found move sends =>
    refine (inv.ready latched gate listed).modify fun session held same connected registered ready => ?_
    subst same
    rw [found] at held
    cases held
    exact move.ready (inv.links _ _ found) connected registered ready
  | @state env peer state first changed passed =>
    refine (inv.ready latched gate listed).modify fun session held same connected registered ready => ?_
    subst same
    -- the link of a Gate came up: it is not the GM's
    have up : state = .connected := passed.resolve_left fun isGm => gm_not_gate config (isGm ▸ listed)
    exact ⟨up, registered, ready⟩
  | @reset env peer state first changed isGate down =>
    refine (inv.ready latched gate listed).modify fun session held same connected registered ready => ?_
    subst same first
    exact absurd (stay latched env peer state changed (inv.gates ▸ listed)) down
  | mesh complete =>
    rw [← inv.gates] at listed
    exact areAllGateSessionsConnected_ready complete gate listed

theorem LinkChange.meshInv {config : ClusterConfig} {origin game game' : GameNode} {input : Input}
    {events : List GameEvent} (change : LinkChange origin input game events game') (stay : GatesStay origin input)
    (inv : MeshInv config game) : MeshInv config game' := by
  refine ⟨?_, fun gate => change.inv (inv.links gate), change.mesh_ready stay inv⟩
  cases change with
  | apart same gated => exact same.gates.trans inv.gates
  | link found move sends => exact inv.gates
  | state first changed passed => exact inv.gates
  | reset first changed isGate down => exact inv.gates
  | mesh complete => exact inv.gates

/-- The flag stays up once it is up. -/
theorem LinkChange.latched {origin game game' : GameNode} {input : Input} {events : List GameEvent}
    (change : LinkChange origin input game events game') (up : game.meshReady.current = true) :
    game'.meshReady.current = true := by
  cases change with
  | apart same gated => exact same.mesh.trans up
  | link found move sends => exact up
  | state first changed passed => exact up
  | reset first changed isGate down => exact up
  | mesh complete => rfl

theorem LinkChanges.latched {origin game : GameNode} {input : Input} {result : GameNode × List GameEvent}
    (changes : LinkChanges origin input game result) (up : game.meshReady.current = true) :
    result.1.meshReady.current = true :=
  @Steps.invariant _ _ _ (fun game => game.meshReady.current = true) (fun _ _ _ up change => change.latched up) _ _ _
    changes up

theorem step_meshInv {config : ClusterConfig} (game : GameNode) (input : Input) (inv : MeshInv config game)
    (stay : GatesStay game input) : MeshInv config (game.step input).1 :=
  Steps.invariant (fun _ _ _ inv change => change.meshInv stay inv) (step_links game input) inv

/-- A sync is applied and a report sent only under the flag. -/
theorem step_latched (game : GameNode) (input : Input) :
    ∀ event ∈ (game.step input).2, event.OfStubs → (game.step input).1.meshReady.current = true := by
  refine @Steps.trace _ _ _ (fun s t => ∀ event ∈ t, GameEvent.OfStubs event → s.meshReady.current = true)
    (fun s t es u so change event mem ofStubs => ?_) _ _ [] _ (step_links game input) (by simp)
  rcases List.mem_append.mp mem with before | now
  · exact change.latched (so event before ofStubs)
  · cases change with
    | apart same gated => exact same.mesh.trans (gated event now ofStubs)
    | link found move sends => exact absurd ofStubs (sends event now)
    | state => cases now
    | reset => cases now
    | mesh => cases now

theorem onInit_mesh {config : ClusterConfig} {self : NodeEntry} {boot : NodeBoot} {game : GameNode}
    (init : onInit config self boot = some game) : game.gates = config.gateNodeIds ∧ game.meshReady = {} := by
  simp only [onInit, Option.bind_eq_bind, Option.bind_eq_some_iff] at init
  obtain ⟨_, -, _, -, _, -, _, -, eq⟩ := init
  cases eq
  exact ⟨rfl, rfl⟩

/-- If the step applies a sync or sends a service-ready report, every configured
Gate's session is connected, registered and ready. -/
def StubStepMeshed (config : ClusterConfig) (game : GameNode) (input : Input) : Prop :=
  ∀ event ∈ (game.step input).2, event.OfStubs → ∀ gate ∈ config.gateNodeIds, GateReady (game.step input).1 gate

/-- **The mesh flag tells the truth** whenever the Game applies a sync or sends a
report, in every run in which no Gate link goes down under the flag. -/
theorem stub_steps_meshed {config : ClusterConfig} {self : NodeEntry} {boot : NodeBoot} {game : GameNode}
    (init : onInit config self boot = some game) {is : List Input} (stay : machine.Along GatesStay game is) :
    machine.Along (StubStepMeshed config) game is := by
  obtain ⟨gates, unlatched⟩ := onInit_mesh init
  have start : MeshInv config game := by
    refine ⟨gates, fun gate session found => (onInit_rests init gate session found).1, fun latched => ?_⟩
    rw [unlatched] at latched
    cases latched
  refine Machine.Along.of_invariant step_meshInv (fun game input inv stay event mem ofStubs => ?_) start stay
  exact (step_meshInv game input inv stay).ready (step_latched game input event mem ofStubs)

/-! ## One Gate -/

/-- A register answer to the request with this sequence number. -/
def sampleRegistered (seq : UInt32) : Bytes :=
  samplePacket innerRegisterMsgId seq flagResponse (encodeRegisterSuccessResponse ⟨5000, 15000, 1000⟩ registerSuccessResponseSize)

/-- The Game registers at the GM, is told that all nodes are online, registers at
the Gate and has its first heartbeat answered. -/
def sampleMeshed : List Input :=
  [.connectorState {} gmRemoteNodeId .connected, .connectorMessage {} gmRemoteNodeId (sampleRegistered 1),
    .connectorMessage {} gmRemoteNodeId (samplePacket innerClusterNodesOnlineNotifyMsgId packetSeqNone 0
      (encodeClusterNodesOnlineNotify ⟨true, 0, 1000⟩ clusterNodesOnlineNotifySize)),
    .connectorState {} (text "Gate0") .connected, .connectorMessage {} (text "Gate0") (sampleRegistered 1),
    .heartbeatTimer {} (text "Gate0"),
    .connectorMessage {} (text "Gate0") (samplePacket innerHeartbeatMsgId 2 flagResponse
      (encodeHeartbeatSuccessResponse ⟨5000, 15000, 1000⟩ heartbeatSuccessResponseSize))]

/-- The GM hands out one stub to the Game. -/
def sampleSync : Input :=
  .connectorMessage {} gmRemoteNodeId (samplePacket innerServerStubOwnershipSyncMsgId packetSeqNone 0
    (encodeServerStubOwnershipSync ⟨1, 0, [⟨text "ChatStub", text "unknown", text "Game0", 0⟩], 1000⟩ 54))

theorem stub_steps_meshed_sample :
    machine.Along GatesStay sampleGame (sampleMeshed ++ [sampleSync]) ∧
      machine.Along (StubStepMeshed sampleConfig) sampleGame (sampleMeshed ++ [sampleSync]) ∧
      ((machine.run sampleGame (sampleMeshed ++ [sampleSync])).1.ownership.assignmentEpoch = 1) := by
  have stay : machine.Along GatesStay sampleGame (sampleMeshed ++ [sampleSync]) := by decide +kernel
  exact ⟨stay, stub_steps_meshed sampleGame_init stay, by decide +kernel⟩

/-- The Gate's link goes down after the mesh was ready; the Game still applies the
ownership sync. -/
theorem dropped_gate_not_noticed :
    ¬ machine.Along (StubStepMeshed sampleConfig) sampleGame
      (sampleMeshed ++ [.connectorState {} (text "Gate0") .disconnected, sampleSync]) := by
  intro meshed
  obtain ⟨-, atSync, -⟩ := meshed.append.2
  have applied : ∃ event ∈ ((machine.step (machine.run sampleGame sampleMeshed).1
      (.connectorState {} (text "Gate0") .disconnected)).1.step sampleSync).2, event.OfStubs := by decide +kernel
  obtain ⟨event, mem, ofStubs⟩ := applied
  have ready := atSync event mem ofStubs (text "Gate0") (by decide +kernel)
  revert ready
  decide +kernel

end XServer.Node.GameNode
