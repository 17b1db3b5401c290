import XServer.Node.GameOwnership
import XServer.Node.GmRegister
import XServer.Node.Heartbeat

/-!
# One ownership table for the cluster

The GM draws up the ownership table once and sends it to every Game. Nothing a Game
applies differs from it, whatever is delayed, reordered or lost: the table never
changes after it was sent, a sync in flight from the GM carries it, and no other
node can speak to a Game in the GM's name. So the stubs of two Games are disjoint,
and a Gate opens only when every stub is held by its owner.
-/

namespace XServer.Node
open XServer.Lib XServer.Lib.Wire XServer.Net XServer.Core

/-! ## The table and what is sent of it -/

namespace GmNode

/-- The ownership table as it was distributed, before any stub reported its id. -/
def ownershipTable (gm : GmNode) : List ServerStubOwnershipEntry :=
  buildServerStubDistributeTable
    { gm with stubs := { gm.stubs with entries := resetServerStubStates gm.stubs.entries } }

/-- The sync carries the table. -/
structure IsTable (gm : GmNode) (sync : ServerStubOwnershipSync) : Prop where
  opened : gm.startup.allExpectedGamesMeshReady = true
  epoch : sync.assignmentEpoch = serverStubOwnershipAssignmentEpoch
  assignments : sync.assignments = gm.ownershipTable

/-- The packet decodes to a sync that carries the table. -/
def TellsTable (gm : GmNode) (payload : Bytes) : Prop :=
  ∃ packet sync, decodePacket payload = .ok packet ∧ decodeServerStubOwnershipSync packet.payload = .ok sync ∧
    gm.IsTable sync

theorem resetServerStubStates_reset (entries : List ServerStubEntry) :
    resetServerStubStates (resetServerStubStates entries) = resetServerStubStates entries := by
  simp [resetServerStubStates]

/-- Ready reports leave the types and the owners. -/
theorem resetServerStubStates_settled {before after : List ServerStubEntry} (settled : List.Forall₂ Settled before after) :
    resetServerStubStates after = resetServerStubStates before := by
  induction settled with
  | nil => rfl
  | cons head _ ih =>
    simp only [resetServerStubStates, List.map_cons] at ih ⊢
    rw [ih, head.type, head.owner]

theorem ownershipTable_congr {gm gm' : GmNode}
    (same : resetServerStubStates gm'.stubs.entries = resetServerStubStates gm.stubs.entries) :
    gm'.ownershipTable = gm.ownershipTable := by
  unfold ownershipTable buildServerStubDistributeTable
  simp only [same]

/-- **The table is final.** -/
theorem StartupStep.isTable {gm gm' : GmNode} {i : Input} {ps : List GmEvent} (h : StartupStep gm i gm' ps)
    (inv : StartupInv gm) {sync : ServerStubOwnershipSync} (carries : gm.IsTable sync) : gm'.IsTable sync := by
  obtain ⟨opened, epoch, assignments⟩ := carries
  have opens := (h.advances inv).games opened
  suffices same : gm'.ownershipTable = gm.ownershipTable from ⟨opens, epoch, assignments.trans same.symm⟩
  cases h with
  | bookkeeping => rfl
  | nodesOnline closed => rfl
  | meshReport => rfl
  | ownership online closed complete =>
    rw [opened] at closed
    cases closed
  | @readyReport routingId payload session report arrived accepted =>
    exact ownershipTable_congr (resetServerStubStates_settled (applyReadyEntries_spec _ report.entries inv.named).2)
  | @gateOpen routingId payload session report now arrived accepted closed allReady =>
    exact ownershipTable_congr (resetServerStubStates_settled (applyReadyEntries_spec _ report.entries inv.named).2)

/-- A sync that went out is read back as it is. -/
theorem sendOwnershipSyncToGame_reads {env : GmEnv} {session : InnerNetworkSession} {sync : ServerStubOwnershipSync}
    {routingId payload : Bytes} (sent : .send routingId payload ∈ sendOwnershipSyncToGame env session sync) :
    ∃ packet, decodePacket payload = .ok packet ∧ decodeServerStubOwnershipSync packet.payload = .ok sync := by
  unfold sendOwnershipSyncToGame at sent
  split at sent
  · cases sent
  rename_i wireSize size
  rw [encodeServerStubOwnershipSync_ok size] at sent
  obtain ⟨valid, short, -⟩ := getServerStubOwnershipSyncWireSize_ok size
  simp only [GmEvent.sent, List.mem_map, Option.mem_toList] at sent
  obtain ⟨packet, taken, same⟩ := sent
  cases same
  have encoded := GmEnv.send_some taken
  obtain ⟨-, -, fits, -⟩ := encodePacket_ok encoded
  -- every entry takes at least one byte of the body
  have count : sync.assignments.length ≤ (ownershipSyncBytes sync).length := by
    rw [ownershipSyncBytes_length]
    have each := List.length_le_sum_of_one_le
      (sync.assignments.map fun e => (e.strings.map fun s => 2 + s.length).sum + 4) fun n mem => by
        obtain ⟨e, -, rfl⟩ := List.mem_map.mp mem
        omega
    rw [List.length_map] at each
    omega
  exact ⟨_, decodePacket_encodePacket encoded,
    (reads_ownershipSync (by omega) short (validateServerStubOwnershipSync_entries valid)).decodeExact valid⟩

/-- What goes out when the ownership phase begins is the table it leaves. -/
theorem onAllGameReady_tells {gm : GmNode} {env : GmEnv} {routingId payload : Bytes}
    (sent : .send routingId payload ∈ (gm.onAllGameReady env).2) : (gm.onAllGameReady env).1.TellsTable payload := by
  generalize outcome : gm.onAllGameReady env = result at sent ⊢
  unfold onAllGameReady at outcome
  split at outcome
  · subst outcome
    cases sent
  simp only at outcome
  split at outcome
  · subst outcome
    simp at sent
  rename_i assigned ensured
  split at outcome
  · subst outcome
    simp at sent
  subst outcome
  rcases List.mem_cons.mp sent with phase | sent
  · cases phase
  obtain ⟨session, -, sent⟩ := List.mem_flatMap.mp sent
  obtain ⟨packet, decoded, read⟩ := sendOwnershipSyncToGame_reads sent
  refine ⟨packet, _, decoded, read, ?_, rfl, ?_⟩
  · have startup := ensureServerStubAssignments_startup
      { gm with startup := { gm.startup with allExpectedGamesMeshReady := true } } env
    rw [ensured] at startup
    exact congrArg StartupState.allExpectedGamesMeshReady startup
  · unfold ownershipTable
    simp only [resetServerStubStates_reset]

theorem handleGameStubsReadyReport_sends (gm : GmNode) (env : GmEnv) (routingId payload : Bytes) :
    SendsOnly [innerClusterReadyNotifyMsgId] (gm.handleGameStubsReadyReport env routingId payload).2 := by
  unfold handleGameStubsReadyReport
  split
  · exact .nil _
  simp only
  split
  · unfold onAllStubReady
    split
    · exact .nil _
    · refine .phase (by simp) (.flatMap _ fun session => ?_)
      unfold sendClusterGateOpenNotifyToGate
      split
      · exact .nil _
      · exact sendsOnly_sent _ _ _ _ _ (by simp)
  · exact .nil _

/-- **An ownership sync of the GM carries its table.** -/
theorem step_tells {gm : GmNode} {i : Input} {routingId payload : Bytes}
    (sent : .send routingId payload ∈ (gm.step i).2) (kind : HasMsgId payload innerServerStubOwnershipSyncMsgId) :
    (gm.step i).1.TellsTable payload := by
  cases i with
  | message env source request =>
    generalize outcome : gm.step (.message env source request) = result at sent ⊢
    simp only [step, handleInnerMessage] at outcome
    split at outcome
    · subst outcome
      cases sent
    split at outcome
    · subst outcome
      exact absurd ((handleRegisterMessage_sends gm env source request).excludes sent kind) (by decide)
    split at outcome
    · subst outcome
      exact absurd ((handleHeartbeatMessage_sends gm env source request).excludes sent kind) (by decide)
    split at outcome
    · unfold handleGameGateMeshReadyReport at outcome
      split at outcome
      · subst outcome
        cases sent
      simp only at outcome
      split at outcome
      · subst outcome
        exact onAllGameReady_tells sent
      · subst outcome
        cases sent
    split at outcome
    · subst outcome
      exact absurd ((handleGameStubsReadyReport_sends gm env source request).excludes sent kind) (by decide)
    · subst outcome
      cases sent
  | timeoutScan env => cases sent
  | peerDisconnected peer => cases sent

end GmNode

/-! ## What a Game applies -/

namespace GameNode

/-- A sync is applied only as the GM's message brought it. -/
theorem step_applied {game : GameNode} {input : Input} {sync : ServerStubOwnershipSync}
    (applied : .applied sync ∈ (game.step input).2) :
    ∃ env payload packet, input = .connectorMessage env gmRemoteNodeId payload ∧
      HasMsgId payload innerServerStubOwnershipSyncMsgId ∧ decodePacket payload = .ok packet ∧
      decodeServerStubOwnershipSync packet.payload = .ok sync := by
  have stubs := step_stubs game input
  generalize game.step input = result at stubs applied
  cases stubs with
  | other checked => exact absurd applied checked.not_applied
  | ready arrived taken checked => exact absurd applied checked.not_applied
  | applied brought checked =>
    rcases List.mem_cons.mp applied with this | later
    · cases this
      unfold ownershipSyncOf at brought
      split at brought
      · split at brought
        · rename_i ofGm
          subst ofGm
          split at brought
          · cases brought
          rename_i packet decoded
          split at brought
          · rename_i kind
            exact ⟨_, _, packet, rfl, ⟨_, readRawHeader_of_decodePacket decoded, kind⟩, decoded,
              (acceptOwnershipSync_some brought).1⟩
          · cases brought
        · cases brought
      · cases brought
    · exact absurd later checked.not_applied

/-- The ownership is the initial one, or that of a sync among the events. -/
theorem ownershipAfter_cases (nodeId : Bytes) (ownership : OwnershipState) (events : List GameEvent) :
    ((∀ sync, .applied sync ∉ events) ∧ ownershipAfter nodeId ownership events = ownership) ∨
      ∃ sync, .applied sync ∈ events ∧ ownershipAfter nodeId ownership events = ownershipOf nodeId sync := by
  induction events generalizing ownership with
  | nil => exact .inl ⟨fun _ => List.not_mem_nil, rfl⟩
  | cons event events ih =>
    cases event with
    | send connector packet =>
      rcases ih ownership with ⟨none, same⟩ | ⟨sync, mem, last⟩
      · exact .inl ⟨fun sync => by simpa using none sync, same⟩
      · exact .inr ⟨sync, List.mem_cons_of_mem _ mem, last⟩
    | reported report =>
      rcases ih ownership with ⟨none, same⟩ | ⟨sync, mem, last⟩
      · exact .inl ⟨fun sync => by simpa using none sync, same⟩
      · exact .inr ⟨sync, List.mem_cons_of_mem _ mem, last⟩
    | applied sync =>
      rcases ih (ownershipOf nodeId sync) with ⟨-, same⟩ | ⟨sync', mem, last⟩
      · exact .inr ⟨sync, List.mem_cons_self, same⟩
      · exact .inr ⟨sync', List.mem_cons_of_mem _ mem, last⟩

end GameNode

/-! ## The invariant -/

namespace Cluster

/-- What a packet in flight can bring to a Game in the GM's name. -/
def Genuine (gm : GmNode) : Envelope → Prop
  | .fromGm _ payload => HasMsgId payload innerServerStubOwnershipSyncMsgId → gm.TellsTable payload
  | .toGame gate _ _ => gate ≠ gmRemoteNodeId
  | .toGm .. => True
  | .toGate .. => True

/-- Every sync that was applied, or is in flight from the GM, carries its table. -/
structure OneTable (cluster : Cluster) (trace : List ClusterEvent) : Prop where
  games : ∀ (nodeId : Bytes) (game : GameNode), cluster.games[nodeId]? = some game →
    GameNode.OwnershipInv nodeId game (gameEvents trace nodeId)
  applied : ∀ (nodeId : Bytes) (sync : ServerStubOwnershipSync),
    .game nodeId (.applied sync) ∈ trace → cluster.gm.IsTable sync
  network : ∀ envelope ∈ cluster.network, Genuine cluster.gm envelope

variable {config : ClusterConfig} {cluster : Cluster} {trace : List ClusterEvent}

theorem Genuine.mono {gm gm' : GmNode} (keeps : ∀ {sync}, gm.IsTable sync → gm'.IsTable sync) {envelope : Envelope}
    (h : Genuine gm envelope) : Genuine gm' envelope := by
  cases envelope with
  | fromGm target payload =>
    intro kind
    obtain ⟨packet, sync, decoded, read, carries⟩ := h kind
    exact ⟨packet, sync, decoded, read, keeps carries⟩
  | toGame gate game payload => exact h
  | toGm source payload => trivial
  | toGate game gate payload => trivial

theorem OneTable.lose (one : OneTable cluster trace) {network : List Envelope}
    (fewer : ∀ envelope ∈ network, envelope ∈ cluster.network) : OneTable { cluster with network } trace :=
  ⟨one.games, one.applied, fun envelope mem => one.network envelope (fewer envelope mem)⟩

theorem gmStep_oneTable (inv : Inv config cluster trace) (one : OneTable cluster trace) (input : GmNode.Input) :
    OneTable (cluster.gmStep input).1 (trace ++ (cluster.gmStep input).2) := by
  have keeps : ∀ {sync}, cluster.gm.IsTable sync → (cluster.gm.step input).1.IsTable sync :=
    fun carries => (GmNode.step_startupStep cluster.gm input).isTable inv.startup carries
  refine ⟨fun nodeId game stored => ?_, fun nodeId sync mem => ?_, fun envelope mem => ?_⟩
  · rw [gameEvents_append, gmStep, gameEvents_gm, List.append_nil]
    exact one.games nodeId game stored
  · rcases List.mem_append.mp mem with old | new
    · exact keeps (one.applied nodeId sync old)
    · obtain ⟨event, -, same⟩ := List.mem_map.mp new
      cases same
  · rcases List.mem_append.mp mem with old | new
    · exact (one.network envelope old).mono keeps
    · obtain ⟨event, sent, made⟩ := List.mem_filterMap.mp new
      cases event with
      | send routingId packet =>
        cases made
        exact fun kind => GmNode.step_tells sent kind
      | allNodeOnline => cases made
      | allGameReady => cases made
      | allStubReady => cases made

/-- A handler call of a Game whose ownership sync, if any, carries the table. -/
theorem gameStep_oneTable (one : OneTable cluster trace) (nodeId : Bytes) {input : GameNode.Input}
    (told : ∀ env payload, input = .connectorMessage env gmRemoteNodeId payload →
      HasMsgId payload innerServerStubOwnershipSyncMsgId → cluster.gm.TellsTable payload) :
    OneTable (cluster.gameStep nodeId input).1 (trace ++ (cluster.gameStep nodeId input).2) := by
  unfold gameStep
  split
  · simpa using one
  rename_i game stored
  refine ⟨fun other game' stored' => ?_, fun other sync mem => ?_, fun envelope mem => ?_⟩
  · rw [gameEvents_append]
    by_cases same : nodeId = other
    · subst same
      rw [Table.get_insert_self] at stored'
      cases stored'
      rw [gameEvents_game_self]
      exact GameNode.step_ownershipInv game _ input (one.games nodeId game stored)
    · rw [Table.get_insert_of_ne _ _ same] at stored'
      rw [gameEvents_game_of_ne same, List.append_nil]
      exact one.games other game' stored'
  · rcases List.mem_append.mp mem with old | new
    · exact one.applied other sync old
    · obtain ⟨event, happened, same⟩ := List.mem_map.mp new
      cases same
      obtain ⟨env, payload, packet, arrived, kind, decoded, read⟩ := GameNode.step_applied happened
      obtain ⟨packet', sync', decoded', read', carries⟩ := told env payload arrived kind
      rw [decoded] at decoded'
      cases decoded'
      rw [read] at read'
      cases read'
      exact carries
  · rcases List.mem_append.mp mem with old | new
    · exact one.network envelope old
    · obtain ⟨event, -, made⟩ := List.mem_filterMap.mp new
      cases event with
      | send connector packet =>
        cases made
        split <;> trivial
      | applied sync => cases made
      | reported report => cases made

/-- No Gate is called as the GM. -/
theorem Configured.gate_ne (nodes : Configured config cluster) {nodeId : Bytes} {gate : GateNode}
    (stored : cluster.gates[nodeId]? = some gate) : nodeId ≠ gmRemoteNodeId := by
  rintro rfl
  exact absurd (config.parse_gate (nodes.gates _ gate stored)) (by decide)

theorem gateStep_oneTable (nodes : Configured config cluster) (one : OneTable cluster trace) (nodeId : Bytes)
    (input : GateNode.Input) : OneTable (cluster.gateStep nodeId input).1 (trace ++ (cluster.gateStep nodeId input).2) := by
  unfold gateStep
  split
  · simpa using one
  rename_i gate stored
  have other := nodes.gate_ne stored
  refine ⟨fun nodeId' game stored' => ?_, fun nodeId' sync mem => ?_, fun envelope mem => ?_⟩
  · rw [gameEvents_append, gameEvents_gate, List.append_nil]
    exact one.games nodeId' game stored'
  · rcases List.mem_append.mp mem with old | new
    · exact one.applied nodeId' sync old
    · obtain ⟨event, -, same⟩ := List.mem_map.mp new
      cases same
  · rcases List.mem_append.mp mem with old | new
    · exact one.network envelope old
    · obtain ⟨event, -, made⟩ := List.mem_filterMap.mp new
      cases event with
      | toGm packet => cases made; trivial
      | reply routingId packet => cases made; exact other
      | client event =>
        cases event <;> cases made
        exact other

theorem receive_oneTable (inv : Inv config cluster trace) (nodes : Configured config cluster)
    (one : OneTable cluster trace) (env : DeliveryEnv) {envelope : Envelope} (genuine : Genuine cluster.gm envelope) :
    OneTable (cluster.receive env envelope).1 (trace ++ (cluster.receive env envelope).2) := by
  cases envelope with
  | toGm source payload => exact gmStep_oneTable inv one _
  | fromGm target payload =>
    simp only [receive]
    split
    · refine gameStep_oneTable one target fun env' payload' arrived kind => ?_
      cases arrived
      exact genuine kind
    · exact gateStep_oneTable nodes one target _
  | toGate game gate payload => exact gateStep_oneTable nodes one gate _
  | toGame gate game payload =>
    refine gameStep_oneTable one game fun env' payload' arrived => ?_
    cases arrived
    exact absurd rfl genuine

theorem step_oneTable (inv : Inv config cluster trace) (nodes : Configured config cluster)
    (one : OneTable cluster trace) (input : Input) :
    OneTable (cluster.step input).1 (trace ++ (cluster.step input).2) := by
  cases input with
  | deliver env index =>
    simp only [step]
    split
    · simpa using one
    · rename_i envelope found
      have fewer : ∀ e ∈ cluster.network.eraseIdx index, e ∈ cluster.network := fun e => List.mem_of_mem_eraseIdx
      exact receive_oneTable (inv.lose fewer) (nodes.of_nodes rfl rfl) (one.lose fewer) env
        (one.network envelope (List.mem_of_getElem? found))
  | lose index =>
    have fewer : ∀ e ∈ cluster.network.eraseIdx index, e ∈ cluster.network := fun e => List.mem_of_mem_eraseIdx
    simpa [step] using one.lose fewer
  | gm input isLocal => exact gmStep_oneTable inv one input
  | game nodeId input isLocal =>
    refine gameStep_oneTable one nodeId fun env payload arrived => ?_
    subst arrived
    cases isLocal
  | gate nodeId input isLocal => exact gateStep_oneTable nodes one nodeId input
  | managedSend game gate packet =>
    simp only [step, List.append_nil]
    refine ⟨one.games, one.applied, fun envelope mem => ?_⟩
    rcases List.mem_append.mp mem with old | new
    · exact one.network envelope old
    · rw [List.mem_singleton.mp new]
      trivial

theorem init_oneTable (config : ClusterConfig) (gameBoot : Bytes → NodeBoot) (gateBoot : Bytes → GateBoot) :
    OneTable (init config gameBoot gateBoot) [] := by
  constructor
  · intro nodeId game stored
    rcases Table.get_insertAll_some stored with none | ⟨self, -, rfl, made⟩
    · simp at none
    · obtain ⟨name, noOwned, -, -⟩ := GameNode.onInit_some made
      exact ⟨name, noOwned, trivial, fun reported => by cases reported⟩
  · intro nodeId sync mem
    cases mem
  · intro envelope mem
    cases mem

/-! ## Agreement -/

/-- The Game holds the table of the GM, and owns what it assigns to it. -/
structure HoldsTable (gm : GmNode) (game : GameNode) : Prop where
  epoch : game.ownership.assignmentEpoch = serverStubOwnershipAssignmentEpoch
  assignments : game.ownership.assignments = gm.ownershipTable
  owned : game.ownership.ownedAssignments = gm.ownershipTable.filter fun entry => entry.ownerGameNodeId == game.nodeId

theorem HoldsTable.of_sync {gm : GmNode} {game : GameNode} {sync : ServerStubOwnershipSync} (carries : gm.IsTable sync)
    (applied : game.ownership = GameNode.ownershipOf game.nodeId sync) : HoldsTable gm game := by
  rw [GameNode.ownershipOf, carries.assignments, carries.epoch] at applied
  constructor <;> rw [applied]

/-- What the Games of a cluster agree on. -/
structure OwnershipAgreement (config : ClusterConfig) (cluster : Cluster) : Prop where
  holds : ∀ (nodeId : Bytes) (game : GameNode), cluster.games[nodeId]? = some game →
    game.ownership = {} ∨ HoldsTable cluster.gm game
  apart : ∀ (a b : Bytes) (gameA gameB : GameNode), cluster.games[a]? = some gameA → cluster.games[b]? = some gameB →
    a ≠ b → List.Disjoint gameA.ownership.ownedAssignments gameB.ownership.ownedAssignments
  owner : ∀ entry ∈ cluster.gm.ownershipTable, entry.ownerGameNodeId ∈ config.gameNodeIds
  served : ∀ (nodeId : Bytes) (gate : GateNode), cluster.gates[nodeId]? = some gate → gate.clusterReady = true →
    ∀ entry ∈ cluster.gm.stubs.entries, ∃ game, cluster.games[entry.ownerGameNodeId]? = some game ∧
      HoldsTable cluster.gm game ∧ ∃ owned ∈ game.ownership.ownedAssignments, owned.entityType = entry.entityType

theorem OneTable.holds (one : OneTable cluster trace) {nodeId : Bytes} {game : GameNode}
    (stored : cluster.games[nodeId]? = some game) : game.ownership = {} ∨ HoldsTable cluster.gm game := by
  obtain ⟨rfl, ownership, -, -⟩ := one.games nodeId game stored
  rcases GameNode.ownershipAfter_cases game.nodeId {} (gameEvents trace game.nodeId) with ⟨-, same⟩ | ⟨sync, mem, last⟩
  · exact .inl (ownership.trans same)
  · exact .inr (.of_sync (one.applied _ sync (mem_gameEvents.mp mem)) (ownership.trans last))

/-- Once a Game applied a sync it holds the table. -/
theorem OneTable.holds_of_applied (one : OneTable cluster trace) {nodeId : Bytes} {game : GameNode}
    {sync : ServerStubOwnershipSync} (stored : cluster.games[nodeId]? = some game)
    (applied : .game nodeId (.applied sync) ∈ trace) : HoldsTable cluster.gm game := by
  obtain ⟨rfl, ownership, -, -⟩ := one.games nodeId game stored
  rcases GameNode.ownershipAfter_cases game.nodeId {} (gameEvents trace game.nodeId) with ⟨none, -⟩ | ⟨sync', mem, last⟩
  · exact absurd (mem_gameEvents.mpr applied) (none sync)
  · exact .of_sync (one.applied _ sync' (mem_gameEvents.mp mem)) (ownership.trans last)

theorem OneTable.apart (one : OneTable cluster trace) {a b : Bytes} {gameA gameB : GameNode}
    (storedA : cluster.games[a]? = some gameA) (storedB : cluster.games[b]? = some gameB) (ne : a ≠ b) :
    List.Disjoint gameA.ownership.ownedAssignments gameB.ownership.ownedAssignments := by
  have nameA := (one.games a gameA storedA).name
  have nameB := (one.games b gameB storedB).name
  intro entry memA memB
  rcases one.holds storedA with empty | holdsA
  · rw [empty] at memA
    cases memA
  rcases one.holds storedB with empty | holdsB
  · rw [empty] at memB
    cases memB
  rw [holdsA.owned, List.mem_filter, beq_iff_eq, nameA] at memA
  rw [holdsB.owned, List.mem_filter, beq_iff_eq, nameB] at memB
  exact ne (memA.2.symm.trans memB.2)

/-- **The Games agree with the GM on who owns what.** Over every run of the cluster:
a Game that holds any ownership holds the table of the GM, no stub is owned by two
Games, every owner is a configured Game, and once a Gate is open every stub's owner
runs and holds it. -/
theorem ownership_agreement (config : ClusterConfig) (gameBoot : Bytes → NodeBoot) (gateBoot : Bytes → GateBoot)
    (is : List Input) : OwnershipAgreement config (machine.run (init config gameBoot gateBoot) is).1 := by
  have start : Inv config (init config gameBoot gateBoot) [] ∧ Configured config (init config gameBoot gateBoot) ∧
      OneTable (init config gameBoot gateBoot) [] :=
    ⟨init_inv config gameBoot gateBoot, init_configured config gameBoot gateBoot, init_oneTable config gameBoot gateBoot⟩
  have reached := @Machine.run_trace _ _ _ machine
    (fun cluster trace => Inv config cluster trace ∧ Configured config cluster ∧ OneTable cluster trace)
    (fun cluster trace input ⟨inv, nodes, one⟩ =>
      ⟨step_inv cluster trace input inv, step_configured nodes input, step_oneTable inv nodes one input⟩) _ _ start is
  rw [List.nil_append] at reached
  obtain ⟨inv, nodes, one⟩ := reached
  refine ⟨fun nodeId game => one.holds, fun a b gameA gameB => one.apart, fun entry mem => ?_,
    fun nodeId gate stored isReady entry mem => ?_⟩
  · obtain ⟨fresh, kept, rfl⟩ := List.mem_map.mp mem
    obtain ⟨stub, listed, rfl⟩ := List.mem_map.mp (List.mem_filter.mp kept).1
    exact inv.expected ▸ inv.startup.owners stub listed
  · have gateOpen := (inv.gates nodeId gate stored).2 isReady
    have allReady := inv.startup.openReady gateOpen
    simp only [GmNode.areAllServerStubsReady, Bool.and_eq_true, List.all_eq_true, beq_iff_eq] at allReady
    have reported := inv.stubs entry mem (allReady.2 entry mem).2
    obtain ⟨before, middle, after, sync, report, split, ⟨a, assigned, type, owner⟩, -⟩ :=
      readyAfterOwnership_of_reported inv reported
    have applied : ClusterEvent.game entry.ownerGameNodeId (.applied sync) ∈ (machine.run (init config gameBoot gateBoot) is).2 := by
      rw [split]
      exact List.mem_append_right _ List.mem_cons_self
    cases running : (machine.run (init config gameBoot gateBoot) is).1.games[entry.ownerGameNodeId]? with
    | none =>
      have silent := mem_gameEvents.mpr applied
      rw [inv.absent _ running] at silent
      cases silent
    | some game =>
      have holds := one.holds_of_applied running applied
      refine ⟨game, rfl, holds, a, ?_, type⟩
      rw [holds.owned, (one.games _ game running).name, List.mem_filter, ← (one.applied _ sync applied).assignments]
      exact ⟨assigned, by simpa using owner⟩

/-- The Game of the small cluster owns its one stub once the Gate is open. -/
example : ((machine.run sampleCluster sampleStartup).1.games[text "Game0"]?.map fun game =>
    game.ownership.ownedAssignments.map (·.entityType)) = some [text "ChatStub"] := by decide +kernel

end Cluster

end XServer.Node
