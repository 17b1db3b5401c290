import XServer.Node.GameProvenance
import XServer.Node.GateLink
import XServer.Node.GmPeers

/-!
# The cluster

One GM, the configured Games and the configured Gates, each with its own state
machine, over links that carry packets in both directions: every Game and Gate
has a connector to the GM, every Game one to each Gate. Packets in flight are a
list from which any one may be delivered next or lost, so that links may delay,
reorder and drop. Whatever the nodes ask of their surroundings (clocks, outcomes
of sends, the managed runtime, the clients) is an input.
-/

namespace XServer.Node
open XServer.Lib XServer.Lib.Wire XServer.Net XServer.Core

/-- A packet in flight, by the link and the direction it takes. -/
inductive Envelope where
  | toGm (source payload : Bytes)
  | fromGm (target payload : Bytes)
  | toGate (game gate payload : Bytes)
  | toGame (gate game payload : Bytes)
  deriving DecidableEq, Repr

def GmEvent.envelope : GmEvent → Option Envelope
  | .send routingId packet => some (.fromGm routingId packet)
  | _ => none

def GameEvent.envelope (nodeId : Bytes) : GameEvent → Option Envelope
  | .send connector packet =>
    some (if connector = gmRemoteNodeId then .toGm nodeId packet else .toGate nodeId connector packet)
  | _ => none

def GateEvent.envelope (nodeId : Bytes) : GateEvent → Option Envelope
  | .toGm packet => some (.toGm nodeId packet)
  | .reply routingId packet => some (.toGame nodeId routingId packet)
  | .client (.toGame routingId packet) => some (.toGame nodeId routingId packet)
  | .client _ => none

structure Cluster where
  gm : GmNode
  games : Table Bytes GameNode := ∅
  gates : Table Bytes GateNode := ∅
  network : List Envelope := []
  deriving DecidableEq

/-- An event with the node it happened at. -/
inductive ClusterEvent where
  | gm (event : GmEvent)
  | game (nodeId : Bytes) (event : GameEvent)
  | gate (nodeId : Bytes) (event : GateEvent)
  deriving DecidableEq

/-- The surroundings of whichever node a packet is delivered to. -/
structure DeliveryEnv where
  gm : GmEnv := {}
  game : GameEnv := {}
  gate : GateEnv := {}

/-- The input is not a packet of the inner network. -/
def GmNode.Input.isLocal : GmNode.Input → Bool
  | .message .. => false
  | _ => true

def GameNode.Input.isLocal : GameNode.Input → Bool
  | .connectorMessage .. => false
  | _ => true

def GateNode.Input.isLocal : GateNode.Input → Bool
  | .connectorMessage .. => false
  | .gameMessage .. => false
  | _ => true

namespace Cluster

/-- `OnInit` of every configured node; one that cannot be set up does not run. -/
def init (config : ClusterConfig) (gameBoot : Bytes → NodeBoot) (gateBoot : Bytes → GateBoot) : Cluster where
  gm := GmNode.init config.gateNodeIds config.gameNodeIds
  games := Table.insertAll (·.nodeId) (fun self => GameNode.onInit config self (gameBoot self.nodeId)) ∅ config.games
  gates := Table.insertAll (·.nodeId) (fun self => GateNode.onInit config self (gateBoot self.nodeId)) ∅ config.gates

/-! ## Steps -/

def gmStep (cluster : Cluster) (input : GmNode.Input) : Cluster × List ClusterEvent :=
  let result := cluster.gm.step input
  ({ cluster with gm := result.1, network := cluster.network ++ result.2.filterMap GmEvent.envelope },
    result.2.map .gm)

def gameStep (cluster : Cluster) (nodeId : Bytes) (input : GameNode.Input) : Cluster × List ClusterEvent :=
  match cluster.games[nodeId]? with
  | none => (cluster, [])
  | some game =>
    let result := game.step input
    ({ cluster with
        games := cluster.games.insert nodeId result.1
        network := cluster.network ++ result.2.filterMap (GameEvent.envelope nodeId) },
      result.2.map (.game nodeId))

def gateStep (cluster : Cluster) (nodeId : Bytes) (input : GateNode.Input) : Cluster × List ClusterEvent :=
  match cluster.gates[nodeId]? with
  | none => (cluster, [])
  | some gate =>
    let result := gate.step input
    ({ cluster with
        gates := cluster.gates.insert nodeId result.1
        network := cluster.network ++ result.2.filterMap (GateEvent.envelope nodeId) },
      result.2.map (.gate nodeId))

/-- A packet reaches the node it is for. The GM sees the sender as the routing id
of its connector, which is the sender's node id. -/
def receive (cluster : Cluster) (env : DeliveryEnv) : Envelope → Cluster × List ClusterEvent
  | .toGm source payload => cluster.gmStep (.message env.gm source payload)
  | .fromGm target payload =>
    match cluster.games[target]? with
    | some _ => cluster.gameStep target (.connectorMessage env.game gmRemoteNodeId payload)
    | none => cluster.gateStep target (.connectorMessage env.gate gmRemoteNodeId payload)
  | .toGate game gate payload => cluster.gateStep gate (.gameMessage env.gate game payload)
  | .toGame gate game payload => cluster.gameStep game (.connectorMessage env.game gate payload)

/-- What can happen next. `managedSend` is a packet that the managed runtime of a
Game hands to its connector to a Gate. -/
inductive Input where
  | deliver (env : DeliveryEnv) (index : Nat)
  | lose (index : Nat)
  | gm (input : GmNode.Input) (isLocal : input.isLocal = true)
  | game (nodeId : Bytes) (input : GameNode.Input) (isLocal : input.isLocal = true)
  | gate (nodeId : Bytes) (input : GateNode.Input) (isLocal : input.isLocal = true)
  | managedSend (game gate packet : Bytes)

def step (cluster : Cluster) : Input → Cluster × List ClusterEvent
  | .deliver env index =>
    match cluster.network[index]? with
    | none => (cluster, [])
    | some envelope => receive { cluster with network := cluster.network.eraseIdx index } env envelope
  | .lose index => ({ cluster with network := cluster.network.eraseIdx index }, [])
  | .gm input _ => cluster.gmStep input
  | .game nodeId input _ => cluster.gameStep nodeId input
  | .gate nodeId input _ => cluster.gateStep nodeId input
  | .managedSend game gate packet =>
    ({ cluster with network := cluster.network ++ [.toGate game gate packet] }, [])

def machine : Machine Cluster Input ClusterEvent := ⟨step⟩

/-! ## The trace of one Game -/

def gameEvents (trace : List ClusterEvent) (nodeId : Bytes) : List GameEvent :=
  trace.filterMap fun event => match event with
    | .game source event => if source = nodeId then some event else none
    | _ => none

theorem gameEvents_append (a b : List ClusterEvent) (nodeId : Bytes) :
    gameEvents (a ++ b) nodeId = gameEvents a nodeId ++ gameEvents b nodeId := List.filterMap_append

@[simp] theorem gameEvents_gm (events : List GmEvent) (nodeId : Bytes) : gameEvents (events.map .gm) nodeId = [] := by
  simp [gameEvents, List.filterMap_map]

@[simp] theorem gameEvents_gate (source : Bytes) (events : List GateEvent) (nodeId : Bytes) :
    gameEvents (events.map (.gate source)) nodeId = [] := by
  simp [gameEvents, List.filterMap_map]

@[simp] theorem gameEvents_game_self (nodeId : Bytes) (events : List GameEvent) :
    gameEvents (events.map (.game nodeId)) nodeId = events := by
  simp [gameEvents, List.filterMap_map]

theorem gameEvents_game_of_ne {source nodeId : Bytes} (other : source ≠ nodeId) (events : List GameEvent) :
    gameEvents (events.map (.game source)) nodeId = [] := by
  simp [gameEvents, List.filterMap_map, other]

theorem mem_gameEvents {trace : List ClusterEvent} {nodeId : Bytes} {event : GameEvent} :
    event ∈ gameEvents trace nodeId ↔ .game nodeId event ∈ trace := by
  simp only [gameEvents, List.mem_filterMap]
  constructor
  · rintro ⟨e, mem, found⟩
    cases e with
    | game source event' =>
      simp only [Option.ite_none_right_eq_some, Option.some.injEq] at found
      obtain ⟨rfl, rfl⟩ := found
      exact mem
    | gm e => cases found
    | gate source e => cases found
  · intro mem
    exact ⟨_, mem, by simp⟩

/-! ## The invariant -/

/-- The owner of this stub reported it as ready. -/
def Reported (trace : List ClusterEvent) (entry : ServerStubEntry) : Prop :=
  ∃ report, .reported report ∈ gameEvents trace entry.ownerGameNodeId ∧
    report.assignmentEpoch = serverStubOwnershipAssignmentEpoch ∧
    ∃ r ∈ report.entries, r.ready = true ∧ r.entityType = entry.entityType ∧ r.entityId = entry.entityId

/-- What a packet in flight tells of its sender. -/
def Authentic (gateOpen : Bool) (trace : List ClusterEvent) : Envelope → Prop
  | .toGm source payload => GameNode.GmPacket (gameEvents trace source) source payload
  | .fromGm _ payload => HasMsgId payload innerClusterReadyNotifyMsgId → gateOpen = true
  | .toGate .. => True
  | .toGame .. => True

/-- The joint invariant of the GM, the Games, the Gates and the packets in flight. -/
structure Inv (config : ClusterConfig) (cluster : Cluster) (trace : List ClusterEvent) : Prop where
  startup : GmNode.StartupInv cluster.gm
  expected : cluster.gm.expectedGameNodeIds = config.gameNodeIds
  named : cluster.gm.sessions.Named
  stubs : ∀ entry ∈ cluster.gm.stubs.entries, entry.state = .ready → Reported trace entry
  games : ∀ (nodeId : Bytes) (game : GameNode), cluster.games[nodeId]? = some game →
    game.nodeId = nodeId ∧ GameNode.Justified game (gameEvents trace nodeId)
  absent : ∀ nodeId : Bytes, cluster.games[nodeId]? = none → gameEvents trace nodeId = []
  gates : ∀ (nodeId : Bytes) (gate : GateNode), cluster.gates[nodeId]? = some gate →
    gate.nodeId = nodeId ∧ (gate.clusterReady = true → cluster.gm.startup.gateOpen = true)
  network : ∀ envelope ∈ cluster.network, Authentic cluster.gm.startup.gateOpen trace envelope

variable {config : ClusterConfig} {cluster : Cluster} {trace : List ClusterEvent}

theorem Reported.mono {entry : ServerStubEntry} (h : Reported trace entry) (more : List ClusterEvent) :
    Reported (trace ++ more) entry := by
  obtain ⟨report, mem, rest⟩ := h
  exact ⟨report, by rw [gameEvents_append]; exact List.mem_append_left _ mem, rest⟩

theorem Authentic.mono {gateOpen gateOpen' : Bool} {envelope : Envelope} (h : Authentic gateOpen trace envelope)
    (opens : gateOpen = true → gateOpen' = true) (more : List ClusterEvent) :
    Authentic gateOpen' (trace ++ more) envelope := by
  cases envelope with
  | toGm source payload =>
    simp only [Authentic, gameEvents_append] at h ⊢
    exact h.mono _
  | fromGm target payload => exact fun notify => opens (h notify)
  | toGate game gate payload => trivial
  | toGame gate game payload => trivial

/-- Packets may vanish. -/
theorem Inv.lose (inv : Inv config cluster trace) {network : List Envelope}
    (fewer : ∀ envelope ∈ network, envelope ∈ cluster.network) :
    Inv config { cluster with network } trace :=
  ⟨inv.1, inv.2, inv.3, inv.4, inv.5, inv.6, inv.7, fun envelope mem => inv.network envelope (fewer envelope mem)⟩

/-- A handler call of the GM whose message, if any, is authentic. -/
theorem gmStep_inv (inv : Inv config cluster trace) {input : GmNode.Input} (authentic : input.Authentic)
    (reports : ∀ entry : ServerStubEntry, input.Reports entry.ownerGameNodeId entry → Reported trace entry) :
    Inv config (cluster.gmStep input).1 (trace ++ (cluster.gmStep input).2) := by
  have changed := GmNode.step_startupStep cluster.gm input
  have advances := changed.advances inv.startup
  have same : ∀ nodeId, gameEvents (trace ++ (cluster.gmStep input).2) nodeId = gameEvents trace nodeId := by
    intro nodeId
    rw [gameEvents_append, gmStep, gameEvents_gm, List.append_nil]
  refine ⟨changed.inv inv.startup, (changed.expected inv.startup).trans inv.expected,
    (GmNode.step_sessionStep cluster.gm input).named authentic inv.named, ?_, ?_, ?_, ?_, ?_⟩
  · intro entry mem ready
    rcases GmNode.step_stubs inv.startup inv.named mem ready with old | new
    · exact (inv.stubs entry old ready).mono _
    · exact (reports entry new).mono _
  · intro nodeId game stored
    rw [same]
    exact inv.games nodeId game stored
  · intro nodeId stored
    rw [same]
    exact inv.absent nodeId stored
  · intro nodeId gate stored
    obtain ⟨name, ready⟩ := inv.gates nodeId gate stored
    exact ⟨name, advances.gate ∘ ready⟩
  · intro envelope mem
    rcases List.mem_append.mp mem with old | new
    · exact (inv.network envelope old).mono advances.gate _
    · obtain ⟨event, sent, made⟩ := List.mem_filterMap.mp new
      cases event with
      | send routingId packet =>
        cases made
        exact fun notify => GmNode.step_notify sent notify
      | allNodeOnline => cases made
      | allGameReady => cases made
      | allStubReady => cases made

/-- A handler call of a Game. -/
theorem gameStep_inv (inv : Inv config cluster trace) (nodeId : Bytes) (input : GameNode.Input) :
    Inv config (cluster.gameStep nodeId input).1 (trace ++ (cluster.gameStep nodeId input).2) := by
  unfold gameStep
  split
  · simpa using inv
  · rename_i game stored
    obtain ⟨name, justified⟩ := inv.games nodeId game stored
    have next := GameNode.step_justified game _ input justified
    have own : gameEvents (trace ++ (game.step input).2.map (.game nodeId)) nodeId =
        gameEvents trace nodeId ++ (game.step input).2 := by
      rw [gameEvents_append, gameEvents_game_self]
    have others : ∀ other, nodeId ≠ other →
        gameEvents (trace ++ (game.step input).2.map (.game nodeId)) other = gameEvents trace other := by
      intro other ne
      rw [gameEvents_append, gameEvents_game_of_ne ne, List.append_nil]
    refine ⟨inv.startup, inv.expected, inv.named, fun entry mem ready => (inv.stubs entry mem ready).mono _, ?_, ?_,
      inv.gates, ?_⟩
    · intro other game' stored'
      by_cases ne : nodeId = other
      · subst ne
        rw [Table.get_insert_self] at stored'
        cases stored'
        rw [own]
        exact ⟨(GameNode.step_nodeId game input).trans name, next⟩
      · rw [Table.get_insert_of_ne _ _ ne] at stored'
        rw [others other ne]
        exact inv.games other game' stored'
    · intro other stored'
      by_cases ne : nodeId = other
      · subst ne
        rw [Table.get_insert_self] at stored'
        cases stored'
      · rw [Table.get_insert_of_ne _ _ ne] at stored'
        rw [others other ne]
        exact inv.absent other stored'
    · intro envelope mem
      rcases List.mem_append.mp mem with old | new
      · exact (inv.network envelope old).mono id _
      · obtain ⟨event, sent, made⟩ := List.mem_filterMap.mp new
        cases event with
        | send connector packet =>
          cases made
          split
          · rename_i toGm
            subst toGm
            have packets := next.sends packet (List.mem_append_right _ sent)
            rw [GameNode.step_nodeId, name] at packets
            simpa only [Authentic, own] using packets
          · trivial
        | applied sync => cases made
        | reported report => cases made

/-- A handler call of a Gate, whose notify, if any, came from an open GM. -/
theorem gateStep_inv (inv : Inv config cluster trace) (nodeId : Bytes) {input : GateNode.Input}
    (notify : ∀ env payload, input = .connectorMessage env gmRemoteNodeId payload →
      HasMsgId payload innerClusterReadyNotifyMsgId → cluster.gm.startup.gateOpen = true) :
    Inv config (cluster.gateStep nodeId input).1 (trace ++ (cluster.gateStep nodeId input).2) := by
  unfold gateStep
  split
  · simpa using inv
  · rename_i gate stored
    obtain ⟨name, ready⟩ := inv.gates nodeId gate stored
    have link := GateNode.step_link gate input
    have same : ∀ other, gameEvents (trace ++ (gate.step input).2.map (.gate nodeId)) other = gameEvents trace other := by
      intro other
      rw [gameEvents_append, gameEvents_gate, List.append_nil]
    refine ⟨inv.startup, inv.expected, inv.named, fun entry mem ready => (inv.stubs entry mem ready).mono _, ?_, ?_, ?_, ?_⟩
    · intro other game stored'
      rw [same]
      exact inv.games other game stored'
    · intro other stored'
      rw [same]
      exact inv.absent other stored'
    · intro other gate' stored'
      by_cases ne : nodeId = other
      · subst ne
        rw [Table.get_insert_self] at stored'
        cases stored'
        refine ⟨(GateNode.step_nodeId gate input).trans name, fun isReady => ?_⟩
        rcases link.ready isReady with before | ⟨env, payload, arrived, kind⟩
        · exact ready before
        · exact notify env payload arrived kind
      · rw [Table.get_insert_of_ne _ _ ne] at stored'
        exact inv.gates other gate' stored'
    · intro envelope mem
      rcases List.mem_append.mp mem with old | new
      · exact (inv.network envelope old).mono id _
      · obtain ⟨event, sent, made⟩ := List.mem_filterMap.mp new
        cases event with
        | toGm packet =>
          cases made
          exact .inl (name ▸ link.sends packet sent)
        | reply routingId packet => cases made; trivial
        | client event => cases event <;> cases made; trivial

/-! ## Delivery -/

theorem receive_inv (inv : Inv config cluster trace) (env : DeliveryEnv) {envelope : Envelope}
    (authentic : Authentic cluster.gm.startup.gateOpen trace envelope) :
    Inv config (cluster.receive env envelope).1 (trace ++ (cluster.receive env envelope).2) := by
  cases envelope with
  | toGm source payload =>
    refine gmStep_inv inv ?_ fun entry ⟨payload', packet, report, ⟨⟨env', arrived⟩, kind⟩, decoded, body, rest⟩ => ?_
    · rintro routingId payload' packet request ⟨⟨env', arrived⟩, kind⟩ decoded body
      cases arrived
      exact GameNode.GmPacket.register authentic kind decoded body
    · cases arrived
      exact ⟨report, GameNode.GmPacket.report authentic kind decoded body, rest⟩
  | fromGm target payload =>
    simp only [receive]
    split
    · exact gameStep_inv inv _ _
    · refine gateStep_inv inv _ fun env' payload' arrived kind => ?_
      cases arrived
      exact authentic kind
  | toGate game gate payload => exact gateStep_inv inv _ fun _ _ arrived => by cases arrived
  | toGame gate game payload => exact gameStep_inv inv _ _

theorem step_inv (cluster : Cluster) (trace : List ClusterEvent) (input : Input) (inv : Inv config cluster trace) :
    Inv config (cluster.step input).1 (trace ++ (cluster.step input).2) := by
  cases input with
  | deliver env index =>
    simp only [step]
    split
    · simpa using inv
    · rename_i envelope found
      have fewer : ∀ e ∈ cluster.network.eraseIdx index, e ∈ cluster.network := fun e => List.mem_of_mem_eraseIdx
      exact receive_inv (inv.lose fewer) env (inv.network envelope (List.mem_of_getElem? found))
  | lose index =>
    have fewer : ∀ e ∈ cluster.network.eraseIdx index, e ∈ cluster.network := fun e => List.mem_of_mem_eraseIdx
    simpa [step] using inv.lose fewer
  | gm input isLocal =>
    -- a local input carries no message
    have silent : ∀ routingId payload msgId, ¬ input.Carries routingId payload msgId := by
      rintro routingId payload msgId ⟨⟨env, rfl⟩, -⟩
      cases isLocal
    refine gmStep_inv inv (fun carries => absurd carries (silent _ _ _)) fun entry ⟨payload, _, _, carries, _⟩ => ?_
    exact absurd carries (silent _ _ _)
  | game nodeId input isLocal => exact gameStep_inv inv nodeId input
  | gate nodeId input isLocal =>
    refine gateStep_inv inv nodeId fun env payload arrived => ?_
    subst arrived
    cases isLocal
  | managedSend game gate packet =>
    simp only [step, List.append_nil]
    refine ⟨inv.1, inv.2, inv.3, inv.4, inv.5, inv.6, inv.7, fun envelope mem => ?_⟩
    rcases List.mem_append.mp mem with old | new
    · exact inv.network envelope old
    · rw [List.mem_singleton.mp new]
      trivial

theorem init_inv (config : ClusterConfig) (gameBoot : Bytes → NodeBoot) (gateBoot : Bytes → GateBoot) :
    Inv config (init config gameBoot gateBoot) [] := by
  refine ⟨GmNode.init_startupInv _ _, ?_, InnerNetworkSessionManager.named_empty, ?_, ?_, fun _ _ => rfl, ?_, ?_⟩
  · simp [init, GmNode.expectedGameNodeIds, GmNode.init, ClusterConfig.gameNodeIds, Function.comp_def]
  · intro entry mem
    cases mem
  · intro nodeId game stored
    rcases Table.get_insertAll_some stored with none | ⟨self, -, rfl, made⟩
    · simp at none
    · obtain ⟨name, noOwned, noReady, -⟩ := GameNode.onInit_some made
      exact ⟨name, .init noOwned noReady⟩
  · intro nodeId gate stored
    rcases Table.get_insertAll_some stored with none | ⟨self, -, rfl, made⟩
    · simp at none
    · obtain ⟨name, closed⟩ := GateNode.onInit_some made
      exact ⟨name, fun ready => absurd (ready.symm.trans closed) (by simp)⟩
  · intro envelope mem
    cases mem

/-- The invariant holds after every run, with the trace of the run. -/
theorem run_inv (config : ClusterConfig) (gameBoot : Bytes → NodeBoot) (gateBoot : Bytes → GateBoot) (is : List Input) :
    Inv config (machine.run (init config gameBoot gateBoot) is).1 (machine.run (init config gameBoot gateBoot) is).2 :=
  Machine.run_trace (fun cluster trace input inv => step_inv cluster trace input inv) (init_inv config gameBoot gateBoot) is

/-! ## A ready cluster -/

/-- The owner of this stub applied an ownership sync that assigns the stub's type
to it, and reported the stub as ready, with this id, after that. -/
def ReadyAfterOwnership (trace : List ClusterEvent) (entry : ServerStubEntry) : Prop :=
  ∃ before middle after sync report,
    trace = before ++ .game entry.ownerGameNodeId (.applied sync) ::
      (middle ++ .game entry.ownerGameNodeId (.reported report) :: after) ∧
    (∃ a ∈ sync.assignments, a.entityType = entry.entityType ∧ a.ownerGameNodeId = entry.ownerGameNodeId) ∧
    report.assignmentEpoch = serverStubOwnershipAssignmentEpoch ∧
    ∃ r ∈ report.entries, r.ready = true ∧ r.entityType = entry.entityType ∧ r.entityId = entry.entityId

/-- In a justified trace a report has its ownership sync before it. -/
theorem readyAfterOwnership_of_reported (inv : Inv config cluster trace) {entry : ServerStubEntry}
    (reported : Reported trace entry) : ReadyAfterOwnership trace entry := by
  obtain ⟨report, mem, epoch, r, listed, isReady, type, id⟩ := reported
  have justified : GameNode.ReportsAssigned (gameEvents trace entry.ownerGameNodeId) entry.ownerGameNodeId := by
    cases stored : cluster.games[entry.ownerGameNodeId]? with
    | none =>
      rw [inv.absent _ stored] at mem
      cases mem
    | some game =>
      obtain ⟨name, justified⟩ := inv.games _ game stored
      exact name ▸ justified.reports
  -- cut the trace at the report, then its first part at the sync
  obtain ⟨upTo, after, rfl⟩ := List.append_of_mem (mem_gameEvents.mp mem)
  have cut : gameEvents (upTo ++ .game entry.ownerGameNodeId (.reported report) :: after) entry.ownerGameNodeId =
      gameEvents upTo entry.ownerGameNodeId ++ .reported report :: gameEvents after entry.ownerGameNodeId := by
    rw [gameEvents_append]
    simp [gameEvents]
  obtain ⟨-, sync, applied, -, a, assigned, sameType, owner⟩ := justified _ _ _ cut r listed
  obtain ⟨before, middle, rfl⟩ := List.append_of_mem (mem_gameEvents.mp applied)
  exact ⟨before, middle, after, sync, report, by simp, ⟨a, assigned, sameType.trans type, owner⟩, epoch, r, listed,
    isReady, type, id⟩

/-- What the GM knows once a Gate is ready. -/
structure ReadyCluster (config : ClusterConfig) (gm : GmNode) (trace : List ClusterEvent) : Prop where
  gateOpen : gm.startup.gateOpen = true
  ready : ∀ entry ∈ gm.stubs.entries, entry.state = .ready
  owner : ∀ entry ∈ gm.stubs.entries, entry.ownerGameNodeId ∈ config.gameNodeIds
  entityId : ∀ entry ∈ gm.stubs.entries, entry.entityId ≠ [] ∧ entry.entityId ≠ text "unknown"
  reported : ∀ entry ∈ gm.stubs.entries, ReadyAfterOwnership trace entry

/-- **A Gate opens to clients only for a cluster whose stubs are all ready.** Over
every run: any order of deliveries, any losses, any local events at any node. -/
theorem gate_ready_implies_stubs_ready (config : ClusterConfig) (gameBoot : Bytes → NodeBoot)
    (gateBoot : Bytes → GateBoot) (is : List Input) {nodeId : Bytes} {gate : GateNode}
    (stored : (machine.run (init config gameBoot gateBoot) is).1.gates[nodeId]? = some gate)
    (isReady : gate.clusterReady = true) :
    ReadyCluster config (machine.run (init config gameBoot gateBoot) is).1.gm
      (machine.run (init config gameBoot gateBoot) is).2 := by
  have inv := run_inv config gameBoot gateBoot is
  have gateOpen := (inv.gates nodeId gate stored).2 isReady
  have allReady := inv.startup.openReady gateOpen
  simp only [GmNode.areAllServerStubsReady, Bool.and_eq_true, List.all_eq_true, beq_iff_eq] at allReady
  have ready := fun entry mem => (allReady.2 entry mem).2
  exact ⟨gateOpen, ready, fun entry mem => inv.expected ▸ inv.startup.owners entry mem,
    fun entry mem => inv.startup.named entry mem (ready entry mem),
    fun entry mem => readyAfterOwnership_of_reported inv (inv.stubs entry mem (ready entry mem))⟩

/-- The small cluster, before anything happens. -/
def sampleCluster : Cluster := init sampleConfig (fun _ => {}) fun _ => GateNode.sampleBoot

/-- The surroundings of its nodes at time 1000. -/
def sampleSurroundings : DeliveryEnv where
  gm := { nowUnixMs := 1000, laterUnixMs := 1000, reflection := some [(text "ChatStub", [])] }
  game := { nowUnixMs := 1000 }
  gate := { nowUnixMs := 1000 }

/-- The oldest packet arrives. -/
def sampleDeliver : Input := .deliver sampleSurroundings 0

/-- The Gate's link to the GM is up. -/
def sampleGateConnects : Input := .gate (text "Gate0") (.connectorState {} gmRemoteNodeId .connected) rfl

/-- The Gate registers. -/
def sampleGateRegisters : List Input := [sampleGateConnects, sampleDeliver, sampleDeliver]

/-- The whole startup, up to the cluster-ready notify at the Gate. -/
def sampleStartup : List Input :=
  let game (input : GameNode.Input) (isLocal : input.isLocal = true) : Input := .game (text "Game0") input isLocal
  sampleGateRegisters ++
    [game (.connectorState {} gmRemoteNodeId .connected) rfl, sampleDeliver, sampleDeliver, sampleDeliver,
      game (.connectorState {} (text "Gate0") .connected) rfl, sampleDeliver, sampleDeliver,
      game (.heartbeatTimer {} (text "Gate0")) rfl, sampleDeliver, sampleDeliver, sampleDeliver, sampleDeliver,
      game (.serverStubReady {} 1 ⟨text "ChatStub", text "stub-1", 1, 0⟩) rfl, sampleDeliver, sampleDeliver]

theorem gate_ready_implies_stubs_ready_sample :
    ReadyCluster sampleConfig (machine.run sampleCluster sampleStartup).1.gm (machine.run sampleCluster sampleStartup).2 ∧
      (machine.run sampleCluster sampleStartup).1.gm.stubs.entries.map (·.entityId) = [text "stub-1"] := by
  obtain ⟨ready, ids⟩ : ((machine.run sampleCluster sampleStartup).1.gates[text "Gate0"]?.map (·.clusterReady)) = some true ∧
      (machine.run sampleCluster sampleStartup).1.gm.stubs.entries.map (·.entityId) = [text "stub-1"] := by decide +kernel
  obtain ⟨gate, stored, isReady⟩ := Option.map_eq_some_iff.mp ready
  refine ⟨?_, ids⟩
  unfold sampleCluster at stored ⊢
  exact gate_ready_implies_stubs_ready sampleConfig _ _ sampleStartup stored isReady

end Cluster

end XServer.Node
