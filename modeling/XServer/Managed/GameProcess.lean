import XServer.Lib.Announce
import XServer.Managed.RuntimeState
import XServer.Node.GameProvenance

/-!
# The two halves of a Game process

The native node hands each accepted ownership sync to the managed runtime, which
posts a ready callback for each stub it creates; the event loop runs the posted
callbacks in order, between other events. Both halves decide for themselves
whether a sync changes anything: the native one compares types, ids, owners and
flags, the managed one only types.
-/

namespace XServer.Managed
open XServer.Lib XServer.Lib.Wire XServer.Net XServer.Core XServer.Node

structure GameProcess where
  node : GameNode
  runtime : GameNodeRuntimeState
  posted : List ReadyCallback := []
  deriving DecidableEq

/-- What the node did, with the stubs alive in the runtime at that moment. -/
structure ProcessEvent where
  event : GameEvent
  alive : List Guid
  deriving DecidableEq

/-- The node's input, with the managed runtime's answer to an ownership sync. -/
def withApplyResult (result : Int32) : GameNode.Input → GameNode.Input
  | .connectorMessage env peer payload => .connectorMessage { env with applyResult := result } peer payload
  | input => input

def isCallback : GameNode.Input → Bool
  | .serverStubReady .. => true
  | _ => false

namespace GameProcess

/-- A process whose node has just started. -/
def init (node : GameNode) : GameProcess where
  node := node
  runtime := { nodeId := node.nodeId }

/-- What the event loop runs next: an event of the node, or the oldest posted
callback. -/
inductive Input where
  | event (env : RuntimeEnv) (input : GameNode.Input) (notCallback : isCallback input = false)
  | callback (env : GameEnv)

/-- The ids of the stubs that are alive. -/
def alive (process : GameProcess) : List Guid := process.runtime.ownedServerStubs.map (·.entityId)

/-- The process after a step of its node. -/
def withNode (process : GameProcess) (result : GameNode × List GameEvent) : GameProcess × List ProcessEvent :=
  ({ process with node := result.1 }, result.2.map fun event => ⟨event, process.alive⟩)

def step (process : GameProcess) : Input → GameProcess × List ProcessEvent
  | .event env input _ =>
    match process.node.ownershipSyncOf input with
    | none => process.withNode (process.node.step input)
    | some sync =>
      let applied := process.runtime.nativeApplyServerStubOwnership env sync
      let process := { process with runtime := applied.state, posted := process.posted ++ applied.callbacks }
      process.withNode (process.node.step (withApplyResult applied.result input))
  | .callback env =>
    match process.posted with
    | [] => (process, [])
    | callback :: rest =>
      withNode { process with posted := rest }
        (process.node.step (.serverStubReady env callback.assignmentEpoch callback.entry))

def machine : Machine GameProcess Input ProcessEvent := ⟨step⟩

/-! ## When the halves stay together -/

/-- Every id the process knows of. -/
def knownIds (process : GameProcess) : List Guid :=
  process.alive ++ (process.posted.map (·.entry.entityId) ++ process.node.serviceReady.readyEntries.map (·.entityId))

/-- What `Guid.NewGuid` returns in a call that draws `count`: texts of 36 bytes,
none of them seen before. -/
def FreshGuids (process : GameProcess) (env : RuntimeEnv) (count : Nat) : Prop :=
  ((List.range count).map env.newGuid).Nodup ∧
    ∀ guid ∈ (List.range count).map env.newGuid, guid.length = 36 ∧ guid ∉ process.knownIds

/-- The sync gives the same list to both halves, or to neither. A sync of the
epoch in force may change ids or flags only before the first callback of the
current stubs has run, and types only when no callback is posted for the last of
the owned types; and nothing is owned under epoch zero. -/
structure Admissible (process : GameProcess) (env : RuntimeEnv) (sync : ServerStubOwnershipSync) : Prop where
  distinct : ((process.node.ownedAssignmentsOf sync).map (·.entityType)).Nodup
  guids : process.FreshGuids env (process.node.ownedAssignmentsOf sync).length
  started : sync.assignmentEpoch = 0 → process.node.ownedAssignmentsOf sync = []
  sameTypes : sync.assignmentEpoch = process.node.ownership.assignmentEpoch →
    haveEquivalentOwnedAssignments (process.node.ownedAssignmentsOf sync)
      process.node.ownership.ownedAssignments = false →
    process.runtime.hasEquivalentLocalOwnership (process.node.ownedAssignmentsOf sync) = true →
    ∀ ready ∈ process.node.serviceReady.readyEntries, ready.entityId ∉ process.alive
  otherTypes : sync.assignmentEpoch = process.node.ownership.assignmentEpoch →
    process.runtime.hasEquivalentLocalOwnership (process.node.ownedAssignmentsOf sync) = false →
    ∀ callback ∈ process.posted, callback.assignmentEpoch = sync.assignmentEpoch →
      some callback.entry.entityType ≠ ((process.node.ownedAssignmentsOf sync).map (·.entityType)).getLast?

/-- Every sync that the runtime takes up is admissible. -/
def Admits (process : GameProcess) : Input → Prop
  | .event env input _ =>
    match process.node.ownershipSyncOf input with
    | none => True
    | some sync => process.runtime.TakesUp env sync → process.Admissible env sync
  | .callback _ => True

instance decidableFreshGuids (process : GameProcess) (env : RuntimeEnv) (count : Nat) :
    Decidable (process.FreshGuids env count) := inferInstanceAs (Decidable (_ ∧ _))

set_option synthInstance.maxSize 256 in
instance decidableAdmissible (process : GameProcess) (env : RuntimeEnv) (sync : ServerStubOwnershipSync) :
    Decidable (process.Admissible env sync) :=
  decidable_of_iff (_ ∧ _ ∧ _ ∧ _ ∧ _)
    ⟨fun h => ⟨h.1, h.2.1, h.2.2.1, h.2.2.2.1, h.2.2.2.2⟩, fun h => ⟨h.1, h.2, h.3, h.4, h.5⟩⟩

instance decidableAdmits (process : GameProcess) : (input : Input) → Decidable (process.Admits input)
  | .event env input _ =>
    match h : process.node.ownershipSyncOf input with
    | none => .isTrue (by simp [Admits, h])
    | some sync => decidable_of_iff (process.runtime.TakesUp env sync → process.Admissible env sync)
      (by simp [Admits, h])
  | .callback _ => .isTrue trivial

/-! ## The invariant -/

def stubPairs (runtime : GameNodeRuntimeState) : List (Bytes × Guid) :=
  runtime.ownedServerStubs.map fun stub => (stub.entityType, stub.entityId)

def readyPairs (entries : List ServerStubReadyEntry) : List (Bytes × Guid) :=
  entries.map fun entry => (entry.entityType, entry.entityId)

def callbackPair (callback : ReadyCallback) : Bytes × Guid := (callback.entry.entityType, callback.entry.entityId)

/-- The posted callbacks of this epoch. -/
def queuePairs (epoch : UInt64) (posted : List ReadyCallback) : List (Bytes × Guid) :=
  (posted.filter fun callback => callback.assignmentEpoch == epoch).map callbackPair

/-- A callback as the runtime posts it, no later than this epoch. -/
structure Posted (epoch : UInt64) (callback : ReadyCallback) : Prop where
  started : callback.assignmentEpoch ≠ 0
  bounded : callback.assignmentEpoch ≤ epoch
  ready : callback.entry.ready ≠ 0
  typeFits : callback.entry.entityType.length ≤ managedMaxUtf8Bytes
  idFits : callback.entry.entityId.length ≤ managedMaxUtf8Bytes

/-- Both halves have the same epoch and own the same types, and the node's ready
entries follow the callbacks of the runtime's stubs. -/
structure Agreement (process : GameProcess) : Prop where
  nodeId : process.node.nodeId = process.runtime.nodeId
  exports : process.node.managedExportsLoaded = true
  epoch : process.node.ownership.assignmentEpoch = process.runtime.assignmentEpoch
  types : process.node.ownership.ownedAssignments.map (·.entityType) =
    process.runtime.ownedServerStubs.map (·.entityType)
  ready : ∀ stub ∈ process.runtime.ownedServerStubs, stub.isReady = true
  posted : ∀ callback ∈ process.posted, Posted process.runtime.assignmentEpoch callback
  ids : (process.posted.map (·.entry.entityId)).Nodup
  unheard : ∀ callback ∈ process.posted, ∀ ready ∈ process.node.serviceReady.readyEntries,
    ready.entityId ≠ callback.entry.entityId
  follows : Follows (stubPairs process.runtime) (queuePairs process.runtime.assignmentEpoch process.posted)
    (readyPairs process.node.serviceReady.readyEntries)

theorem init_agreement {config : ClusterConfig} {self : NodeEntry} {boot : NodeBoot} {node : GameNode}
    (started : GameNode.onInit config self boot = some node) : Agreement (init node) := by
  obtain ⟨-, noOwned, noReady, exports⟩ := GameNode.onInit_some started
  refine ⟨rfl, exports, by simp [init, noOwned], by simp [init, noOwned], by simp [init], by simp [init], by simp [init],
    by simp [init], ?_⟩
  simpa [init, noReady, stubPairs, queuePairs, readyPairs] using Follows.empty

variable {process : GameProcess}

/-- A complete report names the stubs that are alive. -/
theorem Agreement.report (h : Agreement process) {entries : List ServerStubReadyEntry}
    (complete : GameNode.LocalStubsReady process.node) (same : entries = process.node.serviceReady.readyEntries) :
    ∀ entry ∈ entries, entry.entityId ∈ process.alive := by
  have count : (readyPairs process.node.serviceReady.readyEntries).length = (stubPairs process.runtime).length := by
    have owned := congrArg List.length h.types
    simp only [List.length_map] at owned
    simp [readyPairs, stubPairs, complete.count, owned]
  have perm := h.follows.full count
  intro entry mem
  rw [same] at mem
  have listed : (entry.entityType, entry.entityId) ∈ stubPairs process.runtime :=
    perm.mem_iff.mp (List.mem_map_of_mem mem)
  obtain ⟨stub, owned, pair⟩ := List.mem_map.mp listed
  rw [alive, List.mem_map]
  exact ⟨stub, owned, (Prod.mk.inj pair).2⟩

/-- A step of the node that keeps its stub state. -/
theorem Agreement.kept (h : Agreement process) {result : GameNode × List GameEvent}
    (kept : GameNode.StubsKept process.node result) : Agreement (process.withNode result).1 := by
  obtain ⟨nodeId, ownership, readyEntries, exports, -⟩ := kept
  refine ⟨nodeId.trans h.nodeId, exports.trans h.exports, ?_, ?_, h.ready, h.posted, h.ids, ?_, ?_⟩
  · simp only [withNode, ownership, h.epoch]
  · simp only [withNode, ownership, h.types]
  · simp only [withNode, readyEntries]
    exact h.unheard
  · simp only [withNode, readyEntries]
    exact h.follows

/-! ## Callbacks -/

/-- Seen as pairs, storing an entry with a new id is an announcement. -/
theorem readyPairs_upsertReadyEntry {entries : List ServerStubReadyEntry} {entry : ServerStubReadyEntry}
    (fresh : ∀ existing ∈ entries, existing.entityId ≠ entry.entityId) :
    readyPairs (GameNode.upsertReadyEntry entries entry) =
      announce (readyPairs entries) (entry.entityType, entry.entityId) := by
  have same : ∀ existing ∈ entries,
      (existing.entityId == entry.entityId || existing.entityType == entry.entityType) =
        decide ((existing.entityType, existing.entityId).1 = entry.entityType) := by
    intro existing mem
    rw [beq_eq_false_iff_ne.mpr (fresh existing mem), Bool.false_or, beq_eq_decide]
  have any : (entries.any fun existing => existing.entityId == entry.entityId || existing.entityType == entry.entityType) =
      (readyPairs entries).any fun pair => decide (pair.1 = entry.entityType) := by
    rw [readyPairs, List.any_map, Bool.eq_iff_iff]
    simp only [List.any_eq_true, Function.comp_apply]
    exact exists_congr fun existing => and_congr_right fun mem => by rw [same existing mem]
  unfold GameNode.upsertReadyEntry announce
  dsimp only
  rw [any]
  by_cases found : ((readyPairs entries).any fun pair => decide (pair.1 = entry.entityType)) = true
  · rw [if_pos found, if_pos found]
    exact @map_modifyFirst _ _ _ (fun pair => decide (pair.1 = entry.entityType))
      (fun existing : ServerStubReadyEntry => (existing.entityType, existing.entityId)) _ _ same
  · rw [if_neg found, if_neg found]
    simp [readyPairs]

theorem handleManagedServerStubReady_other {node : GameNode} {env : GameEnv} {epoch : UInt64}
    {entry : ManagedServerStubReadyEntry} (h : epoch ≠ node.ownership.assignmentEpoch ∨
      entry.entityType ∉ node.ownership.ownedAssignments.map (·.entityType)) :
    node.handleManagedServerStubReady env epoch entry = (node, []) := by
  unfold GameNode.handleManagedServerStubReady
  split
  · rfl
  · rename_i current
    split
    · rfl
    · split
      · rfl
      · rename_i owned
        rcases h with other | foreign
        · simp only [Bool.or_eq_true, bne_iff_ne, not_or] at current
          exact absurd other current.1.2
        · refine absurd ?_ foreign
          simpa using owned

theorem handleManagedServerStubReady_own {node : GameNode} {env : GameEnv} {callback : ReadyCallback}
    (exports : node.managedExportsLoaded = true) (posted : Posted node.ownership.assignmentEpoch callback)
    (current : callback.assignmentEpoch = node.ownership.assignmentEpoch)
    (owned : callback.entry.entityType ∈ node.ownership.ownedAssignments.map (·.entityType)) :
    node.handleManagedServerStubReady env callback.assignmentEpoch callback.entry =
      GameNode.checkAllLocalStubsReady { node with serviceReady := { node.serviceReady with
        readyEntries := GameNode.upsertReadyEntry node.serviceReady.readyEntries callback.entry.toReadyEntry } } env := by
  unfold GameNode.handleManagedServerStubReady
  rw [if_neg, if_neg, if_neg]
  · simpa using owned
  · have := posted.typeFits
    have := posted.idFits
    omega
  · have started := posted.started
    simp [exports, current ▸ started, current, posted.ready]

/-- The callback at the head of the queue leaves it. -/
theorem Agreement.behind {callback : ReadyCallback} {rest : List ReadyCallback} (h : Agreement process)
    (queue : process.posted = callback :: rest) {entries : List ServerStubReadyEntry}
    (entriesOf : ∀ ready ∈ entries, ready ∈ process.node.serviceReady.readyEntries ∨
      ready = callback.entry.toReadyEntry)
    (follows : Follows (stubPairs process.runtime) (queuePairs process.runtime.assignmentEpoch rest)
      (readyPairs entries)) :
    Agreement { process with
      node := { process.node with serviceReady := { process.node.serviceReady with readyEntries := entries } }
      posted := rest } := by
  have ids := h.ids
  rw [queue, List.map_cons, List.nodup_cons] at ids
  have behind : ∀ other ∈ rest, other ∈ process.posted := fun other mem => queue ▸ List.mem_cons_of_mem _ mem
  refine ⟨h.nodeId, h.exports, h.epoch, h.types, h.ready, fun other mem => h.posted other (behind other mem), ids.2, ?_,
    follows⟩
  intro other mem ready stored
  rcases entriesOf ready stored with old | rfl
  · exact h.unheard other (behind other mem) ready old
  · exact fun same => ids.1 (List.mem_map.mpr ⟨other, mem, same.symm⟩)

theorem queuePairs_cons {epoch : UInt64} {callback : ReadyCallback} {rest : List ReadyCallback} :
    queuePairs epoch (callback :: rest) =
      if callback.assignmentEpoch = epoch then callbackPair callback :: queuePairs epoch rest
      else queuePairs epoch rest := by
  unfold queuePairs
  by_cases current : callback.assignmentEpoch = epoch
  · simp [current]
  · simp [current]

theorem map_fst_stubPairs (runtime : GameNodeRuntimeState) :
    (stubPairs runtime).map Prod.fst = runtime.ownedServerStubs.map (·.entityType) := by
  simp [stubPairs, Function.comp_def]

/-- What holds of a process and of the reports it has sent. -/
def ReportsAlive (events : List ProcessEvent) : Prop :=
  ∀ report alive, ⟨.reported report, alive⟩ ∈ events → ∀ entry ∈ report.entries, entry.entityId ∈ alive

/-- A node step whose reports name living stubs. -/
theorem withNode_reports {result : GameNode × List GameEvent}
    (alive : ∀ report, .reported report ∈ result.2 → ∀ entry ∈ report.entries, entry.entityId ∈ process.alive) :
    ReportsAlive (process.withNode result).2 := by
  intro report ids mem
  obtain ⟨event, sent, same⟩ := List.mem_map.mp mem
  cases same
  exact alive report sent

/-- The node checks a process in agreement for a complete report. -/
theorem Agreement.checked (h : Agreement process) (env : GameEnv) :
    Agreement (process.withNode (process.node.checkAllLocalStubsReady env)).1 ∧
      ReportsAlive (process.withNode (process.node.checkAllLocalStubsReady env)).2 := by
  have kept := GameNode.checkAllLocalStubsReady_kept process.node env
  refine ⟨h.kept kept, withNode_reports fun report sent => ?_⟩
  obtain ⟨complete, same⟩ := kept.reports report sent
  exact h.report complete same

theorem step_callback (h : Agreement process) (env : GameEnv) :
    Agreement (process.step (.callback env)).1 ∧ ReportsAlive (process.step (.callback env)).2 := by
  simp only [step]
  split
  · exact ⟨h, by simp [ReportsAlive]⟩
  · rename_i callback rest queue
    have posted := h.posted callback (queue ▸ List.mem_cons_self)
    have follows := h.follows
    rw [queue, queuePairs_cons] at follows
    simp only [GameNode.step]
    by_cases current : callback.assignmentEpoch = process.runtime.assignmentEpoch
    · rw [if_pos current] at follows
      have next := follows.deliver
      rw [map_fst_stubPairs, ← h.types] at next
      by_cases owned : callback.entry.entityType ∈ process.node.ownership.ownedAssignments.map (·.entityType)
      · rw [if_pos (by exact owned)] at next
        have fresh := h.unheard callback (queue ▸ List.mem_cons_self)
        have stored := @readyPairs_upsertReadyEntry _ callback.entry.toReadyEntry fresh
        rw [handleManagedServerStubReady_own h.exports (h.epoch ▸ posted) (current.trans h.epoch.symm) owned]
        refine (h.behind queue (fun ready mem => GameNode.upsertReadyEntry_mem mem) ?_).checked env
        rw [stored]
        exact next
      · rw [if_neg (by exact owned)] at next
        rw [handleManagedServerStubReady_other (.inr owned)]
        exact ⟨h.behind queue (fun ready mem => .inl mem) next, by simp [ReportsAlive, withNode]⟩
    · rw [if_neg current] at follows
      rw [handleManagedServerStubReady_other (.inl (h.epoch ▸ current))]
      exact ⟨h.behind queue (fun ready mem => .inl mem) follows, by simp [ReportsAlive, withNode]⟩

/-! ## Ownership syncs -/

theorem acceptOwnershipSync_some {node : GameNode} {packet : Packet} {sync : ServerStubOwnershipSync}
    (h : node.acceptOwnershipSync packet = some sync) :
    ¬ sync.assignmentEpoch < node.ownership.assignmentEpoch ∧
      ∀ assignment ∈ sync.assignments, assignment.entityType.length ≤ managedMaxUtf8Bytes := by
  simp only [GameNode.acceptOwnershipSync, Option.bind_eq_bind, Option.bind_eq_some_iff, Option.guard_eq_some'] at h
  obtain ⟨sync', -, _, -, _, newer, _, ⟨-, fits⟩, same⟩ := h
  cases same
  refine ⟨newer, fun assignment mem => ?_⟩
  have each := List.all_eq_true.mp fits assignment mem
  simp only [GameNode.fitsManagedAbi, Bool.and_eq_true, decide_eq_true_eq] at each
  exact each.1.1

/-- The packet behind an input that brings a sync, and what the node does with it
once the runtime has answered. -/
theorem step_withApplyResult {node : GameNode} {input : GameNode.Input} {sync : ServerStubOwnershipSync}
    (h : node.ownershipSyncOf input = some sync) (result : Int32) :
    (∃ packet, node.acceptOwnershipSync packet = some sync) ∧
      ∃ env, node.step (withApplyResult result input) =
        if result ≠ 0 then (node, [])
        else (((node.createAllLocalStubs sync).checkAllLocalStubsReady env).1,
          .applied sync :: ((node.createAllLocalStubs sync).checkAllLocalStubsReady env).2) := by
  cases input with
  | connectorMessage env peer payload =>
    simp only [GameNode.ownershipSyncOf] at h
    split at h
    · rename_i fromGm
      split at h
      · cases h
      · rename_i packet decoded
        split at h
        · rename_i kind
          refine ⟨⟨packet, h⟩, { env with applyResult := result }, ?_⟩
          have other : packet.header.msgId ≠ innerClusterNodesOnlineNotifyMsgId := by
            rw [kind]
            decide
          simp only [withApplyResult, GameNode.step, GameNode.handleConnectorMessage, if_pos fromGm,
            GameNode.handleGmMessage, decoded, if_neg other, if_pos kind, GameNode.handleServerStubOwnershipSync, h]
        · cases h
    · cases h
  | connectorState env peer state => cases h
  | heartbeatTimer env peer => cases h
  | serverStubReady env epoch entry => cases h

variable {env : RuntimeEnv} {sync : ServerStubOwnershipSync}

theorem Agreement.owned (h : Agreement process) :
    process.runtime.nextOwnedAssignments sync = process.node.ownedAssignmentsOf sync := by
  simp only [GameNodeRuntimeState.nextOwnedAssignments, GameNode.ownedAssignmentsOf, h.nodeId]

/-- A sync that the runtime takes as it is: the node keeps its entries, or forgets
them before it heard of any current stub. -/
theorem Agreement.keptSync (h : Agreement process) (admissible : process.Admissible env sync)
    (epoch : sync.assignmentEpoch = process.runtime.assignmentEpoch)
    (same : process.runtime.hasEquivalentLocalOwnership (process.runtime.nextOwnedAssignments sync) = true) :
    Agreement { process with
      node := process.node.createAllLocalStubs sync
      runtime := { process.runtime with ownershipAssignments := sync.assignments } } := by
  have current : sync.assignmentEpoch = process.node.ownership.assignmentEpoch := epoch.trans h.epoch.symm
  rw [h.owned] at same
  have types := same
  rw [GameNodeRuntimeState.hasEquivalentLocalOwnership, beq_iff_eq] at types
  by_cases preserved : haveEquivalentOwnedAssignments (process.node.ownedAssignmentsOf sync)
      process.node.ownership.ownedAssignments = true
  · have entries : (process.node.createAllLocalStubs sync).serviceReady = process.node.serviceReady := by
      simp [GameNode.createAllLocalStubs, current, preserved]
    refine ⟨h.nodeId, h.exports, epoch, types.symm, h.ready, h.posted, h.ids, ?_, ?_⟩
    · simp only [entries]
      exact h.unheard
    · simp only [entries]
      exact h.follows
  · rw [Bool.not_eq_true] at preserved
    have entries : (process.node.createAllLocalStubs sync).serviceReady = {} := by
      simp [GameNode.createAllLocalStubs, preserved]
    have unheard := admissible.sameTypes current preserved same
    refine ⟨h.nodeId, h.exports, epoch, types.symm, h.ready, h.posted, h.ids, ?_, ?_⟩
    · simp [entries]
    · simp only [entries]
      refine h.follows.clear fun pair mem listed => ?_
      obtain ⟨ready, stored, rfl⟩ := List.mem_map.mp mem
      obtain ⟨stub, owned, pair⟩ := List.mem_map.mp listed
      exact unheard ready stored (List.mem_map.mpr ⟨stub, owned, (Prod.mk.inj pair).2⟩)

/-! ## Replaced stubs -/

/-- The callback of a stub whose texts fit. -/
def callbackOf (epoch : UInt64) (stub : ServerStub) : ReadyCallback := ⟨epoch, ⟨stub.entityType, stub.entityId, 1, 0⟩⟩

theorem filterMap_readyCallback {epoch : UInt64} {stubs : List ServerStub}
    (fits : ∀ stub ∈ stubs, stub.entityType.length ≤ managedMaxUtf8Bytes ∧
      stub.entityId.length ≤ managedMaxUtf8Bytes) :
    stubs.filterMap (GameNodeRuntimeState.readyCallback epoch) = stubs.map (callbackOf epoch) := by
  rw [← List.filterMap_eq_map]
  refine List.filterMap_congr fun stub mem => ?_
  obtain ⟨type, id⟩ := fits stub mem
  rw [GameNodeRuntimeState.readyCallback, if_neg (by omega)]
  rfl

theorem queuePairs_append (epoch : UInt64) (a b : List ReadyCallback) :
    queuePairs epoch (a ++ b) = queuePairs epoch a ++ queuePairs epoch b := by
  simp [queuePairs]

theorem queuePairs_callbacks (epoch : UInt64) (stubs : List ServerStub) :
    queuePairs epoch (stubs.map (callbackOf epoch)) = stubs.map fun stub => (stub.entityType, stub.entityId) := by
  simp [queuePairs, List.filter_map, Function.comp_def, callbackOf, callbackPair]

/-- Callbacks with distinct ids are distinct announcements. -/
theorem nodup_queuePairs {posted : List ReadyCallback} (ids : (posted.map (·.entry.entityId)).Nodup) (epoch : UInt64) :
    (queuePairs epoch posted).Nodup := by
  refine List.Nodup.of_map Prod.snd ?_
  rw [queuePairs, List.map_map]
  exact ids.sublist (List.filter_sublist.map _)

/-- The types and ids that a sync's new stubs announce fit the bridge's fields. -/
theorem freshStubs_short (fits : ∀ assignment ∈ sync.assignments, assignment.entityType.length ≤ managedMaxUtf8Bytes)
    (guids : ∀ stub ∈ GameNodeRuntimeState.freshStubs env (process.node.ownedAssignmentsOf sync),
      stub.entityId.length = 36) :
    ∀ stub ∈ GameNodeRuntimeState.freshStubs env (process.node.ownedAssignmentsOf sync),
      stub.entityType.length ≤ managedMaxUtf8Bytes ∧ stub.entityId.length ≤ managedMaxUtf8Bytes := by
  intro stub mem
  have listed : stub.entityType ∈ (process.node.ownedAssignmentsOf sync).map (·.entityType) :=
    GameNodeRuntimeState.map_entityType_freshStubs env _ ▸ List.mem_map_of_mem mem
  obtain ⟨assignment, owned, same⟩ := List.mem_map.mp listed
  refine ⟨same ▸ fits assignment (List.mem_of_mem_filter owned), ?_⟩
  rw [guids stub mem]
  decide

/-- The node forgets its ready stubs when the runtime starts over. -/
theorem Agreement.serviceReady_replaced (h : Agreement process)
    (changed : sync.assignmentEpoch = process.runtime.assignmentEpoch →
      process.runtime.hasEquivalentLocalOwnership (process.node.ownedAssignmentsOf sync) = false) :
    (process.node.createAllLocalStubs sync).serviceReady = {} := by
  have forgets : ¬ (sync.assignmentEpoch == process.node.ownership.assignmentEpoch &&
      haveEquivalentOwnedAssignments (process.node.ownedAssignmentsOf sync)
        process.node.ownership.ownedAssignments) = true := by
    rw [Bool.and_eq_true, beq_iff_eq]
    rintro ⟨current, preserved⟩
    have differ := changed (current.trans h.epoch)
    rw [GameNodeRuntimeState.hasEquivalentLocalOwnership, ← h.types, GameNode.types_of_haveEquivalent preserved] at differ
    simp at differ
  simp only [GameNode.createAllLocalStubs, if_neg forgets]

/-- A sync for which the runtime starts over: its new stubs are announced behind
what is still posted. -/
theorem Agreement.replacedSync (h : Agreement process) (admissible : process.Admissible env sync)
    (newer : ¬ sync.assignmentEpoch < process.node.ownership.assignmentEpoch)
    (fits : ∀ assignment ∈ sync.assignments, assignment.entityType.length ≤ managedMaxUtf8Bytes)
    (changed : sync.assignmentEpoch = process.runtime.assignmentEpoch →
      process.runtime.hasEquivalentLocalOwnership (process.runtime.nextOwnedAssignments sync) = false)
    (entities : List Guid) (byType : Table Bytes Guid) :
    let fresh := GameNodeRuntimeState.freshStubs env (process.runtime.nextOwnedAssignments sync)
    Agreement {
      node := process.node.createAllLocalStubs sync
      runtime := { process.runtime with
        entities, ownedServerStubsByType := byType, ownershipAssignments := sync.assignments
        assignmentEpoch := sync.assignmentEpoch
        ownedServerStubs := fresh.map fun stub => { stub with isReady := true } }
      posted := process.posted ++ fresh.filterMap (GameNodeRuntimeState.readyCallback sync.assignmentEpoch) } := by
  rw [h.owned] at changed ⊢
  intro fresh
  have types : fresh.map (·.entityType) = (process.node.ownedAssignmentsOf sync).map (·.entityType) :=
    GameNodeRuntimeState.map_entityType_freshStubs env _
  have ids : fresh.map (·.entityId) = (List.range (process.node.ownedAssignmentsOf sync).length).map env.newGuid :=
    GameNodeRuntimeState.map_entityId_freshStubs env _
  obtain ⟨guids, unseen⟩ := admissible.guids
  rw [← ids] at guids unseen
  have short := freshStubs_short fits fun stub mem => (unseen stub.entityId (List.mem_map_of_mem mem)).1
  rw [filterMap_readyCallback short]
  have bound : process.runtime.assignmentEpoch ≤ sync.assignmentEpoch := h.epoch ▸ UInt64.not_lt.mp newer
  have entries := h.serviceReady_replaced changed
  have allIds : ((process.posted ++ fresh.map (callbackOf sync.assignmentEpoch)).map (·.entry.entityId)).Nodup := by
    rw [List.map_append, List.map_map]
    refine List.nodup_append.mpr ⟨h.ids, guids, fun id old id' new same => ?_⟩
    refine (unseen id' new).2 ?_
    rw [← same]
    exact List.mem_append_right _ (List.mem_append_left _ old)
  refine ⟨h.nodeId, h.exports, rfl, ?_, ?_, ?_, allIds, ?_, ?_⟩
  · simpa [GameNode.createAllLocalStubs, Function.comp_def] using types.symm
  · simp
  · intro callback mem
    rcases List.mem_append.mp mem with old | new
    · have posted := h.posted callback old
      exact ⟨posted.started, UInt64.le_trans posted.bounded bound, posted.ready, posted.typeFits, posted.idFits⟩
    · obtain ⟨stub, made, rfl⟩ := List.mem_map.mp new
      refine ⟨fun zero => ?_, UInt64.le_refl _, by simp [callbackOf], (short stub made).1, (short stub made).2⟩
      have none := admissible.started zero
      rw [none] at types
      exact List.not_mem_nil (types ▸ List.mem_map_of_mem made)
  · simp [entries]
  · have stubs : stubPairs { process.runtime with
          entities, ownedServerStubsByType := byType, ownershipAssignments := sync.assignments
          assignmentEpoch := sync.assignmentEpoch
          ownedServerStubs := fresh.map fun stub => { stub with isReady := true } } =
        fresh.map fun stub => (stub.entityType, stub.entityId) := by
      simp [stubPairs, Function.comp_def]
    have keys : (fresh.map fun stub => (stub.entityType, stub.entityId)).map Prod.fst =
        (process.node.ownedAssignmentsOf sync).map (·.entityType) := by
      rw [← types]
      simp [Function.comp_def]
    have once := nodup_queuePairs allIds sync.assignmentEpoch
    rw [queuePairs_append, queuePairs_callbacks] at once
    simp only [stubs, entries, queuePairs_append, queuePairs_callbacks]
    refine Follows.restart (keys ▸ admissible.distinct) once fun pair mem => ?_
    obtain ⟨callback, queued, rfl⟩ := List.mem_map.mp mem
    obtain ⟨old, current⟩ := List.mem_filter.mp queued
    rw [beq_iff_eq] at current
    -- a callback of this epoch is still posted only if the epoch did not change
    have unchanged : sync.assignmentEpoch = process.runtime.assignmentEpoch :=
      UInt64.le_antisymm (current ▸ (h.posted callback old).bounded) bound
    rw [keys]
    exact admissible.otherTypes (unchanged.trans h.epoch.symm) (changed unchanged) callback old current

/-! ## Runs -/

/-- The node takes over what the runtime applied, and checks for a report. -/
theorem Agreement.applied {node : GameNode} (h : Agreement { process with node := node.createAllLocalStubs sync })
    {result : GameNode × List GameEvent} {gameEnv : GameEnv}
    (stepped : result = (((node.createAllLocalStubs sync).checkAllLocalStubsReady gameEnv).1,
      .applied sync :: ((node.createAllLocalStubs sync).checkAllLocalStubsReady gameEnv).2)) :
    Agreement (process.withNode result).1 ∧ ReportsAlive (process.withNode result).2 := by
  obtain ⟨agreement, reports⟩ := h.checked gameEnv
  subst stepped
  refine ⟨agreement, fun report alive mem => ?_⟩
  simp only [withNode, List.map_cons, List.mem_cons, ProcessEvent.mk.injEq] at mem
  rcases mem with ⟨impossible, -⟩ | mem
  · cases impossible
  · exact reports report alive mem

theorem step_event (h : Agreement process) {input : GameNode.Input} {notCallback : isCallback input = false}
    (admits : process.Admits (.event env input notCallback)) :
    Agreement (process.step (.event env input notCallback)).1 ∧
      ReportsAlive (process.step (.event env input notCallback)).2 := by
  simp only [step]
  simp only [Admits] at admits
  split
  · rename_i nothing
    have kept := (GameNode.step_changes process.node input).kept
      (fun sync brought => by rw [GameNode.Input.content, nothing] at brought; cases brought)
      (fun entry ⟨_, _, _, same, _⟩ => by rw [same] at notCallback; cases notCallback)
    refine ⟨h.kept kept, withNode_reports fun report sent => ?_⟩
    obtain ⟨complete, same⟩ := kept.reports report sent
    exact h.report complete same
  · rename_i sync brought
    rw [brought] at admits
    have outcome := @GameNodeRuntimeState.nativeApplyServerStubOwnership_outcome process.runtime env sync
      (fun taken => by rw [h.owned]; exact (admits taken).distinct)
    generalize process.runtime.nativeApplyServerStubOwnership env sync = applied at outcome
    obtain ⟨⟨packet, accepted⟩, gameEnv, stepped⟩ := step_withApplyResult brought applied.result
    obtain ⟨newer, fits⟩ := acceptOwnershipSync_some accepted
    cases outcome with
    | refused code =>
      rw [if_pos code] at stepped
      rw [stepped, List.append_nil]
      exact ⟨h, by simp [ReportsAlive, withNode]⟩
    | kept taken epoch same =>
      rw [List.append_nil]
      exact (h.keptSync (admits taken) epoch same).applied stepped
    | replaced taken changed => exact (h.replacedSync (admits taken) newer fits changed _ _).applied stepped

theorem step_agreement (process : GameProcess) (input : Input) (h : Agreement process) (admits : process.Admits input) :
    Agreement (process.step input).1 ∧ ReportsAlive (process.step input).2 := by
  cases input with
  | event env input notCallback => exact step_event h admits
  | callback env => exact step_callback h env

theorem run_agreement {is : List Input} (h : Agreement process) (along : machine.Along Admits process is) :
    Agreement (machine.run process is).1 ∧ ReportsAlive (machine.run process is).2 := by
  induction is generalizing process with
  | nil => exact ⟨h, by simp [ReportsAlive]⟩
  | cons i is ih =>
    obtain ⟨next, reports⟩ := step_agreement process i h along.1
    obtain ⟨agreement, later⟩ := ih next along.2
    refine ⟨agreement, fun report alive mem => ?_⟩
    rcases List.mem_append.mp mem with mem | mem
    · exact reports report alive mem
    · exact later report alive mem

/-- **The two halves agree.** In every run in which the syncs that the runtime takes
up are admissible: once no callback is posted, the node's ready entries are the
runtime's ready stubs, and every report names stubs that are alive when it is sent. -/
theorem halves_agree {config : ClusterConfig} {self : NodeEntry} {boot : NodeBoot} {node : GameNode}
    (started : GameNode.onInit config self boot = some node) {is : List Input}
    (along : machine.Along Admits (init node) is) :
    ((machine.run (init node) is).1.posted = [] →
      (readyPairs (machine.run (init node) is).1.node.serviceReady.readyEntries).Perm
        (((machine.run (init node) is).1.runtime.ownedServerStubs.filter (·.isReady)).map
          fun stub => (stub.entityType, stub.entityId))) ∧
      ReportsAlive (machine.run (init node) is).2 := by
  obtain ⟨agreement, reports⟩ := run_agreement (init_agreement started) along
  refine ⟨fun empty => ?_, reports⟩
  have follows := agreement.follows
  rw [empty] at follows
  rw [List.filter_eq_self.mpr agreement.ready]
  exact follows.drained

/-! ## A small Game -/

theorem sampleGame_isSome : (GameNode.onInit sampleConfig sampleGameEntry {}).isSome = true := by decide +kernel

def sampleGame : GameNode := (GameNode.onInit sampleConfig sampleGameEntry {}).get sampleGame_isSome

theorem sampleGame_init : GameNode.onInit sampleConfig sampleGameEntry {} = some sampleGame :=
  (Option.some_get sampleGame_isSome).symm

def sampleGuid (n : Nat) : Guid := text "00000000-0000-4000-8000-00000000000" ++ [48 + UInt8.ofNat n]

def sampleEvent (input : GameNode.Input) (notCallback : isCallback input = false) : Input :=
  .event { newGuid := sampleGuid } input notCallback

/-- The Game registers with the GM and with its Gate, and the mesh is complete. -/
def sampleMesh : List Input :=
  let registered := samplePacket innerRegisterMsgId 1 flagResponse
    (encodeRegisterSuccessResponse ⟨5000, 15000, 1000⟩ registerSuccessResponseSize)
  [sampleEvent (.connectorState {} gmRemoteNodeId .connected) rfl,
    sampleEvent (.connectorMessage {} gmRemoteNodeId registered) rfl,
    sampleEvent (.connectorMessage {} gmRemoteNodeId (samplePacket innerClusterNodesOnlineNotifyMsgId 0 0
      (encodeClusterNodesOnlineNotify ⟨true, 0, 1000⟩ clusterNodesOnlineNotifySize))) rfl,
    sampleEvent (.connectorState {} (text "Gate0") .connected) rfl,
    sampleEvent (.connectorMessage {} (text "Gate0") registered) rfl,
    sampleEvent (.heartbeatTimer {} (text "Gate0")) rfl,
    sampleEvent (.connectorMessage {} (text "Gate0") (samplePacket innerHeartbeatMsgId 2 flagResponse
      (encodeHeartbeatSuccessResponse ⟨5000, 15000, 1000⟩ heartbeatSuccessResponseSize))) rfl]

/-- An ownership sync of epoch 1 that gives one stub to the Game, under this id;
the GUIDs drawn from here on start at `drawn`. -/
def sampleSync (drawn : Nat) (entityId : Bytes) : Input :=
  .event { newGuid := fun n => sampleGuid (drawn + n) }
    (.connectorMessage {} gmRemoteNodeId (samplePacket innerServerStubOwnershipSyncMsgId 0 0
    (encodeServerStubOwnershipSync
      { assignmentEpoch := 1, statusFlags := 0, assignments := [⟨text "ChatStub", entityId, text "Game0", 0⟩],
        serverNowUnixMs := 1000 } 200))) rfl

/-- The stub is assigned and becomes ready; then the same sync comes again. -/
def sampleReplay : List Input :=
  sampleMesh ++ [sampleSync 0 (text "unknown"), .callback {}, sampleSync 1 (text "unknown")]

theorem halves_agree_sample :
    (machine.run (init sampleGame) sampleReplay).1.runtime.ownedServerStubs.length = 1 ∧
      (readyPairs (machine.run (init sampleGame) sampleReplay).1.node.serviceReady.readyEntries).Perm
        (((machine.run (init sampleGame) sampleReplay).1.runtime.ownedServerStubs.filter (·.isReady)).map
          fun stub => (stub.entityType, stub.entityId)) := by
  obtain ⟨alive, admitted, delivered⟩ : (machine.run (init sampleGame) sampleReplay).1.runtime.ownedServerStubs.length = 1 ∧
      machine.Along Admits (init sampleGame) sampleReplay ∧
      (machine.run (init sampleGame) sampleReplay).1.posted = [] := by decide +kernel
  exact ⟨alive, (halves_agree sampleGame_init admitted).1 delivered⟩

/-- The stub is assigned and becomes ready; then the sync comes again with the id
that the stub has. -/
def sampleIdReplay : List Input :=
  sampleMesh ++ [sampleSync 0 (text "unknown"), .callback {}, sampleSync 1 (sampleGuid 0)]

/-- The node forgets its ready stub, the runtime keeps it and stays silent. -/
theorem id_replay_forgets_ready_stub :
    (machine.run (init sampleGame) sampleIdReplay).1.posted = [] ∧
      ¬ (readyPairs (machine.run (init sampleGame) sampleIdReplay).1.node.serviceReady.readyEntries).Perm
        (((machine.run (init sampleGame) sampleIdReplay).1.runtime.ownedServerStubs.filter (·.isReady)).map
          fun stub => (stub.entityType, stub.entityId)) := by
  obtain ⟨delivered, forgotten, alive⟩ : (machine.run (init sampleGame) sampleIdReplay).1.posted = [] ∧
      (machine.run (init sampleGame) sampleIdReplay).1.node.serviceReady.readyEntries = [] ∧
      ((machine.run (init sampleGame) sampleIdReplay).1.runtime.ownedServerStubs.filter (·.isReady)).length = 1 := by
    decide +kernel
  refine ⟨delivered, fun perm => ?_⟩
  have lengths := perm.length_eq
  rw [forgotten, List.length_map, alive] at lengths
  cases lengths

end GameProcess

end XServer.Managed
