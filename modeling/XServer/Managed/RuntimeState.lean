import XServer.Node.GameNode

/-!
# The managed runtime of a Game

`Framework/Runtime/GameNodeRuntimeState.cs` and the native export that calls it:
the stubs this Game owns, its avatars, and the ownership snapshot it was given.
A `System.Guid` is its text. The hooks that a stub class may override
(`OnActivated`, `OnReady`) are taken to return.
-/

namespace XServer.Managed
open XServer.Lib XServer.Lib.Wire XServer.Net XServer.Node

/-- A `System.Guid`, as `ToString` prints it. -/
abbrev Guid := Bytes

/-- `string.IsNullOrWhiteSpace`, on UTF-8 text. -/
def isNullOrWhiteSpace : Bytes → Bool
  | [] => true
  | 0xC2 :: 0x85 :: rest => isNullOrWhiteSpace rest
  | 0xC2 :: 0xA0 :: rest => isNullOrWhiteSpace rest
  | 0xE1 :: 0x9A :: 0x80 :: rest => isNullOrWhiteSpace rest
  | 0xE2 :: 0x80 :: b :: rest =>
    (decide (0x80 ≤ b ∧ b ≤ 0x8A) || b == 0xA8 || b == 0xA9 || b == 0xAF) && isNullOrWhiteSpace rest
  | 0xE2 :: 0x81 :: 0x9F :: rest => isNullOrWhiteSpace rest
  | 0xE3 :: 0x80 :: 0x80 :: rest => isNullOrWhiteSpace rest
  | b :: rest => (decide (9 ≤ b ∧ b ≤ 13) || b == 32) && isNullOrWhiteSpace rest

structure ProxyAddress where
  entityId : Guid
  routeGateNodeId : Bytes
  deriving DecidableEq, Repr

structure OnlineAvatarRegistration where
  accountId : Bytes
  entityId : Guid
  sessionId : UInt64
  gateNodeId : Bytes
  gameNodeId : Bytes
  proxy : ProxyAddress
  deriving DecidableEq, Repr

/-- A stub of any class; only an `OnlineStub` registers avatars. -/
structure ServerStub where
  entityType : Bytes
  entityId : Guid
  isReady : Bool := false
  registeredAvatars : Table Guid OnlineAvatarRegistration := ∅
  deriving DecidableEq

structure AvatarEntity where
  entityId : Guid
  accountId : Bytes
  proxy : ProxyAddress
  deriving DecidableEq, Repr

/-- `GameNodeRuntimeStateErrorCode`, without `None`. -/
inductive GameNodeRuntimeStateErrorCode where
  | invalidArgument
  | unknownStubType
  | stubInstantiationFailed
  | duplicateEntityId
  deriving DecidableEq, Repr

/-- What a name stands for in the loaded assemblies. -/
inductive StubClass where
  | unknown
  | notStub
  | stub
  deriving DecidableEq, Repr

/-- What the runtime asks of its surroundings: the loaded classes, and the GUIDs
that the constructors draw in one call. -/
structure RuntimeEnv where
  stubClass : Bytes → StubClass := fun _ => .stub
  newGuid : Nat → Guid

structure GameNodeRuntimeState where
  nodeId : Bytes
  entities : List Guid := []
  ownedServerStubs : List ServerStub := []
  ownedServerStubsByType : Table Bytes Guid := ∅
  avatarsByEntityId : Table Guid AvatarEntity := ∅
  ownershipAssignments : List ServerStubOwnershipEntry := []
  assignmentEpoch : UInt64 := 0
  deriving DecidableEq

/-- A ready callback as it is posted to the native event loop. -/
structure ReadyCallback where
  assignmentEpoch : UInt64
  entry : ManagedServerStubReadyEntry
  deriving DecidableEq, Repr

namespace GameNodeRuntimeState

/-! ## Ownership -/

/-- `HasEquivalentLocalOwnership`: the types, in order. -/
def hasEquivalentLocalOwnership (state : GameNodeRuntimeState) (nextOwned : List ServerStubOwnershipEntry) : Bool :=
  state.ownedServerStubs.map (·.entityType) == nextOwned.map (·.entityType)

/-- The loop that instantiates the owned stubs. -/
def createStubs (env : RuntimeEnv) (entities : List Guid) :
    List ServerStubOwnershipEntry → List ServerStub → Except GameNodeRuntimeStateErrorCode (List ServerStub)
  | [], created => .ok created
  | assignment :: rest, created =>
    match env.stubClass assignment.entityType with
    | .unknown => .error .unknownStubType
    | .notStub => .error .stubInstantiationFailed
    | .stub =>
      let stub : ServerStub := { entityType := assignment.entityType, entityId := env.newGuid created.length }
      if created.any (·.entityId == stub.entityId) || entities.contains stub.entityId then .error .duplicateEntityId
      else createStubs env entities rest (created ++ [stub])

/-- `EntityManager.Register` for each new stub; a failure takes the others back. -/
def registerStubs : List Guid → List ServerStub → Option (List Guid)
  | entities, [] => some entities
  | entities, stub :: rest =>
    if entities.contains stub.entityId then none else registerStubs (entities ++ [stub.entityId]) rest

/-- `_ownedServerStubsByType.Add` for each stub; the flag is false when a repeated
type made it throw. -/
def addByType : Table Bytes Guid → List ServerStub → Table Bytes Guid × Bool
  | table, [] => (table, true)
  | table, stub :: rest =>
    if table.contains stub.entityType then (table, false)
    else addByType (table.insert stub.entityType stub.entityId) rest

/-- `ClearOwnedServerStubs`, as far as the entity manager goes. -/
def unregisterOwned (state : GameNodeRuntimeState) (entities : List Guid) : List Guid :=
  entities.filter fun id => !(state.ownedServerStubs.any (·.entityId == id))

/-- `NotifyNativeServerStubReady`: skipped when a text does not fit its buffer. -/
def readyCallback (assignmentEpoch : UInt64) (stub : ServerStub) : Option ReadyCallback :=
  if stub.entityType.length > managedMaxUtf8Bytes ∨ stub.entityId.length > managedMaxUtf8Bytes then none
  else some ⟨assignmentEpoch, ⟨stub.entityType, stub.entityId, 1, 0⟩⟩

/-- The outcome of `GameNativeApplyServerStubOwnership`: the new state, the
result code and the callbacks it posted. -/
structure Applied where
  state : GameNodeRuntimeState
  result : Int32 := 0
  callbacks : List ReadyCallback := []

def ownershipApplyErrorOffset : Int32 := 1000

/-- The result of an exception, `InvalidArgument`. -/
def nativeInvalidArgument : Int32 := -1

def GameNodeRuntimeStateErrorCode.toResult : GameNodeRuntimeStateErrorCode → Int32
  | .invalidArgument => ownershipApplyErrorOffset + 1
  | .unknownStubType => ownershipApplyErrorOffset + 2
  | .stubInstantiationFailed => ownershipApplyErrorOffset + 3
  | .duplicateEntityId => ownershipApplyErrorOffset + 4

/-- The assignments that this node owns. -/
def nextOwnedAssignments (state : GameNodeRuntimeState) (sync : ServerStubOwnershipSync) :
    List ServerStubOwnershipEntry :=
  sync.assignments.filter fun assignment => assignment.ownerGameNodeId == state.nodeId

/-- The new stubs take the place of the old ones, are activated and marked ready
in order, each with its callback. With a repeated type the exception leaves the
new stubs in the list, inactive, under the old epoch. -/
def replaceOwned (state : GameNodeRuntimeState) (sync : ServerStubOwnershipSync) (entities : List Guid)
    (created : List ServerStub) : Applied :=
  let state := { state with entities := state.unregisterOwned entities, ownedServerStubs := created }
  match addByType ∅ created with
  | (byType, false) => { state := { state with ownedServerStubsByType := byType }, result := nativeInvalidArgument }
  | (byType, true) =>
    { state := { state with
        ownedServerStubsByType := byType, ownershipAssignments := sync.assignments
        assignmentEpoch := sync.assignmentEpoch
        ownedServerStubs := created.map fun stub => { stub with isReady := true } }
      callbacks := created.filterMap (readyCallback sync.assignmentEpoch) }

def applyOwnership (state : GameNodeRuntimeState) (env : RuntimeEnv) (sync : ServerStubOwnershipSync) : Applied :=
  let nextOwned := state.nextOwnedAssignments sync
  if sync.assignmentEpoch == state.assignmentEpoch && state.hasEquivalentLocalOwnership nextOwned then
    { state := { state with ownershipAssignments := sync.assignments } }
  else
    match createStubs env state.entities nextOwned [] with
    | .error e => { state, result := GameNodeRuntimeStateErrorCode.toResult e }
    | .ok created =>
      match registerStubs state.entities created with
      | none => { state, result := GameNodeRuntimeStateErrorCode.toResult .duplicateEntityId }
      | some entities => state.replaceOwned sync entities created

/-- `GameNativeApplyServerStubOwnership`: building the snapshot throws on a blank text. -/
def nativeApplyServerStubOwnership (state : GameNodeRuntimeState) (env : RuntimeEnv) (sync : ServerStubOwnershipSync) :
    Applied :=
  if sync.assignments.any fun a =>
      isNullOrWhiteSpace a.entityType || isNullOrWhiteSpace a.entityId || isNullOrWhiteSpace a.ownerGameNodeId then
    { state, result := nativeInvalidArgument }
  else state.applyOwnership env sync

/-! ## What an applied sync leaves -/

/-- The stubs that are created for the owned assignments. -/
def freshStubs (env : RuntimeEnv) (assignments : List ServerStubOwnershipEntry) : List ServerStub :=
  assignments.mapIdx fun i assignment => { entityType := assignment.entityType, entityId := env.newGuid i }

theorem createStubs_ok {env : RuntimeEnv} {entities : List Guid} {assignments : List ServerStubOwnershipEntry}
    {created stubs : List ServerStub} (h : createStubs env entities assignments created = .ok stubs) :
    stubs = created ++ assignments.mapIdx fun i assignment =>
      { entityType := assignment.entityType, entityId := env.newGuid (created.length + i) } := by
  induction assignments generalizing created with
  | nil =>
    cases h
    simp
  | cons assignment rest ih =>
    rw [createStubs] at h
    split at h
    · cases h
    · cases h
    · simp only at h
      split at h
      · cases h
      · rw [ih h, List.mapIdx_cons]
        simp [Nat.add_assoc, Nat.add_comm 1]

theorem createStubs_classes {env : RuntimeEnv} {entities : List Guid} {assignments : List ServerStubOwnershipEntry}
    {created stubs : List ServerStub} (h : createStubs env entities assignments created = .ok stubs) :
    ∀ assignment ∈ assignments, env.stubClass assignment.entityType = .stub := by
  induction assignments generalizing created with
  | nil => simp
  | cons assignment rest ih =>
    rw [createStubs] at h
    split at h
    · cases h
    · cases h
    · rename_i known
      simp only at h
      split at h
      · cases h
      · exact List.forall_mem_cons.mpr ⟨known, ih h⟩

theorem addByType_distinct {stubs : List ServerStub} {table : Table Bytes Guid}
    (distinct : (stubs.map (·.entityType)).Nodup) (absent : ∀ stub ∈ stubs, table.contains stub.entityType = false) :
    (addByType table stubs).2 = true := by
  induction stubs generalizing table with
  | nil => rfl
  | cons stub rest ih =>
    rw [addByType, if_neg (by simp [absent stub List.mem_cons_self])]
    rw [List.map_cons, List.nodup_cons] at distinct
    refine ih distinct.2 fun other mem => ?_
    have ne : stub.entityType ≠ other.entityType := fun same => distinct.1 (same ▸ List.mem_map_of_mem mem)
    have before := absent other (List.mem_cons_of_mem _ mem)
    rw [← Std.ExtTreeMap.isSome_getElem?_eq_contains] at before ⊢
    rwa [Table.get_insert_of_ne _ _ ne]

/-- No text of the sync is blank, and its owned types are in place under the epoch in
force or have their stub classes. -/
structure TakesUp (state : GameNodeRuntimeState) (env : RuntimeEnv) (sync : ServerStubOwnershipSync) : Prop where
  texts : (sync.assignments.any fun a => isNullOrWhiteSpace a.entityType || isNullOrWhiteSpace a.entityId ||
    isNullOrWhiteSpace a.ownerGameNodeId) = false
  types : (sync.assignmentEpoch = state.assignmentEpoch ∧
      state.hasEquivalentLocalOwnership (state.nextOwnedAssignments sync) = true) ∨
    ∀ assignment ∈ state.nextOwnedAssignments sync, env.stubClass assignment.entityType = .stub

instance (state : GameNodeRuntimeState) (env : RuntimeEnv) (sync : ServerStubOwnershipSync) :
    Decidable (state.TakesUp env sync) :=
  decidable_of_iff (_ ∧ _) ⟨fun h => ⟨h.1, h.2⟩, fun h => ⟨h.1, h.2⟩⟩

/-- A sync whose owned types are distinct is refused without a trace, leaves the stubs
as they are, or replaces them all. -/
inductive ApplyOutcome (state : GameNodeRuntimeState) (env : RuntimeEnv) (sync : ServerStubOwnershipSync) :
    Applied → Prop where
  | refused {result : Int32} (code : result ≠ 0) : ApplyOutcome state env sync { state, result }
  | kept (taken : state.TakesUp env sync) (epoch : sync.assignmentEpoch = state.assignmentEpoch)
      (same : state.hasEquivalentLocalOwnership (state.nextOwnedAssignments sync) = true) :
      ApplyOutcome state env sync { state := { state with ownershipAssignments := sync.assignments } }
  | replaced {entities : List Guid} {byType : Table Bytes Guid} (taken : state.TakesUp env sync)
      (changed : sync.assignmentEpoch = state.assignmentEpoch →
        state.hasEquivalentLocalOwnership (state.nextOwnedAssignments sync) = false) :
      ApplyOutcome state env sync {
        state := { state with
          entities, ownedServerStubsByType := byType, ownershipAssignments := sync.assignments
          assignmentEpoch := sync.assignmentEpoch
          ownedServerStubs := (freshStubs env (state.nextOwnedAssignments sync)).map fun stub =>
            { stub with isReady := true } }
        callbacks := (freshStubs env (state.nextOwnedAssignments sync)).filterMap (readyCallback sync.assignmentEpoch) }

theorem map_entityType_freshStubs (env : RuntimeEnv) (assignments : List ServerStubOwnershipEntry) :
    (freshStubs env assignments).map (·.entityType) = assignments.map (·.entityType) := by
  apply List.ext_getElem <;> simp [freshStubs]

theorem map_entityId_freshStubs (env : RuntimeEnv) (assignments : List ServerStubOwnershipEntry) :
    (freshStubs env assignments).map (·.entityId) = (List.range assignments.length).map env.newGuid := by
  apply List.ext_getElem <;> simp [freshStubs]

/-- Only a sync that is taken up must have distinct owned types. -/
theorem nativeApplyServerStubOwnership_outcome {state : GameNodeRuntimeState} {env : RuntimeEnv}
    {sync : ServerStubOwnershipSync}
    (distinct : state.TakesUp env sync → ((state.nextOwnedAssignments sync).map (·.entityType)).Nodup) :
    ApplyOutcome state env sync (state.nativeApplyServerStubOwnership env sync) := by
  unfold nativeApplyServerStubOwnership
  split
  · exact .refused (by decide)
  rename_i texts
  rw [Bool.not_eq_true] at texts
  unfold applyOwnership
  simp only
  split
  · rename_i kept
    rw [Bool.and_eq_true, beq_iff_eq] at kept
    exact .kept ⟨texts, .inl kept⟩ kept.1 kept.2
  rename_i changed
  split
  · rename_i e _
    exact .refused (by cases e <;> decide)
  rename_i created made
  have taken : state.TakesUp env sync := ⟨texts, .inr (createStubs_classes made)⟩
  have fresh : created = freshStubs env (state.nextOwnedAssignments sync) := by
    simpa [freshStubs] using createStubs_ok made
  subst fresh
  split
  · exact .refused (by decide)
  have added := @addByType_distinct (freshStubs env (state.nextOwnedAssignments sync)) ∅
    (by rw [map_entityType_freshStubs]; exact distinct taken) (by simp)
  unfold replaceOwned
  simp only
  split
  · rename_i failed
    rw [failed] at added
    cases added
  · refine .replaced taken fun epoch => ?_
    simpa [epoch] using changed

/-! ## What a first sync leaves -/

theorem createStubs_nodup {env : RuntimeEnv} {entities : List Guid} {assignments : List ServerStubOwnershipEntry}
    {created stubs : List ServerStub} (distinct : (created.map (·.entityId)).Nodup)
    (h : createStubs env entities assignments created = .ok stubs) : (stubs.map (·.entityId)).Nodup := by
  induction assignments generalizing created with
  | nil =>
    cases h
    exact distinct
  | cons assignment rest ih =>
    rw [createStubs] at h
    split at h
    · cases h
    · cases h
    · simp only at h
      split at h
      · cases h
      · rename_i fresh
        refine ih ?_ h
        rw [List.map_append, List.map_singleton, List.nodup_append]
        refine ⟨distinct, by simp, fun id mem other single => ?_⟩
        obtain ⟨stub, listed, rfl⟩ := List.mem_map.mp mem
        rw [List.mem_singleton.mp single]
        rintro same
        refine fresh ?_
        rw [Bool.or_eq_true, List.any_eq_true]
        exact .inl ⟨stub, listed, beq_iff_eq.mpr same⟩

theorem get_addByType {stubs : List ServerStub} {table : Table Bytes Guid} {entityType : Bytes} {id : Guid}
    (h : (addByType table stubs).1[entityType]? = some id) :
    table[entityType]? = some id ∨ ∃ stub ∈ stubs, stub.entityType = entityType ∧ stub.entityId = id := by
  induction stubs generalizing table with
  | nil => exact .inl h
  | cons stub rest ih =>
    rw [addByType] at h
    split at h
    · exact .inl h
    · rcases ih h with h | ⟨other, mem, same⟩
      · rw [Table.get_insert] at h
        split at h
        · rename_i here
          exact .inr ⟨stub, List.mem_cons_self, here, Option.some.inj h⟩
        · exact .inl h
      · exact .inr ⟨other, List.mem_cons_of_mem _ mem, same⟩

theorem isSome_addByType {stubs : List ServerStub} {table : Table Bytes Guid} {entityType : Bytes}
    (done : (addByType table stubs).2 = true)
    (h : (table[entityType]?).isSome ∨ entityType ∈ stubs.map (·.entityType)) :
    ((addByType table stubs).1[entityType]?).isSome := by
  induction stubs generalizing table with
  | nil => exact h.resolve_right List.not_mem_nil
  | cons stub rest ih =>
    rw [addByType] at done ⊢
    split at done
    · cases done
    · rename_i absent
      rw [if_neg absent]
      refine ih done ?_
      rw [Table.get_insert]
      split
      · exact .inl rfl
      · rename_i other
        rw [List.map_cons, List.mem_cons] at h
        exact h.imp_right fun h => h.resolve_left (Ne.symm other)

/-- A Game that has been given its first sync: no avatars, and what is listed
under a type is a new stub of that type that the sync assigns to this Game. -/
structure FirstSync (nodeId : Bytes) (sync : ServerStubOwnershipSync) (state : GameNodeRuntimeState) : Prop where
  sameNode : state.nodeId = nodeId
  noAvatars : state.avatarsByEntityId = ∅
  assignments : ∀ assignment ∈ state.ownershipAssignments, assignment ∈ sync.assignments
  listed : ∀ (entityType : Bytes) (id : Guid), state.ownedServerStubsByType[entityType]? = some id →
    (∃ assignment ∈ sync.assignments, assignment.entityType = entityType ∧ assignment.ownerGameNodeId = nodeId) ∧
      ∃ stub, state.ownedServerStubs.find? (·.entityId == id) = some stub ∧ stub.entityType = entityType ∧
        stub.registeredAvatars = ∅

theorem mem_freshStubs {env : RuntimeEnv} {assignments : List ServerStubOwnershipEntry} {stub : ServerStub}
    (h : stub ∈ freshStubs env assignments) :
    stub.registeredAvatars = ∅ ∧ ∃ assignment ∈ assignments, assignment.entityType = stub.entityType := by
  obtain ⟨i, bound, rfl⟩ := List.mem_mapIdx.mp h
  exact ⟨rfl, _, List.getElem_mem bound, rfl⟩

/-- The stubs of one creation, listed by their types, whether marked ready or not. -/
theorem listed_created {env : RuntimeEnv} {assignments : List ServerStubOwnershipEntry} {marked : ServerStub → ServerStub}
    (distinct : ((freshStubs env assignments).map (·.entityId)).Nodup)
    (same : ∀ stub, (marked stub).entityId = stub.entityId ∧ (marked stub).entityType = stub.entityType ∧
      (marked stub).registeredAvatars = stub.registeredAvatars) {entityType : Bytes} {id : Guid}
    (h : (addByType ∅ (freshStubs env assignments)).1[entityType]? = some id) :
    (∃ assignment ∈ assignments, assignment.entityType = entityType) ∧
      ∃ stub, ((freshStubs env assignments).map marked).find? (·.entityId == id) = some stub ∧
        stub.entityType = entityType ∧ stub.registeredAvatars = ∅ := by
  rcases get_addByType h with h | ⟨stub, mem, rfl, rfl⟩
  · simp at h
  obtain ⟨empty, assigned⟩ := mem_freshStubs mem
  refine ⟨assigned, marked stub, ?_, (same stub).2.1, (same stub).2.2.trans empty⟩
  have keys : (((freshStubs env assignments).map marked).map (·.entityId)).Nodup := by
    rw [List.map_map]
    exact (List.map_congr_left fun stub _ => (same stub).1) ▸ distinct
  rw [← (same stub).1]
  exact find_of_nodup keys (List.mem_map_of_mem mem)

theorem firstSync_replaceOwned {nodeId : Bytes} {env : RuntimeEnv} {sync : ServerStubOwnershipSync}
    {entities : List Guid} {created : List ServerStub}
    (fresh : created = freshStubs env (nextOwnedAssignments { nodeId } sync))
    (distinct : (created.map (·.entityId)).Nodup) :
    FirstSync nodeId sync (replaceOwned { nodeId } sync entities created).state := by
  subst fresh
  have owned : ∀ {entityType}, (∃ assignment ∈ nextOwnedAssignments { nodeId } sync, assignment.entityType = entityType) →
      ∃ assignment ∈ sync.assignments, assignment.entityType = entityType ∧ assignment.ownerGameNodeId = nodeId := by
    rintro entityType ⟨assignment, mem, same⟩
    obtain ⟨listed, owner⟩ := List.mem_filter.mp mem
    exact ⟨assignment, listed, same, beq_iff_eq.mp owner⟩
  unfold replaceOwned
  simp only
  split
  · rename_i byType failed
    refine ⟨rfl, rfl, by simp, fun entityType id listed => ?_⟩
    obtain ⟨assigned, found⟩ := @listed_created env _ (fun stub => stub) distinct (fun _ => ⟨rfl, rfl, rfl⟩) entityType id
      (by rw [failed]; exact listed)
    rw [List.map_id'] at found
    exact ⟨owned assigned, found⟩
  · rename_i byType done
    refine ⟨rfl, rfl, fun _ mem => mem, fun entityType id listed => ?_⟩
    obtain ⟨assigned, found⟩ := @listed_created env _ (fun stub => { stub with isReady := true }) distinct
      (fun _ => ⟨rfl, rfl, rfl⟩) entityType id (by rw [done]; exact listed)
    exact ⟨owned assigned, found⟩

theorem nativeApplyServerStubOwnership_firstSync (nodeId : Bytes) (env : RuntimeEnv) (sync : ServerStubOwnershipSync) :
    FirstSync nodeId sync (nativeApplyServerStubOwnership { nodeId } env sync).state := by
  have untouched : FirstSync nodeId sync { nodeId } := ⟨rfl, rfl, by simp, by simp⟩
  unfold nativeApplyServerStubOwnership
  split
  · exact untouched
  unfold applyOwnership
  simp only
  split
  · exact ⟨rfl, rfl, fun _ mem => mem, by simp⟩
  split
  · exact untouched
  rename_i created made
  split
  · exact untouched
  · exact firstSync_replaceOwned (by simpa [freshStubs] using createStubs_ok made) (createStubs_nodup (by simp) made)

/-- A first sync that succeeds leaves a stub for each type it assigns to this Game. -/
theorem nativeApplyServerStubOwnership_owns {nodeId : Bytes} {env : RuntimeEnv} {sync : ServerStubOwnershipSync}
    (applied : (nativeApplyServerStubOwnership { nodeId } env sync).result = 0)
    {assignment : ServerStubOwnershipEntry} (listed : assignment ∈ sync.assignments)
    (owned : assignment.ownerGameNodeId = nodeId) :
    ((nativeApplyServerStubOwnership { nodeId } env sync).state.ownedServerStubsByType[assignment.entityType]?).isSome := by
  have next : assignment ∈ nextOwnedAssignments { nodeId } sync :=
    List.mem_filter.mpr ⟨listed, beq_iff_eq.mpr owned⟩
  unfold nativeApplyServerStubOwnership at applied ⊢
  split at applied
  · cases applied
  rename_i readable
  rw [if_neg readable]
  unfold applyOwnership at applied ⊢
  simp only at applied ⊢
  split at applied
  · rename_i kept
    -- a fresh Game has no stubs, so an assigned one is a difference
    rw [Bool.and_eq_true, hasEquivalentLocalOwnership, beq_iff_eq, beq_iff_eq] at kept
    have none := List.map_eq_nil_iff.mp kept.2.symm
    rw [none] at next
    cases next
  rename_i changed
  rw [if_neg changed]
  split at applied
  · rename_i e _
    cases e <;> cases applied
  rename_i created made
  split at applied
  · cases applied
  rename_i entities joined
  unfold replaceOwned at applied ⊢
  simp only at applied ⊢
  split at applied
  · cases applied
  · rename_i byType done
    simp only
    have fresh : created = freshStubs env (nextOwnedAssignments { nodeId } sync) := by
      simpa [freshStubs] using createStubs_ok made
    have present := @isSome_addByType created ∅ assignment.entityType (by rw [done])
      (.inr (by rw [fresh, map_entityType_freshStubs]; exact List.mem_map_of_mem next))
    rwa [done] at present

end GameNodeRuntimeState

end XServer.Managed
