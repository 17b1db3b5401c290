import XServer.Managed.RuntimeInvariant

/-!
# `ApplyOwnership`, all or nothing

The method first creates every new stub and registers it, taking the others back
when one fails; only then does it destroy the old stubs, index the new ones by type
and activate them. The index is a `Dictionary` whose `Add` throws on a repeated key,
so a snapshot that assigns one type to this node twice fails after the old stubs are
gone. Here it is said exactly which snapshots take effect or leave no trace.
-/

namespace XServer.Managed
open XServer.Lib XServer.Lib.Wire XServer.Net XServer.Node

namespace GameNodeRuntimeState

/-- The stubs of a snapshot are in place: registered, indexed by type and activated. -/
structure InPlace (state : GameNodeRuntimeState) (snapshot : ServerStubOwnershipSync) : Prop where
  types : state.ownedServerStubs.map (·.entityType) = (state.nextOwnedAssignments snapshot).map (·.entityType)
  registered : ∀ stub ∈ state.ownedServerStubs, stub.entityId ∈ state.entities
  indexed : ∀ stub ∈ state.ownedServerStubs, state.ownedServerStubsByType[stub.entityType]? = some stub.entityId
  activated : ∀ stub ∈ state.ownedServerStubs, stub.isReady = true
  assignments : state.ownershipAssignments = snapshot.assignments
  epoch : state.assignmentEpoch = snapshot.assignmentEpoch

/-- The call returns `None` with the new stubs in place, or fails and leaves the state. -/
def AllOrNothing (state : GameNodeRuntimeState) (snapshot : ServerStubOwnershipSync) (applied : Applied) : Prop :=
  (applied.result = 0 ∧ applied.state.InPlace snapshot) ∨ (applied.result ≠ 0 ∧ applied.state = state)

/-- The ids that the constructors of `n` stubs draw are new. -/
def NewGuids (env : RuntimeEnv) (entities : List Guid) (n : Nat) : Prop :=
  ((List.range n).map env.newGuid).Nodup ∧ ∀ i < n, env.newGuid i ∉ entities

/-- The types that a snapshot gives to this node are distinct, or one of its stubs cannot
be created or registered. -/
def Undoable (state : GameNodeRuntimeState) (env : RuntimeEnv) (snapshot : ServerStubOwnershipSync) : Prop :=
  ((state.nextOwnedAssignments snapshot).map (·.entityType)).Nodup ∨
    (∃ assignment ∈ state.nextOwnedAssignments snapshot, env.stubClass assignment.entityType ≠ .stub) ∨
    ¬ NewGuids env state.entities (state.nextOwnedAssignments snapshot).length

/-! ## When the new stubs are created -/

section
variable {state : GameNodeRuntimeState} {env : RuntimeEnv} {snapshot : ServerStubOwnershipSync}

/-- With known classes and new ids every stub is created. -/
theorem createStubs_of_new {entities : List Guid} {assignments : List ServerStubOwnershipEntry}
    {created : List ServerStub}
    (classes : ∀ assignment ∈ assignments, env.stubClass assignment.entityType = .stub)
    (distinct : (created.map (·.entityId) ++
      (List.range' created.length assignments.length).map env.newGuid).Nodup)
    (fresh : ∀ i ∈ List.range' created.length assignments.length, env.newGuid i ∉ entities) :
    ∃ stubs, createStubs env entities assignments created = .ok stubs := by
  induction assignments generalizing created with
  | nil => exact ⟨created, rfl⟩
  | cons assignment rest ih =>
    rw [List.forall_mem_cons] at classes
    rw [List.length_cons, List.range'_succ] at distinct fresh
    rw [List.forall_mem_cons] at fresh
    rw [createStubs, classes.1]
    have apart : created.any (·.entityId == env.newGuid created.length) = false := by
      rw [List.any_eq_false]
      intro stub mem same
      rw [List.map_cons, List.nodup_append] at distinct
      exact distinct.2.2 _ (List.mem_map_of_mem mem) _ List.mem_cons_self (beq_iff_eq.mp same)
    have unknown : entities.contains (env.newGuid created.length) = false := by
      simpa using fresh.1
    simp only [apart, unknown, Bool.or_false, Bool.false_eq_true, if_false]
    apply ih classes.2
    · rw [List.map_cons] at distinct
      simpa using distinct
    · simpa using fresh.2

theorem registerStubs_of_fresh {entities : List Guid} {stubs : List ServerStub}
    (distinct : (stubs.map (·.entityId)).Nodup) (fresh : ∀ stub ∈ stubs, stub.entityId ∉ entities) :
    registerStubs entities stubs = some (entities ++ stubs.map (·.entityId)) := by
  induction stubs generalizing entities with
  | nil => simp [registerStubs]
  | cons stub rest ih =>
    rw [List.map_cons, List.nodup_cons] at distinct
    rw [List.forall_mem_cons] at fresh
    have unknown : entities.contains stub.entityId = false := by simpa using fresh.1
    rw [registerStubs, unknown, if_neg Bool.false_ne_true, ih distinct.2]
    · simp
    · intro other mem known
      rcases List.mem_append.mp known with old | new
      · exact fresh.2 other mem old
      · rw [List.mem_singleton] at new
        exact distinct.1 (new ▸ List.mem_map_of_mem mem)

/-- The new stubs are created exactly when every class is known and the ids are new;
then they are registered too. -/
theorem createStubs_iff {entities : List Guid} {assignments : List ServerStubOwnershipEntry} :
    (∃ stubs, createStubs env entities assignments [] = .ok stubs) ↔
      (∀ assignment ∈ assignments, env.stubClass assignment.entityType = .stub) ∧
        NewGuids env entities assignments.length := by
  constructor
  · rintro ⟨stubs, made⟩
    have new : stubs = freshStubs env assignments := by simpa [freshStubs] using createStubs_ok made
    have ids := createStubs_nodup (by simp) made
    have fresh := createStubs_fresh (by simp) made
    rw [new, map_entityId_freshStubs] at ids
    refine ⟨createStubs_classes made, ids, fun i small => ?_⟩
    have mem : env.newGuid i ∈ stubs.map (·.entityId) := by
      rw [new, map_entityId_freshStubs]
      exact List.mem_map_of_mem (List.mem_range.mpr small)
    obtain ⟨stub, listed, same⟩ := List.mem_map.mp mem
    exact same ▸ fresh stub listed
  · rintro ⟨classes, distinct, fresh⟩
    apply createStubs_of_new classes
    · simpa [List.range_eq_range'] using distinct
    · simpa using fresh

theorem addByType_nodup {stubs : List ServerStub} {table : Table Bytes Guid} (done : (addByType table stubs).2 = true) :
    (stubs.map (·.entityType)).Nodup ∧ ∀ stub ∈ stubs, table[stub.entityType]? = none := by
  induction stubs generalizing table with
  | nil => simp
  | cons stub rest ih =>
    rw [addByType] at done
    split at done
    · cases done
    · rename_i absent
      obtain ⟨distinct, later⟩ := ih done
      have free : table[stub.entityType]? = none := by
        rw [Bool.not_eq_true, ← Std.ExtTreeMap.isSome_getElem?_eq_contains] at absent
        cases held : table[stub.entityType]? with
        | none => rfl
        | some id =>
          rw [held] at absent
          cases absent
      have apart : ∀ other ∈ rest, stub.entityType ≠ other.entityType := by
        intro other mem same
        have held := later other mem
        rw [← same, Table.get_insert_self] at held
        cases held
      refine ⟨?_, List.forall_mem_cons.mpr ⟨free, fun other mem => ?_⟩⟩
      · rw [List.map_cons, List.nodup_cons]
        refine ⟨fun listed => ?_, distinct⟩
        obtain ⟨other, mem, same⟩ := List.mem_map.mp listed
        exact apart other mem same.symm
      · have held := later other mem
        rwa [Table.get_insert_of_ne _ _ (apart other mem)] at held

/-! ## One call -/

/-- Consistent collections whose stubs are all active. -/
structure Settled (state : GameNodeRuntimeState) : Prop extends Consistent state where
  ready : ∀ stub ∈ state.ownedServerStubs, stub.isReady = true

theorem Settled.start (nodeId : Bytes) : Settled { nodeId } where
  toConsistent := start_consistent nodeId
  ready := by simp

/-- In a settled runtime the stubs of its own assignments are in place. -/
theorem Settled.inPlace (h : Settled state)
    (types : state.ownedServerStubs.map (·.entityType) = (state.nextOwnedAssignments snapshot).map (·.entityType))
    (assignments : state.ownershipAssignments = snapshot.assignments)
    (epoch : state.assignmentEpoch = snapshot.assignmentEpoch) : state.InPlace snapshot where
  types := types
  registered stub mem := (h.registered _).mpr (.inl ⟨stub, mem, rfl⟩)
  indexed stub mem := (h.indexed _ _).mpr ⟨stub, mem, rfl, rfl⟩
  activated := h.ready
  assignments := assignments
  epoch := epoch

/-- Distinct types: the new stubs replace the old ones. -/
theorem Settled.replaced (h : Settled state) {created : List ServerStub} {joined : List Guid}
    (made : createStubs env state.entities (state.nextOwnedAssignments snapshot) [] = .ok created)
    (registered : registerStubs state.entities created = some joined)
    (distinct : ((state.nextOwnedAssignments snapshot).map (·.entityType)).Nodup) :
    Settled (state.replaceOwned snapshot joined created).state ∧
      AllOrNothing state snapshot (state.replaceOwned snapshot joined created) := by
  obtain ⟨consistent, succeeded⟩ := h.toConsistent.replaced made registered distinct
  have types : created.map (·.entityType) = (state.nextOwnedAssignments snapshot).map (·.entityType) := by
    have new : created = freshStubs env (state.nextOwnedAssignments snapshot) := by
      simpa [freshStubs] using createStubs_ok made
    rw [new, map_entityType_freshStubs]
  unfold replaceOwned at consistent succeeded ⊢
  simp only at consistent succeeded ⊢
  split at succeeded
  · cases succeeded
  · rename_i byType added
    simp only [added] at consistent ⊢
    have settled := Settled.mk consistent (by simp)
    refine ⟨settled, .inl ⟨rfl, settled.inPlace ?_ rfl rfl⟩⟩
    have same : (created.map fun stub => { stub with isReady := true }).map (·.entityType) =
        created.map (·.entityType) := by
      simp
    exact same.trans types

/-- A repeated type: the call fails with other stubs in the list than before. -/
theorem replaceOwned_repeated (h : Consistent state) {created : List ServerStub} {joined : List Guid}
    (made : createStubs env state.entities (state.nextOwnedAssignments snapshot) [] = .ok created)
    (repeated : ¬ ((state.nextOwnedAssignments snapshot).map (·.entityType)).Nodup) :
    (state.replaceOwned snapshot joined created).result = nativeInvalidArgument ∧
      (state.replaceOwned snapshot joined created).state.ownedServerStubs ≠ state.ownedServerStubs := by
  have new : created = freshStubs env (state.nextOwnedAssignments snapshot) := by
    simpa [freshStubs] using createStubs_ok made
  have failed : (addByType ∅ created).2 = false := by
    rw [Bool.eq_false_iff]
    intro done
    have distinct := (addByType_nodup done).1
    rw [new, map_entityType_freshStubs] at distinct
    exact repeated distinct
  unfold replaceOwned
  simp only
  split
  · refine ⟨rfl, fun same => ?_⟩
    -- a list with a repeated element has a first one, and its stub is newly registered
    cases created with
    | nil => cases failed
    | cons stub rest =>
      have unknown := createStubs_fresh (by simp) made stub List.mem_cons_self
      have owned : stub ∈ state.ownedServerStubs := by
        rw [← same]
        exact List.mem_cons_self
      exact unknown ((h.registered _).mpr (.inl ⟨stub, owned, rfl⟩))
  · rename_i byType done
    rw [done] at failed
    cases failed

theorem GameNodeRuntimeStateErrorCode.toResult_ne_zero (e : GameNodeRuntimeStateErrorCode) : toResult e ≠ 0 := by
  cases e <;> decide

theorem AllOrNothing.of_undoable (h : Settled state) (undoable : state.Undoable env snapshot) :
    Settled (state.applyOwnership env snapshot).state ∧
      AllOrNothing state snapshot (state.applyOwnership env snapshot) := by
  unfold applyOwnership
  simp only
  split
  · rename_i kept
    rw [Bool.and_eq_true, beq_iff_eq] at kept
    obtain ⟨epoch, same⟩ := kept
    have settled : Settled { state with ownershipAssignments := snapshot.assignments } :=
      Settled.mk (h.toConsistent.kept same) h.ready
    exact ⟨settled, .inl ⟨rfl, settled.inPlace (beq_iff_eq.mp same) rfl epoch.symm⟩⟩
  · split
    · exact ⟨h, .inr ⟨GameNodeRuntimeStateErrorCode.toResult_ne_zero _, rfl⟩⟩
    · rename_i created made
      split
      · exact ⟨h, .inr ⟨GameNodeRuntimeStateErrorCode.toResult_ne_zero .duplicateEntityId, rfl⟩⟩
      · rename_i joined registered
        obtain ⟨classes, guids⟩ := createStubs_iff.mp ⟨created, made⟩
        rcases undoable with distinct | ⟨assignment, mem, unknown⟩ | clash
        · exact h.replaced made registered distinct
        · exact absurd (classes assignment mem) unknown
        · exact absurd guids clash

theorem Undoable.of_allOrNothing (h : Settled state)
    (either : AllOrNothing state snapshot (state.applyOwnership env snapshot)) : state.Undoable env snapshot := by
  by_contra doomed
  unfold Undoable at doomed
  rw [not_or, not_or] at doomed
  obtain ⟨repeated, classes, guids⟩ := doomed
  rw [not_not] at guids
  have known : ∀ assignment ∈ state.nextOwnedAssignments snapshot, env.stubClass assignment.entityType = .stub := by
    intro assignment mem
    by_contra unknown
    exact classes ⟨assignment, mem, unknown⟩
  obtain ⟨created, made⟩ := createStubs_iff.mpr ⟨known, guids⟩
  have registered := registerStubs_of_fresh (createStubs_nodup (by simp) made) (createStubs_fresh (by simp) made)
  have changed : (snapshot.assignmentEpoch == state.assignmentEpoch &&
      state.hasEquivalentLocalOwnership (state.nextOwnedAssignments snapshot)) = false := by
    rw [Bool.eq_false_iff]
    intro kept
    rw [Bool.and_eq_true] at kept
    have types : state.ownedServerStubs.map (·.entityType) = (state.nextOwnedAssignments snapshot).map (·.entityType) :=
      beq_iff_eq.mp kept.2
    exact repeated (types ▸ h.stubTypes)
  have outcome : state.applyOwnership env snapshot =
      state.replaceOwned snapshot (state.entities ++ created.map (·.entityId)) created := by
    unfold applyOwnership
    simp only [changed, made, registered, Bool.false_eq_true, if_false]
  obtain ⟨failed, moved⟩ := @replaceOwned_repeated _ _ _ h.toConsistent _
    (state.entities ++ created.map (·.entityId)) made repeated
  rw [outcome] at either
  rcases either with ⟨succeeded, -⟩ | ⟨-, same⟩
  · rw [failed] at succeeded
    cases succeeded
  · exact moved (by rw [same])

/-! ## Runs -/

theorem Reaches.ready {registration : OnlineAvatarRegistration} {stubs : List ServerStub}
    {forwarded : Option ForwardedCall} (reaches : Reaches state registration stubs forwarded)
    (ready : ∀ stub ∈ state.ownedServerStubs, stub.isReady = true) : ∀ stub ∈ stubs, stub.isReady = true := by
  cases reaches with
  | here found same =>
    rename_i online
    obtain ⟨-, listed⟩ := onlineStub_some found
    obtain ⟨front, back, before, after⟩ := modifyFirst_split listed fun _ => online.register registration
    have updated : state.withStub (online.register registration) = front ++ online.register registration :: back := after
    rw [before, List.forall_mem_append, List.forall_mem_cons] at ready
    rw [updated, List.forall_mem_append, List.forall_mem_cons]
    exact ready
  | away => exact ready

theorem Settled.spawned (h : Settled state) (transport : Transport) (request : AvatarEntitySpawnRequest) :
    Settled (state.tryCreateAvatarEntity transport request).state := by
  refine ⟨(h.toConsistent.spawned transport request).1, ?_⟩
  have outcome := tryCreateAvatarEntity_outcome h.online (fun id avatar held => (h.avatars id avatar held).1)
    transport request
  generalize state.tryCreateAvatarEntity transport request = spawned at outcome ⊢
  cases outcome with
  | refused error => exact h.ready
  | accepted complete same id account valid registers reaches => exact reaches.ready h.ready

/-- A snapshot is applied only while it can be undone. -/
def UndoableCall (state : GameNodeRuntimeState) : RuntimeCall → Prop
  | .applyOwnership env (some snapshot) => state.Undoable env snapshot
  | _ => True

theorem call_settled (state : GameNodeRuntimeState) (input : RuntimeCall) (h : Settled state)
    (undoable : state.UndoableCall input) : Settled (machine.step state input).1 := by
  cases input with
  | applyOwnership env snapshot =>
    cases snapshot with
    | none => exact h
    | some snapshot => exact (AllOrNothing.of_undoable h undoable).1
  | resetOwnership => exact ⟨h.toConsistent.reset, by simp [machine, call, resetOwnership]⟩
  | tryCreateAvatarEntity transport request => exact h.spawned transport request

end

/-- The native export refuses a blank text before the call, and answers an exception with its code. -/
theorem nativeApply_allOrNothing (state : GameNodeRuntimeState) (env : RuntimeEnv) (sync : ServerStubOwnershipSync) :
    AllOrNothing state sync (state.nativeApplyServerStubOwnership env sync) ↔
      (sync.assignments.any fun a =>
        isNullOrWhiteSpace a.entityType || isNullOrWhiteSpace a.entityId || isNullOrWhiteSpace a.ownerGameNodeId) = true ∨
        AllOrNothing state sync (state.applyOwnership env sync) := by
  unfold nativeApplyServerStubOwnership
  split
  · rename_i blank
    have failed : nativeInvalidArgument ≠ 0 := by decide
    exact iff_of_true (.inr ⟨failed, rfl⟩) (.inl blank)
  · rename_i legible
    exact (or_iff_right legible).symm

/-- After calls whose snapshots could all be undone, the next snapshot takes effect or
leaves no trace exactly when it can be undone. -/
theorem ownership_all_or_nothing {nodeId : Bytes} {calls : List RuntimeCall}
    (undoable : machine.Along UndoableCall { nodeId } calls) (env : RuntimeEnv) (snapshot : ServerStubOwnershipSync) :
    AllOrNothing (machine.run { nodeId } calls).1 snapshot
        ((machine.run { nodeId } calls).1.applyOwnership env snapshot) ↔
      (machine.run { nodeId } calls).1.Undoable env snapshot := by
  have settled := @Machine.run_invariant _ _ _ machine UndoableCall Settled call_settled { nodeId } calls
    (Settled.start nodeId) undoable
  constructor
  · exact Undoable.of_allOrNothing settled
  · intro allowed
    exact (AllOrNothing.of_undoable settled allowed).2

/-- The second time the constructors draw other ids. -/
def sampleLaterEnv : RuntimeEnv where
  newGuid n := text "00000000-0000-4000-8000-00000000000" ++ [49 + UInt8.ofNat n]

/-- The `OnlineStub` is assigned to Game0 twice. -/
def sampleRepeated : ServerStubOwnershipSync where
  assignmentEpoch := 2
  statusFlags := 0
  assignments :=
    [⟨onlineStubType, unknownServerEntityId, text "Game0", 0⟩, ⟨onlineStubType, unknownServerEntityId, text "Game0", 0⟩]
  serverNowUnixMs := 2000

def sampleApplied : List RuntimeCall := [.applyOwnership sampleRuntimeEnv (some sampleSnapshot)]

theorem sampleApplied_undoable : machine.Along UndoableCall { nodeId := text "Game0" } sampleApplied := by
  have types : ((nextOwnedAssignments { nodeId := text "Game0" } sampleSnapshot).map (·.entityType)).Nodup := by
    decide +kernel
  exact ⟨.inl types, trivial⟩

/-- The same assignments under the next epoch. -/
theorem ownership_all_or_nothing_sample :
    AllOrNothing (machine.run { nodeId := text "Game0" } sampleApplied).1 { sampleSnapshot with assignmentEpoch := 2 }
      ((machine.run { nodeId := text "Game0" } sampleApplied).1.applyOwnership sampleLaterEnv
        { sampleSnapshot with assignmentEpoch := 2 }) := by
  have types : (((machine.run { nodeId := text "Game0" } sampleApplied).1.nextOwnedAssignments
      { sampleSnapshot with assignmentEpoch := 2 }).map (·.entityType)).Nodup := by
    decide +kernel
  exact (ownership_all_or_nothing sampleApplied_undoable sampleLaterEnv _).mpr (.inl types)

/-- The call fails, and the stub that Game0 had is gone. -/
theorem repeated_type_destroys_stub :
    ¬ AllOrNothing (machine.run { nodeId := text "Game0" } sampleApplied).1 sampleRepeated
        ((machine.run { nodeId := text "Game0" } sampleApplied).1.applyOwnership sampleLaterEnv sampleRepeated) ∧
      (machine.run { nodeId := text "Game0" } sampleApplied).1.entities = [sampleRuntimeEnv.newGuid 0] ∧
      ((machine.run { nodeId := text "Game0" } sampleApplied).1.applyOwnership sampleLaterEnv
        sampleRepeated).state.entities = [sampleLaterEnv.newGuid 0, sampleLaterEnv.newGuid 1] := by
  have before : (machine.run { nodeId := text "Game0" } sampleApplied).1.entities = [sampleRuntimeEnv.newGuid 0] := by
    decide +kernel
  have after : ((machine.run { nodeId := text "Game0" } sampleApplied).1.applyOwnership sampleLaterEnv
      sampleRepeated).state.entities = [sampleLaterEnv.newGuid 0, sampleLaterEnv.newGuid 1] := by
    decide +kernel
  have failed : ((machine.run { nodeId := text "Game0" } sampleApplied).1.applyOwnership sampleLaterEnv
      sampleRepeated).result ≠ 0 := by
    decide +kernel
  refine ⟨?_, before, after⟩
  rintro (⟨succeeded, -⟩ | ⟨-, same⟩)
  · exact failed succeeded
  · rw [same, before] at after
    simp at after

end GameNodeRuntimeState
end XServer.Managed
