import XServer.Lib.Machine
import XServer.Managed.AvatarSpawn

/-!
# The collections of the managed runtime

`GameNodeRuntimeState` keeps its entities four times: by id in the entity manager,
the owned stubs in order and by type, and the avatars by id. What holds between them
after any calls of `ApplyOwnership`, `ResetOwnership` and `TryCreateAvatarEntity`.
-/

namespace XServer.Managed
open XServer.Lib XServer.Lib.Wire XServer.Net XServer.Node

namespace GameNodeRuntimeState

/-- `ResetOwnership`. -/
def resetOwnership (state : GameNodeRuntimeState) : GameNodeRuntimeState :=
  { state with
    entities := state.unregisterOwned state.entities, ownedServerStubs := [], ownedServerStubsByType := ∅
    ownershipAssignments := [], assignmentEpoch := 0 }

/-- A call with what its surroundings answer; a snapshot may be null. -/
inductive RuntimeCall where
  | applyOwnership (env : RuntimeEnv) (snapshot : Option ServerStubOwnershipSync)
  | resetOwnership
  | tryCreateAvatarEntity (transport : Transport) (request : AvatarEntitySpawnRequest)

/-- The state after a call, and whether the call reports success. -/
def call (state : GameNodeRuntimeState) : RuntimeCall → GameNodeRuntimeState × Bool
  | .applyOwnership _ none => (state, false)
  | .applyOwnership env (some snapshot) =>
    let applied := state.applyOwnership env snapshot
    (applied.state, applied.result == 0)
  | .resetOwnership => (state.resetOwnership, true)
  | .tryCreateAvatarEntity transport request =>
    let spawned := state.tryCreateAvatarEntity transport request
    (spawned.state, spawned.result.isOk)

def machine : Machine GameNodeRuntimeState RuntimeCall Bool where
  step state input := ((state.call input).1, [(state.call input).2])

/-- The types that a snapshot gives to this node are distinct. -/
def DistinctTypes (nodeId : Bytes) : RuntimeCall → Prop
  | .applyOwnership _ (some snapshot) =>
    ((snapshot.assignments.filter fun assignment => assignment.ownerGameNodeId == nodeId).map (·.entityType)).Nodup
  | _ => True

/-- The collections agree. -/
structure Consistent (state : GameNodeRuntimeState) : Prop where
  /-- What is registered are the owned stubs and the avatars, -/
  registered : ∀ id, id ∈ state.entities ↔
    (∃ stub ∈ state.ownedServerStubs, stub.entityId = id) ∨ ∃ avatar, state.avatarsByEntityId[id]? = some avatar
  /-- under ids that no two of them share. -/
  nodup : state.entities.Nodup
  stubIds : (state.ownedServerStubs.map (·.entityId)).Nodup
  apart : ∀ stub ∈ state.ownedServerStubs, state.avatarsByEntityId[stub.entityId]? = none
  indexed : ∀ entityType id, state.ownedServerStubsByType[entityType]? = some id ↔
    ∃ stub ∈ state.ownedServerStubs, stub.entityType = entityType ∧ stub.entityId = id
  stubTypes : (state.ownedServerStubs.map (·.entityType)).Nodup
  owned : state.ownedServerStubs.map (·.entityType) =
    (state.ownershipAssignments.filter fun assignment => assignment.ownerGameNodeId == state.nodeId).map (·.entityType)
  avatars : ∀ (id : Guid) (avatar : AvatarEntity), state.avatarsByEntityId[id]? = some avatar →
    avatar.entityId = id ∧ avatar.proxy.entityId = id

theorem start_consistent (nodeId : Bytes) : Consistent { nodeId } where
  registered := by simp
  nodup := List.nodup_nil
  stubIds := List.nodup_nil
  apart := by simp
  indexed := by simp
  stubTypes := List.nodup_nil
  owned := rfl
  avatars := by simp

/-! ## Stubs out of the entity manager -/

section
variable {state : GameNodeRuntimeState}

theorem mem_unregisterOwned {entities : List Guid} {id : Guid} :
    id ∈ state.unregisterOwned entities ↔ id ∈ entities ∧ ∀ stub ∈ state.ownedServerStubs, stub.entityId ≠ id := by
  unfold unregisterOwned
  rw [List.mem_filter]
  simp

/-- Without its stubs the entity manager has the avatars. -/
theorem Consistent.mem_avatars (h : Consistent state) {id : Guid} :
    id ∈ state.unregisterOwned state.entities ↔ ∃ avatar, state.avatarsByEntityId[id]? = some avatar := by
  rw [mem_unregisterOwned, h.registered]
  constructor
  · rintro ⟨⟨stub, mem, same⟩ | held, none⟩
    · exact absurd same (none stub mem)
    · exact held
  · rintro ⟨avatar, held⟩
    refine ⟨.inr ⟨avatar, held⟩, fun stub mem same => ?_⟩
    rw [← same, h.apart stub mem] at held
    cases held

theorem Consistent.reset (h : Consistent state) : Consistent state.resetOwnership where
  registered id := by simpa [resetOwnership] using h.mem_avatars
  nodup := h.nodup.filter _
  stubIds := List.nodup_nil
  apart := by simp [resetOwnership]
  indexed := by simp [resetOwnership]
  stubTypes := List.nodup_nil
  owned := rfl
  avatars := h.avatars

/-! ## New stubs -/

theorem registerStubs_some {entities joined : List Guid} {stubs : List ServerStub}
    (h : registerStubs entities stubs = some joined) : joined = entities ++ stubs.map (·.entityId) := by
  induction stubs generalizing entities with
  | nil =>
    cases h
    simp
  | cons stub rest ih =>
    rw [registerStubs] at h
    split at h
    · cases h
    · rw [ih h, List.append_assoc]
      rfl

theorem createStubs_fresh {env : RuntimeEnv} {entities : List Guid} {assignments : List ServerStubOwnershipEntry}
    {created stubs : List ServerStub} (fresh : ∀ stub ∈ created, stub.entityId ∉ entities)
    (h : createStubs env entities assignments created = .ok stubs) : ∀ stub ∈ stubs, stub.entityId ∉ entities := by
  induction assignments generalizing created with
  | nil =>
    cases h
    exact fresh
  | cons assignment rest ih =>
    rw [createStubs] at h
    split at h
    · cases h
    · cases h
    · simp only at h
      split at h
      · cases h
      · rename_i new
        refine ih (fun stub mem => ?_) h
        rcases List.mem_append.mp mem with old | single
        · exact fresh stub old
        · rw [List.mem_singleton.mp single]
          intro known
          exact new (by simp [known])

theorem get_addByType_of_mem {stubs : List ServerStub} {table : Table Bytes Guid} (done : (addByType table stubs).2 = true)
    {stub : ServerStub} (mem : stub ∈ stubs) : (addByType table stubs).1[stub.entityType]? = some stub.entityId := by
  have kept : ∀ {stubs : List ServerStub} {table : Table Bytes Guid} {entityType : Bytes} {id : Guid},
      table[entityType]? = some id → (addByType table stubs).1[entityType]? = some id := by
    intro stubs
    induction stubs with
    | nil => exact fun listed => listed
    | cons first rest ih =>
      intro table entityType id listed
      rw [addByType]
      split
      · exact listed
      · rename_i absent
        refine ih ?_
        rw [Table.get_insert_of_ne, listed]
        rintro rfl
        rw [Bool.not_eq_true, ← Std.ExtTreeMap.isSome_getElem?_eq_contains, listed] at absent
        cases absent
  induction stubs generalizing table with
  | nil => cases mem
  | cons first rest ih =>
    rw [addByType] at done ⊢
    split at done
    · cases done
    · rename_i absent
      rw [if_neg absent]
      rcases List.mem_cons.mp mem with rfl | later
      · exact kept (Table.get_insert_self _ _ _)
      · exact ih done later

/-- The new stubs are registered beside the avatars and listed by their types. -/
theorem Consistent.replaced (h : Consistent state) {env : RuntimeEnv} {snapshot : ServerStubOwnershipSync}
    {created : List ServerStub} {joined : List Guid}
    (made : createStubs env state.entities (state.nextOwnedAssignments snapshot) [] = .ok created)
    (registered : registerStubs state.entities created = some joined)
    (distinct : ((state.nextOwnedAssignments snapshot).map (·.entityType)).Nodup) :
    Consistent (state.replaceOwned snapshot joined created).state ∧ (state.replaceOwned snapshot joined created).result = 0 := by
  have fresh := createStubs_fresh (by simp) made
  have ids := createStubs_nodup (by simp) made
  have types : created.map (·.entityType) = (state.nextOwnedAssignments snapshot).map (·.entityType) := by
    have new : created = freshStubs env (state.nextOwnedAssignments snapshot) := by
      simpa [freshStubs] using createStubs_ok made
    rw [new, map_entityType_freshStubs]
  rw [← types] at distinct
  have done := @addByType_distinct created ∅ distinct (by simp)
  obtain rfl := registerStubs_some registered
  have keys : (created.map fun stub => { stub with isReady := true }).map (·.entityId) = created.map (·.entityId) := by
    simp
  have kinds : (created.map fun stub => { stub with isReady := true }).map (·.entityType) = created.map (·.entityType) := by
    simp
  have members (id : Guid) : id ∈ state.unregisterOwned (state.entities ++ created.map (·.entityId)) ↔
      (∃ stub ∈ created, stub.entityId = id) ∨ ∃ avatar, state.avatarsByEntityId[id]? = some avatar := by
    rw [← h.mem_avatars, mem_unregisterOwned, mem_unregisterOwned, List.mem_append, List.mem_map]
    constructor
    · rintro ⟨old | new, none⟩
      · exact .inr ⟨old, none⟩
      · exact .inl new
    · rintro (⟨stub, mem, same⟩ | ⟨old, none⟩)
      · refine ⟨.inr ⟨stub, mem, same⟩, fun other owned equal => ?_⟩
        -- the id of an owned stub is in the entity manager, a new one is not
        refine fresh stub mem ((h.registered _).mpr (.inl ⟨other, owned, ?_⟩))
        rw [same, equal]
      · exact ⟨.inl old, none⟩
  unfold replaceOwned
  simp only
  cases added : addByType ∅ created with
  | mk byType complete =>
    rw [added] at done
    obtain rfl : complete = true := done
    refine ⟨?_, rfl⟩
    exact {
      registered := fun id => by simpa using members id
      nodup := by
        have apart : (state.entities ++ created.map (·.entityId)).Nodup := by
          refine List.nodup_append.mpr ⟨h.nodup, ids, fun id old other new same => ?_⟩
          obtain ⟨stub, mem, rfl⟩ := List.mem_map.mp new
          exact fresh stub mem (same ▸ old)
        exact apart.filter _
      stubIds := by rwa [keys]
      apart := by
        intro stub mem
        obtain ⟨new, listed, rfl⟩ := List.mem_map.mp mem
        cases held : state.avatarsByEntityId[new.entityId]? with
        | none => rfl
        | some avatar => exact absurd ((h.registered _).mpr (.inr ⟨avatar, held⟩)) (fresh new listed)
      indexed := by
        intro entityType id
        have listed : byType[entityType]? = some id ↔
            ∃ stub ∈ created, stub.entityType = entityType ∧ stub.entityId = id := by
          have table : (addByType ∅ created).1 = byType := by rw [added]
          rw [← table]
          constructor
          · intro get
            rcases get_addByType get with nothing | found
            · simp at nothing
            · exact found
          · rintro ⟨stub, mem, rfl, rfl⟩
            exact get_addByType_of_mem (by rw [added]) mem
        simpa using listed
      stubTypes := by rwa [kinds]
      owned := by
        rw [kinds, types]
        rfl
      avatars := h.avatars }

theorem Consistent.kept (h : Consistent state) {snapshot : ServerStubOwnershipSync}
    (same : state.hasEquivalentLocalOwnership (state.nextOwnedAssignments snapshot) = true) :
    Consistent { state with ownershipAssignments := snapshot.assignments } :=
  { h with owned := beq_iff_eq.mp same }

/-- `ApplyOwnership` succeeds and keeps the collections consistent, or fails and leaves the state. -/
theorem Consistent.applied (h : Consistent state) (env : RuntimeEnv) {snapshot : ServerStubOwnershipSync}
    (distinct : ((state.nextOwnedAssignments snapshot).map (·.entityType)).Nodup) :
    Consistent (state.applyOwnership env snapshot).state ∧
      ((state.applyOwnership env snapshot).result ≠ 0 → (state.applyOwnership env snapshot).state = state) := by
  unfold applyOwnership
  simp only
  split
  · rename_i kept
    rw [Bool.and_eq_true] at kept
    exact ⟨h.kept kept.2, fun failed => absurd rfl failed⟩
  · split
    · exact ⟨h, fun _ => rfl⟩
    · rename_i created made
      split
      · exact ⟨h, fun _ => rfl⟩
      · rename_i joined registered
        obtain ⟨consistent, succeeded⟩ := h.replaced made registered distinct
        exact ⟨consistent, fun failed => absurd succeeded failed⟩

/-! ## Avatars -/

theorem Consistent.online (h : Consistent state) : state.OnlineTyped := by
  intro id listed
  obtain ⟨stub, mem, typed, rfl⟩ := (h.indexed _ _).mp listed
  refine ⟨stub, ?_, typed⟩
  unfold onlineStub
  rw [listed, Option.bind_some]
  exact find_of_nodup h.stubIds mem

/-- A registration with the `OnlineStub` leaves the entity manager. -/
theorem tryRegister_entities (transport : Transport) (sourceId : Guid) (registration : OnlineAvatarRegistration) :
    (state.tryRegisterAvatarWithOnlineStub transport sourceId registration).state.entities = state.entities := by
  have called (id : Guid) : (state.callEntity id registration).1.entities = state.entities := by
    unfold callEntity
    split <;> rfl
  have dispatched : (state.dispatchStubCall transport sourceId registration).state.entities = state.entities := by
    unfold dispatchStubCall
    split
    · rfl
    · split
      · exact called _
      · split
        · rfl
        · split
          · rfl
          · split <;> rfl
  unfold tryRegisterAvatarWithOnlineStub
  split
  · rfl
  · simp only
    split <;> exact dispatched

/-- What a spawn that succeeds adds: a proxy of the avatar's id, and the id of an avatar that was not there. -/
theorem tryCreateAvatarEntity_ok {transport : Transport} {request : AvatarEntitySpawnRequest} {avatar : AvatarEntity}
    (h : (state.tryCreateAvatarEntity transport request).result = .ok avatar) :
    avatar.proxy.entityId = avatar.entityId ∧
      (((∃ held, state.avatarsByEntityId[request.entityId]? = some held) ∧
          (state.tryCreateAvatarEntity transport request).state.entities = state.entities) ∨
        (request.entityId ∉ state.entities ∧
          (state.tryCreateAvatarEntity transport request).state.entities = state.entities ++ [request.entityId])) := by
  unfold tryCreateAvatarEntity at h ⊢
  split at h
  · cases h
  rename_i complete
  rw [if_neg complete]
  split at h
  · rename_i existing held
    simp only [held]
    split at h
    · cases h
    rename_i account
    rw [if_neg account]
    simp only at h ⊢
    split at h
    · cases h
    cases h
    exact ⟨rfl, .inl ⟨⟨existing, rfl⟩, tryRegister_entities ..⟩⟩
  · rename_i absent
    simp only [absent] at h ⊢
    split at h
    · cases h
    rename_i unknown
    rw [if_neg unknown]
    split at h
    · cases h
    cases h
    exact ⟨rfl, .inr ⟨fun mem => unknown (List.contains_iff_mem.mpr mem), tryRegister_entities ..⟩⟩

/-- The stubs are the same but for the avatars registered with them. -/
def SameStubs (before after : List ServerStub) : Prop :=
  List.Forall₂ (fun old new => new.entityType = old.entityType ∧ new.entityId = old.entityId) before after

theorem SameStubs.refl (stubs : List ServerStub) : SameStubs stubs stubs := List.forall₂_same.mpr fun _ _ => ⟨rfl, rfl⟩

theorem Reaches.sameStubs {registration : OnlineAvatarRegistration} {stubs : List ServerStub}
    {forwarded : Option ForwardedCall} (reaches : Reaches state registration stubs forwarded) :
    SameStubs state.ownedServerStubs stubs := by
  cases reaches with
  | here found same =>
    rename_i stub
    obtain ⟨-, listed⟩ := onlineStub_some found
    obtain ⟨front, back, before, after⟩ := modifyFirst_split listed fun _ => stub.register registration
    have updated : state.withStub (stub.register registration) = front ++ stub.register registration :: back := after
    rw [updated, before]
    exact List.rel_append (SameStubs.refl front) (.cons ⟨rfl, rfl⟩ (SameStubs.refl back))
  | away => exact .refl _

namespace SameStubs

variable {before after : List ServerStub}

theorem mem (same : SameStubs before after) {stub : ServerStub} (mem : stub ∈ after) :
    ∃ old ∈ before, stub.entityType = old.entityType ∧ stub.entityId = old.entityId := by
  obtain ⟨i, bound, rfl⟩ := List.getElem_of_mem mem
  have old : i < before.length := by
    rw [same.length_eq]
    exact bound
  exact ⟨before[i], List.getElem_mem old, same.get old bound⟩

theorem mem_back (same : SameStubs before after) {stub : ServerStub} (mem : stub ∈ before) :
    ∃ new ∈ after, new.entityType = stub.entityType ∧ new.entityId = stub.entityId := by
  obtain ⟨i, bound, rfl⟩ := List.getElem_of_mem mem
  have new : i < after.length := by
    rw [← same.length_eq]
    exact bound
  exact ⟨after[i], List.getElem_mem new, same.get bound new⟩

theorem map_eq (same : SameStubs before after) {α : Type} (f : ServerStub → α)
    (only : ∀ old new : ServerStub, new.entityType = old.entityType ∧ new.entityId = old.entityId → f new = f old) :
    after.map f = before.map f := by
  induction same with
  | nil => rfl
  | cons head tail ih => rw [List.map_cons, List.map_cons, ih, only _ _ head]

end SameStubs

theorem Consistent.sameStubs (h : Consistent state) {stubs : List ServerStub}
    (same : SameStubs state.ownedServerStubs stubs) : Consistent { state with ownedServerStubs := stubs } where
  registered id := by
    rw [h.registered]
    refine or_congr_left ⟨fun ⟨stub, mem, equal⟩ => ?_, fun ⟨stub, mem, equal⟩ => ?_⟩
    · obtain ⟨new, listed, -, id⟩ := same.mem_back mem
      exact ⟨new, listed, id.trans equal⟩
    · obtain ⟨old, listed, -, id⟩ := same.mem mem
      exact ⟨old, listed, id.symm.trans equal⟩
  nodup := h.nodup
  stubIds := by
    rw [same.map_eq _ fun _ _ equal => equal.2]
    exact h.stubIds
  apart stub mem := by
    obtain ⟨old, listed, -, id⟩ := same.mem mem
    rw [id]
    exact h.apart old listed
  indexed entityType id := by
    rw [h.indexed]
    refine ⟨fun ⟨stub, mem, typed, equal⟩ => ?_, fun ⟨stub, mem, typed, equal⟩ => ?_⟩
    · obtain ⟨new, listed, sameType, sameId⟩ := same.mem_back mem
      exact ⟨new, listed, sameType.trans typed, sameId.trans equal⟩
    · obtain ⟨old, listed, sameType, sameId⟩ := same.mem mem
      exact ⟨old, listed, sameType.symm.trans typed, sameId.symm.trans equal⟩
  stubTypes := by
    rw [same.map_eq _ fun _ _ equal => equal.1]
    exact h.stubTypes
  owned := by
    rw [same.map_eq _ fun _ _ equal => equal.1]
    exact h.owned
  avatars := h.avatars

/-- An avatar under its id, in the place of the one that is held or beside the others. -/
theorem Consistent.withAvatar (h : Consistent state) {avatar : AvatarEntity} {id : Guid} {entities : List Guid}
    (keyed : avatar.entityId = id) (proxied : avatar.proxy.entityId = id)
    (joined : ((∃ held, state.avatarsByEntityId[id]? = some held) ∧ entities = state.entities) ∨
      (id ∉ state.entities ∧ entities = state.entities ++ [id])) :
    Consistent { state with entities, avatarsByEntityId := state.avatarsByEntityId.insert id avatar } := by
  have noStub : ∀ stub ∈ state.ownedServerStubs, stub.entityId ≠ id := by
    rintro stub mem rfl
    rcases joined with ⟨⟨held, found⟩, -⟩ | ⟨unknown, -⟩
    · rw [h.apart stub mem] at found
      cases found
    · exact unknown ((h.registered _).mpr (.inl ⟨stub, mem, rfl⟩))
  have listed (other : Guid) : other ∈ entities ↔ other ∈ state.entities ∨ other = id := by
    rcases joined with ⟨found, rfl⟩ | ⟨-, rfl⟩
    · refine ⟨.inl, fun either => either.elim (fun mem => mem) ?_⟩
      rintro rfl
      exact (h.registered _).mpr (.inr found)
    · rw [List.mem_append, List.mem_singleton]
  exact { h with
    registered := fun other => by
      rw [listed, h.registered, Table.get_insert]
      by_cases same : id = other
      · rw [if_pos same]
        exact iff_of_true (.inr same.symm) (.inr ⟨avatar, rfl⟩)
      · rw [if_neg same, or_iff_left (Ne.symm same)]
    nodup := by
      rcases joined with ⟨-, rfl⟩ | ⟨unknown, rfl⟩
      · exact h.nodup
      · refine List.nodup_append.mpr ⟨h.nodup, by simp, fun old mem other single => ?_⟩
        rw [List.mem_singleton.mp single]
        rintro rfl
        exact unknown mem
    apart := fun stub mem => by
      rw [Table.get_insert_of_ne _ _ (Ne.symm (noStub stub mem))]
      exact h.apart stub mem
    avatars := fun other found held => by
      rw [Table.get_insert] at held
      split at held
      · rename_i same
        cases held
        exact same ▸ ⟨keyed, proxied⟩
      · exact h.avatars other found held }

/-- `TryCreateAvatarEntity` keeps the collections consistent, and leaves the state where it fails. -/
theorem Consistent.spawned (h : Consistent state) (transport : Transport) (request : AvatarEntitySpawnRequest) :
    Consistent (state.tryCreateAvatarEntity transport request).state ∧
      (state.tryCreateAvatarEntity transport request).state.nodeId = state.nodeId ∧
        ((state.tryCreateAvatarEntity transport request).result.isOk = false →
          (state.tryCreateAvatarEntity transport request).state = state) := by
  have outcome := tryCreateAvatarEntity_outcome h.online (fun id avatar held => (h.avatars id avatar held).1) transport request
  have added (avatar : AvatarEntity) := @tryCreateAvatarEntity_ok state transport request avatar
  generalize state.tryCreateAvatarEntity transport request = spawned at outcome added ⊢
  cases outcome with
  | refused error => exact ⟨h, rfl, fun _ => rfl⟩
  | accepted complete same id account valid registers reaches =>
    rename_i entities stubs forwarded avatar
    refine ⟨?_, rfl, fun failed => by cases failed⟩
    obtain ⟨proxied, joined⟩ := added avatar rfl
    exact (h.sameStubs reaches.sameStubs).withAvatar id (proxied.trans id) joined

end

/-! ## Runs -/

theorem applyOwnership_nodeId (state : GameNodeRuntimeState) (env : RuntimeEnv) (snapshot : ServerStubOwnershipSync) :
    (state.applyOwnership env snapshot).state.nodeId = state.nodeId := by
  unfold applyOwnership
  simp only
  split
  · rfl
  · split
    · rfl
    · split
      · rfl
      · unfold replaceOwned
        simp only
        split <;> rfl

theorem call_consistent {nodeId : Bytes} {state : GameNodeRuntimeState} (h : Consistent state ∧ state.nodeId = nodeId)
    {input : RuntimeCall} (distinct : DistinctTypes nodeId input) :
    (Consistent (state.call input).1 ∧ (state.call input).1.nodeId = nodeId) ∧
      ((state.call input).2 = false → (state.call input).1 = state) := by
  obtain ⟨h, rfl⟩ := h
  cases input with
  | applyOwnership env snapshot =>
    cases snapshot with
    | none => exact ⟨⟨h, rfl⟩, fun _ => rfl⟩
    | some snapshot =>
      obtain ⟨consistent, unchanged⟩ := h.applied env distinct
      refine ⟨⟨consistent, applyOwnership_nodeId state env snapshot⟩, fun failed => unchanged ?_⟩
      simpa [call] using failed
  | resetOwnership => exact ⟨⟨h.reset, rfl⟩, fun failed => by cases failed⟩
  | tryCreateAvatarEntity transport request =>
    obtain ⟨consistent, node, unchanged⟩ := h.spawned transport request
    exact ⟨⟨consistent, node⟩, unchanged⟩

/-- After any calls the collections agree, and the next call leaves everything where it reports failure. -/
theorem runtime_consistent {nodeId : Bytes} {calls : List RuntimeCall} {next : RuntimeCall}
    (distinct : ∀ input ∈ calls ++ [next], DistinctTypes nodeId input) :
    Consistent (machine.run { nodeId } calls).1 ∧
      (((machine.run { nodeId } calls).1.call next).2 = false →
        ((machine.run { nodeId } calls).1.call next).1 = (machine.run { nodeId } calls).1) := by
  rw [List.forall_mem_append, List.forall_mem_singleton] at distinct
  have reached := @Machine.run_invariant _ _ _ machine (fun _ => DistinctTypes nodeId)
    (fun state => Consistent state ∧ state.nodeId = nodeId) (fun _ _ h allowed => (call_consistent h allowed).1) { nodeId }
    calls ⟨start_consistent nodeId, rfl⟩ (Machine.along_of_forall _ distinct.1)
  exact ⟨reached.1, (call_consistent reached distinct.2).2⟩

def sampleRuntimeEnv : RuntimeEnv where
  newGuid n := text "00000000-0000-4000-8000-00000000000" ++ [48 + UInt8.ofNat n]

/-- Game0 owns the `OnlineStub`, Game1 the `MatchStub`. -/
def sampleSnapshot : ServerStubOwnershipSync where
  assignmentEpoch := 1
  statusFlags := 0
  assignments :=
    [⟨onlineStubType, unknownServerEntityId, text "Game0", 0⟩, ⟨matchStubType, unknownServerEntityId, text "Game1", 0⟩]
  serverNowUnixMs := 1000

def sampleRequest (accountId : Bytes) : AvatarEntitySpawnRequest where
  entityId := text "11111111-0000-4000-8000-000000000000"
  accountId := accountId
  routeGateNodeId := text "Gate0"
  sessionId := 42

def sampleCalls : List RuntimeCall :=
  [.applyOwnership sampleRuntimeEnv (some sampleSnapshot), .tryCreateAvatarEntity .absent (sampleRequest (text "alpha"))]

/-- The avatar of one account is asked for under another. -/
theorem runtime_consistent_sample :
    Consistent (machine.run { nodeId := text "Game0" } sampleCalls).1 ∧
      (machine.run { nodeId := text "Game0" } sampleCalls).1.entities.length = 2 ∧
      ((machine.run { nodeId := text "Game0" } sampleCalls).1.call
        (.tryCreateAvatarEntity .absent (sampleRequest (text "beta")))).1 =
          (machine.run { nodeId := text "Game0" } sampleCalls).1 := by
  have distinct : ∀ input ∈ sampleCalls ++ [.tryCreateAvatarEntity .absent (sampleRequest (text "beta"))],
      DistinctTypes (text "Game0") input := by
    have types : ((sampleSnapshot.assignments.filter fun assignment => assignment.ownerGameNodeId == text "Game0").map
        (·.entityType)).Nodup := by
      decide +kernel
    simp [sampleCalls, DistinctTypes, types]
  have consistent := runtime_consistent distinct
  exact ⟨consistent.1, by decide +kernel, consistent.2 (by decide +kernel)⟩

end GameNodeRuntimeState
end XServer.Managed
