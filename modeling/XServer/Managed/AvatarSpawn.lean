import XServer.Managed.RuntimeState
import XServer.Net.Relay
import XServer.Node.GmNode

/-!
# Spawning avatars

`TryCreateAvatarEntity` and the registration with the `OnlineStub` it makes: the
call reaches the stub at once when this Game owns it, and is handed to the
transport otherwise. The JSON text of a registration is taken as the record it
stands for; a stub call is always the registration call, whose id is not zero.
-/

namespace XServer.Managed
open XServer.Lib XServer.Lib.Wire XServer.Net XServer.Node

/-- `Guid.Empty`. -/
def guidEmpty : Guid := text "00000000-0000-0000-0000-000000000000"

/-- `nameof(OnlineStub)`. -/
def onlineStubType : Bytes := text "OnlineStub"

/-- `nameof(MatchStub)`. -/
def matchStubType : Bytes := text "MatchStub"

structure AvatarEntitySpawnRequest where
  entityId : Guid
  accountId : Bytes
  routeGateNodeId : Bytes
  sessionId : UInt64
  deriving DecidableEq, Repr

/-- The first check of `TryCreateAvatarEntity`. -/
def AvatarEntitySpawnRequest.incomplete (request : AvatarEntitySpawnRequest) : Bool :=
  isNullOrWhiteSpace request.accountId || request.entityId == guidEmpty ||
    isNullOrWhiteSpace request.routeGateNodeId || request.sessionId == 0

/-- What `Encode` throws on and `TryDecode` refuses. -/
def OnlineAvatarRegistration.incomplete (registration : OnlineAvatarRegistration) : Bool :=
  isNullOrWhiteSpace registration.accountId || registration.entityId == guidEmpty || registration.sessionId == 0 ||
    isNullOrWhiteSpace registration.gateNodeId || isNullOrWhiteSpace registration.gameNodeId ||
    registration.proxy.entityId != registration.entityId || isNullOrWhiteSpace registration.proxy.routeGateNodeId

/-- `StubCallErrorCode`, without `None`. -/
inductive StubCallErrorCode where
  | invalidArgument
  | invalidMessageId
  | unknownTargetStub
  | targetNodeUnavailable
  | stubRejected
  deriving DecidableEq, Repr

/-- `StubCallError.Message`. -/
def StubCallErrorCode.message : StubCallErrorCode → Bytes
  | .invalidArgument => text "Stub call argument is invalid."
  | .invalidMessageId => text "Stub call msgId must not be zero."
  | .unknownTargetStub => text "Stub call target type is unknown or has no owner."
  | .targetNodeUnavailable => text "Stub call target node is unavailable."
  | .stubRejected => text "Target stub rejected the incoming call."

/-- `MailboxCallErrorCode`, without `None`. -/
inductive MailboxCallErrorCode where
  | invalidArgument
  | invalidMessageId
  | unknownTargetMailbox
  | targetNodeUnavailable
  | mailboxRejected
  deriving DecidableEq, Repr

/-- `ToStubCallErrorCode`. -/
def MailboxCallErrorCode.toStubCallErrorCode : MailboxCallErrorCode → StubCallErrorCode
  | .invalidArgument => .invalidArgument
  | .invalidMessageId => .invalidMessageId
  | .unknownTargetMailbox => .unknownTargetStub
  | .targetNodeUnavailable => .targetNodeUnavailable
  | .mailboxRejected => .stubRejected

/-- A registration call on its way through a Gate. -/
structure ForwardedCall where
  targetGameNodeId : Bytes
  targetEntityId : Bytes
  registration : OnlineAvatarRegistration
  deriving DecidableEq, Repr

/-- `IServerEntityMessageTransport`: absent, or what it answers to a call. -/
inductive Transport where
  | absent
  | answers (result : Option MailboxCallErrorCode)
  deriving DecidableEq, Repr

/-! ## The stub -/

namespace ServerStub

/-- The stub with one more registration. -/
def register (stub : ServerStub) (registration : OnlineAvatarRegistration) : ServerStub :=
  { stub with registeredAvatars := stub.registeredAvatars.insert registration.entityId registration }

/-- `HandleRegisterOnlineAvatar`. -/
def handleRegisterOnlineAvatar (stub : ServerStub) (registration : OnlineAvatarRegistration) :
    ServerStub × Option StubCallErrorCode :=
  if registration.incomplete then (stub, some .invalidArgument)
  else if (stub.registeredAvatars[registration.entityId]?).any (·.accountId != registration.accountId) then
    (stub, some .stubRejected)
  else (stub.register registration, none)

/-- `OnStubCall` of the class of the stub: a `MatchStub` takes every call, the
other classes keep the base method, which refuses. -/
def receiveStubCall (stub : ServerStub) (registration : OnlineAvatarRegistration) :
    ServerStub × Option StubCallErrorCode :=
  if stub.entityType = onlineStubType then stub.handleRegisterOnlineAvatar registration
  else if stub.entityType = matchStubType then (stub, none)
  else (stub, some .stubRejected)

end ServerStub

/-- `AvatarEntity.RebindProxy`. -/
def AvatarEntity.rebindProxy (avatar : AvatarEntity) (routeGateNodeId : Bytes) : AvatarEntity :=
  { avatar with proxy := ⟨avatar.entityId, routeGateNodeId⟩ }

/-- A new avatar after `BindIdentity`. -/
def AvatarEntity.bindIdentity (entityId : Guid) (accountId routeGateNodeId : Bytes) : AvatarEntity :=
  { entityId, accountId, proxy := ⟨entityId, routeGateNodeId⟩ }

namespace GameNodeRuntimeState

/-- `ReceiveMailboxCall` of the entity with this id. What is not a stub is an
avatar, and an avatar is migratable and refuses. -/
def callEntity (state : GameNodeRuntimeState) (id : Guid) (registration : OnlineAvatarRegistration) :
    GameNodeRuntimeState × Option StubCallErrorCode :=
  match state.ownedServerStubs.find? (·.entityId == id) with
  | none => (state, some .stubRejected)
  | some stub =>
    let called := stub.receiveStubCall registration
    ({ state with ownedServerStubs := modifyFirst (·.entityId == id) (fun _ => called.1) state.ownedServerStubs },
      called.2)

/-- `ReceiveMailboxCall` with the name of the stub class, which is no GUID. -/
def receiveMailboxCall (state : GameNodeRuntimeState) (call : ForwardedCall) :
    GameNodeRuntimeState × Option StubCallErrorCode :=
  if call.targetEntityId ≠ [] && state.entities.contains call.targetEntityId then
    state.callEntity call.targetEntityId call.registration
  else
    match state.ownedServerStubsByType[onlineStubType]? with
    | none => (state, some .unknownTargetStub)
    | some id => state.callEntity id call.registration

/-! ## The caller -/

/-- The first assignment of the `OnlineStub`. -/
def onlineAssignment (state : GameNodeRuntimeState) : Option ServerStubOwnershipEntry :=
  state.ownershipAssignments.find? (·.entityType == onlineStubType)

/-- The call as `ForwardManagedStubCall` addresses it. The native node looks the
type up once more, in the assignments it has handed to this runtime. -/
def forwardedCall (assignment : ServerStubOwnershipEntry) (registration : OnlineAvatarRegistration) : ForwardedCall where
  targetGameNodeId := assignment.ownerGameNodeId
  targetEntityId :=
    if assignment.entityId ≠ unknownServerEntityId ∧ isCanonicalGuidText assignment.entityId = true then
      assignment.entityId
    else []
  registration := registration

/-- What `DispatchStubCall` did. -/
structure Dispatched where
  state : GameNodeRuntimeState
  result : Option StubCallErrorCode := none
  failureMessage : Bytes := []
  forwarded : Option ForwardedCall := none

def dispatchStubCall (state : GameNodeRuntimeState) (transport : Transport) (sourceId : Guid)
    (registration : OnlineAvatarRegistration) : Dispatched :=
  if !state.entities.contains sourceId then
    { state, result := some .invalidArgument
      failureMessage := text "Source entity is not registered in runtime state." }
  else
    match state.ownedServerStubsByType[onlineStubType]? with
    | some id =>
      let called := state.callEntity id registration
      { state := called.1, result := called.2
        failureMessage := match called.2 with
          | none => []
          | some code => text "Local delivery failed: " ++ code.message }
    | none =>
      match state.onlineAssignment with
      | none =>
        { state, result := some .unknownTargetStub, failureMessage := StubCallErrorCode.unknownTargetStub.message }
      | some assignment =>
        if assignment.ownerGameNodeId == state.nodeId then
          { state, result := some .unknownTargetStub
            failureMessage :=
              text "Target stub is owned by the local game node but no local instance is available." }
        else
          match transport with
          | .absent =>
            { state, result := some .targetNodeUnavailable
              failureMessage := StubCallErrorCode.targetNodeUnavailable.message }
          | .answers (some code) =>
            { state, result := some code.toStubCallErrorCode
              failureMessage := text "Remote delivery to " ++ assignment.ownerGameNodeId ++ text " failed: " ++
                code.toStubCallErrorCode.message }
          | .answers none => { state, forwarded := some (forwardedCall assignment registration) }

/-- What `TryRegisterAvatarWithOnlineStub` did. -/
structure Registered where
  state : GameNodeRuntimeState
  error : Option Bytes := none
  forwarded : Option ForwardedCall := none

def tryRegisterAvatarWithOnlineStub (state : GameNodeRuntimeState) (transport : Transport) (sourceId : Guid)
    (registration : OnlineAvatarRegistration) : Registered :=
  if registration.incomplete then
    { state, error := some (text "Online avatar registration is incomplete. (Parameter 'registration')") }
  else
    let call := state.dispatchStubCall transport sourceId registration
    match call.result with
    | some code =>
      { state := call.state
        error := some (if isNullOrWhiteSpace call.failureMessage then code.message else call.failureMessage) }
    | none => { state := call.state, forwarded := call.forwarded }

/-- The registration of a request for an avatar of this Game. -/
def registrationOf (state : GameNodeRuntimeState) (avatar : AvatarEntity) (request : AvatarEntitySpawnRequest) :
    OnlineAvatarRegistration where
  accountId := avatar.accountId
  entityId := avatar.entityId
  sessionId := request.sessionId
  gateNodeId := request.routeGateNodeId
  gameNodeId := state.nodeId
  proxy := ⟨avatar.entityId, request.routeGateNodeId⟩

/-- What `TryCreateAvatarEntity` did. -/
structure Spawned where
  state : GameNodeRuntimeState
  result : Except Bytes AvatarEntity
  forwarded : Option ForwardedCall := none

/-- A known avatar registers again before its proxy is bound to the new Gate; a
new one is registered in the entity manager first, and taken out again when the
stub does not accept it. -/
def tryCreateAvatarEntity (state : GameNodeRuntimeState) (transport : Transport) (request : AvatarEntitySpawnRequest) :
    Spawned :=
  if request.incomplete then { state, result := .error (text "Avatar spawn request is incomplete.") }
  else
    match state.avatarsByEntityId[request.entityId]? with
    | some existing =>
      if existing.accountId ≠ request.accountId then
        { state, result := .error (text "Avatar entity '" ++ request.entityId ++
            text "' is already owned by another account.") }
      else
        let registered := state.tryRegisterAvatarWithOnlineStub transport existing.entityId
          (state.registrationOf existing request)
        match registered.error with
        | some error => { state := registered.state, result := .error error }
        | none =>
          let avatar := existing.rebindProxy request.routeGateNodeId
          { state := { registered.state with
              avatarsByEntityId := registered.state.avatarsByEntityId.insert request.entityId avatar }
            result := .ok avatar, forwarded := registered.forwarded }
    | none =>
      let avatar := AvatarEntity.bindIdentity request.entityId request.accountId request.routeGateNodeId
      if state.entities.contains avatar.entityId then
        { state, result := .error (text "Entity manager already contains the entity ID.") }
      else
        let joined := { state with entities := state.entities ++ [avatar.entityId] }
        let registered := joined.tryRegisterAvatarWithOnlineStub transport avatar.entityId
          (joined.registrationOf avatar request)
        match registered.error with
        | some error =>
          { state := { registered.state with
              entities := registered.state.entities.filter fun id => id != avatar.entityId }
            result := .error error }
        | none =>
          { state := { registered.state with
              avatarsByEntityId := registered.state.avatarsByEntityId.insert avatar.entityId avatar }
            result := .ok avatar, forwarded := registered.forwarded }

/-! ## What a spawn leaves -/

/-- The `OnlineStub` of this Game. -/
def onlineStub (state : GameNodeRuntimeState) : Option ServerStub :=
  (state.ownedServerStubsByType[onlineStubType]?).bind fun id => state.ownedServerStubs.find? (·.entityId == id)

/-- The stubs of this Game, with this one in the place of the one with its id. -/
def withStub (state : GameNodeRuntimeState) (stub : ServerStub) : List ServerStub :=
  modifyFirst (·.entityId == stub.entityId) (fun _ => stub) state.ownedServerStubs

variable {state : GameNodeRuntimeState} {registration : OnlineAvatarRegistration} {stub : ServerStub}

theorem onlineStub_some (h : state.onlineStub = some stub) :
    state.ownedServerStubsByType[onlineStubType]? = some stub.entityId ∧
      state.ownedServerStubs.find? (·.entityId == stub.entityId) = some stub := by
  obtain ⟨id, listed, found⟩ := Option.bind_eq_some_iff.mp h
  obtain rfl : stub.entityId = id := by simpa using List.find?_some found
  exact ⟨listed, found⟩

theorem onlineStub_withStub (h : state.onlineStub = some stub) (registration : OnlineAvatarRegistration) :
    onlineStub { state with ownedServerStubs := state.withStub (stub.register registration) } =
      some (stub.register registration) := by
  obtain ⟨listed, found⟩ := onlineStub_some h
  simp only [onlineStub, listed, Option.bind_some]
  exact find_modifyFirst found (by simp [ServerStub.register])

/-- The `OnlineStub` takes a complete registration unless it has the avatar under
another account. -/
theorem callEntity_online (h : state.onlineStub = some stub) (online : stub.entityType = onlineStubType) :
    state.callEntity stub.entityId registration =
      if registration.incomplete then (state, some .invalidArgument)
      else if (stub.registeredAvatars[registration.entityId]?).any (·.accountId != registration.accountId) then
        (state, some .stubRejected)
      else ({ state with ownedServerStubs := state.withStub (stub.register registration) }, none) := by
  obtain ⟨-, found⟩ := onlineStub_some h
  unfold callEntity
  rw [found]
  simp only [ServerStub.receiveStubCall, if_pos online, ServerStub.handleRegisterOnlineAvatar]
  split
  · rw [modifyFirst_of_find found]
  split
  · rw [modifyFirst_of_find found]
  · rfl

/-- Where the registration went: into the stub of this Game, or on its way. -/
inductive Reaches (state : GameNodeRuntimeState) (registration : OnlineAvatarRegistration) :
    List ServerStub → Option ForwardedCall → Prop where
  | here {stub : ServerStub} (found : state.onlineStub = some stub)
      (same : ∀ existing, stub.registeredAvatars[registration.entityId]? = some existing →
        existing.accountId = registration.accountId) :
      Reaches state registration (state.withStub (stub.register registration)) none
  | away {assignment : ServerStubOwnershipEntry} (absent : state.ownedServerStubsByType[onlineStubType]? = none)
      (listed : state.onlineAssignment = some assignment) :
      Reaches state registration state.ownedServerStubs (some (forwardedCall assignment registration))

/-- What `_ownedServerStubsByType` has under the name is an `OnlineStub`. -/
def OnlineTyped (state : GameNodeRuntimeState) : Prop :=
  ∀ id, state.ownedServerStubsByType[onlineStubType]? = some id →
    ∃ stub, state.onlineStub = some stub ∧ stub.entityType = onlineStubType

/-- A registration under this id and account is not refused here: the `OnlineStub` of this Game does not have
the avatar under another account, or the call to that of another Game can be sent. -/
def Registers (state : GameNodeRuntimeState) (transport : Transport) (entityId : Guid) (accountId : Bytes) : Prop :=
  match state.onlineStub with
  | some stub => ∀ existing ∈ stub.registeredAvatars[entityId]?, existing.accountId = accountId
  | none => transport = .answers none

instance decidableRegisters (state : GameNodeRuntimeState) (transport : Transport) (entityId : Guid) (accountId : Bytes) :
    Decidable (state.Registers transport entityId accountId) :=
  match found : state.onlineStub with
  | some stub =>
    decidable_of_iff (∀ existing ∈ stub.registeredAvatars[entityId]?, existing.accountId = accountId)
      (by rw [Registers, found])
  | none => decidable_of_iff (transport = .answers none) (by rw [Registers, found])

theorem tryRegister_cases (typed : state.OnlineTyped) (transport : Transport) (sourceId : Guid)
    (registration : OnlineAvatarRegistration) :
    (∃ error, state.tryRegisterAvatarWithOnlineStub transport sourceId registration = { state, error := some error }) ∨
      ∃ stubs forwarded, registration.incomplete = false ∧
        state.Registers transport registration.entityId registration.accountId ∧
        Reaches state registration stubs forwarded ∧
        state.tryRegisterAvatarWithOnlineStub transport sourceId registration =
          { state := { state with ownedServerStubs := stubs }, forwarded } := by
  unfold tryRegisterAvatarWithOnlineStub
  split
  · exact .inl ⟨_, rfl⟩
  rename_i complete
  rw [Bool.not_eq_true] at complete
  unfold dispatchStubCall
  split
  · exact .inl ⟨_, rfl⟩
  split
  · rename_i id listed
    obtain ⟨stub, found, online⟩ := typed id listed
    obtain rfl : stub.entityId = id := Option.some.inj ((onlineStub_some found).1.symm.trans listed)
    rw [callEntity_online found online, if_neg (by simp [complete])]
    split
    · exact .inl ⟨_, rfl⟩
    · rename_i same
      have agrees : ∀ existing, stub.registeredAvatars[registration.entityId]? = some existing →
          existing.accountId = registration.accountId := fun existing listed => by simpa [listed] using same
      refine .inr ⟨_, _, complete, ?_, .here found agrees, rfl⟩
      rw [Registers, found]
      exact agrees
  rename_i absent
  split
  · exact .inl ⟨_, rfl⟩
  rename_i assignment listed
  split
  · exact .inl ⟨_, rfl⟩
  split
  · exact .inl ⟨_, rfl⟩
  · exact .inl ⟨_, rfl⟩
  · refine .inr ⟨_, _, complete, ?_, .away absent listed, rfl⟩
    rw [Registers, onlineStub, absent]
    rfl

/-- A spawn request is refused without a trace, or this Game holds the avatar
under the account of the request and has sent its registration. -/
inductive SpawnOutcome (state : GameNodeRuntimeState) (transport : Transport) (request : AvatarEntitySpawnRequest) :
    Spawned → Prop where
  | refused (error : Bytes) : SpawnOutcome state transport request { state, result := .error error }
  | accepted {entities : List Guid} {stubs : List ServerStub} {forwarded : Option ForwardedCall} {avatar : AvatarEntity}
      (complete : request.incomplete = false)
      (same : ∀ held, state.avatarsByEntityId[request.entityId]? = some held → held.accountId = request.accountId)
      (id : avatar.entityId = request.entityId) (account : avatar.accountId = request.accountId)
      (valid : (state.registrationOf avatar request).incomplete = false)
      (registers : state.Registers transport request.entityId request.accountId)
      (reaches : Reaches state (state.registrationOf avatar request) stubs forwarded) :
      SpawnOutcome state transport request {
        state := { state with
          entities, ownedServerStubs := stubs
          avatarsByEntityId := state.avatarsByEntityId.insert request.entityId avatar }
        result := .ok avatar, forwarded }

theorem tryCreateAvatarEntity_outcome (typed : state.OnlineTyped)
    (keyed : ∀ (id : Guid) (avatar : AvatarEntity), state.avatarsByEntityId[id]? = some avatar → avatar.entityId = id)
    (transport : Transport) (request : AvatarEntitySpawnRequest) :
    SpawnOutcome state transport request (state.tryCreateAvatarEntity transport request) := by
  unfold tryCreateAvatarEntity
  split
  · exact .refused _
  rename_i complete
  rw [Bool.not_eq_true] at complete
  split
  · rename_i existing held
    split
    · exact .refused _
    rename_i account
    rw [ne_eq, not_not] at account
    rcases tryRegister_cases typed transport existing.entityId (state.registrationOf existing request) with
      ⟨error, refused⟩ | ⟨stubs, forwarded, valid, registers, reaches, taken⟩
    · simp only [refused]
      exact .refused error
    · simp only [taken]
      have named := keyed request.entityId existing held
      simp only [registrationOf, named, account] at registers
      refine .accepted complete (fun other same => ?_) named account valid registers reaches
      rw [held] at same
      exact (Option.some.inj same) ▸ account
  · rename_i absent
    simp only
    split
    · exact .refused _
    rename_i unknown
    rcases @tryRegister_cases { state with entities := state.entities ++ [request.entityId] } typed transport
        request.entityId (state.registrationOf
          (.bindIdentity request.entityId request.accountId request.routeGateNodeId) request) with
      ⟨error, refused⟩ | ⟨stubs, forwarded, valid, registers, reaches, taken⟩
    · simp only [registrationOf, AvatarEntity.bindIdentity] at refused ⊢
      rw [refused]
      -- the id joined the entity manager and leaves it again
      have back : (state.entities ++ [request.entityId]).filter (fun id => id != request.entityId) = state.entities := by
        rw [List.filter_append, List.filter_eq_self.mpr]
        · simp
        · intro id mem
          rw [bne_iff_ne]
          rintro rfl
          exact unknown (List.contains_iff_mem.mpr mem)
      simp only [back]
      exact .refused error
    · simp only [registrationOf, AvatarEntity.bindIdentity] at taken ⊢
      rw [taken]
      refine .accepted complete (fun other same => ?_) rfl rfl valid registers ?_
      · rw [absent] at same
        cases same
      · cases reaches with
        | here found same => exact .here found same
        | away absent listed => exact .away absent listed

end GameNodeRuntimeState

end XServer.Managed
