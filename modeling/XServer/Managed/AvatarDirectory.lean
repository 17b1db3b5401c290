import XServer.Lib.Machine
import XServer.Managed.AvatarSpawn

/-!
# Avatars across Games

All Games of a cluster and the registration calls under way between them. Any
Gate asks any Game for any avatar; a call arrives in any order or is lost. One
Game owns the `OnlineStub`, as one ownership sync gave it out.
-/

namespace XServer.Managed
open XServer.Lib XServer.Lib.Wire XServer.Net XServer.Node

structure AvatarDirectory where
  games : Table Bytes GameNodeRuntimeState
  inFlight : List ForwardedCall := []
  deriving DecidableEq

namespace AvatarDirectory

inductive Input where
  | spawn (gameNodeId : Bytes) (transport : Transport) (request : AvatarEntitySpawnRequest)
  | deliver (index : Nat)
  | lose (index : Nat)
  deriving DecidableEq, Repr

inductive Event where
  | sent (call : ForwardedCall)
  | delivered (call : ForwardedCall)
  deriving DecidableEq, Repr

/-- A Game that has been given an ownership sync. -/
def startGame (env : Bytes → RuntimeEnv) (sync : ServerStubOwnershipSync) (nodeId : Bytes) : GameNodeRuntimeState :=
  (GameNodeRuntimeState.nativeApplyServerStubOwnership { nodeId } (env nodeId) sync).state

/-- Every Game starts with the same ownership sync. -/
def start (env : Bytes → RuntimeEnv) (sync : ServerStubOwnershipSync) (gameNodeIds : List Bytes) : AvatarDirectory where
  games := Table.ofKeys (startGame env sync) gameNodeIds

/-- The Games with this state in the place of one of theirs. -/
def withGame (directory : AvatarDirectory) (gameNodeId : Bytes) (state : GameNodeRuntimeState) : AvatarDirectory :=
  { directory with games := directory.games.insert gameNodeId state }

def step (directory : AvatarDirectory) : Input → AvatarDirectory × List Event
  | .spawn gameNodeId transport request =>
    match directory.games[gameNodeId]? with
    | none => (directory, [])
    | some state =>
      let spawned := state.tryCreateAvatarEntity transport request
      ({ directory.withGame gameNodeId spawned.state with
          inFlight := directory.inFlight ++ spawned.forwarded.toList },
        spawned.forwarded.toList.map .sent)
  | .deliver index =>
    match directory.inFlight[index]? with
    | none => (directory, [])
    | some call =>
      let directory := { directory with inFlight := directory.inFlight.eraseIdx index }
      match directory.games[call.targetGameNodeId]? with
      | none => (directory, [])
      | some state =>
        (directory.withGame call.targetGameNodeId (state.receiveMailboxCall call).1, [.delivered call])
  | .lose index => ({ directory with inFlight := directory.inFlight.eraseIdx index }, [])

def machine : Machine AvatarDirectory Input Event := ⟨step⟩

/-- The avatar that this Game holds under this id. -/
def avatar (directory : AvatarDirectory) (gameNodeId : Bytes) (id : Guid) : Option AvatarEntity :=
  (directory.games[gameNodeId]?).bind (·.avatarsByEntityId[id]?)

/-- What the `OnlineStub` of this Game has under this id. -/
def registered (directory : AvatarDirectory) (owner : Bytes) (id : Guid) : Option OnlineAvatarRegistration :=
  (directory.games[owner]?).bind fun state => state.onlineStub.bind (·.registeredAvatars[id]?)

/-- Another Game holds an avatar with this id. -/
def heldElsewhere (directory : AvatarDirectory) (gameNodeId : Bytes) (id : Guid) : Bool :=
  directory.games.any fun other state => other != gameNodeId && state.avatarsByEntityId.contains id

/-- A complete request goes to a Game that does not refuse its registration only if
no other Game holds the avatar. -/
def Admits (directory : AvatarDirectory) : Input → Prop
  | .spawn gameNodeId transport request => request.incomplete = false →
    ∀ state ∈ directory.games[gameNodeId]?, state.Registers transport request.entityId request.accountId →
      directory.heldElsewhere gameNodeId request.entityId = false
  | .deliver _ => True
  | .lose _ => True

instance decidableAdmits (directory : AvatarDirectory) : (input : Input) → Decidable (directory.Admits input)
  | .spawn gameNodeId transport request =>
    inferInstanceAs (Decidable (request.incomplete = false →
      ∀ state ∈ directory.games[gameNodeId]?, state.Registers transport request.entityId request.accountId →
        directory.heldElsewhere gameNodeId request.entityId = false))
  | .deliver _ => .isTrue trivial
  | .lose _ => .isTrue trivial

/-- The sync gives the `OnlineStub` to one of the Games, under no id as yet, and
that Game applied it. -/
structure SingleOwner (env : Bytes → RuntimeEnv) (sync : ServerStubOwnershipSync) (gameNodeIds : List Bytes)
    (owner : Bytes) : Prop where
  listed : ∃ assignment ∈ sync.assignments, assignment.entityType = onlineStubType
  single : ∀ assignment ∈ sync.assignments, assignment.entityType = onlineStubType →
    assignment.ownerGameNodeId = owner ∧ assignment.entityId = unknownServerEntityId
  known : owner ∈ gameNodeIds
  applied : (GameNodeRuntimeState.nativeApplyServerStubOwnership { nodeId := owner } (env owner) sync).result = 0

/-! ## The invariant -/

/-- A Game as the sync has set it up. -/
structure Site (owner gameNodeId : Bytes) (state : GameNodeRuntimeState) : Prop where
  nodeId : state.nodeId = gameNodeId
  keyed : ∀ (id : Guid) (avatar : AvatarEntity), state.avatarsByEntityId[id]? = some avatar → avatar.entityId = id
  typed : state.OnlineTyped
  owns : ∀ id, state.ownedServerStubsByType[onlineStubType]? = some id → gameNodeId = owner
  route : ∀ assignment, state.onlineAssignment = some assignment →
    assignment.ownerGameNodeId = owner ∧ assignment.entityId = unknownServerEntityId

/-- The Game that a registration names holds the avatar under its account. -/
def Backed (directory : AvatarDirectory) (registration : OnlineAvatarRegistration) : Prop :=
  ∃ avatar, directory.avatar registration.gameNodeId registration.entityId = some avatar ∧
    avatar.accountId = registration.accountId

/-- A call that will be registered when it arrives. -/
structure Underway (directory : AvatarDirectory) (owner : Bytes) (call : ForwardedCall) : Prop where
  target : call.targetGameNodeId = owner
  byName : call.targetEntityId = []
  complete : call.registration.incomplete = false
  backed : directory.Backed call.registration

/-- An avatar is held once, and every registration and every call on the way
names its holder; an avatar that is not registered has a call that was sent. -/
structure Inv (owner : Bytes) (directory : AvatarDirectory) (events : List Event) : Prop where
  sites : ∀ gameNodeId state, directory.games[gameNodeId]? = some state → Site owner gameNodeId state
  stub : ∃ state stub, directory.games[owner]? = some state ∧ state.onlineStub = some stub
  unique : ∀ id g g' avatar avatar', directory.avatar g id = some avatar → directory.avatar g' id = some avatar' → g = g'
  registered : ∀ id registration, directory.registered owner id = some registration →
    registration.entityId = id ∧ directory.Backed registration
  inFlight : ∀ call ∈ directory.inFlight, directory.Underway owner call
  sent : ∀ g id avatar, directory.avatar g id = some avatar →
    (directory.registered owner id).isSome ∨ ∃ call, .sent call ∈ events ∧ call.registration.entityId = id
  arrived : ∀ call, .delivered call ∈ events → (directory.registered owner call.registration.entityId).isSome

variable {directory : AvatarDirectory} {owner gameNodeId : Bytes} {state next : GameNodeRuntimeState} {events : List Event}

theorem avatar_withGame (directory : AvatarDirectory) (gameNodeId : Bytes) (state : GameNodeRuntimeState) (g : Bytes)
    (id : Guid) :
    (directory.withGame gameNodeId state).avatar g id =
      if gameNodeId = g then state.avatarsByEntityId[id]? else directory.avatar g id := by
  unfold avatar withGame
  rw [Table.get_insert]
  split
  · rfl
  · rfl

theorem registered_withGame (directory : AvatarDirectory) (gameNodeId : Bytes) (state : GameNodeRuntimeState)
    (owner : Bytes) (id : Guid) :
    (directory.withGame gameNodeId state).registered owner id =
      if gameNodeId = owner then state.onlineStub.bind (·.registeredAvatars[id]?) else directory.registered owner id := by
  unfold registered withGame
  rw [Table.get_insert]
  split
  · rfl
  · rfl

theorem avatar_of_game (found : directory.games[gameNodeId]? = some state) (id : Guid) :
    directory.avatar gameNodeId id = state.avatarsByEntityId[id]? := by
  rw [avatar, found, Option.bind_some]

theorem registered_of_game {stub : ServerStub} (found : directory.games[owner]? = some state)
    (online : state.onlineStub = some stub) (id : Guid) :
    directory.registered owner id = stub.registeredAvatars[id]? := by
  rw [registered, found, Option.bind_some, online, Option.bind_some]

/-- Two registrations of one avatar that are backed name the same account and Game. -/
theorem Inv.backed_same (h : Inv owner directory events) {one two : OnlineAvatarRegistration}
    (first : directory.Backed one) (second : directory.Backed two) (same : one.entityId = two.entityId) :
    one.accountId = two.accountId ∧ one.gameNodeId = two.gameNodeId := by
  obtain ⟨avatar, held, account⟩ := first
  obtain ⟨avatar', held', account'⟩ := second
  rw [← same] at held'
  have game := h.unique one.entityId _ _ _ _ held held'
  rw [game, held'] at held
  rw [← account, ← account', Option.some.inj held]
  exact ⟨rfl, game⟩

/-! ## One Game changes -/

section WithGame

variable {registration : OnlineAvatarRegistration}

/-- What a Game backs it still backs when its avatars stay with their accounts. -/
theorem Backed.withGame (backed : directory.Backed registration) (found : directory.games[gameNodeId]? = some state)
    (grows : ∀ (id : Guid) (avatar : AvatarEntity), state.avatarsByEntityId[id]? = some avatar →
      ∃ avatar', next.avatarsByEntityId[id]? = some avatar' ∧ avatar'.accountId = avatar.accountId) :
    (directory.withGame gameNodeId next).Backed registration := by
  obtain ⟨avatar, held, account⟩ := backed
  unfold Backed
  rw [avatar_withGame]
  by_cases same : gameNodeId = registration.gameNodeId
  · rw [← same, avatar_of_game found] at held
    obtain ⟨avatar', held', account'⟩ := grows _ _ held
    exact ⟨avatar', by rw [if_pos same, held'], account'.trans account⟩
  · exact ⟨avatar, by rw [if_neg same, held], account⟩

/-- An avatar that a Game holds afterwards it held before, or it is a new one of
the Game that changed. -/
theorem avatar_withGame_some {new : Guid → Prop} (found : directory.games[gameNodeId]? = some state)
    (others : ∀ (id : Guid) (avatar : AvatarEntity), next.avatarsByEntityId[id]? = some avatar →
      (state.avatarsByEntityId[id]?).isSome ∨ new id)
    {g : Bytes} {id : Guid} {avatar : AvatarEntity}
    (held : (directory.withGame gameNodeId next).avatar g id = some avatar) :
    (∃ before, directory.avatar g id = some before) ∨ g = gameNodeId ∧ new id := by
  rw [avatar_withGame] at held
  split at held
  · rename_i same
    subst same
    rw [avatar_of_game found, ← Option.isSome_iff_exists]
    exact (others id avatar held).imp_right fun new => ⟨rfl, new⟩
  · exact .inl ⟨avatar, held⟩

theorem Inv.sites_withGame (h : Inv owner directory events) (site : Site owner gameNodeId next) :
    ∀ g other, (directory.withGame gameNodeId next).games[g]? = some other → Site owner g other := by
  intro g other listed
  simp only [AvatarDirectory.withGame, Table.get_insert] at listed
  split at listed
  · rename_i same
    cases listed
    exact same ▸ site
  · exact h.sites g other listed

theorem Inv.stub_withGame (h : Inv owner directory events) (found : directory.games[gameNodeId]? = some state)
    (keeps : ∀ stub, state.onlineStub = some stub → ∃ stub', next.onlineStub = some stub') :
    ∃ other stub, (directory.withGame gameNodeId next).games[owner]? = some other ∧ other.onlineStub = some stub := by
  obtain ⟨old, stub, listed, online⟩ := h.stub
  simp only [AvatarDirectory.withGame, Table.get_insert]
  by_cases same : gameNodeId = owner
  · rw [same, listed] at found
    cases found
    obtain ⟨stub', online'⟩ := keeps stub online
    exact ⟨next, stub', by rw [if_pos same], online'⟩
  · exact ⟨old, stub, by rw [if_neg same, listed], online⟩

/-- A new avatar that no other Game holds leaves every avatar with one holder. -/
theorem Inv.unique_withGame {entityId : Guid} (h : Inv owner directory events)
    (found : directory.games[gameNodeId]? = some state)
    (others : ∀ (id : Guid) (avatar : AvatarEntity), next.avatarsByEntityId[id]? = some avatar →
      (state.avatarsByEntityId[id]?).isSome ∨ id = entityId ∧
        ∀ g avatar', directory.avatar g id = some avatar' → g = gameNodeId) :
    ∀ id g g' avatar avatar', (directory.withGame gameNodeId next).avatar g id = some avatar →
      (directory.withGame gameNodeId next).avatar g' id = some avatar' → g = g' := by
  intro id g g' avatar avatar' one two
  rcases avatar_withGame_some found others one, avatar_withGame_some found others two with
    ⟨⟨_, was⟩ | ⟨rfl, -, alone⟩, ⟨_, was'⟩ | ⟨rfl, -, alone'⟩⟩
  · exact h.unique id g g' _ _ was was'
  · exact alone' g _ was
  · exact (alone g' _ was').symm
  · rfl

end WithGame

/-! ## One registration -/

section Reached

variable {registration : OnlineAvatarRegistration} {stubs : List ServerStub} {forwarded : Option ForwardedCall}
  {entities : List Guid} {avatars : Table Guid AvatarEntity}

theorem onlineStub_reached
    (reaches : GameNodeRuntimeState.Reaches state registration stubs forwarded) :
    GameNodeRuntimeState.onlineStub
        { state with entities, ownedServerStubs := stubs, avatarsByEntityId := avatars } =
      state.onlineStub.map fun stub => if forwarded = none then stub.register registration else stub := by
  cases reaches with
  | here found same =>
    rw [found, Option.map_some, if_pos rfl]
    exact GameNodeRuntimeState.onlineStub_withStub found registration
  | away absent listed =>
    have none : state.onlineStub = none := by rw [GameNodeRuntimeState.onlineStub, absent, Option.bind_none]
    rw [none, Option.map_none]
    exact none

theorem Site.reached (site : Site owner gameNodeId state)
    (reaches : GameNodeRuntimeState.Reaches state registration stubs forwarded)
    (keyed : ∀ (id : Guid) (avatar : AvatarEntity), avatars[id]? = some avatar → avatar.entityId = id) :
    Site owner gameNodeId { state with entities, ownedServerStubs := stubs, avatarsByEntityId := avatars } := by
  refine ⟨site.nodeId, keyed, fun id listed => ?_, site.owns, site.route⟩
  obtain ⟨stub, found, online⟩ := site.typed id listed
  refine ⟨_, by rw [onlineStub_reached reaches, found, Option.map_some], ?_⟩
  split
  · exact online
  · exact online

theorem registered_reached (found : directory.games[gameNodeId]? = some state) (site : Site owner gameNodeId state)
    (reaches : GameNodeRuntimeState.Reaches state registration stubs forwarded) (id : Guid) :
    (directory.withGame gameNodeId
        { state with entities, ownedServerStubs := stubs, avatarsByEntityId := avatars }).registered owner id =
      if forwarded = none ∧ registration.entityId = id then some registration else directory.registered owner id := by
  rw [registered_withGame]
  by_cases here : gameNodeId = owner
  · rw [if_pos here, onlineStub_reached reaches, registered, ← here, found, Option.bind_some]
    cases reaches with
    | here online same =>
      simp only [online, Option.map_some, Option.bind_some, ServerStub.register, true_and, if_true]
      rw [Table.get_insert]
    | away absent listed => simp [GameNodeRuntimeState.onlineStub, absent]
  · rw [if_neg here]
    cases reaches with
    | here online same => exact absurd (site.owns _ (GameNodeRuntimeState.onlineStub_some online).1) here
    | away absent listed => simp

/-- A registration that its Game backs enters the `OnlineStub` or is sent there. -/
theorem Inv.reached (h : Inv owner directory events) (found : directory.games[gameNodeId]? = some state)
    (reaches : GameNodeRuntimeState.Reaches state registration stubs forwarded)
    (valid : registration.incomplete = false)
    (keyed : ∀ (id : Guid) (avatar : AvatarEntity), avatars[id]? = some avatar → avatar.entityId = id)
    (grows : ∀ (id : Guid) (avatar : AvatarEntity), state.avatarsByEntityId[id]? = some avatar →
      ∃ avatar', avatars[id]? = some avatar' ∧ avatar'.accountId = avatar.accountId)
    (others : ∀ (id : Guid) (avatar : AvatarEntity), avatars[id]? = some avatar →
      (state.avatarsByEntityId[id]?).isSome ∨ id = registration.entityId ∧
        ∀ g avatar', directory.avatar g id = some avatar' → g = gameNodeId)
    (backed : Backed (directory.withGame gameNodeId
      { state with entities, ownedServerStubs := stubs, avatarsByEntityId := avatars }) registration)
    {more : List Event} (sends : ∀ call, forwarded = some call → .sent call ∈ more)
    (delivers : ∀ call, .delivered call ∈ more → forwarded = none ∧ call.registration.entityId = registration.entityId) :
    Inv owner
      { directory.withGame gameNodeId
          { state with entities, ownedServerStubs := stubs, avatarsByEntityId := avatars } with
        inFlight := directory.inFlight ++ forwarded.toList }
      (events ++ more) := by
  have site := h.sites gameNodeId state found
  have registeredNow := @registered_reached directory owner gameNodeId state registration stubs forwarded entities avatars
    found site reaches
  have onlineNow := @onlineStub_reached state registration stubs forwarded entities avatars reaches
  have siteNow := @Site.reached owner gameNodeId state registration stubs forwarded entities avatars site reaches keyed
  generalize placed : { state with entities, ownedServerStubs := stubs, avatarsByEntityId := avatars } = state' at *
  have held' : state'.avatarsByEntityId = avatars := by rw [← placed]
  rw [← held'] at grows others
  have stays : ∀ id, (directory.registered owner id).isSome →
      ((directory.withGame gameNodeId state').registered owner id).isSome := by
    intro id was
    rw [registeredNow]
    split
    · rfl
    · exact was
  refine ⟨h.sites_withGame siteNow, ?_, h.unique_withGame found others, fun id other listed => ?_,
    fun call mem => ?_, fun g id avatar held => ?_, fun call mem => ?_⟩
  · refine h.stub_withGame found fun stub online => ?_
    exact ⟨_, by rw [onlineNow, online, Option.map_some]⟩
  · have listed := (registeredNow id).symm.trans listed
    split at listed
    · rename_i here
      cases listed
      exact ⟨here.2, backed⟩
    · obtain ⟨key, was⟩ := h.registered id other listed
      exact ⟨key, was.withGame found grows⟩
  · rcases List.mem_append.mp mem with old | new
    · obtain ⟨target, byName, complete, was⟩ := h.inFlight call old
      exact ⟨target, byName, complete, was.withGame found grows⟩
    · cases reaches with
      | here => cases new
      | away absent route =>
        obtain rfl := List.mem_singleton.mp new
        obtain ⟨target, unknown⟩ := site.route _ route
        exact ⟨target, by simp [GameNodeRuntimeState.forwardedCall, unknown], valid, backed⟩
  · by_cases same : registration.entityId = id
    · cases forwarded with
      | none => exact .inl ((registeredNow id).trans (if_pos ⟨rfl, same⟩) ▸ rfl)
      | some call =>
        refine .inr ⟨call, List.mem_append_right _ (sends call rfl), ?_⟩
        cases reaches with
        | away => exact same
    · rcases avatar_withGame_some found others held with ⟨_, was⟩ | ⟨-, key, -⟩
      · rcases h.sent g id _ was with listed | ⟨call, sent, key⟩
        · exact .inl (stays id listed)
        · exact .inr ⟨call, List.mem_append_left _ sent, key⟩
      · exact absurd key.symm same
  · rcases List.mem_append.mp mem with old | new
    · exact stays _ (h.arrived call old)
    · obtain ⟨arrived, key⟩ := delivers call new
      exact (registeredNow _).trans (if_pos ⟨arrived, key.symm⟩) ▸ rfl

end Reached

/-! ## Steps -/

/-- A call is lost. -/
theorem Inv.lost (h : Inv owner directory events) (index : Nat) :
    Inv owner { directory with inFlight := directory.inFlight.eraseIdx index } events := by
  refine ⟨h.sites, h.stub, h.unique, h.registered, fun call mem => ?_, h.sent, h.arrived⟩
  obtain ⟨target, byName, complete, backed⟩ := h.inFlight call (List.mem_of_mem_eraseIdx mem)
  exact ⟨target, byName, complete, backed⟩

theorem Inv.spawned (h : Inv owner directory events) (found : directory.games[gameNodeId]? = some state)
    {transport : Transport} {request : AvatarEntitySpawnRequest}
    (elsewhere : directory.Admits (.spawn gameNodeId transport request))
    {spawned : GameNodeRuntimeState.Spawned}
    (outcome : GameNodeRuntimeState.SpawnOutcome state transport request spawned) :
    Inv owner
      { directory.withGame gameNodeId spawned.state with inFlight := directory.inFlight ++ spawned.forwarded.toList }
      (events ++ spawned.forwarded.toList.map .sent) := by
  cases outcome with
  | refused error =>
    simp only [withGame, Table.insert_of_get found, Option.toList_none, List.append_nil, List.map_nil]
    exact h
  | accepted complete same id account valid registers reaches =>
    rename_i entities stubs forwarded avatar
    have site := h.sites gameNodeId state found
    refine h.reached found reaches valid (fun key held listed => ?_) (fun key held listed => ?_)
      (fun key held listed => ?_) ?_ (fun call sent => ?_) (fun call mem => ?_)
    · rw [Table.get_insert] at listed
      split at listed
      · rename_i here
        cases listed
        exact id.trans here
      · exact site.keyed key held listed
    · rw [Table.get_insert]
      split
      · rename_i here
        exact ⟨avatar, rfl, account.trans (same held (here ▸ listed)).symm⟩
      · exact ⟨held, listed, rfl⟩
    · rw [Table.get_insert] at listed
      split at listed
      · rename_i here
        refine .inr ⟨here.symm.trans id.symm, fun g other holds => ?_⟩
        by_contra away
        have none := elsewhere complete state found registers
        rw [heldElsewhere, Bool.eq_false_iff] at none
        obtain ⟨holder, at_g, holds⟩ := Option.bind_eq_some_iff.mp holds
        refine none (Table.any_iff.mpr ⟨g, holder, at_g, ?_⟩)
        rw [Bool.and_eq_true, bne_iff_ne, here, ← Std.ExtTreeMap.isSome_getElem?_eq_contains, holds]
        exact ⟨away, rfl⟩
      · exact .inl (by rw [listed]; rfl)
    · refine ⟨avatar, ?_, rfl⟩
      rw [avatar_withGame, if_pos (by exact site.nodeId.symm)]
      simp only [GameNodeRuntimeState.registrationOf]
      rw [id, Table.get_insert_self]
    · rw [sent]
      exact List.mem_singleton.mpr rfl
    · obtain ⟨_, _, impossible⟩ := List.mem_map.mp mem
      cases impossible

theorem Inv.delivered (h : Inv owner directory events) {call : ForwardedCall} (underway : directory.Underway owner call)
    (found : directory.games[call.targetGameNodeId]? = some state) :
    Inv owner (directory.withGame call.targetGameNodeId (state.receiveMailboxCall call).1)
      (events ++ [.delivered call]) := by
  obtain ⟨target, byName, complete, backed⟩ := underway
  rw [target] at found ⊢
  obtain ⟨state', stub, listed, online⟩ := h.stub
  obtain rfl : state = state' := Option.some.inj (found.symm.trans listed)
  have site := h.sites owner state found
  obtain ⟨stub', online', typed⟩ := site.typed _ (GameNodeRuntimeState.onlineStub_some online).1
  obtain rfl : stub = stub' := Option.some.inj (online.symm.trans online')
  -- a registration that is there has the same account, for its Game holds the avatar too
  have same : ∀ existing, stub.registeredAvatars[call.registration.entityId]? = some existing →
      existing.accountId = call.registration.accountId := by
    intro existing registered
    rw [← registered_of_game found online] at registered
    obtain ⟨key, other⟩ := h.registered _ _ registered
    exact (h.backed_same other backed key).1
  have taken : (state.receiveMailboxCall call).1 =
      { state with ownedServerStubs := state.withStub (stub.register call.registration) } := by
    unfold GameNodeRuntimeState.receiveMailboxCall
    rw [byName, if_neg (by simp), (GameNodeRuntimeState.onlineStub_some online).1]
    simp only
    rw [GameNodeRuntimeState.callEntity_online online typed, if_neg (by simp [complete]), if_neg]
    rw [Option.any_eq_true]
    rintro ⟨existing, registered, differ⟩
    exact bne_iff_ne.mp differ (same existing registered)
  rw [taken]
  have still : Backed (directory.withGame owner
      { state with ownedServerStubs := state.withStub (stub.register call.registration) }) call.registration :=
    backed.withGame found fun _ avatar held => ⟨avatar, held, rfl⟩
  have once : ∀ other, .delivered other ∈ [Event.delivered call] →
      (none : Option ForwardedCall) = none ∧ other.registration.entityId = call.registration.entityId := by
    simp
  have reached := h.reached found (.here online same) complete site.keyed (fun _ avatar held => ⟨avatar, held, rfl⟩)
    (fun _ _ held => .inl (by rw [held]; rfl)) still (fun _ impossible => nomatch impossible) once
  rw [Option.toList_none, List.append_nil] at reached
  exact reached

theorem step_inv (directory : AvatarDirectory) (events : List Event) (input : Input) (h : Inv owner directory events)
    (admits : directory.Admits input) :
    Inv owner (machine.step directory input).1 (events ++ (machine.step directory input).2) := by
  cases input with
  | spawn gameNodeId transport request =>
    simp only [machine, step]
    split
    · rw [List.append_nil]
      exact h
    · rename_i state found
      have site := h.sites gameNodeId state found
      exact h.spawned found admits (GameNodeRuntimeState.tryCreateAvatarEntity_outcome site.typed site.keyed _ _)
  | deliver index =>
    simp only [machine, step]
    split
    · rw [List.append_nil]
      exact h
    rename_i call listed
    have underway := h.inFlight call (List.mem_of_getElem? listed)
    have rest := h.lost index
    split
    · rw [List.append_nil]
      exact rest
    · rename_i state found
      obtain ⟨target, byName, complete, backed⟩ := underway
      exact rest.delivered ⟨target, byName, complete, backed⟩ found
  | lose index =>
    simp only [machine, step, List.append_nil]
    exact h.lost index

/-! ## Runs -/

section Start

variable {env : Bytes → RuntimeEnv} {sync : ServerStubOwnershipSync} {gameNodeIds : List Bytes}

theorem start_game (g : Bytes) (state : GameNodeRuntimeState) :
    (start env sync gameNodeIds).games[g]? = some state ↔ g ∈ gameNodeIds ∧ startGame env sync g = state :=
  Table.get_ofKeys

/-- The owner has an `OnlineStub` without registrations. -/
theorem start_online (single : SingleOwner env sync gameNodeIds owner) :
    ∃ stub, (startGame env sync owner).onlineStub = some stub ∧ stub.registeredAvatars = ∅ := by
  obtain ⟨assignment, assigned, online⟩ := single.listed
  obtain ⟨id, byType⟩ := Option.isSome_iff_exists.mp (GameNodeRuntimeState.nativeApplyServerStubOwnership_owns
    single.applied assigned (single.single assignment assigned online).1)
  rw [online] at byType
  have first := GameNodeRuntimeState.nativeApplyServerStubOwnership_firstSync owner (env owner) sync
  obtain ⟨-, stub, found, -, empty⟩ := first.listed onlineStubType id byType
  exact ⟨stub, Option.bind_eq_some_iff.mpr ⟨id, byType, found⟩, empty⟩

theorem start_site (single : SingleOwner env sync gameNodeIds owner) (g : Bytes) :
    Site owner g (startGame env sync g) := by
  have first := GameNodeRuntimeState.nativeApplyServerStubOwnership_firstSync g (env g) sync
  refine ⟨first.sameNode, fun id avatar held => ?_, fun id byType => ?_, fun id byType => ?_, fun assignment found => ?_⟩
  · rw [startGame, first.noAvatars] at held
    simp at held
  · obtain ⟨-, stub, found, online, -⟩ := first.listed onlineStubType id byType
    exact ⟨stub, Option.bind_eq_some_iff.mpr ⟨id, byType, found⟩, online⟩
  · obtain ⟨⟨assignment, assigned, online, here⟩, -⟩ := first.listed onlineStubType id byType
    exact here.symm.trans (single.single assignment assigned online).1
  · exact single.single assignment (first.assignments _ (List.mem_of_find?_eq_some found))
      (by simpa using List.find?_some found)

theorem start_inv (single : SingleOwner env sync gameNodeIds owner) : Inv owner (start env sync gameNodeIds) [] := by
  have noAvatars : ∀ g id avatar, (start env sync gameNodeIds).avatar g id ≠ some avatar := by
    intro g id avatar held
    obtain ⟨state, listed, held⟩ := Option.bind_eq_some_iff.mp held
    obtain ⟨-, rfl⟩ := (start_game g state).mp listed
    rw [startGame, (GameNodeRuntimeState.nativeApplyServerStubOwnership_firstSync g (env g) sync).noAvatars] at held
    simp at held
  obtain ⟨stub, online, empty⟩ := start_online single
  have own := (start_game owner (startGame env sync owner)).mpr ⟨single.known, rfl⟩
  refine ⟨fun g state listed => ?_, ⟨_, stub, own, online⟩, fun id g _ avatar _ held => absurd held (noAvatars g id avatar),
    fun id registration listed => ?_, by simp [start], fun g id avatar held => absurd held (noAvatars g id avatar), by simp⟩
  · obtain ⟨-, rfl⟩ := (start_game g state).mp listed
    exact start_site single g
  · rw [registered_of_game own online, empty] at listed
    simp at listed

/-- **One holder, and the stub knows it.** In every run in which a complete spawn
request that a Game would register never goes to it while another Game holds the
avatar: at most one Game holds an avatar, and once the registration calls sent so far
are delivered, the `OnlineStub` has it under the account and the Game that hold it. -/
theorem held_where_registered (single : SingleOwner env sync gameNodeIds owner) {is : List Input}
    (along : machine.Along Admits (start env sync gameNodeIds) is) (id : Guid) :
    (∀ g g' avatar avatar', (machine.run (start env sync gameNodeIds) is).1.avatar g id = some avatar →
      (machine.run (start env sync gameNodeIds) is).1.avatar g' id = some avatar' → g = g') ∧
    ∀ g avatar, (machine.run (start env sync gameNodeIds) is).1.avatar g id = some avatar →
      (∀ call, .sent call ∈ (machine.run (start env sync gameNodeIds) is).2 →
        .delivered call ∈ (machine.run (start env sync gameNodeIds) is).2) →
      ∃ registration, (machine.run (start env sync gameNodeIds) is).1.registered owner id = some registration ∧
        registration.accountId = avatar.accountId ∧ registration.gameNodeId = g := by
  have h := Machine.run_trace_along step_inv (start_inv single) along
  rw [List.nil_append] at h
  refine ⟨h.unique id, fun g avatar held delivered => ?_⟩
  have known : ((machine.run (start env sync gameNodeIds) is).1.registered owner id).isSome := by
    rcases h.sent g id avatar held with known | ⟨call, sent, rfl⟩
    · exact known
    · exact h.arrived call (delivered call sent)
  obtain ⟨registration, listed⟩ := Option.isSome_iff_exists.mp known
  obtain ⟨rfl, holder, backed, account⟩ := h.registered id registration listed
  have game := h.unique _ _ _ _ _ backed held
  rw [game, held] at backed
  exact ⟨registration, listed, by rw [← account, Option.some.inj backed], game⟩

end Start

/-! ## Three Games -/

def sampleEnv (_ : Bytes) : RuntimeEnv where
  newGuid n := text "00000000-0000-4000-8000-00000000000" ++ [48 + UInt8.ofNat n]

/-- Game0 owns the `OnlineStub`. -/
def sampleOwnership : ServerStubOwnershipSync where
  assignmentEpoch := 1
  statusFlags := 0
  assignments := [⟨onlineStubType, unknownServerEntityId, text "Game0", 0⟩]
  serverNowUnixMs := 1000

def sampleGames : List Bytes := [text "Game0", text "Game1", text "Game2"]

theorem sampleOwner : SingleOwner sampleEnv sampleOwnership sampleGames (text "Game0") where
  listed := ⟨_, List.mem_singleton.mpr rfl, rfl⟩
  single assignment mem _ := by
    obtain rfl := List.mem_singleton.mp mem
    exact ⟨rfl, rfl⟩
  known := by decide
  applied := by decide +kernel

def sampleAvatarId : Guid := text "11111111-0000-4000-8000-000000000000"

/-- This Gate asks this Game for the avatar. -/
def sampleSpawn (gateNodeId gameNodeId : Bytes) : Input :=
  .spawn gameNodeId (.answers none) ⟨sampleAvatarId, text "account-alpha", gateNodeId, 42⟩

/-- A Gate asks for the avatar, and later another one asks the same Game again. -/
def sampleRebind : List Input :=
  [sampleSpawn (text "Gate0") (text "Game1"), .deliver 0, sampleSpawn (text "Gate1") (text "Game1"), .deliver 0]

theorem held_where_registered_sample :
    ∃ registration, (machine.run (start sampleEnv sampleOwnership sampleGames) sampleRebind).1.registered (text "Game0")
        sampleAvatarId = some registration ∧
      registration.accountId = text "account-alpha" ∧ registration.gameNodeId = text "Game1" := by
  have held : (machine.run (start sampleEnv sampleOwnership sampleGames) sampleRebind).1.avatar (text "Game1")
      sampleAvatarId = some (.bindIdentity sampleAvatarId (text "account-alpha") (text "Gate1")) := by decide +kernel
  have delivered : ∀ call, .sent call ∈ (machine.run (start sampleEnv sampleOwnership sampleGames) sampleRebind).2 →
      .delivered call ∈ (machine.run (start sampleEnv sampleOwnership sampleGames) sampleRebind).2 := by
    have all : ((machine.run (start sampleEnv sampleOwnership sampleGames) sampleRebind).2.all fun
        | .sent call =>
          decide (.delivered call ∈ (machine.run (start sampleEnv sampleOwnership sampleGames) sampleRebind).2)
        | .delivered _ => true) = true := by
      decide +kernel
    intro call sent
    exact of_decide_eq_true (List.all_eq_true.mp all _ sent)
  exact (held_where_registered sampleOwner (by decide +kernel) sampleAvatarId).2 (text "Game1") _ held delivered

/-- Two Gates choose two Games for one avatar of one account. -/
def sampleTwoGates : List Input :=
  [sampleSpawn (text "Gate0") (text "Game1"), sampleSpawn (text "Gate1") (text "Game2"), .deliver 0, .deliver 0]

/-- Both Games hold it, and the stub knows of one. -/
theorem two_gates_two_holders :
    (machine.run (start sampleEnv sampleOwnership sampleGames) sampleTwoGates).1.avatar (text "Game1") sampleAvatarId =
        some (.bindIdentity sampleAvatarId (text "account-alpha") (text "Gate0")) ∧
      (machine.run (start sampleEnv sampleOwnership sampleGames) sampleTwoGates).1.avatar (text "Game2") sampleAvatarId =
        some (.bindIdentity sampleAvatarId (text "account-alpha") (text "Gate1")) ∧
      (machine.run (start sampleEnv sampleOwnership sampleGames) sampleTwoGates).1.inFlight = [] ∧
      ((machine.run (start sampleEnv sampleOwnership sampleGames) sampleTwoGates).1.registered (text "Game0")
        sampleAvatarId).map (·.gameNodeId) = some (text "Game2") := by
  decide +kernel

end AvatarDirectory

end XServer.Managed
