import XServer.Managed.AvatarSpawn
import XServer.Managed.PacketCodec
import XServer.Managed.RelayCodec

/-!
# The client's game instance

`Runtime/GameInstance.cs`, `GameInstance.Avatar.cs` and the select-avatar part of
`GameInstance.Gameplay.cs`: a client asks for a new avatar and keeps it as its
selection, which the answer of the server confirms or clears. A confirmation is
compared with the selection; a failure clears whatever is selected.

Entities are kept by what identifies them; their positions and the sender they
call through are left out. The JSON serializer is a parameter.
-/

namespace XServer.Client
open XServer.Lib XServer.Lib.Wire XServer.Net XServer.Core
open XServer.Managed (Guid guidEmpty guidTryParse isNullOrWhiteSpace)

/-! ## State -/

structure AvatarEntity where
  entityId : Guid
  accountId : Bytes
  deriving DecidableEq, Repr

structure AvatarSessionState where
  selectedAvatarEntityId : Option Guid := none
  isSelectionConfirmed : Bool := false
  gameNodeId : Option Bytes := none
  sessionId : Option UInt64 := none
  deriving DecidableEq, Repr

inductive ClientLifecycleState where
  | disconnected
  | connected
  | loggedIn
  | avatarSelecting
  | avatarReady
  deriving DecidableEq, Repr

/-- `connected`: there is a profile. -/
structure GameInstance where
  lifecycleState : ClientLifecycleState := .disconnected
  connected : Bool := false
  account : Option Bytes := none
  entityManager : Table Guid AvatarEntity := ∅
  avatarSession : AvatarSessionState := {}
  nextPacketSequence : UInt32 := 1
  deriving DecidableEq

/-- `ClientServerSelectAvatarPayload`. -/
structure SelectAvatarPayload where
  accountId : Bytes
  avatarId : Bytes
  deriving DecidableEq, Repr

/-- `ServerClientSelectAvatarResultPayload`, as it is deserialized. -/
structure SelectAvatarResultPayload where
  action : Option Bytes := some (text "selectAvatarResult")
  success : Bool := false
  accountId : Option Bytes := none
  avatarId : Option Bytes := none
  gameNodeId : Option Bytes := none
  sessionId : UInt64 := 0
  error : Option Bytes := none
  deriving DecidableEq, Repr

/-- `OutboundGameRequest`; what is applied after sending is the selection of
`avatar`. -/
structure OutboundGameRequest where
  header : PacketHeader
  payload : Bytes
  avatar : AvatarEntity
  deriving DecidableEq, Repr

/-! ## The avatar session -/

namespace AvatarSessionState

def bind (avatarEntityId : Guid) : AvatarSessionState := { selectedAvatarEntityId := some avatarEntityId }

/-- `string.IsNullOrWhiteSpace`. -/
def isNullOrBlank (value : Option Bytes) : Bool := value.all isNullOrWhiteSpace

def confirm (session : AvatarSessionState) (gameNodeId : Option Bytes) (sessionId : Option UInt64) : AvatarSessionState :=
  { session with
    isSelectionConfirmed := true
    gameNodeId := if isNullOrBlank gameNodeId = true then none else gameNodeId
    sessionId }

end AvatarSessionState

namespace GameInstance

variable (game : GameInstance)

/-! ## Selecting an avatar -/

def avatar : Option AvatarEntity := game.avatarSession.selectedAvatarEntityId.bind fun id => game.entityManager[id]?

def hasConfirmedAvatar : Bool := game.avatar.isSome && game.avatarSession.isSelectionConfirmed

def refreshLifecycleState : GameInstance :=
  { game with
    lifecycleState :=
      if game.avatar.isSome ∧ game.avatarSession.isSelectionConfirmed = true then .avatarReady
      else if game.avatar.isSome then .avatarSelecting
      else if game.account.isSome then .loggedIn
      else if game.connected then .connected
      else .disconnected }

/-- `AllocatePacketSequence`: the number, and what is left. Zero is passed over. -/
def allocatePacketSequence : UInt32 × GameInstance :=
  let sequence := if game.nextPacketSequence = 0 then 1 else game.nextPacketSequence
  (sequence, { game with nextPacketSequence := if sequence + 1 = 0 then 1 else sequence + 1 })

def accountMissing : String :=
  "The simulated client does not have a local Account yet. Run login <url> <account> <password> first."

/-- `CreateTemporaryAvatarSelection` with the new GUID, and the constructors it
calls. -/
def createTemporaryAvatarSelection (avatarEntityId : Guid) : Except String AvatarEntity :=
  match game.account with
  | none => .error accountMissing
  | some accountId =>
    if avatarEntityId = guidEmpty then .error "Client entityId must not be empty."
    else if isNullOrWhiteSpace accountId = true then
      .error "The value cannot be an empty string or composed entirely of whitespace."
    else .ok { entityId := avatarEntityId, accountId }

def selectAvatarMsgId : UInt32 := clientSelectAvatarMsgId

/-- `PrepareSelectAvatarRequest`. -/
def prepareSelectAvatarRequest (serialize : SelectAvatarPayload → Bytes) (avatarEntityId : Guid)
    (msgId : Option UInt32) : Except String (OutboundGameRequest × GameInstance) :=
  match game.createTemporaryAvatarSelection avatarEntityId with
  | .error e => .error e
  | .ok selectedAvatar =>
    let payload := serialize { accountId := selectedAvatar.accountId, avatarId := selectedAvatar.entityId }
    let (sequence, game) := game.allocatePacketSequence
    .ok ({
      header := makePacketHeader (msgId.getD selectAvatarMsgId) sequence 0 (UInt32.ofNat payload.length)
      payload, avatar := selectedAvatar }, game)

/-- The entities without a previous selection that was not confirmed. -/
def dropUnconfirmed (avatar : AvatarEntity) : Table Guid AvatarEntity :=
  match game.avatarSession.selectedAvatarEntityId with
  | none => game.entityManager
  | some previous =>
    if previous ≠ avatar.entityId ∧ game.avatarSession.isSelectionConfirmed = false then game.entityManager.erase previous
    else game.entityManager

/-- `SelectAvatar` of an avatar that no entity of the client is yet; the exception
comes with the state that it leaves. -/
def selectAvatar (avatar : AvatarEntity) : GameInstance × Option String :=
  match game.account with
  | none => (game, some accountMissing)
  | some accountId =>
    if accountId ≠ avatar.accountId then (game, some "Avatar selection account does not match the current Account.")
    else
      let game := { game with entityManager := game.dropUnconfirmed avatar }
      if game.entityManager.contains avatar.entityId then
        (game, some "Client EntityManager already contains AvatarEntity.")
      else
        (refreshLifecycleState { game with
          entityManager := game.entityManager.insert avatar.entityId avatar
          avatarSession := .bind avatar.entityId }, none)

/-- `ConfirmAvatarSelection`; the flag is its answer. -/
def confirmAvatarSelection (accountId avatarId : Bytes) (gameNodeId : Option Bytes) (sessionId : Option UInt64) :
    Except String (GameInstance × Bool) :=
  match game.account with
  | none => .error accountMissing
  | some account =>
    match guidTryParse avatarId with
    | none => .ok (game, false)
    | some avatarEntityId =>
      match game.avatar with
      | none => .ok (game, false)
      | some currentAvatar =>
        if account ≠ accountId ∨ currentAvatar.entityId ≠ avatarEntityId then .ok (game, false)
        else
          .ok (refreshLifecycleState { game with
            avatarSession := game.avatarSession.confirm gameNodeId sessionId }, true)

def clearAvatarSelection : GameInstance :=
  if game.account.isNone then game
  else
    refreshLifecycleState { game with
      avatarSession := {}
      entityManager :=
        match game.avatarSession.selectedAvatarEntityId with
        | none => game.entityManager
        | some avatarEntityId => game.entityManager.erase avatarEntityId }

/-! ## Answers -/

/-- What `JsonSerializer.Deserialize` makes of a text: a payload, `null`, or a
`JsonException`. -/
abbrev Deserialize := Bytes → Except Unit (Option SelectAvatarResultPayload)

/-- `TryHandleSelectAvatarResponsePacket`: the message it returns, or an exception. -/
def tryHandleSelectAvatarResponsePacket (deserialize : Deserialize) (packet : Packet) :
    Except String (GameInstance × Bytes) :=
  match deserialize packet.payload with
  | .error () =>
    .ok (game, text "selectAvatar response arrived but the control payload could not be decoded.")
  | .ok none =>
    .ok (game, text "selectAvatar response arrived but the control payload action was not recognized.")
  | .ok (some response) =>
    if response.action ≠ some (text "selectAvatarResult") then
      .ok (game, text "selectAvatar response arrived but the control payload action was not recognized.")
    else if packet.header.flags &&& flagError ≠ 0 ∨ response.success = false then
      .ok (game.clearAvatarSelection,
        text "selectAvatar failed account=" ++ response.accountId.getD (text "<unknown>") ++ text " avatarId=" ++
          response.avatarId.getD (text "<unknown>") ++ text " error=" ++ response.error.getD (text "unknown error"))
    else
      match response.accountId, response.avatarId with
      | some accountId, some avatarId =>
        if isNullOrWhiteSpace accountId = true ∨ isNullOrWhiteSpace avatarId = true then
          .ok (game, text "selectAvatar confirmation payload was incomplete.")
        else
          match game.confirmAvatarSelection accountId avatarId response.gameNodeId (some response.sessionId) with
          | .error e => .error e
          | .ok (game, false) =>
            .ok (game, text "selectAvatar confirmation did not match the local pending selection account=" ++
              accountId ++ text " avatarId=" ++ avatarId)
          | .ok (game, true) =>
            .ok (game, text "selectAvatar confirmed account=" ++ accountId ++ text " avatarId=" ++ avatarId ++
              text " game=" ++ response.gameNodeId.getD (text "<unknown>") ++ text " sessionId=" ++
              text (toString response.sessionId.toNat))
      | _, _ => .ok (game, text "selectAvatar confirmation payload was incomplete.")

/-- `TryHandleClientNetworkPacket` on answers to select-avatar requests; no other
packet touches the selection. An exception leaves the state as it was. -/
def tryHandleClientNetworkPacket (deserialize : Deserialize) (packet : Packet) : GameInstance :=
  if packet.header.msgId = selectAvatarMsgId ∧ packet.header.flags &&& flagResponse ≠ 0 then
    match game.tryHandleSelectAvatarResponsePacket deserialize packet with
    | .error _ => game
    | .ok (game, _) => game
  else game

/-! ## What the operations do to the selection -/

/-- A logged-in client with this selection. -/
structure Selects (account : Bytes) (avatarEntityId : Guid) (confirmed : Bool) : Prop where
  account : game.account = some account
  selected : game.avatarSession.selectedAvatarEntityId = some avatarEntityId
  confirmed : game.avatarSession.isSelectionConfirmed = confirmed
  registered : ∃ entity, game.entityManager[avatarEntityId]? = some entity ∧ entity.entityId = avatarEntityId

/-- A logged-in client without a selection. -/
structure Unselected (account : Bytes) : Prop where
  account : game.account = some account
  selected : game.avatarSession.selectedAvatarEntityId = none

variable {game} {account : Bytes} {avatarEntityId : Guid} {confirmed : Bool}

theorem Selects.avatar (h : game.Selects account avatarEntityId confirmed) :
    ∃ entity, game.avatar = some entity ∧ entity.entityId = avatarEntityId := by
  obtain ⟨entity, stored, own⟩ := h.registered
  refine ⟨entity, ?_, own⟩
  unfold GameInstance.avatar
  rw [h.selected]
  exact stored

/-- The avatar for which the client's session is confirmed. -/
def ConfirmedFor (game : GameInstance) (avatarEntityId : Guid) : Prop :=
  game.hasConfirmedAvatar = true ∧ game.avatarSession.selectedAvatarEntityId = some avatarEntityId

instance (game : GameInstance) (avatarEntityId : Guid) : Decidable (game.ConfirmedFor avatarEntityId) :=
  inferInstanceAs (Decidable (_ ∧ _))

theorem Selects.confirmedFor (h : game.Selects account avatarEntityId confirmed) {other : Guid} :
    game.ConfirmedFor other ↔ confirmed = true ∧ other = avatarEntityId := by
  obtain ⟨entity, avatar, -⟩ := h.avatar
  unfold ConfirmedFor hasConfirmedAvatar
  rw [avatar, h.confirmed, h.selected]
  simp [eq_comm]

theorem Unselected.not_confirmedFor (h : game.Unselected account) (other : Guid) : ¬ game.ConfirmedFor other := by
  rintro ⟨-, selected⟩
  rw [h.selected] at selected
  cases selected

theorem prepareSelectAvatarRequest_ok {serialize : SelectAvatarPayload → Bytes} {msgId : Option UInt32}
    {request : OutboundGameRequest} {next : GameInstance}
    (prepared : game.prepareSelectAvatarRequest serialize avatarEntityId msgId = .ok (request, next)) :
    ∃ account sequence, game.account = some account ∧ isNullOrWhiteSpace account = false ∧
      request.avatar = ⟨avatarEntityId, account⟩ ∧
      request.payload = serialize { accountId := account, avatarId := avatarEntityId } ∧
      request.header = makePacketHeader (msgId.getD selectAvatarMsgId) sequence 0 (UInt32.ofNat request.payload.length) ∧
      next = { game with nextPacketSequence := next.nextPacketSequence } := by
  unfold prepareSelectAvatarRequest createTemporaryAvatarSelection at prepared
  cases loggedIn : game.account with
  | none =>
    rw [loggedIn] at prepared
    cases prepared
  | some account =>
    rw [loggedIn] at prepared
    simp only at prepared
    split at prepared
    · cases prepared
    · rename_i avatar created
      split at created
      · cases created
      split at created
      · cases created
      · rename_i visible
        cases created
        cases prepared
        refine ⟨account, _, rfl, Bool.eq_false_iff.mpr visible, rfl, rfl, rfl, ?_⟩
        rw [← loggedIn]
        rfl

/-- Selecting an avatar that is new to a client without a selection. -/
theorem Unselected.select (h : game.Unselected account) (fresh : game.entityManager.contains avatarEntityId = false) :
    (game.selectAvatar ⟨avatarEntityId, account⟩).2 = none ∧
      (game.selectAvatar ⟨avatarEntityId, account⟩).1.Selects account avatarEntityId false := by
  have kept : game.dropUnconfirmed ⟨avatarEntityId, account⟩ = game.entityManager := by
    unfold dropUnconfirmed
    rw [h.selected]
  unfold selectAvatar
  simp only [h.account, ne_eq, not_true, if_false, kept, fresh, Bool.false_eq_true]
  refine ⟨trivial, rfl, rfl, rfl, ⟨avatarEntityId, account⟩, ?_, rfl⟩
  exact Table.get_insert_self _ _ _

/-- A confirmation of the selection that is read as such. -/
theorem Selects.confirm (h : game.Selects account avatarEntityId false) (printed : guidTryParse avatarEntityId = some avatarEntityId)
    (gameNodeId : Option Bytes) (sessionId : Option UInt64) :
    ∃ next, game.confirmAvatarSelection account avatarEntityId gameNodeId sessionId = .ok (next, true) ∧
      next.Selects account avatarEntityId true := by
  obtain ⟨entity, avatar, own⟩ := h.avatar
  refine ⟨refreshLifecycleState { game with avatarSession := game.avatarSession.confirm gameNodeId sessionId }, ?_, ?_⟩
  · unfold confirmAvatarSelection
    simp only [h.account, printed, avatar, own, ne_eq, not_true, or_self, if_false]
  · exact ⟨h.account, h.selected, rfl, h.registered⟩

theorem Selects.clear (h : game.Selects account avatarEntityId confirmed) : game.clearAvatarSelection.Unselected account := by
  unfold clearAvatarSelection
  rw [if_neg (by rw [h.account]; exact Bool.false_ne_true)]
  exact ⟨h.account, rfl⟩

/-- Clearing what is not selected. -/
theorem Unselected.clear (h : game.Unselected account) :
    game.clearAvatarSelection.Unselected account ∧ game.clearAvatarSelection.entityManager = game.entityManager := by
  unfold clearAvatarSelection
  rw [if_neg (by rw [h.account]; exact Bool.false_ne_true)]
  refine ⟨⟨h.account, rfl⟩, ?_⟩
  simp only [h.selected]
  rfl

/-- **An answer with the error flag** clears the selection or is ignored. -/
theorem refusal_clears (deserialize : Deserialize) {packet : Packet} (refused : packet.header.flags &&& flagError ≠ 0) :
    game.tryHandleClientNetworkPacket deserialize packet = game.clearAvatarSelection ∨
      game.tryHandleClientNetworkPacket deserialize packet = game := by
  unfold tryHandleClientNetworkPacket
  split
  · unfold tryHandleSelectAvatarResponsePacket
    cases deserialize packet.payload with
    | error u => exact .inr rfl
    | ok response =>
      cases response with
      | none => exact .inr rfl
      | some response =>
        simp only
        by_cases action : response.action ≠ some (text "selectAvatarResult")
        · rw [if_pos action]
          exact .inr rfl
        · rw [if_neg action, if_pos (.inl refused)]
          exact .inl rfl
  · exact .inr rfl

end GameInstance

end XServer.Client
