import XServer.Client.GameInstance
import XServer.Core.JsonText
import XServer.Node.AvatarLink

/-!
# Client and Gate on the selected avatar

A client selects an avatar, the Gate asks a Game to create it, and the answer of
the Gate confirms the selection at the client or clears it. The two keep one
selection each. The Gate refuses a request while it holds a selection, and the client
takes every refusal for one of what it has selected.

`SendGameRequestAsync` of `App/ClientConsoleApp.cs` applies a selection after it has
waited for the request to be sent. The next command waits for that, but the receive
loop does not: an answer may come first.

The requests of one session, the create requests and results for it and the answers
to it are in flight in queues; answers arrive in order. What else happens at the Gate
leaves the session's selection alone. In a run in which the client selects only
when it has no selection, and takes no confirmation before it has applied what it sent,
the two agree whenever nothing is in flight (`selection_agrees`).
-/

namespace XServer.Client
open XServer.Lib XServer.Lib.Wire XServer.Net XServer.Core XServer.Node
open XServer.Managed (Guid guidTryParse guidTryParse_of_printed isNullOrWhiteSpace IsPrintedGuid)

/-! ## Packets of the client -/

/-- `ClientTransport.SendPacketAsync` up to the KCP session: the packet it queues. -/
def sendPacket (header : PacketHeader) (payload : Bytes) : Except PacketCodecErrorCode Bytes :=
  match Managed.PacketCodec.getWireSize payload.length with
  | .error e => .error e
  | .ok wireSize => Managed.PacketCodec.encodePacket header payload (List.replicate wireSize.toNat 0)

/-- The Gate decodes what the client sent. -/
theorem decodePacket_sendPacket {header : PacketHeader} {payload bytes : Bytes} (sent : sendPacket header payload = .ok bytes) :
    decodePacket bytes = .ok { header, payload } := by
  unfold sendPacket at sent
  by_cases fits : payload.length < 2147483628
  · rw [Managed.PacketCodec.getWireSize_ok fits] at sent
    simp only at sent
    rw [Managed.PacketCodec.encodePacket_eq (by omega)] at sent
    split at sent
    · rename_i written encoded
      have whole : (List.replicate (Int.toNat (Managed.PacketCodec.headerSize + payload.length : Nat)) (0 : UInt8)).drop
          (Managed.PacketCodec.headerSize + payload.length) = [] := by
        rw [List.drop_eq_nil_iff, List.length_replicate]
        omega
      rw [whole, List.append_nil] at sent
      cases sent
      exact decodePacket_encodePacket encoded
    · cases sent
  · rw [Managed.PacketCodec.getWireSize_overflow (by omega)] at sent
    cases sent

/-- A packet that the client decodes is one that the Gate's codec decodes. -/
theorem managed_decodePacket {bytes : Bytes} {packet : Packet} (decoded : Managed.PacketCodec.decodePacket bytes = .ok packet) :
    decodePacket bytes = .ok packet := by
  have short : bytes.length < 2 ^ 31 := by
    unfold Managed.PacketCodec.decodePacket at decoded
    split at decoded
    · cases decoded
    split at decoded
    · cases decoded
    · rename_i header _ _
      by_cases fits : header.length.toNat < 2147483628
      · rw [Managed.PacketCodec.getWireSize_ok fits] at decoded
        simp only at decoded
        split at decoded
        · cases decoded
        · rename_i size
          have size : (bytes.length : Int) = (Managed.PacketCodec.headerSize + header.length.toNat : Nat) := not_not.mp size
          simp only [Managed.PacketCodec.headerSize] at size
          omega
      · rw [Managed.PacketCodec.getWireSize_overflow (by omega)] at decoded
        cases decoded
  rw [Managed.PacketCodec.decodePacket_eq short] at decoded
  split at decoded
  · rename_i native
    cases decoded
    exact native
  · cases decoded

/-! ## The link -/

/-- A request in flight: what was serialized for an avatar, in its packet. -/
structure SelectRequest where
  avatarId : Guid
  payload : Bytes
  packet : Bytes
  deriving DecidableEq, Repr

/-- A client, with the avatar of the request it has sent and not applied yet; its Gate;
and what is in flight of the client's session: requests, create requests, results with
the Games they are from, and answers. -/
structure SelectionLink where
  client : GameInstance
  applying : Option AvatarEntity := none
  gate : GateClients
  toGate : List SelectRequest := []
  toGame : List Bytes := []
  results : List (Bytes × Bytes) := []
  toClient : List Bytes := []
  deriving DecidableEq

namespace SelectionLink

/-- What can happen next: the client sends a request for a new avatar; it applies the
selection it sent; the Gate gets the next request; a Game gets a create request of the
Gate; the Gate gets a result; the client gets the next answer; or the Gate is busy with
something else. -/
inductive Input where
  | select (serialize : SelectAvatarPayload → Bytes) (avatarEntityId : Guid)
  | applyAfterSend
  | gateReceives (ctx : GateContext) (env : GateEnv)
  | gameAnswers (index : Nat) (game : GameNode) (env : CreateEnv) (gate : Bytes)
  | gateTakes (index : Nat) (ctx : GateContext) (env : GateEnv)
  | clientReceives (deserialize : GameInstance.Deserialize)
  | elsewhere (gate : GateClients)

/-- The create requests among these events. -/
def requestsIn (events : List ClientEvent) : List Bytes :=
  events.filterMap fun event => match event with
    | .toGame _ packet => some packet
    | _ => none

/-- The packets that the client network took for the session. -/
def answersTo (sessionId : UInt64) (events : List ClientEvent) : List Bytes :=
  events.filterMap fun event => match event with
    | .sendPayload target packet ok => if target = sessionId ∧ ok = true then some packet else none
    | _ => none

/-- The results a Game sends to the Gate for a create request. -/
def resultsOf (game : GameNode) (env : CreateEnv) (gate bytes : Bytes) : List (Bytes × Bytes) :=
  match decodePacket bytes with
  | .error _ => []
  | .ok packet =>
    (AvatarLink.packetsTo gate (game.handleGateCreateAvatarEntity env gate packet)).map fun result => (game.nodeId, result)

variable (sessionId : UInt64) (link : SelectionLink)

/-- `HandleSelectAvatarAsync` up to the end of its wait for `SendPacketAsync`; not
before the last command has applied its request. -/
def select (serialize : SelectAvatarPayload → Bytes) (avatarEntityId : Guid) : SelectionLink :=
  match link.applying with
  | some _ => link
  | none =>
    match link.client.prepareSelectAvatarRequest serialize avatarEntityId none with
    | .error _ => link
    | .ok (request, client) =>
      match sendPacket request.header request.payload with
      | .error _ => { link with client }
      | .ok packet =>
        { link with
          client, applying := some request.avatar
          toGate := link.toGate ++ [{ avatarId := request.avatar.entityId, payload := request.payload, packet }] }

/-- The rest of the command. -/
def applyAfterSend : SelectionLink :=
  match link.applying with
  | none => link
  | some avatar => { link with client := (link.client.selectAvatar avatar).1, applying := none }

/-- What a handler of the Gate leaves behind. -/
def afterGate (result : GateClients × List ClientEvent) : SelectionLink :=
  { link with
    gate := result.1
    toGame := link.toGame ++ requestsIn result.2
    toClient := link.toClient ++ answersTo sessionId result.2 }

def step : Input → SelectionLink
  | .select serialize avatarEntityId => link.select serialize avatarEntityId
  | .applyAfterSend => link.applyAfterSend
  | .gateReceives ctx env =>
    match link.toGate with
    | [] => link
    | request :: rest =>
      afterGate sessionId { link with toGate := rest }
        (link.gate.handleClientPayloadReceived ctx env sessionId request.packet)
  | .gameAnswers index game env gate =>
    match link.toGame[index]? with
    | none => link
    | some bytes =>
      { link with toGame := link.toGame.eraseIdx index, results := link.results ++ resultsOf game env gate bytes }
  | .gateTakes index ctx env =>
    match link.results[index]? with
    | none => link
    | some (game, packet) =>
      afterGate sessionId { link with results := link.results.eraseIdx index }
        (link.gate.handleGameAvatarEntityCreateResultMessage ctx env game packet)
  | .clientReceives deserialize =>
    match link.toClient with
    | [] => link
    | bytes :: rest =>
      match Managed.PacketCodec.decodePacket bytes with
      | .error _ => { link with toClient := rest }
      | .ok packet => { link with client := link.client.tryHandleClientNetworkPacket deserialize packet, toClient := rest }
  | .elsewhere gate => { link with gate }

def machine : Machine SelectionLink Input Unit := ⟨fun link input => (link.step sessionId input, [])⟩

/-! ## Agreement -/

/-- Nothing of the session is in flight. -/
structure Quiet (link : SelectionLink) : Prop where
  toGate : link.toGate = []
  toGame : link.toGame = []
  results : link.results = []
  toClient : link.toClient = []

/-- The Gate's record of the session is confirmed for this avatar. -/
def GateConfirmedFor (avatarEntityId : Guid) : Prop :=
  avatarEntityId ≠ [] ∧ ∃ record, link.gate.clientSessionRecords[sessionId]? = some record ∧
    record.pendingSelectAvatarSeq = 0 ∧ record.avatarId = avatarEntityId

/-- The two agree when nothing is in flight. -/
def Agrees : Prop :=
  Quiet link → ∀ avatarEntityId, link.client.ConfirmedFor avatarEntityId ↔ link.GateConfirmedFor sessionId avatarEntityId

/-- No answer takes from the client a selection that both hold as confirmed. -/
def KeepsConfirmed : Prop :=
  ∀ deserialize avatarEntityId, link.client.ConfirmedFor avatarEntityId → link.GateConfirmedFor sessionId avatarEntityId →
    (link.step sessionId (.clientReceives deserialize)).client.ConfirmedFor avatarEntityId

/-! ## Runs -/

/-- A JSON parser that reads the objects the library writes. -/
def ReadsJson (parseJson : Bytes → Except Bytes Json) : Prop :=
  ∀ members body, dump members = some body → parseJson body = .ok (.object members)

/-- A deserializer that reads the answers the Gate writes. -/
def ReadsAnswers (deserialize : GameInstance.Deserialize) : Prop :=
  ∀ success accountId avatarId gameNodeId error body,
    dump (jsonObject (GateClients.selectAvatarResultMembers sessionId success accountId avatarId gameNodeId error)) = some body →
    deserialize body = .ok (some {
      success, accountId := some accountId, avatarId := some avatarId, gameNodeId := some gameNodeId, sessionId
      error := if success = true then none else some error })

/-- The client network takes the confirmation that answers this result, and the
client can decode it. -/
structure Transmits (gate : GateClients) (env : GateEnv) (payload : Bytes) : Prop where
  running : gate.clientNetwork.running = true
  queued : ∀ packet, env.kcpSendOk sessionId packet = true
  fits : ∀ result body, GateClients.createResultOf env payload = some result →
    dump (jsonObject (GateClients.selectAvatarResultMembers sessionId true result.accountId result.avatarId
      result.gameNodeId [])) = some body → body.length < 2147483628

/-- What the run rests on besides the code: new GUIDs are new, the JSON libraries read
what they write for each other, confirmations are transmitted, and nothing else
changes the session's selection at the Gate. -/
def Premises : Input → Prop
  | .select _ avatarEntityId =>
    IsPrintedGuid avatarEntityId ∧ link.client.entityManager.contains avatarEntityId = false
  | .gateReceives _ env => ∀ request, link.toGate.head? = some request → ∀ avatarId,
    readSelectAvatarRequest env request.payload = .ok avatarId → avatarId = request.avatarId
  | .gameAnswers _ _ env _ => ReadsJson env.parseJson
  | .gateTakes index _ env => ReadsJson env.parseJson ∧
    ∀ result, link.results[index]? = some result → Transmits sessionId link.gate env result.2
  | .clientReceives deserialize => ReadsAnswers sessionId deserialize
  | .elsewhere gate => ∀ record, link.gate.clientSessionRecords[sessionId]? = some record →
    ∃ next, gate.clientSessionRecords[sessionId]? = some next ∧ GateClients.SameSelection record next
  | .applyAfterSend => True

/-- The packet has the error flag, whenever the client can decode it. -/
def IsRefusal (bytes : Bytes) : Prop :=
  ∀ packet, Managed.PacketCodec.decodePacket bytes = .ok packet → packet.header.flags &&& flagError ≠ 0

/-- The client selects an avatar only when it has no selection, and takes nothing but
refusals before it has applied what it sent. -/
def InTurn : Input → Prop
  | .select _ _ => link.client.avatarSession.selectedAvatarEntityId = none
  | .clientReceives _ => link.applying = none ∨ ∀ bytes, link.toClient.head? = some bytes → IsRefusal bytes
  | _ => True

/-! ## Phases -/

/-- The Gate's record of the session: its account, the avatar it is bound to, and
whether it waits for a Game. -/
def Holds (gate : GateClients) (account avatarId : Bytes) (waits : Bool) : Prop :=
  ∃ record, gate.clientSessionRecords[sessionId]? = some record ∧ record.sessionId = sessionId ∧
    record.accountId = account ∧ record.avatarId = avatarId ∧ (record.pendingSelectAvatarSeq ≠ 0 ↔ waits = true)

/-- The packet is a request for the avatar. -/
structure Requests (avatarId : Guid) (request : SelectRequest) : Prop where
  avatarId : request.avatarId = avatarId
  sent : ∃ packet, decodePacket request.packet = .ok packet ∧ packet.header.msgId = clientSelectAvatarMsgId ∧
    packet.payload = request.payload

/-- The create request is for the session's account and avatar. -/
structure CreatesFor (account avatarId : Bytes) (request : AvatarCreateRequest) : Prop where
  sessionId : request.sessionId = sessionId
  accountId : request.accountId = account
  avatarId : request.avatarId = avatarId

/-- At most one create request or result is in flight, for the session's avatar. -/
inductive Creation (account avatarId : Bytes) : List Bytes → List (Bytes × Bytes) → Prop where
  | lost : Creation account avatarId [] []
  | request {request : AvatarCreateRequest} {packet : Bytes} (about : CreatesFor sessionId account avatarId request)
      (written : request.packet = some packet) : Creation account avatarId [packet] []
  | result {request : AvatarCreateRequest} {game packet : Bytes} (about : CreatesFor sessionId account avatarId request)
      (written : request.IsResult game packet) : Creation account avatarId [] [(game, packet)]

/-- The packet confirms the selection of the avatar. -/
def IsConfirmation (account avatarId bytes : Bytes) : Prop :=
  ∃ packet gameNodeId, Managed.PacketCodec.decodePacket bytes = .ok packet ∧
    packet.header.msgId = clientSelectAvatarMsgId ∧ packet.header.flags = kResponseFlags ∧
    dump (jsonObject (GateClients.selectAvatarResultMembers sessionId true account avatarId gameNodeId [])) =
      some packet.payload

/-- The client has selected the avatar, or will have when it applies what it sent. -/
inductive Chooses (account : Bytes) (avatarId : Guid) (client : GameInstance) : Option AvatarEntity → Prop where
  | applied (selects : client.Selects account avatarId false) : Chooses account avatarId client none
  | sent (unselected : client.Unselected account) (fresh : client.entityManager.contains avatarId = false) :
      Chooses account avatarId client (some ⟨avatarId, account⟩)

/-- How far the session is: a selection is on its way to the Gate, with a Game, or on
its way back; or the two agree. -/
inductive Phase (account : Bytes) : SelectionLink → Prop where
  | idle {client : GameInstance} {gate : GateClients} (unselected : client.Unselected account)
      (holds : Holds sessionId gate account [] false) : Phase account { client, gate }
  | requested {client : GameInstance} {applying : Option AvatarEntity} {gate : GateClients} {avatarId : Guid}
      {request : SelectRequest} (printed : IsPrintedGuid avatarId) (chooses : Chooses account avatarId client applying)
      (visible : isNullOrWhiteSpace account = false) (holds : Holds sessionId gate account [] false)
      (requests : Requests avatarId request) : Phase account { client, applying, gate, toGate := [request] }
  | creating {client : GameInstance} {applying : Option AvatarEntity} {gate : GateClients} {avatarId : Guid}
      {toGame : List Bytes} {results : List (Bytes × Bytes)} (printed : IsPrintedGuid avatarId)
      (chooses : Chooses account avatarId client applying) (visible : isNullOrWhiteSpace account = false)
      (holds : Holds sessionId gate account avatarId true) (creation : Creation sessionId account avatarId toGame results) :
      Phase account { client, applying, gate, toGame, results }
  | refused {client : GameInstance} {applying : Option AvatarEntity} {gate : GateClients} {avatarId : Guid}
      {toClient : List Bytes} (chooses : Chooses account avatarId client applying)
      (holds : Holds sessionId gate account [] false)
      (answers : toClient = [] ∨ ∃ bytes, toClient = [bytes] ∧ IsRefusal bytes) :
      Phase account { client, applying, gate, toClient }
  | accepted {client : GameInstance} {applying : Option AvatarEntity} {gate : GateClients} {avatarId : Guid}
      {bytes : Bytes} (printed : IsPrintedGuid avatarId) (chooses : Chooses account avatarId client applying)
      (visible : isNullOrWhiteSpace account = false) (holds : Holds sessionId gate account avatarId false)
      (confirmation : IsConfirmation sessionId account avatarId bytes) :
      Phase account { client, applying, gate, toClient := [bytes] }
  | confirmed {client : GameInstance} {gate : GateClients} {avatarId : Guid}
      (printed : IsPrintedGuid avatarId) (selects : client.Selects account avatarId true)
      (holds : Holds sessionId gate account avatarId false) : Phase account { client, gate }

section Phases

variable {sessionId : UInt64} {account : Bytes} {link : SelectionLink}

theorem Holds.gateConfirmed {avatarId : Bytes} {waits : Bool} (holds : Holds sessionId link.gate account avatarId waits)
    {other : Guid} : link.GateConfirmedFor sessionId other ↔ other ≠ [] ∧ waits = false ∧ other = avatarId := by
  obtain ⟨record, found, -, -, bound, waiting⟩ := holds
  unfold GateConfirmedFor
  constructor
  · rintro ⟨nonempty, record', found', settled, same⟩
    rw [found] at found'
    cases found'
    refine ⟨nonempty, ?_, same.symm.trans bound⟩
    cases waits with
    | false => rfl
    | true => exact absurd settled (waiting.mpr rfl)
  · rintro ⟨nonempty, rfl, rfl⟩
    refine ⟨nonempty, record, found, ?_, bound⟩
    have idle : ¬ record.pendingSelectAvatarSeq ≠ 0 := fun pending => Bool.false_ne_true (waiting.mp pending)
    exact not_not.mp idle

/-- The text of a GUID is not blank. -/
theorem printedGuid_visible {avatarId : Guid} (printed : IsPrintedGuid avatarId) : isNullOrWhiteSpace avatarId = false := by
  have visible := Managed.isCanonicalGuidText_visible printed.1
  cases avatarId with
  | nil => exact absurd printed.1 (by decide)
  | cons ch rest =>
    obtain ⟨ascii, above⟩ := visible ch List.mem_cons_self
    exact Managed.isNullOrWhiteSpace_of_visible ascii above

theorem printedGuid_ne_nil {avatarId : Guid} (printed : IsPrintedGuid avatarId) : avatarId ≠ [] := by
  rintro rfl
  cases printedGuid_visible printed

theorem Chooses.unconfirmed {client : GameInstance} {applying : Option AvatarEntity} {avatarId : Guid}
    (chooses : Chooses account avatarId client applying) (other : Guid) : ¬ client.ConfirmedFor other := by
  cases chooses with
  | applied selects => exact fun confirmed => Bool.false_ne_true (selects.confirmedFor.mp confirmed).1
  | sent unselected => exact unselected.not_confirmedFor other

/-- **What the phases promise.** -/
theorem Phase.agrees (phase : Phase sessionId account link) : link.Agrees sessionId := by
  intro quiet other
  cases phase with
  | idle unselected holds =>
    refine iff_of_false (unselected.not_confirmedFor other) fun confirmed => ?_
    obtain ⟨nonempty, -, same⟩ := holds.gateConfirmed.mp confirmed
    exact nonempty same
  | requested => exact absurd quiet.toGate (List.cons_ne_nil _ _)
  | creating printed chooses visible holds creation =>
    refine iff_of_false (chooses.unconfirmed other) fun confirmed => ?_
    exact Bool.false_ne_true (holds.gateConfirmed.mp confirmed).2.1.symm
  | refused chooses holds answers =>
    refine iff_of_false (chooses.unconfirmed other) fun confirmed => ?_
    obtain ⟨nonempty, -, same⟩ := holds.gateConfirmed.mp confirmed
    exact nonempty same
  | accepted => exact absurd quiet.toClient (List.cons_ne_nil _ _)
  | @confirmed _ _ avatarId printed selects holds =>
    rw [selects.confirmedFor, holds.gateConfirmed]
    constructor
    · rintro ⟨-, rfl⟩
      exact ⟨printedGuid_ne_nil printed, rfl, rfl⟩
    · exact fun confirmed => ⟨rfl, confirmed.2.2⟩

/-! ## Steps of the client -/

/-- A command that is not done keeps the next one waiting; one that is done has
selected. -/
theorem Chooses.select_waits {client : GameInstance} {applying : Option AvatarEntity} {avatarId : Guid}
    (chooses : Chooses account avatarId client applying) (unselected : client.avatarSession.selectedAvatarEntityId = none) :
    ∃ avatar, applying = some avatar := by
  cases chooses with
  | applied selects => cases selects.selected.symm.trans unselected
  | sent => exact ⟨_, rfl⟩

theorem select_waiting {avatar : AvatarEntity} (waiting : link.applying = some avatar)
    (serialize : SelectAvatarPayload → Bytes) (avatarEntityId : Guid) : link.select serialize avatarEntityId = link := by
  unfold select
  rw [waiting]

theorem select_phase (phase : Phase sessionId account link) {serialize : SelectAvatarPayload → Bytes}
    {avatarEntityId : Guid} (inTurn : link.InTurn (.select serialize avatarEntityId))
    (premises : link.Premises sessionId (.select serialize avatarEntityId)) :
    Phase sessionId account (link.select serialize avatarEntityId) := by
  have alone : link.client.avatarSession.selectedAvatarEntityId = none := inTurn
  cases phase with
  | @idle client gate unselected holds =>
    obtain ⟨printed, fresh⟩ := premises
    unfold select
    cases prepared : client.prepareSelectAvatarRequest serialize avatarEntityId none with
    | error e => exact .idle unselected holds
    | ok outbound =>
      obtain ⟨request, next⟩ := outbound
      obtain ⟨account', sequence, own, visible, avatar, payload, header, same⟩ :=
        GameInstance.prepareSelectAvatarRequest_ok prepared
      rw [unselected.account] at own
      cases own
      have unselected' : next.Unselected account := by
        rw [same]
        exact ⟨unselected.account, unselected.selected⟩
      have fresh' : next.entityManager.contains avatarEntityId = false := by
        rw [same]
        exact fresh
      simp only
      cases sent : sendPacket request.header request.payload with
      | error e => exact .idle unselected' holds
      | ok packet =>
        simp only [avatar, List.nil_append]
        refine .requested printed (.sent unselected' fresh') visible holds ⟨rfl, _, decodePacket_sendPacket sent, ?_, rfl⟩
        rw [header]
        rfl
  | requested printed chooses visible holds requests =>
    obtain ⟨avatar, waiting⟩ := chooses.select_waits alone
    rw [select_waiting waiting]
    exact .requested printed chooses visible holds requests
  | creating printed chooses visible holds creation =>
    obtain ⟨avatar, waiting⟩ := chooses.select_waits alone
    rw [select_waiting waiting]
    exact .creating printed chooses visible holds creation
  | refused chooses holds answers =>
    obtain ⟨avatar, waiting⟩ := chooses.select_waits alone
    rw [select_waiting waiting]
    exact .refused chooses holds answers
  | accepted printed chooses visible holds confirmation =>
    obtain ⟨avatar, waiting⟩ := chooses.select_waits alone
    rw [select_waiting waiting]
    exact .accepted printed chooses visible holds confirmation
  | confirmed _ selects => cases selects.selected.symm.trans alone

/-- **The client applies what it sent.** -/
theorem applyAfterSend_phase (phase : Phase sessionId account link) : Phase sessionId account link.applyAfterSend := by
  have applies : ∀ {client : GameInstance} {applying : Option AvatarEntity} {avatarId : Guid},
      Chooses account avatarId client applying → ∀ (gate : GateClients) (toGate : List SelectRequest) (toGame : List Bytes)
        (results : List (Bytes × Bytes)) (toClient : List Bytes), ∃ next : GameInstance,
        applyAfterSend { client, applying, gate, toGate, toGame, results, toClient } =
          { client := next, gate, toGate, toGame, results, toClient } ∧ Chooses account avatarId next none := by
    intro client applying avatarId chooses gate toGate toGame results toClient
    cases chooses with
    | applied selects => exact ⟨client, rfl, .applied selects⟩
    | sent unselected fresh => exact ⟨_, rfl, .applied (unselected.select fresh).2⟩
  cases phase with
  | idle unselected holds => exact .idle unselected holds
  | requested printed chooses visible holds requests =>
    obtain ⟨next, same, chosen⟩ := applies chooses _ _ [] [] []
    rw [same]
    exact .requested printed chosen visible holds requests
  | @creating _ _ _ _ toGame results printed chooses visible holds creation =>
    obtain ⟨next, same, chosen⟩ := applies chooses _ [] toGame results []
    rw [same]
    exact .creating printed chosen visible holds creation
  | @refused _ _ _ _ toClient chooses holds answers =>
    obtain ⟨next, same, chosen⟩ := applies chooses _ [] [] [] toClient
    rw [same]
    exact .refused chosen holds answers
  | @accepted _ _ _ _ bytes printed chooses visible holds confirmation =>
    obtain ⟨next, same, chosen⟩ := applies chooses _ [] [] [] [bytes]
    rw [same]
    exact .accepted printed chosen visible holds confirmation
  | confirmed printed selects holds => exact .confirmed printed selects holds

/-- The client takes the confirmation of its selection. -/
theorem confirmation_confirms {client : GameInstance} {avatarId : Guid} {packet : Packet} {gameNodeId : Bytes}
    {deserialize : GameInstance.Deserialize} (printed : IsPrintedGuid avatarId)
    (selects : client.Selects account avatarId false) (visible : isNullOrWhiteSpace account = false)
    (isSelect : packet.header.msgId = clientSelectAvatarMsgId) (flags : packet.header.flags = kResponseFlags)
    (written : dump (jsonObject (GateClients.selectAvatarResultMembers sessionId true account avatarId gameNodeId [])) =
      some packet.payload) (reads : ReadsAnswers sessionId deserialize) :
    (client.tryHandleClientNetworkPacket deserialize packet).Selects account avatarId true := by
  have shown : isNullOrWhiteSpace avatarId = false := printedGuid_visible printed
  have clear : ¬ (kResponseFlags &&& flagError ≠ 0 ∨ true = false) := by decide
  obtain ⟨next, confirmed, after⟩ := selects.confirm (guidTryParse_of_printed printed) (some gameNodeId) (some sessionId)
  unfold GameInstance.tryHandleClientNetworkPacket
  rw [if_pos ⟨isSelect, by rw [flags]; decide⟩]
  unfold GameInstance.tryHandleSelectAvatarResponsePacket
  rw [reads true account avatarId gameNodeId [] packet.payload written]
  simp only [ne_eq, not_true, if_false, flags, if_neg clear, visible, shown, or_self, Bool.false_eq_true, confirmed]
  exact after

/-- A refusal leaves the client without a selection, or changes nothing. -/
theorem refused_answer {client : GameInstance} {applying : Option AvatarEntity} {avatarId : Guid} {gate : GateClients}
    {deserialize : GameInstance.Deserialize} {packet : Packet} (chooses : Chooses account avatarId client applying)
    (holds : Holds sessionId gate account [] false) (refused : packet.header.flags &&& flagError ≠ 0) :
    Phase sessionId account { client := client.tryHandleClientNetworkPacket deserialize packet, applying, gate } := by
  rcases GameInstance.refusal_clears deserialize refused with cleared | ignored
  · rw [cleared]
    cases chooses with
    | applied selects => exact .idle selects.clear holds
    | sent unselected fresh =>
      obtain ⟨unselected', same⟩ := unselected.clear
      exact .refused (.sent unselected' (same ▸ fresh)) holds (.inl rfl)
  · rw [ignored]
    exact .refused chooses holds (.inl rfl)

/-- A confirmation is no refusal. -/
theorem IsConfirmation.not_refusal {avatarId bytes : Bytes} (confirmation : IsConfirmation sessionId account avatarId bytes) :
    ¬ IsRefusal bytes := by
  obtain ⟨packet, gameNodeId, decoded, -, flags, -⟩ := confirmation
  intro refusal
  have error := refusal packet decoded
  rw [flags] at error
  exact absurd error (by decide)

theorem clientReceives_phase (phase : Phase sessionId account link) {deserialize : GameInstance.Deserialize}
    (inTurn : link.InTurn (.clientReceives deserialize)) (reads : ReadsAnswers sessionId deserialize) :
    Phase sessionId account (link.step sessionId (.clientReceives deserialize)) := by
  cases phase with
  | idle unselected holds => exact .idle unselected holds
  | requested printed chooses visible holds requests => exact .requested printed chooses visible holds requests
  | creating printed chooses visible holds creation => exact .creating printed chooses visible holds creation
  | confirmed printed selects holds => exact .confirmed printed selects holds
  | refused chooses holds answers =>
    rcases answers with rfl | ⟨bytes, rfl, refusal⟩
    · exact .refused chooses holds (.inl rfl)
    · simp only [step]
      cases decoded : Managed.PacketCodec.decodePacket bytes with
      | error e => exact .refused chooses holds (.inl rfl)
      | ok packet => exact refused_answer chooses holds (refusal packet decoded)
  | accepted printed chooses visible holds confirmation =>
    rcases inTurn with done | refusal
    · cases chooses with
      | sent => cases done
      | applied selects =>
        obtain ⟨packet, gameNodeId, decoded, isSelect, flags, written⟩ := confirmation
        simp only [step, decoded]
        exact .confirmed printed (confirmation_confirms printed selects visible isSelect flags written reads) holds
    · exact absurd (refusal _ rfl) confirmation.not_refusal

/-! ## What the Gate does -/

theorem Holds.same {gate next : GateClients} {avatarId : Bytes} {waits : Bool}
    (holds : Holds sessionId gate account avatarId waits)
    (same : ∀ record, gate.clientSessionRecords[sessionId]? = some record →
      ∃ record', next.clientSessionRecords[sessionId]? = some record' ∧ GateClients.SameSelection record record') :
    Holds sessionId next account avatarId waits := by
  obtain ⟨record, found, own, whose, bound, waiting⟩ := holds
  obtain ⟨record', found', selection⟩ := same record found
  unfold GateClients.SameSelection at selection
  refine ⟨record', found', ?_⟩
  rw [selection]
  exact ⟨own, whose, bound, waiting⟩

theorem Holds.touch {gate : GateClients} {avatarId : Bytes} {waits : Bool}
    (holds : Holds sessionId gate account avatarId waits) (env : GateEnv) :
    Holds sessionId (gate.touchRecord env sessionId) account avatarId waits := by
  refine holds.same fun record found => ⟨{ record with lastActiveUnixMs := env.laterUnixMs }, ?_, rfl⟩
  unfold GateClients.touchRecord GateClients.modifyRecord
  rw [found]
  exact Table.get_insert_self _ _ _

/-- A refusal is on its way to the client, or lost at the Gate. -/
theorem refusal_sent (gate : GateClients) (env : GateEnv) (seq : UInt32) (accountId avatarId gameNodeId error : Bytes) :
    let result := gate.sendClientSelectAvatarResult env sessionId seq false accountId avatarId gameNodeId error
    requestsIn result.2 = [] ∧
      (answersTo sessionId result.2 = [] ∨ ∃ bytes, answersTo sessionId result.2 = [bytes] ∧ IsRefusal bytes) := by
  unfold GateClients.sendClientSelectAvatarResult
  split
  · exact ⟨rfl, .inl rfl⟩
  split
  · exact ⟨rfl, .inl rfl⟩
  split
  · exact ⟨rfl, .inl rfl⟩
  · rename_i bytes encoded
    refine ⟨rfl, ?_⟩
    simp only [GateClients.sendPayload, answersTo, List.filterMap_cons, List.filterMap_nil, true_and]
    split
    · exact .inl rfl
    · rename_i sent
      split at sent
      · cases sent
        refine .inr ⟨_, rfl, fun packet decoded => ?_⟩
        have native := managed_decodePacket decoded
        rw [decodePacket_encodePacket encoded] at native
        cases native
        show kErrorResponseFlags &&& flagError ≠ 0
        decide
      · cases sent

/-- The number of an accepted request is what its session waits with. -/
theorem nextSelectAvatarRecord_waits {clients : GateClients} {ctx : GateContext} {env : GateEnv} {packet : Packet}
    {next : ClientSessionRecord} (accepted : clients.nextSelectAvatarRecord ctx env sessionId packet = .ok next) :
    next.pendingSelectAvatarSeq ≠ 0 := by
  unfold GateClients.nextSelectAvatarRecord at accepted
  split at accepted
  · cases accepted
  · rename_i envelope
    simp only at accepted
    repeat' split at accepted
    all_goals try cases accepted
    exact fun none => envelope (.inr none)

/-- An accepted request binds its avatar, and its create request goes out. -/
theorem accepted_holds {gate next : GateClients} {ctx : GateContext} {env : GateEnv} {packet : Packet} {event : ClientEvent}
    (holds : Holds sessionId gate account [] false)
    (handled : gate.handleClientSelectAvatarPacket ctx env sessionId packet = .done (next, event)) :
    ∃ (avatarId : Bytes) (request : AvatarCreateRequest) (routingId sent : Bytes),
      readSelectAvatarRequest env packet.payload = .ok avatarId ∧ Holds sessionId next account avatarId true ∧
        CreatesFor sessionId account avatarId request ∧ request.packet = some sent ∧ event = .toGame routingId sent := by
  unfold GateClients.handleClientSelectAvatarPacket at handled
  split at handled
  · cases handled
  rename_i record accepted
  split at handled
  · cases handled
  · cases handled
  · rename_i routingId sent created
    cases handled
    obtain ⟨read, before, selected⟩ := GateClients.nextSelectAvatarRecord_ok accepted
    obtain ⟨before', found', -, same⟩ := GateClients.nextSelectAvatarRecord_idle accepted
    obtain ⟨held, found, own, whose, -, -⟩ := holds
    cases (Option.some.inj (selected.found.symm.trans found))
    cases (Option.some.inj (found'.symm.trans found))
    have sessionOf := same.trans own
    have accountOf := selected.accountId.trans whose
    refine ⟨record.avatarId, record.createRequest, routingId, sent, read, ?_, ⟨sessionOf, accountOf, rfl⟩,
      GateClients.sendCreateAvatarEntityRequest_packet created, rfl⟩
    refine ⟨record, Table.get_insert_self _ _ _, sessionOf, accountOf, rfl, ?_⟩
    exact iff_of_true (nextSelectAvatarRecord_waits accepted) rfl

/-- **The Gate gets a request** of a session without an avatar. -/
theorem gateReceives_phase (phase : Phase sessionId account link) {ctx : GateContext} {env : GateEnv}
    (premises : link.Premises sessionId (.gateReceives ctx env)) :
    Phase sessionId account (link.step sessionId (.gateReceives ctx env)) := by
  cases phase with
  | idle unselected holds => exact .idle unselected holds
  | creating printed chooses visible holds creation => exact .creating printed chooses visible holds creation
  | confirmed printed selects holds => exact .confirmed printed selects holds
  | refused chooses holds answers => exact .refused chooses holds answers
  | accepted printed chooses visible holds confirmation => exact .accepted printed chooses visible holds confirmation
  | @requested client applying gate avatarId request printed chooses visible holds requests =>
    obtain ⟨packet, decoded, isSelect, payload⟩ := requests.sent
    have reads := premises request rfl
    have touched := holds.touch env
    simp only [step, GateClients.handleClientPayloadReceived, decoded, isSelect, if_true]
    cases handled : (gate.touchRecord env sessionId).handleClientSelectAvatarPacket ctx env sessionId packet with
    | threw => exact .refused chooses touched (.inl rfl)
    | rejected error =>
      obtain ⟨noRequest, answer⟩ := @refusal_sent sessionId (gate.touchRecord env sessionId) env packet.header.seq
        (((gate.touchRecord env sessionId).clientSessionRecords[sessionId]?.map (·.accountId)).getD [])
        (((gate.touchRecord env sessionId).clientSessionRecords[sessionId]?.map (·.avatarId)).getD [])
        (((gate.touchRecord env sessionId).clientSessionRecords[sessionId]?.map (·.gameNodeId)).getD []) error
      simp only [afterGate, noRequest, List.nil_append]
      refine .refused chooses (touched.same fun record found => ⟨record, ?_, rfl⟩) answer
      rw [GateClients.sendClientSelectAvatarResult_records]
      exact found
    | done result =>
      obtain ⟨next, event⟩ := result
      obtain ⟨bound, create, routingId, sent, read, holds', about, written, rfl⟩ := accepted_holds touched handled
      rw [payload] at read
      cases (reads bound read).trans requests.avatarId
      exact .creating printed chooses visible holds' (.request about written)

/-! ## Creating the avatar -/

/-- The members of a text are what the parser reads in it. -/
theorem ReadsJson.tryParse {env : GateEnv} (reads : ReadsJson env.parseJson) {members : Table Bytes JsonScalar} {body : Bytes}
    (written : dump members = some body) : env.tryParseJson body = .ok (.object members) := by
  unfold GateEnv.tryParseJson
  rw [reads members body written]

theorem resultMembers_nodup (request : AvatarCreateRequest) (gameNodeId : Bytes) (success : Bool) (error : Bytes) :
    ((request.resultMembers gameNodeId success error).map (·.1)).Nodup := by
  unfold AvatarCreateRequest.resultMembers
  split
  · simp only [List.cons_append, List.nil_append, List.map_cons, List.map_nil]
    decide +kernel
  · simp only [List.append_nil, List.map_cons, List.map_nil]
    decide +kernel

theorem resultMembers_fields (request : AvatarCreateRequest) (gameNodeId : Bytes)
    (success : Bool) (error : Bytes) :
    (text "sessionId", .unsigned request.sessionId) ∈ request.resultMembers gameNodeId success error ∧
      (text "accountId", .string request.accountId) ∈ request.resultMembers gameNodeId success error ∧
      (text "avatarId", .string request.avatarId) ∈ request.resultMembers gameNodeId success error ∧
      (text "gameNodeId", .string gameNodeId) ∈ request.resultMembers gameNodeId success error := by
  simp [AvatarCreateRequest.resultMembers]

/-- A member that is found is the one that was written. -/
theorem found_eq {members : List (Bytes × JsonScalar)} (distinct : (members.map (·.1)).Nodup) {field : String}
    {value read : JsonScalar} (mem : (text field, value) ∈ members)
    (found : (jsonObject members)[text field]? = some read) : read = value := by
  have written : (jsonObject members)[text field]? = some value := get_foldl_insert distinct mem
  rw [written] at found
  exact (Option.some.inj found).symm

theorem bind_ok {ε α β : Type} {x : Except ε α} {f : α → Except ε β} {b : β} (h : (x >>= f) = .ok b) :
    ∃ a, x = .ok a ∧ f a = .ok b := by
  cases x with
  | error e => cases h
  | ok a => exact ⟨a, rfl, h⟩

theorem readAvatarCreateResult_ok {members : Table Bytes JsonScalar} {result : GateClients.AvatarCreateResult}
    (read : GateClients.readAvatarCreateResult members = .ok result) :
    Node.tryReadRequiredJsonUInt64 members "sessionId" = .ok result.sessionId ∧
      Node.tryReadRequiredJsonString members "accountId" = .ok result.accountId ∧
      Node.tryReadRequiredJsonString members "avatarId" = .ok result.avatarId ∧
      Node.tryReadRequiredJsonString members "gameNodeId" = .ok result.gameNodeId := by
  unfold GateClients.readAvatarCreateResult at read
  obtain ⟨action, -, read⟩ := bind_ok read
  obtain ⟨success, -, read⟩ := bind_ok read
  obtain ⟨sessionId, session, read⟩ := bind_ok read
  obtain ⟨accountId, account, read⟩ := bind_ok read
  obtain ⟨avatarId, avatar, read⟩ := bind_ok read
  obtain ⟨gameNodeId, game, read⟩ := bind_ok read
  obtain ⟨gateNodeId, -, read⟩ := bind_ok read
  cases read
  exact ⟨session, account, avatar, game⟩

/-- What the Gate reads in the result of a Game, and that it can be written again. -/
theorem read_result {env : GateEnv} (reads : ReadsJson env.parseJson) {request : AvatarCreateRequest} {game packet : Bytes}
    (written : request.IsResult game packet) {result : GateClients.AvatarCreateResult}
    (carried : GateClients.createResultOf env packet = some result) :
    result.sessionId = request.sessionId ∧ result.accountId = request.accountId ∧ result.avatarId = request.avatarId ∧
      validUtf8 result.accountId = true ∧ validUtf8 result.avatarId = true ∧ validUtf8 result.gameNodeId = true := by
  obtain ⟨success, error, written⟩ := written
  obtain ⟨body, dumped, -, decoded⟩ := callPacket_some written
  have distinct := resultMembers_nodup request game success error
  have writable : (request.resultMembers game success error).all writable = true := by
    rw [← dump_isSome distinct, dumped]
    rfl
  have fits : ∀ {field value}, (text field, JsonScalar.string value) ∈ request.resultMembers game success error →
      validUtf8 value = true := by
    intro field value mem
    have one := List.all_eq_true.mp writable _ mem
    exact (Bool.and_eq_true_iff.mp one).2
  have read : GateClients.readAvatarCreateResult (jsonObject (request.resultMembers game success error)) = .ok result := by
    have call : ∃ header, GateClients.decodeCall packet = some { header, payload := body } := by
      unfold GateClients.decodeCall
      simp only [decoded]
      exact ⟨_, if_neg (by simp [makePacketHeader])⟩
    obtain ⟨header, call⟩ := call
    simp only [GateClients.createResultOf, call, reads.tryParse dumped, Option.bind_eq_bind, Option.bind_some,
      Except.toOption] at carried
    exact ok_of_toOption carried
  obtain ⟨session, account, avatar, gameNode⟩ := readAvatarCreateResult_ok read
  obtain ⟨hasSession, hasAccount, hasAvatar, hasGame⟩ := resultMembers_fields request game success error
  have sameSession := found_eq distinct hasSession (requiredJsonUInt64_ok session).1
  have sameAccount := found_eq distinct hasAccount (requiredJsonString_ok account).1
  have sameAvatar := found_eq distinct hasAvatar (requiredJsonString_ok avatar).1
  have sameGame := found_eq distinct hasGame (requiredJsonString_ok gameNode).1
  rw [JsonScalar.string.inj sameAccount, JsonScalar.string.inj sameAvatar, JsonScalar.string.inj sameGame]
  exact ⟨JsonScalar.unsigned.inj sameSession, rfl, rfl, fits hasAccount, fits hasAvatar, fits hasGame⟩

theorem createMembers_nodup (request : AvatarCreateRequest) : (request.members.map (·.1)).Nodup := by
  simp only [AvatarCreateRequest.members, List.map_cons, List.map_nil]
  decide +kernel

theorem createMembers_fields (request : AvatarCreateRequest) :
    (text "accountId", .string request.accountId) ∈ request.members ∧
      (text "avatarId", .string request.avatarId) ∈ request.members ∧
      (text "gateNodeId", .string request.gateNodeId) ∈ request.members ∧
      (text "sessionId", .unsigned request.sessionId) ∈ request.members := by
  simp [AvatarCreateRequest.members]

/-- The Game reads the request that the Gate wrote. -/
theorem read_request {env : CreateEnv} (reads : ReadsJson env.parseJson) {request read : AvatarCreateRequest} {body : Bytes}
    (written : dump (jsonObject request.members) = some body)
    (parsed : GameNode.tryParseAvatarCreateRequestPayload env body = .ok read) : read = request := by
  have distinct := createMembers_nodup request
  unfold GameNode.tryParseAvatarCreateRequestPayload at parsed
  rw [reads _ body written] at parsed
  obtain ⟨accountId, account, parsed⟩ := bind_ok parsed
  obtain ⟨avatarId, avatar, parsed⟩ := bind_ok parsed
  obtain ⟨gateNodeId, gate, parsed⟩ := bind_ok parsed
  obtain ⟨sessionId, session, parsed⟩ := bind_ok parsed
  cases parsed
  obtain ⟨hasAccount, hasAvatar, hasGate, hasSession⟩ := createMembers_fields request
  have sameAccount := found_eq distinct hasAccount (requiredJsonString_ok account).1
  have sameAvatar := found_eq distinct hasAvatar (requiredJsonString_ok avatar).1
  have sameGate := found_eq distinct hasGate (requiredJsonString_ok gate).1
  have sameSession := found_eq distinct hasSession (requiredJsonUInt64_ok session).1
  rw [JsonScalar.string.inj sameAccount, JsonScalar.string.inj sameAvatar, JsonScalar.string.inj sameGate,
    JsonScalar.unsigned.inj sameSession]

/-- A Game sends one result for the request, or none. -/
theorem resultsOf_cases {request : AvatarCreateRequest} {bytes : Bytes} (written : request.packet = some bytes)
    {game : GameNode} {env : CreateEnv} (reads : ReadsJson env.parseJson) (gate : Bytes) :
    resultsOf game env gate bytes = [] ∨
      ∃ sent, resultsOf game env gate bytes = [(game.nodeId, sent)] ∧ request.IsResult game.nodeId sent := by
  obtain ⟨body, dumped, -, decoded⟩ := callPacket_some written
  unfold resultsOf
  rw [decoded]
  simp only [GameNode.handleGateCreateAvatarEntity]
  split
  · exact .inl rfl
  split
  · exact .inl rfl
  · rename_i read parsed
    cases read_request reads dumped parsed
    simp only [GameNode.sendGateAvatarEntityCreateResult, parsed]
    split
    · exact .inl rfl
    split
    · exact .inl rfl
    · generalize result : Option.filter _ _ = answer
      cases answer with
      | none => exact .inl rfl
      | some sent =>
        obtain ⟨packed, -⟩ := Option.filter_eq_some_iff.mp result
        refine .inr ⟨sent, ?_, _, _, packed⟩
        simp [GameEvent.sent, AvatarLink.packetsTo]

/-- **A Game gets the create request.** -/
theorem gameAnswers_phase (phase : Phase sessionId account link) {index : Nat} {game : GameNode} {env : CreateEnv}
    {gate : Bytes} (reads : ReadsJson env.parseJson) :
    Phase sessionId account (link.step sessionId (.gameAnswers index game env gate)) := by
  cases phase with
  | idle unselected holds => exact .idle unselected holds
  | requested printed chooses visible holds requests => exact .requested printed chooses visible holds requests
  | refused chooses holds answers => exact .refused chooses holds answers
  | accepted printed chooses visible holds confirmation => exact .accepted printed chooses visible holds confirmation
  | confirmed printed selects holds => exact .confirmed printed selects holds
  | creating printed chooses visible holds creation =>
    cases creation with
    | lost => exact .creating printed chooses visible holds .lost
    | result about written => exact .creating printed chooses visible holds (.result about written)
    | @request create packet about written =>
      cases index with
      | succ index => exact .creating printed chooses visible holds (.request about written)
      | zero =>
        rcases @resultsOf_cases create packet written game env reads gate with none | ⟨sent, one, result⟩
        · simp only [step, List.getElem?_cons_zero, List.eraseIdx_cons_zero, none, List.nil_append]
          exact .creating printed chooses visible holds .lost
        · simp only [step, List.getElem?_cons_zero, List.eraseIdx_cons_zero, one, List.nil_append]
          exact .creating printed chooses visible holds (.result about result)

/-- A confirmation that can be written and is taken is on its way to the client. -/
theorem confirmation_sent {gate : GateClients} {env : GateEnv} {seq : UInt32} {accountId avatarId gameNodeId : Bytes}
    (seq_ne : seq ≠ packetSeqNone) (running : gate.clientNetwork.running = true)
    (live : (gate.clientNetwork.findSession sessionId).isSome = true) (queued : ∀ packet, env.kcpSendOk sessionId packet = true)
    (valid : validUtf8 accountId = true ∧ validUtf8 avatarId = true ∧ validUtf8 gameNodeId = true)
    (fits : ∀ body, dump (jsonObject (GateClients.selectAvatarResultMembers sessionId true accountId avatarId gameNodeId [])) =
      some body → body.length < 2147483628) :
    let result := gate.sendClientSelectAvatarResult env sessionId seq true accountId avatarId gameNodeId []
    requestsIn result.2 = [] ∧
      ∃ bytes, answersTo sessionId result.2 = [bytes] ∧ IsConfirmation sessionId accountId avatarId bytes := by
  have written : (dump (jsonObject (GateClients.selectAvatarResultMembers sessionId true accountId avatarId gameNodeId
      []))).isSome = true := by
    have distinct : ((GateClients.selectAvatarResultMembers sessionId true accountId avatarId gameNodeId []).map
        (·.1)).Nodup := by
      simp only [GateClients.selectAvatarResultMembers, if_true, List.append_nil, List.map_cons, List.map_nil]
      decide +kernel
    have literals : validUtf8 (text "action") = true ∧ validUtf8 (text "selectAvatarResult") = true ∧
        validUtf8 (text "success") = true ∧ validUtf8 (text "sessionId") = true ∧ validUtf8 (text "accountId") = true ∧
        validUtf8 (text "avatarId") = true ∧ validUtf8 (text "gameNodeId") = true := by decide +kernel
    rw [dump_isSome distinct]
    simp [GateClients.selectAvatarResultMembers, writable, literals, valid]
  obtain ⟨body, dumped⟩ := Option.isSome_iff_exists.mp written
  have short := fits body dumped
  have encoded := @encodePacket_make clientSelectAvatarMsgId seq kResponseFlags body (by decide) (by omega)
  obtain ⟨session, found⟩ := Option.isSome_iff_exists.mp live
  unfold GateClients.sendClientSelectAvatarResult
  simp only [if_neg seq_ne, dumped, if_true, encoded]
  generalize bytes_eq : headerBytes (makePacketHeader clientSelectAvatarMsgId seq kResponseFlags (UInt32.ofNat body.length)) ++
    body = bytes at encoded
  have nonempty : bytes ≠ [] := by
    rw [← bytes_eq]
    exact List.append_ne_nil_of_left_ne_nil (List.ne_nil_of_length_pos (by rw [headerBytes_length]; decide)) _
  refine ⟨rfl, bytes, ?_, ?_⟩
  · simp [GateClients.sendPayload, ClientNetwork.sendPayload, answersTo, running, nonempty, found, queued]
  · have length : bytes.length < 2 ^ 31 := by
      rw [← bytes_eq, List.length_append, headerBytes_length]
      simp only [packetHeaderSize]
      omega
    refine ⟨⟨makePacketHeader clientSelectAvatarMsgId seq kResponseFlags (UInt32.ofNat body.length), body⟩, gameNodeId, ?_,
      rfl, rfl, dumped⟩
    rw [Managed.PacketCodec.decodePacket_eq length, decodePacket_encodePacket encoded]

/-- What a result that is taken up leaves of the record. -/
theorem settled_holds {gate : GateClients} {ctx : GateContext} {env : GateEnv} {game packet : Bytes}
    {source : InnerNetworkSession} {result : GateClients.AvatarCreateResult} {record : ClientSessionRecord}
    {avatarId : Bytes} (holds : Holds sessionId gate account avatarId true)
    (pending : gate.pendingCreateResult ctx env game packet = some (source, result, record))
    (session : result.sessionId = sessionId) :
    record.sessionId = sessionId ∧ record.accountId = account ∧ record.avatarId = avatarId ∧
      record.pendingSelectAvatarSeq ≠ 0 := by
  obtain ⟨held, found, own, whose, bound, waiting⟩ := holds
  obtain ⟨-, found', waits⟩ := GateClients.pendingCreateResult_waits pending
  rw [session, found] at found'
  cases found'
  exact ⟨own, whose, bound, waits⟩

/-- The record of a session whose selection was undone. -/
theorem unbound_holds {gate : GateClients} {record : ClientSessionRecord} (own : record.sessionId = sessionId)
    (whose : record.accountId = account) : Holds sessionId (gate.unbindAvatar sessionId record) account [] false := by
  refine ⟨{ record with avatarId := [], gameNodeId := [], pendingSelectAvatarSeq := 0 }, ?_, own, whose, rfl, by simp⟩
  exact Table.get_insert_self _ _ _

/-- Changing a session in place keeps the network running and the session in it. -/
theorem modifySession_serves {net : ClientNetwork} {session : ClientSession} (running : net.running = true)
    (found : net.findSession sessionId = some session) (next : ClientSession) :
    (net.modifySession sessionId fun _ => next).running = true ∧
      ((net.modifySession sessionId fun _ => next).findSession sessionId).isSome = true := by
  have found : net.sessions[sessionId]? = some session := found
  unfold ClientNetwork.modifySession ClientNetwork.findSession
  rw [found]
  refine ⟨running, ?_⟩
  show ((net.sessions.insert sessionId next)[sessionId]?).isSome = true
  rw [Table.get_insert_self]
  rfl

/-- **The Gate gets a result.** -/
theorem gateTakes_phase (phase : Phase sessionId account link) {index : Nat} {ctx : GateContext} {env : GateEnv}
    (premises : link.Premises sessionId (.gateTakes index ctx env)) :
    Phase sessionId account (link.step sessionId (.gateTakes index ctx env)) := by
  obtain ⟨reads, transmits⟩ := premises
  cases phase with
  | idle unselected holds => exact .idle unselected holds
  | requested printed chooses visible holds requests => exact .requested printed chooses visible holds requests
  | refused chooses holds answers => exact .refused chooses holds answers
  | accepted printed chooses visible holds confirmation => exact .accepted printed chooses visible holds confirmation
  | confirmed printed selects holds => exact .confirmed printed selects holds
  | @creating client applying gate avatarId toGame results printed chooses visible holds creation =>
    cases creation with
    | lost => exact .creating printed chooses visible holds .lost
    | request about written => exact .creating printed chooses visible holds (.request about written)
    | @result create game packet about written =>
      cases index with
      | succ index => exact .creating printed chooses visible holds (.result about written)
      | zero =>
        have transmits := transmits (game, packet) rfl
        have outcome := GateClients.createOutcome gate ctx env game packet
        simp only [step, List.getElem?_cons_zero, List.eraseIdx_cons_zero]
        generalize gate.handleGameAvatarEntityCreateResultMessage ctx env game packet = handled at outcome
        cases outcome with
        | ignored nothing => exact .creating printed chooses visible holds .lost
        | @undone source result record net error notify pending routed =>
          obtain ⟨carried, -, -⟩ := GateClients.pendingCreateResult_waits pending
          obtain ⟨session, -⟩ := read_result reads written carried
          have session := session.trans about.sessionId
          obtain ⟨own, whose, -, -⟩ := settled_holds holds pending session
          have unbound := @unbound_holds sessionId account { gate with clientNetwork := net } record own whose
          rw [← session] at unbound
          unfold GateClients.rollbackPendingSelection
          cases notify with
          | false => exact .refused chooses (session ▸ unbound) (.inl rfl)
          | true =>
            obtain ⟨noRequest, answer⟩ := @refusal_sent sessionId
              (GateClients.unbindAvatar { gate with clientNetwork := net } sessionId record) env
              record.pendingSelectAvatarSeq result.accountId result.avatarId result.gameNodeId error
            rw [session] at unbound ⊢
            simp only [if_true, afterGate, noRequest, List.nil_append]
            refine .refused chooses (unbound.same fun held found => ⟨held, ?_, rfl⟩) answer
            rw [GateClients.sendClientSelectAvatarResult_records]
            exact found
        | @confirmed source result record live next pending success found bound =>
          obtain ⟨carried, -, -⟩ := GateClients.pendingCreateResult_waits pending
          obtain ⟨session, account', avatar', valid⟩ := read_result reads written carried
          have session := session.trans about.sessionId
          have account' := account'.trans about.accountId
          have avatar' := avatar'.trans about.avatarId
          obtain ⟨own, whose, same, waits⟩ := settled_holds holds pending session
          subst session
          obtain ⟨running, live'⟩ := modifySession_serves transmits.running found next
          have sent := @confirmation_sent result.sessionId (GateClients.confirmAvatar { gate with
            clientNetwork := gate.clientNetwork.modifySession result.sessionId fun _ => next } env result record) env
            record.pendingSelectAvatarSeq result.accountId result.avatarId result.gameNodeId waits running live'
            transmits.queued valid fun body => transmits.fits result body carried
          obtain ⟨noRequest, bytes, answer, confirmation⟩ := sent
          simp only [afterGate, noRequest, answer, List.nil_append]
          rw [account', avatar'] at confirmation
          refine .accepted printed chooses visible ?_ confirmation
          refine ⟨{ record with
            pendingSelectAvatarSeq := 0, gameNodeId := result.gameNodeId, lastActiveUnixMs := env.laterUnixMs },
            ?_, own, whose, same, by simp⟩
          rw [GateClients.sendClientSelectAvatarResult_records]
          exact Table.get_insert_self _ _ _

theorem elsewhere_phase (phase : Phase sessionId account link) {gate : GateClients}
    (premises : link.Premises sessionId (.elsewhere gate)) :
    Phase sessionId account (link.step sessionId (.elsewhere gate)) := by
  cases phase with
  | idle unselected holds => exact .idle unselected (holds.same premises)
  | requested printed chooses visible holds requests =>
    exact .requested printed chooses visible (holds.same premises) requests
  | creating printed chooses visible holds creation =>
    exact .creating printed chooses visible (holds.same premises) creation
  | refused chooses holds answers => exact .refused chooses (holds.same premises) answers
  | accepted printed chooses visible holds confirmation =>
    exact .accepted printed chooses visible (holds.same premises) confirmation
  | confirmed printed selects holds => exact .confirmed printed selects (holds.same premises)

/-- **One step.** -/
theorem step_phase (link : SelectionLink) (input : Input) (phase : Phase sessionId account link)
    (ok : link.InTurn input ∧ link.Premises sessionId input) : Phase sessionId account (link.step sessionId input) := by
  obtain ⟨inTurn, premises⟩ := ok
  cases input with
  | select serialize avatarEntityId => exact select_phase phase inTurn premises
  | applyAfterSend => exact applyAfterSend_phase phase
  | gateReceives ctx env => exact gateReceives_phase phase premises
  | gameAnswers index game env gate => exact gameAnswers_phase phase premises
  | gateTakes index ctx env => exact gateTakes_phase phase premises
  | clientReceives deserialize => exact clientReceives_phase phase inTurn premises
  | elsewhere gate => exact elsewhere_phase phase premises

theorem Phase.keepsConfirmed (phase : Phase sessionId account link) : link.KeepsConfirmed sessionId := by
  intro deserialize avatarId client _
  cases phase with
  | idle unselected => exact absurd client (unselected.not_confirmedFor avatarId)
  | requested => exact client
  | creating => exact client
  | confirmed => exact client
  | refused chooses => exact absurd client (chooses.unconfirmed avatarId)
  | accepted _ chooses => exact absurd client (chooses.unconfirmed avatarId)

end Phases

/-- A logged-in client without a selection, and the Gate's record of its session
without an avatar. -/
structure Start (account : Bytes) : Prop where
  unselected : link.client.Unselected account
  applied : link.applying = none
  holds : Holds sessionId link.gate account [] false
  quiet : Quiet link

/-- **Agreement.** In every run in which the client selects an avatar only when it has
no selection, and takes no confirmation before it has applied what it sent, client and
Gate agree whenever nothing of the session is in flight, and no answer takes a confirmed
selection from the client. -/
theorem selection_agrees {sessionId : UInt64} {account : Bytes} {link : SelectionLink} (start : link.Start sessionId account)
    {is : List Input}
    (along : (machine sessionId).Along (fun link input => link.InTurn input ∧ link.Premises sessionId input) link is) :
    ((machine sessionId).run link is).1.Agrees sessionId ∧ ((machine sessionId).run link is).1.KeepsConfirmed sessionId := by
  have first : Phase sessionId account link := by
    obtain ⟨unselected, applied, holds, toGate, toGame, results, toClient⟩ := start
    obtain ⟨client, applying, gate, _, _, _, _⟩ := link
    cases applied
    cases toGate
    cases toGame
    cases results
    cases toClient
    exact .idle unselected holds
  have phase := @Machine.run_invariant _ _ _ (machine sessionId) _ (Phase sessionId account)
    (fun link input phase ok => step_phase link input phase ok) _ _ first along
  exact ⟨phase.agrees, phase.keepsConfirmed⟩

/-! ## A selection while another is confirmed -/

/-- Reads the texts of flat objects. -/
def sampleParse (content : Bytes) : Except Bytes Json :=
  match readObject content with
  | none => .error []
  | some members => .ok (.object (jsonObject members))

theorem sampleParse_reads : ReadsJson sampleParse := by
  intro members body written
  obtain ⟨read, found, same⟩ := Option.map_eq_some_iff.mp (readObject_dump written)
  unfold sampleParse
  rw [found, ← same]

/-- A string member, if there is one. -/
def memberText (members : Table Bytes JsonScalar) (field : String) : Option Bytes :=
  match members[text field]? with
  | some (.string value) => some value
  | _ => none

def sampleDeserialize : GameInstance.Deserialize := fun body =>
  match readObject body with
  | none => .error ()
  | some members =>
    let members := jsonObject members
    .ok (some {
      action := memberText members "action", success := members[text "success"]? == some (.boolean true)
      accountId := memberText members "accountId", avatarId := memberText members "avatarId"
      gameNodeId := memberText members "gameNodeId"
      sessionId := match members[text "sessionId"]? with | some (.unsigned value) => value | _ => 0
      error := memberText members "error" })

theorem sampleDeserialize_reads (sessionId : UInt64) : ReadsAnswers sessionId sampleDeserialize := by
  intro success accountId avatarId gameNodeId error body written
  obtain ⟨read, found, same⟩ := Option.map_eq_some_iff.mp (readObject_dump written)
  have distinct : ((GateClients.selectAvatarResultMembers sessionId success accountId avatarId gameNodeId error).map
      (·.1)).Nodup := by
    cases success
    all_goals
      simp only [GateClients.selectAvatarResultMembers, if_true, Bool.false_eq_true, if_false, List.append_nil,
        List.cons_append, List.nil_append, List.map_cons, List.map_nil]
      decide +kernel
  have get : ∀ {key value}, (key, value) ∈ GateClients.selectAvatarResultMembers sessionId success accountId avatarId
      gameNodeId error → (jsonObject read)[key]? = some value := by
    intro key value mem
    rw [same]
    exact get_foldl_insert distinct mem
  have absent : success = true → (jsonObject read)[text "error"]? = none := by
    rintro rfl
    rw [same, jsonObject, foldl_insert_of_notMem]
    · simp
    · simp only [GateClients.selectAvatarResultMembers, if_true, List.append_nil, List.map_cons, List.map_nil]
      decide +kernel
  have action : (jsonObject read)[text "action"]? = some (.string (text "selectAvatarResult")) :=
    get (by simp [GateClients.selectAvatarResultMembers])
  have outcome : (jsonObject read)[text "success"]? = some (.boolean success) :=
    get (by simp [GateClients.selectAvatarResultMembers])
  have session : (jsonObject read)[text "sessionId"]? = some (.unsigned sessionId) :=
    get (by simp [GateClients.selectAvatarResultMembers])
  have account : (jsonObject read)[text "accountId"]? = some (.string accountId) :=
    get (by simp [GateClients.selectAvatarResultMembers])
  have avatar : (jsonObject read)[text "avatarId"]? = some (.string avatarId) :=
    get (by simp [GateClients.selectAvatarResultMembers])
  have game : (jsonObject read)[text "gameNodeId"]? = some (.string gameNodeId) :=
    get (by simp [GateClients.selectAvatarResultMembers])
  unfold sampleDeserialize
  rw [found]
  cases success with
  | true => simp [memberText, action, outcome, session, account, avatar, game, absent rfl]
  | false =>
    have reason : (jsonObject read)[text "error"]? = some (.string error) :=
      get (by simp [GateClients.selectAvatarResultMembers])
    simp [memberText, action, outcome, session, account, avatar, game, reason]

/-- `{"action":…,"accountId":…,"avatarId":…}`. -/
def sampleSerialize (payload : SelectAvatarPayload) : Bytes :=
  writeObject [(text "action", .string (text "selectAvatar")), (text "accountId", .string payload.accountId),
    (text "avatarId", .string payload.avatarId)]

/-- The client of the small Gate, logged in, with its open session. -/
def sampleOpened : SelectionLink where
  client := { lifecycleState := .loggedIn, connected := true, account := some (text "alice") }
  gate := GateClients.openedGate.clients

def sampleGateEnv : GateEnv := { laterUnixMs := 3000, parseJson := sampleParse }

def sampleGameEnv : CreateEnv := { parseJson := sampleParse, onMessage := some fun _ => 0 }

/-- The avatar is selected and confirmed. -/
def sampleConfirmed (avatarId : Guid) : List Input :=
  [.select sampleSerialize avatarId, .applyAfterSend, .gateReceives GateClients.openedGate.toGateContext sampleGateEnv,
    .gameAnswers 0 AvatarLink.sampleMeshedGame sampleGameEnv (text "Gate0"),
    .gateTakes 0 GateClients.openedGate.toGateContext sampleGateEnv, .clientReceives sampleDeserialize]

/-- Another one is selected, and refused. -/
def sampleRefused (avatarId : Guid) : List Input :=
  [.select sampleSerialize avatarId, .applyAfterSend, .gateReceives GateClients.openedGate.toGateContext sampleGateEnv,
    .clientReceives sampleDeserialize]

def sampleFirst : Guid := text "0f8fad5b-d9cb-469f-a165-70867728950e"
def sampleSecond : Guid := text "7c9e6679-7425-40de-944b-e07fc1f90ae7"

theorem sampleOpened_start : sampleOpened.Start 1 (text "alice") := by
  refine ⟨⟨rfl, rfl⟩, rfl, ?_, ⟨rfl, rfl, rfl, rfl⟩⟩
  have found : ∃ record ∈ sampleOpened.gate.clientSessionRecords[(1 : UInt64)]?, record.sessionId = 1 ∧
      record.accountId = text "alice" ∧ record.avatarId = [] ∧ record.pendingSelectAvatarSeq = 0 := by decide +kernel
  obtain ⟨record, found, own, whose, unbound, settled⟩ := found
  exact ⟨record, found, own, whose, unbound, by simp [settled]⟩

/-- What an evaluation checks of the premises: new ids, requests that read as they were
sent, and confirmations that are transmitted. -/
def checks (sessionId : UInt64) (link : SelectionLink) : Input → Bool
  | .select _ avatarEntityId => decide (IsPrintedGuid avatarEntityId) && !link.client.entityManager.contains avatarEntityId
  | .gateReceives _ env => link.toGate.head?.all fun request =>
      (readSelectAvatarRequest env request.payload).toOption.all (· == request.avatarId)
  | .gateTakes index _ env => link.gate.clientNetwork.running && link.results[index]?.all fun packet =>
      (GateClients.createResultOf env packet.2).all fun result =>
        (dump (jsonObject (GateClients.selectAvatarResultMembers sessionId true result.accountId result.avatarId
          result.gameNodeId []))).all fun body => decide (body.length < 2147483628)
  | _ => true

/-- The input reads JSON as the samples do. -/
def ReadsSamples : Input → Prop
  | .gameAnswers _ _ env _ => env = sampleGameEnv
  | .gateTakes _ _ env => env = sampleGateEnv
  | .clientReceives deserialize => deserialize = sampleDeserialize
  | .elsewhere _ => False
  | _ => True

theorem premises_of_checks {sessionId : UInt64} {link : SelectionLink} {input : Input} (reads : ReadsSamples input)
    (checked : link.checks sessionId input = true) : link.Premises sessionId input := by
  cases input with
  | select serialize avatarEntityId =>
    rw [checks, Bool.and_eq_true, decide_eq_true_eq, Bool.not_eq_true'] at checked
    exact checked
  | applyAfterSend => trivial
  | gateReceives ctx env =>
    intro request head avatarId read
    rw [checks, head, Option.all_some, read] at checked
    exact beq_iff_eq.mp checked
  | gameAnswers index game env gate =>
    cases reads
    exact sampleParse_reads
  | gateTakes index ctx env =>
    cases reads
    rw [checks, Bool.and_eq_true] at checked
    obtain ⟨running, fits⟩ := checked
    refine ⟨sampleParse_reads, fun packet at_index => ⟨running, fun _ => rfl, fun result body carried written => ?_⟩⟩
    rw [at_index, Option.all_some, carried, Option.all_some, written] at fits
    exact of_decide_eq_true fits
  | clientReceives deserialize =>
    cases reads
    exact sampleDeserialize_reads sessionId
  | elsewhere gate => cases reads

/-- What an evaluation checks of the order. -/
def inTurn (link : SelectionLink) : Input → Bool
  | .select _ _ => link.client.avatarSession.selectedAvatarEntityId.isNone
  | .clientReceives _ => link.applying.isNone
  | _ => true

theorem inTurn_of_checks {link : SelectionLink} {input : Input} (checked : link.inTurn input = true) : link.InTurn input := by
  cases input with
  | select serialize avatarEntityId => exact Option.isNone_iff_eq_none.mp checked
  | clientReceives deserialize => exact .inl (Option.isNone_iff_eq_none.mp checked)
  | _ => trivial

/-- Nothing is in flight, the client has no avatar, and the Gate holds the first. -/
def Stranded (link : SelectionLink) : Prop :=
  link.toGate = [] ∧ link.toGame = [] ∧ link.results = [] ∧ link.toClient = [] ∧ link.client.hasConfirmedAvatar = false ∧
    ∃ record ∈ link.gate.clientSessionRecords[(1 : UInt64)]?, record.pendingSelectAvatarSeq = 0 ∧
      record.avatarId = sampleFirst

instance (link : SelectionLink) : Decidable (Stranded link) := inferInstanceAs (Decidable (_ ∧ _ ∧ _ ∧ _ ∧ _ ∧ _))

/-- The first avatar is selected and confirmed in turn; the selection of the second
leaves none. -/
theorem sampleRun_checked :
    (machine 1).Along (fun link input => link.inTurn input = true) sampleOpened (sampleConfirmed sampleFirst) ∧
      (machine 1).Along (fun link input => link.checks 1 input = true) sampleOpened
        (sampleConfirmed sampleFirst ++ sampleRefused sampleSecond) ∧
      ((machine 1).run sampleOpened (sampleConfirmed sampleFirst)).1.client.ConfirmedFor sampleFirst ∧
      Stranded ((machine 1).run sampleOpened (sampleConfirmed sampleFirst ++ sampleRefused sampleSecond)).1 := by
  decide +kernel

theorem sampleRun_premises :
    (machine 1).Along (fun link => link.Premises 1) sampleOpened (sampleConfirmed sampleFirst ++ sampleRefused sampleSecond) := by
  have reads : ∀ input ∈ sampleConfirmed sampleFirst ++ sampleRefused sampleSecond, ReadsSamples input := by
    simp [sampleConfirmed, sampleRefused, ReadsSamples]
  exact ((Machine.along_of_forall sampleOpened reads).and sampleRun_checked.2.1).mono fun _ _ ok =>
    premises_of_checks ok.1 ok.2

/-- The selection is confirmed on both sides. -/
theorem selection_agrees_sample :
    ((machine 1).run sampleOpened (sampleConfirmed sampleFirst)).1.Agrees 1 ∧
      ((machine 1).run sampleOpened (sampleConfirmed sampleFirst)).1.client.ConfirmedFor sampleFirst := by
  have inTurn := sampleRun_checked.1.mono fun _ _ => inTurn_of_checks
  exact ⟨(selection_agrees sampleOpened_start (inTurn.and sampleRun_premises.append.1)).1, sampleRun_checked.2.2.1⟩

/-- The Gate refuses a second selection and keeps the first, which the client clears. -/
theorem second_selection_clears :
    (machine 1).Along (fun link => link.Premises 1) sampleOpened (sampleConfirmed sampleFirst ++ sampleRefused sampleSecond) ∧
      ¬ ((machine 1).run sampleOpened (sampleConfirmed sampleFirst ++ sampleRefused sampleSecond)).1.Agrees 1 := by
  refine ⟨sampleRun_premises, fun agrees => ?_⟩
  obtain ⟨toGate, toGame, results, toClient, cleared, record, found, settled, bound⟩ := sampleRun_checked.2.2.2
  obtain ⟨confirmed, -⟩ := (agrees ⟨toGate, toGame, results, toClient⟩ sampleFirst).mpr
    ⟨by decide +kernel, record, found, settled, bound⟩
  rw [cleared] at confirmed
  cases confirmed

/-- A confirmation that overtakes its selection is lost, and the selection stays unconfirmed. -/
example : Stranded ((machine 1).run sampleOpened
    [.select sampleSerialize sampleFirst, .gateReceives GateClients.openedGate.toGateContext sampleGateEnv,
      .gameAnswers 0 AvatarLink.sampleMeshedGame sampleGameEnv (text "Gate0"),
      .gateTakes 0 GateClients.openedGate.toGateContext sampleGateEnv, .clientReceives sampleDeserialize,
      .applyAfterSend]).1 := by
  decide +kernel

end SelectionLink

end XServer.Client
