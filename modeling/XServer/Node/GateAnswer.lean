import XServer.Node.GateBook

/-!
# Answers to a selection

A Game answers the create request of a Gate with a result that names the
session, the account, the avatar and itself. `CreateOutcome` lists what the
handler makes of one. It looks the record up by the session alone: a late or
stray result for a waiting session settles it whatever avatar it is about
(`answers_selection_iff`).
-/

namespace XServer.Node.GateClients
open XServer.Lib XServer.Lib.Wire XServer.Net XServer.Core

/-! ## What the handler does -/

/-- What one create result does: it is ignored, undoes the selection of its
session, or confirms it. An undone selection may have moved the session's route
before the route could not be bound. -/
inductive CreateOutcome (clients : GateClients) (ctx : GateContext) (env : GateEnv) (routingId payload : Bytes) :
    GateClients × List ClientEvent → Prop where
  | ignored (nothing : clients.pendingCreateResult ctx env routingId payload = none) :
      CreateOutcome clients ctx env routingId payload (clients, [])
  | undone {source : InnerNetworkSession} {result : AvatarCreateResult} {record : ClientSessionRecord}
      {net : ClientNetwork} (error : Bytes) (notify : Bool)
      (pending : clients.pendingCreateResult ctx env routingId payload = some (source, result, record))
      (routed : net = clients.clientNetwork ∨ ∃ (session next : ClientSession) (failure : Bytes),
        clients.clientNetwork.findSession result.sessionId = some session ∧
        bindSessionRoute session (routeTarget ctx source result.gameNodeId) = (next, some failure) ∧
        net = clients.clientNetwork.modifySession result.sessionId fun _ => next) :
      CreateOutcome clients ctx env routingId payload
        ({ clients with clientNetwork := net }.rollbackPendingSelection env result record error notify)
  | confirmed {source : InnerNetworkSession} {result : AvatarCreateResult} {record : ClientSessionRecord}
      {session next : ClientSession}
      (pending : clients.pendingCreateResult ctx env routingId payload = some (source, result, record))
      (success : result.success = true) (live : clients.clientNetwork.findSession result.sessionId = some session)
      (bound : bindSessionRoute session (routeTarget ctx source result.gameNodeId) = (next, none)) :
      CreateOutcome clients ctx env routingId payload
        (({ clients with
            clientNetwork := clients.clientNetwork.modifySession result.sessionId fun _ => next }.confirmAvatar env
              result record).sendClientSelectAvatarResult env result.sessionId record.pendingSelectAvatarSeq true
          result.accountId result.avatarId result.gameNodeId [])

theorem createOutcome (clients : GateClients) (ctx : GateContext) (env : GateEnv) (routingId payload : Bytes) :
    CreateOutcome clients ctx env routingId payload
      (clients.handleGameAvatarEntityCreateResultMessage ctx env routingId payload) := by
  unfold handleGameAvatarEntityCreateResultMessage
  split
  · exact .ignored ‹_›
  · rename_i source result record pending
    split
    · exact .undone _ true pending (.inl rfl)
    · rename_i success
      split
      · exact .undone _ false pending (.inl rfl)
      · rename_i session live
        simp only
        split
        · rename_i failure failed
          exact .undone failure true pending (.inr ⟨session, _, failure, live, Prod.ext rfl failed, rfl⟩)
        · rename_i bound
          exact .confirmed pending (by simpa using success) live (Prod.ext rfl bound)

/-! ## What it sends -/

theorem sendPayload_records (clients : GateClients) (env : GateEnv) (sessionId : UInt64) (packet : Bytes) :
    (clients.sendPayload env sessionId packet).1.clientSessionRecords = clients.clientSessionRecords := rfl

theorem sendClientSelectAvatarResult_records (clients : GateClients) (env : GateEnv) (sessionId : UInt64)
    (requestSeq : UInt32) (success : Bool) (accountId avatarId gameNodeId error : Bytes) :
    (clients.sendClientSelectAvatarResult env sessionId requestSeq success accountId avatarId gameNodeId
      error).1.clientSessionRecords = clients.clientSessionRecords := by
  unfold sendClientSelectAvatarResult
  split
  · rfl
  split
  · rfl
  split
  · rfl
  · exact sendPayload_records clients env sessionId _

/-- The packet of an answer decodes to its flags and its text. -/
theorem sendClientSelectAvatarResult_sent {clients : GateClients} {env : GateEnv} {sessionId target : UInt64}
    {requestSeq : UInt32} {success ok : Bool} {accountId avatarId gameNodeId error sent : Bytes} {packet : Packet}
    (event : .sendPayload target sent ok ∈ (clients.sendClientSelectAvatarResult env sessionId requestSeq success
      accountId avatarId gameNodeId error).2) (decoded : decodePacket sent = .ok packet) :
    target = sessionId ∧ packet.header.flags = (if success then kResponseFlags else kErrorResponseFlags) ∧
      dump (jsonObject (selectAvatarResultMembers sessionId success accountId avatarId gameNodeId error)) =
        some packet.payload := by
  unfold sendClientSelectAvatarResult at event
  split at event
  · cases event
  split at event
  · simp at event
  rename_i payload written
  split at event
  · cases event
  · rename_i bytes encoded
    simp only [sendPayload, List.mem_singleton, ClientEvent.sendPayload.injEq] at event
    obtain ⟨rfl, rfl, -⟩ := event
    rw [decodePacket_encodePacket encoded] at decoded
    cases decoded
    exact ⟨rfl, rfl, written⟩

/-! ## Answering a selection -/

/-- The create result a message carries. -/
def createResultOf (env : GateEnv) (payload : Bytes) : Option AvatarCreateResult := do
  let packet ← decodeCall payload
  let .object members ← (env.tryParseJson packet.payload).toOption | none
  (readAvatarCreateResult members).toOption

/-- The result is about the selection in the record. -/
structure Answers (result : AvatarCreateResult) (record : ClientSessionRecord) : Prop where
  avatarId : result.avatarId = record.avatarId
  accountId : result.accountId = record.accountId
  gameNodeId : result.gameNodeId = record.gameNodeId

/-- A message settles only the selection it answers: a record that it changes is
the one its result is about, and a confirmation tells the client what that
record held. -/
structure AnswersSelection (clients : GateClients) (ctx : GateContext) (env : GateEnv) (routingId payload : Bytes) :
    Prop where
  changed : ∀ (sessionId : UInt64) (record : ClientSessionRecord),
    clients.clientSessionRecords[sessionId]? = some record →
    (clients.handleGameAvatarEntityCreateResultMessage ctx env routingId payload).1.clientSessionRecords[sessionId]? ≠
      some record →
    ∃ result, createResultOf env payload = some result ∧ Answers result record
  confirmed : ∀ (sessionId : UInt64) (sent : Bytes) (ok : Bool) (packet : Packet),
    .sendPayload sessionId sent ok ∈
      (clients.handleGameAvatarEntityCreateResultMessage ctx env routingId payload).2 →
    decodePacket sent = .ok packet → packet.header.flags = kResponseFlags →
    ∃ record, clients.clientSessionRecords[sessionId]? = some record ∧
      dump (jsonObject (selectAvatarResultMembers sessionId true record.accountId record.avatarId record.gameNodeId
        [])) = some packet.payload

/-- What the handler acts on is in the message and in the books. -/
theorem pendingCreateResult_waits {clients : GateClients} {ctx : GateContext} {env : GateEnv}
    {routingId payload : Bytes} {source : InnerNetworkSession} {result : AvatarCreateResult}
    {record : ClientSessionRecord}
    (h : clients.pendingCreateResult ctx env routingId payload = some (source, result, record)) :
    createResultOf env payload = some result ∧ clients.clientSessionRecords[result.sessionId]? = some record ∧
      record.pendingSelectAvatarSeq ≠ 0 := by
  unfold pendingCreateResult at h
  obtain ⟨packet, decoded, h⟩ := Option.bind_eq_some_iff.mp h
  obtain ⟨source', -, h⟩ := Option.bind_eq_some_iff.mp h
  obtain ⟨json, parsed, h⟩ := Option.bind_eq_some_iff.mp h
  split at h
  · rename_i members
    obtain ⟨result', read, h⟩ := Option.bind_eq_some_iff.mp h
    have carried : createResultOf env payload = some result' := by
      simp [createResultOf, decoded, parsed, read]
    split at h
    · cases h
    split at h
    · cases h
    split at h
    · cases h
    obtain ⟨record', found, h⟩ := Option.bind_eq_some_iff.mp h
    split at h
    · cases h
    · rename_i waiting
      cases h
      exact ⟨carried, found, waiting⟩
  · cases h

/-- The record of a session that a result settles waits no longer. -/
theorem settled_records {clients : GateClients} {ctx : GateContext} {env : GateEnv} {routingId payload : Bytes}
    {source : InnerNetworkSession} {result : AvatarCreateResult} {record : ClientSessionRecord}
    (pending : clients.pendingCreateResult ctx env routingId payload = some (source, result, record)) :
    ∃ settled : ClientSessionRecord, settled.pendingSelectAvatarSeq = 0 ∧ settled.sessionId = record.sessionId ∧
      (clients.handleGameAvatarEntityCreateResultMessage ctx env routingId payload).1.clientSessionRecords =
        clients.clientSessionRecords.insert result.sessionId settled := by
  have outcome := createOutcome clients ctx env routingId payload
  generalize clients.handleGameAvatarEntityCreateResultMessage ctx env routingId payload = handled at outcome ⊢
  cases outcome with
  | ignored nothing =>
    rw [nothing] at pending
    cases pending
  | undone error notify pending' routed =>
    rw [pending] at pending'
    cases pending'
    refine ⟨{ record with avatarId := [], gameNodeId := [], pendingSelectAvatarSeq := 0 }, rfl, rfl, ?_⟩
    unfold rollbackPendingSelection
    cases notify with
    | false => rfl
    | true => exact sendClientSelectAvatarResult_records ..
  | confirmed pending' success live bound =>
    rw [pending] at pending'
    cases pending'
    refine ⟨{ record with
      pendingSelectAvatarSeq := 0, gameNodeId := result.gameNodeId, lastActiveUnixMs := env.laterUnixMs }, rfl, rfl, ?_⟩
    exact sendClientSelectAvatarResult_records ..

/-- A record that a message changes is the one whose pending selection it settles. -/
theorem changed_record {clients : GateClients} {ctx : GateContext} {env : GateEnv} {routingId payload : Bytes}
    {sessionId : UInt64} {record : ClientSessionRecord} (found : clients.clientSessionRecords[sessionId]? = some record)
    (differs : (clients.handleGameAvatarEntityCreateResultMessage ctx env routingId
      payload).1.clientSessionRecords[sessionId]? ≠ some record) :
    ∃ source result, clients.pendingCreateResult ctx env routingId payload = some (source, result, record) := by
  cases waiting : clients.pendingCreateResult ctx env routingId payload with
  | none =>
    unfold handleGameAvatarEntityCreateResultMessage at differs
    rw [waiting] at differs
    exact absurd found differs
  | some acted =>
    obtain ⟨source, result, record'⟩ := acted
    obtain ⟨-, found', -⟩ := pendingCreateResult_waits waiting
    obtain ⟨settled, -, -, records⟩ := settled_records waiting
    by_cases same : result.sessionId = sessionId
    · subst same
      rw [found] at found'
      cases found'
      exact ⟨source, result, rfl⟩
    · rw [records, Table.get_insert_of_ne _ _ same] at differs
      exact absurd found differs

/-- A confirmation tells the client what the result of its pending selection says. -/
theorem confirmation_sent {clients : GateClients} {ctx : GateContext} {env : GateEnv} {routingId payload sent : Bytes}
    {sessionId : UInt64} {ok : Bool} {packet : Packet}
    (event : .sendPayload sessionId sent ok ∈
      (clients.handleGameAvatarEntityCreateResultMessage ctx env routingId payload).2)
    (decoded : decodePacket sent = .ok packet) (success : packet.header.flags = kResponseFlags) :
    ∃ source result record, clients.pendingCreateResult ctx env routingId payload = some (source, result, record) ∧
      result.sessionId = sessionId ∧
      dump (jsonObject (selectAvatarResultMembers sessionId true result.accountId result.avatarId result.gameNodeId
        [])) = some packet.payload := by
  have outcome := createOutcome clients ctx env routingId payload
  generalize clients.handleGameAvatarEntityCreateResultMessage ctx env routingId payload = handled at event outcome
  cases outcome with
  | ignored => cases event
  | undone error notify pending routed =>
    unfold rollbackPendingSelection at event
    cases notify with
    | false => cases event
    | true =>
      obtain ⟨-, flags, -⟩ := sendClientSelectAvatarResult_sent event decoded
      rw [flags] at success
      cases success
  | @confirmed source result record session next pending _ live bound =>
    obtain ⟨rfl, -, written⟩ := sendClientSelectAvatarResult_sent event decoded
    exact ⟨source, result, record, pending, rfl, written⟩

/-- **Settling a selection.** A message settles only the selection it answers
exactly when a result that the Gate takes up for a waiting session names that
session's account, avatar and Game. -/
theorem answers_selection_iff (clients : GateClients) (ctx : GateContext) (env : GateEnv) (routingId payload : Bytes) :
    AnswersSelection clients ctx env routingId payload ↔
      ∀ (source : InnerNetworkSession) (result : AvatarCreateResult) (record : ClientSessionRecord),
        clients.pendingCreateResult ctx env routingId payload = some (source, result, record) →
        Answers result record := by
  constructor
  · intro holds source result record pending
    obtain ⟨carried, found, waiting⟩ := pendingCreateResult_waits pending
    obtain ⟨settled, done, -, records⟩ := settled_records pending
    have differs : (clients.handleGameAvatarEntityCreateResultMessage ctx env routingId
        payload).1.clientSessionRecords[result.sessionId]? ≠ some record := by
      rw [records, Table.get_insert_self]
      rintro same
      cases same
      exact waiting done
    obtain ⟨result', carried', answers⟩ := holds.changed result.sessionId record found differs
    rw [carried] at carried'
    cases carried'
    exact answers
  · intro answers
    constructor
    · intro sessionId record found differs
      obtain ⟨source, result, pending⟩ := changed_record found differs
      exact ⟨result, (pendingCreateResult_waits pending).1, answers source result record pending⟩
    · intro sessionId sent ok packet event decoded success
      obtain ⟨source, result, record, pending, rfl, written⟩ := confirmation_sent event decoded success
      have about := answers source result record pending
      refine ⟨record, (pendingCreateResult_waits pending).2.1, ?_⟩
      rw [← about.avatarId, ← about.accountId, ← about.gameNodeId]
      exact written

/-! ## A stray result -/

/-- The result of creating another avatar for the session of the small Gate's
client. -/
def strayResult : AvatarCreateResult where
  action := text "createAvatarResult"
  success := true
  sessionId := 1
  accountId := text "alice"
  avatarId := text "7c9e6679-7425-40de-944b-e07fc1f90ae7"
  gameNodeId := text "Game0"
  gateNodeId := text "Gate0"
  error := []

/-- The members of a create result without an error, as a Game writes them. -/
def sampleResultMembers (result : AvatarCreateResult) : Table Bytes JsonScalar :=
  jsonObject [(text "action", .string result.action), (text "success", .boolean result.success),
    (text "sessionId", .unsigned result.sessionId), (text "accountId", .string result.accountId),
    (text "avatarId", .string result.avatarId), (text "gameNodeId", .string result.gameNodeId),
    (text "gateNodeId", .string result.gateNodeId)]

def sampleResultEnv (result : AvatarCreateResult) : GateEnv where
  laterUnixMs := 3000
  parseJson := fun content =>
    if content = (dump (sampleResultMembers result)).getD [] then .ok (.object (sampleResultMembers result))
    else .error []

def sampleResultMessage (result : AvatarCreateResult) : Bytes :=
  samplePacket gameAvatarEntityCreateResultMsgId 0 0
    (.ok ((dump (sampleResultMembers result)).getD []) : Except Unit Bytes)

/-- The record of the client that waits. -/
def sampleWaitingRecord : ClientSessionRecord :=
  { GateNode.upperCaseRecord with avatarId := text "0f8fad5b-d9cb-469f-a165-70867728950e" }

/-- The result for another avatar confirms the selection. -/
theorem stray_result_confirms :
    ¬ AnswersSelection GateNode.sampleWaiting.clients GateNode.sampleWaiting.toGateContext (sampleResultEnv strayResult) (text "Game0")
      (sampleResultMessage strayResult) := by
  intro holds
  obtain ⟨found, differs⟩ : GateNode.sampleWaiting.clients.clientSessionRecords[(1 : UInt64)]? = some sampleWaitingRecord ∧
      (GateNode.sampleWaiting.clients.handleGameAvatarEntityCreateResultMessage GateNode.sampleWaiting.toGateContext
        (sampleResultEnv strayResult) (text "Game0") (sampleResultMessage strayResult)).1.clientSessionRecords[
          (1 : UInt64)]? ≠ some sampleWaitingRecord := by decide +kernel
  have carried : createResultOf (sampleResultEnv strayResult) (sampleResultMessage strayResult) = some strayResult := by
    decide +kernel
  obtain ⟨result, carried', answers⟩ := holds.changed 1 sampleWaitingRecord found differs
  rw [carried] at carried'
  cases carried'
  have other : strayResult.avatarId ≠ sampleWaitingRecord.avatarId := by decide +kernel
  exact other answers.avatarId

end XServer.Node.GateClients
