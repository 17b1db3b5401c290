import XServer.Lib.Machine
import XServer.Node.GateAvatar

/-!
# What happens to the clients of a Gate

`Change` lists the elementary changes of the clients' part of a Gate, each with
what it needs and what it emits; every handler of clients is a sequence of them.
Two of them can be restricted by `Rules`: which avatar texts get bound, and
which sessions are removed from the network.
-/

namespace XServer.Node.GateClients
open XServer.Lib XServer.Lib.Wire XServer.Net XServer.Core

/-- Reservations, records and indexes are as before. -/
structure SameBook (a b : GateClients) : Prop where
  reservations : b.clientConversationReservations = a.clientConversationReservations
  records : b.clientSessionRecords = a.clientSessionRecords
  byAccount : b.sessionIdsByAccount = a.sessionIdsByAccount
  byAvatar : b.sessionIdsByAvatar = a.sessionIdsByAvatar

theorem SameBook.refl (a : GateClients) : SameBook a a := ⟨rfl, rfl, rfl, rfl⟩

/-- An event that neither issues nor consumes a reservation. -/
def Quiet : ClientEvent → Prop
  | .reserved .. => False
  | .opened .. => False
  | _ => True

/-- What a run may bind and remove. -/
structure Rules where
  avatar : Bytes → Prop
  removal : GateClients → UInt64 → Prop

/-- No restriction. -/
def Rules.all : Rules where
  avatar _ := True
  removal _ _ := True

/-- What a record says about who it belongs to and what it waits for. -/
structure SameBinding (a b : ClientSessionRecord) : Prop where
  accountId : b.accountId = a.accountId
  avatarId : b.avatarId = a.avatarId
  gameNodeId : b.gameNodeId = a.gameNodeId
  gateNodeId : b.gateNodeId = a.gateNodeId
  pending : b.pendingSelectAvatarSeq = a.pendingSelectAvatarSeq
  closed : b.closed = a.closed

/-- A record as `TryRegisterAuthenticatedClientSession` makes it. -/
structure FreshRecord (nodeId account : Bytes) (record : ClientSessionRecord) : Prop where
  accountId : record.accountId = account
  avatarId : record.avatarId = []
  gateNodeId : record.gateNodeId = nodeId
  pending : record.pendingSelectAvatarSeq = 0
  closed : record.closed = false

/-- The elementary changes of the clients' part of the Gate `nodeId`. -/
inductive Change (nodeId : Bytes) (rules : Rules) (a : GateClients) : List ClientEvent → GateClients → Prop where
  | network {b : GateClients} {events : List ClientEvent} (book : SameBook a b)
      (sessions : ClientNetwork.SameSessions a.clientNetwork b.clientNetwork) (quiet : ∀ event ∈ events, Quiet event) :
      Change nodeId rules a events b
  | expire {kept : Table UInt32 ClientConversationReservation}
      (fewer : ∀ (c : UInt32) (r : ClientConversationReservation),
        kept[c]? = some r → a.clientConversationReservations[c]? = some r) :
      Change nodeId rules a [] { a with clientConversationReservations := kept }
  | reserve (conversation : UInt32) (reservation : ClientConversationReservation)
      (free : a.conversationTaken conversation = false) :
      Change nodeId rules a [.reserved conversation reservation] { a with
        clientConversationReservations := a.clientConversationReservations.insert conversation reservation }
  | opening {b : GateClients} {session : ClientSession} {record : ClientSessionRecord}
      {reservation : ClientConversationReservation} {now : UInt64}
      (reserved : a.clientConversationReservations[session.conversation]? = some reservation)
      (fresh : a.clientNetwork.sessions[session.sessionId]? = none)
      (unrecorded : a.clientSessionRecords[session.sessionId]? = none)
      (valid : reservation.expired now = false)
      (admitted : reservation.admits (normalizeClientAddress session.remoteEndpoint.host) = true)
      (account : reservation.account ≠ [])
      (new : FreshRecord nodeId reservation.account record)
      (sessions : b.clientNetwork.sessions = a.clientNetwork.sessions.insert session.sessionId session)
      (reservations : b.clientConversationReservations = a.clientConversationReservations.erase session.conversation)
      (records : b.clientSessionRecords = a.clientSessionRecords.insert session.sessionId record)
      (byAccount : b.sessionIdsByAccount = a.sessionIdsByAccount.insert reservation.account session.sessionId)
      (byAvatar : b.sessionIdsByAvatar = a.sessionIdsByAvatar) :
      Change nodeId rules a [.opened session.sessionId session.conversation
        (normalizeClientAddress session.remoteEndpoint.host) reservation now] b
  | remove (sessionId : UInt64) (allowed : rules.removal a sessionId) :
      Change nodeId rules a [] { a with clientNetwork := a.clientNetwork.removeSession sessionId }
  | touch {sessionId : UInt64} {record record' : ClientSessionRecord}
      (found : a.clientSessionRecords[sessionId]? = some record) (same : SameBinding record record') :
      Change nodeId rules a [] { a with clientSessionRecords := a.clientSessionRecords.insert sessionId record' }
  | bind {sessionId : UInt64} {record next : ClientSessionRecord} {event : ClientEvent}
      (found : a.clientSessionRecords[sessionId]? = some record) (unbound : record.avatarId = [])
      (free : ∀ other : UInt64, a.sessionIdsByAvatar[next.avatarId]? = some other → other = sessionId)
      (canonical : isCanonicalGuidText next.avatarId = true) (allowed : rules.avatar next.avatarId)
      (game : next.gameNodeId ≠ []) (accountId : next.accountId = record.accountId)
      (gateNodeId : next.gateNodeId = record.gateNodeId) (closed : next.closed = record.closed)
      (quiet : Quiet event) : Change nodeId rules a [event] (a.bindAvatar sessionId next)
  | confirm {sessionId : UInt64} {record next : ClientSessionRecord}
      (found : a.clientSessionRecords[sessionId]? = some record) (game : next.gameNodeId ≠ [])
      (settled : next.pendingSelectAvatarSeq = 0) (accountId : next.accountId = record.accountId)
      (avatarId : next.avatarId = record.avatarId) (gateNodeId : next.gateNodeId = record.gateNodeId)
      (closed : next.closed = record.closed) :
      Change nodeId rules a [] { a with clientSessionRecords := a.clientSessionRecords.insert sessionId next }
  | unbind {sessionId : UInt64} {record : ClientSessionRecord}
      (found : a.clientSessionRecords[sessionId]? = some record) :
      Change nodeId rules a [] (a.unbindAvatar sessionId record)
  | clear (sessionId : UInt64) : Change nodeId rules a [] (a.clearClientSessionRecord sessionId)

/-- A handler call as a sequence of changes. -/
def Changes (nodeId : Bytes) (rules : Rules) (clients : GateClients) (result : GateClients × List ClientEvent) : Prop :=
  Steps (Change nodeId rules) clients result.2 result.1

variable {nodeId : Bytes} {rules : Rules}

namespace Changes

theorem refl (clients : GateClients) : Changes nodeId rules clients (clients, []) := Steps.nil clients

theorem one {a b : GateClients} (h : Change nodeId rules a [] b) : Changes nodeId rules a (b, []) := Steps.single h

/-- Only the network changes, and not its sessions. -/
theorem same {a b : GateClients} {events : List ClientEvent} (book : SameBook a b)
    (sessions : ClientNetwork.SameSessions a.clientNetwork b.clientNetwork) (quiet : ∀ event ∈ events, Quiet event) :
    Changes nodeId rules a (b, events) := Steps.single (.network book sessions quiet)

theorem onNetwork (a : GateClients) {net : ClientNetwork} (sessions : ClientNetwork.SameSessions a.clientNetwork net) :
    Changes nodeId rules a ({ a with clientNetwork := net }, []) := same ⟨rfl, rfl, rfl, rfl⟩ sessions (by simp)

theorem emit (a : GateClients) (event : ClientEvent) (quiet : Quiet event) :
    Changes nodeId rules a (a, [event]) := by
  refine same (.refl a) (.refl _) fun e mem => ?_
  rwa [List.mem_singleton.mp mem]

theorem seq {a b : GateClients} {es : List ClientEvent} {result : GateClients × List ClientEvent}
    (h : Changes nodeId rules a (b, es)) (h' : Changes nodeId rules b result) :
    Changes nodeId rules a (result.1, es ++ result.2) := Steps.append h h'

/-- A silent change before a handler. -/
theorem after {a b : GateClients} {result : GateClients × List ClientEvent} (h : Changes nodeId rules b result)
    (first : Changes nodeId rules a (b, [])) : Changes nodeId rules a result := seq first h

end Changes

/-! ## Login -/

theorem prune_changes (clients : GateClients) (now : UInt64) :
    Changes nodeId rules clients (clients.pruneExpiredClientConversationReservations now, []) :=
  .one (.expire fun _ _ kept => (Table.get_keep_some.mp kept).1)

/-- The conversation handed out is free. -/
theorem consumeNextClientConversation_some {clients clients' : GateClients} {conversation : UInt32}
    (h : clients.consumeNextClientConversation = some (conversation, clients')) :
    clients'.conversationTaken conversation = false ∧ SameBook clients clients' ∧
      clients'.clientNetwork = clients.clientNetwork := by
  unfold consumeNextClientConversation at h
  simp only at h
  split at h
  · cases h
  · rename_i found
    cases h
    exact ⟨(scan_some found).1, ⟨rfl, rfl, rfl, rfl⟩, rfl⟩

theorem handleAuthLogin_changes (clients : GateClients) (ctx : GateContext) (env : GateEnv)
    (request : GateAuthLoginRequest) : Changes nodeId rules clients (clients.handleAuthLogin ctx env request) := by
  unfold handleAuthLogin
  split
  · exact .emit clients _ trivial
  · have pruned := @prune_changes nodeId rules clients env.nowUnixMs
    simp only
    split
    · exact Changes.after (.emit _ _ trivial) pruned
    · rename_i conversation next allocated
      obtain ⟨free, book, network⟩ := consumeNextClientConversation_some allocated
      have counted : Changes nodeId rules (clients.pruneExpiredClientConversationReservations env.nowUnixMs)
          (next, []) := .same book (by rw [network]; exact .refl _) (by simp)
      refine Changes.after (Changes.after ?_ counted) pruned
      exact Changes.seq (Steps.single (.reserve conversation _ free)) (.emit _ (.loginResult _) trivial)

/-! ## Opening a session -/

/-- What `CanOpenClientSession` leaves: fewer reservations; and when it agrees,
one for the conversation that has not expired and fits the address. -/
theorem canOpenClientSession_spec (clients : GateClients) (env : GateEnv) (conversation : UInt32) (endpoint : Endpoint) :
    Changes nodeId rules clients ((clients.canOpenClientSession env conversation endpoint).1, []) ∧
      ((clients.canOpenClientSession env conversation endpoint).2 = .ok () →
        ∃ reservation,
          (clients.canOpenClientSession env conversation endpoint).1.clientConversationReservations[conversation]? =
            some reservation ∧ reservation.expired env.admissionUnixMs = false) := by
  unfold canOpenClientSession
  simp only
  have pruned := @prune_changes nodeId rules clients env.admissionUnixMs
  split
  · exact ⟨pruned, nofun⟩
  · rename_i reservation found
    split
    · refine ⟨Changes.after (.one (.expire fun c r kept => ?_)) pruned, nofun⟩
      exact (Table.get_erase_some kept).2
    · rename_i valid
      split
      · exact ⟨pruned, nofun⟩
      · exact ⟨pruned, fun _ => ⟨reservation, found, Bool.eq_false_iff.mpr valid⟩⟩

theorem clearClientSessionRecord_records (clients : GateClients) (sessionId : UInt64) :
    (clients.clearClientSessionRecord sessionId).clientSessionRecords[sessionId]? = none := by
  unfold clearClientSessionRecord
  split
  · assumption
  · exact Table.get_erase_self _ _

@[simp] theorem clearClientSessionRecord_network (clients : GateClients) (sessionId : UInt64) :
    (clients.clearClientSessionRecord sessionId).clientNetwork = clients.clientNetwork := by
  unfold clearClientSessionRecord
  split <;> rfl

@[simp] theorem clearClientSessionRecord_reservations (clients : GateClients) (sessionId : UInt64) :
    (clients.clearClientSessionRecord sessionId).clientConversationReservations =
      clients.clientConversationReservations := by
  unfold clearClientSessionRecord
  split <;> rfl

theorem tryRegisterAuthenticatedClientSession_ok {clients clients' : GateClients} {ctx : GateContext} {env : GateEnv}
    {reservation : ClientConversationReservation} {session : ClientSession}
    (h : clients.tryRegisterAuthenticatedClientSession ctx env reservation session = .ok clients') :
    reservation.account ≠ [] ∧ ∃ record, FreshRecord ctx.nodeId reservation.account record ∧
      record.sessionId = session.sessionId ∧
      clients' = { clients.clearClientSessionRecord session.sessionId with
        clientSessionRecords :=
          (clients.clearClientSessionRecord session.sessionId).clientSessionRecords.insert session.sessionId record
        sessionIdsByAccount :=
          (clients.clearClientSessionRecord session.sessionId).sessionIdsByAccount.insert reservation.account
            session.sessionId } := by
  unfold tryRegisterAuthenticatedClientSession at h
  split at h
  · cases h
  · rename_i account
    cases h
    exact ⟨account, _, ⟨rfl, rfl, rfl, rfl, rfl⟩, rfl, rfl⟩

theorem clearClientSessionRecord_withNetwork (clients : GateClients) (net : ClientNetwork) (sessionId : UInt64) :
    { clients with clientNetwork := net }.clearClientSessionRecord sessionId =
      { clients.clearClientSessionRecord sessionId with clientNetwork := net } := by
  unfold clearClientSessionRecord
  simp only
  split <;> rfl

/-- What an opened session took: the reservation of its conversation. The record
is new, so clearing comes first. -/
theorem handleClientSessionOpened_ok {clients clients' : GateClients} {ctx : GateContext} {env : GateEnv}
    {session : ClientSession} {event : ClientEvent}
    (h : clients.handleClientSessionOpened ctx env session = .ok (clients', event)) :
    ∃ (reservation : ClientConversationReservation) (active : ClientSession) (record : ClientSessionRecord),
      session.SameLink active ∧ clients.clientConversationReservations[active.conversation]? = some reservation ∧
      reservation.admits (normalizeClientAddress active.remoteEndpoint.host) = true ∧
      reservation.account ≠ [] ∧ FreshRecord ctx.nodeId reservation.account record ∧
      record.sessionId = active.sessionId ∧
      event = .opened active.sessionId active.conversation (normalizeClientAddress active.remoteEndpoint.host)
        reservation env.admissionUnixMs ∧
      clients' = { clients.clearClientSessionRecord active.sessionId with
        clientNetwork := clients.clientNetwork.modifySession active.sessionId fun _ => active
        clientConversationReservations := clients.clientConversationReservations.erase active.conversation
        clientSessionRecords :=
          (clients.clearClientSessionRecord active.sessionId).clientSessionRecords.insert active.sessionId record
        sessionIdsByAccount :=
          (clients.clearClientSessionRecord active.sessionId).sessionIdsByAccount.insert reservation.account
            active.sessionId } := by
  unfold handleClientSessionOpened at h
  simp only at h
  split at h
  · cases h
  · rename_i reservation reserved
    split at h
    · cases h
    · rename_i admitted
      split at h
      · cases h
      · rename_i active activated
        split at h
        · cases h
        · rename_i registered
          cases h
          have link := ClientSession.activate_sameLink activated
          obtain ⟨account, record, fresh, own, rfl⟩ := tryRegisterAuthenticatedClientSession_ok registered
          refine ⟨reservation, active, record, link, ?_, ?_, account, fresh, own, ?_, ?_⟩
          · rw [link.conversation]
            exact reserved
          · rw [link.remoteEndpoint]
            simpa using admitted
          · rw [link.sessionId, link.conversation, link.remoteEndpoint]
          · rw [link.conversation, clearClientSessionRecord_withNetwork]
            simp only [link.sessionId, clearClientSessionRecord_reservations]

theorem handleClientSessionOpened_changes {before clients : GateClients} {ctx : GateContext} {env : GateEnv}
    {conversation : UInt32} {endpoint : Endpoint} {session : ClientSession} {net : ClientNetwork} {event : ClientEvent}
    (created : ClientNetwork.Opened before.clientNetwork net conversation endpoint session)
    (valid : ∀ reservation : ClientConversationReservation,
      before.clientConversationReservations[conversation]? = some reservation →
      reservation.expired env.admissionUnixMs = false)
    (h : { before with clientNetwork := net }.handleClientSessionOpened ctx env session = .ok (clients, event)) :
    Changes ctx.nodeId rules before (clients, [event]) := by
  obtain ⟨reservation, active, record, link, reserved, admitted, account, fresh, -, rfl, rfl⟩ :=
    handleClientSessionOpened_ok h
  rw [clearClientSessionRecord_withNetwork]
  refine Changes.after ?_ (.one (.clear active.sessionId))
  have conv : active.conversation = conversation := link.conversation.trans created.conversation
  refine Steps.single (.opening ?_ ?_ (clearClientSessionRecord_records before _) (valid reservation ?_) admitted
    account fresh ?_ ?_ rfl rfl rfl)
  · rw [clearClientSessionRecord_reservations]
    exact reserved
  · rw [clearClientSessionRecord_network, link.sessionId]
    exact created.fresh
  · rw [← conv]
    exact reserved
  · rw [clearClientSessionRecord_network, link.sessionId]
    exact created.modified fun _ => active
  · rw [clearClientSessionRecord_reservations]

theorem openClientSession_changes (clients : GateClients) (ctx : GateContext) (env : GateEnv) (conversation : UInt32)
    (endpoint : Endpoint) :
    Changes ctx.nodeId rules clients ((clients.openClientSession ctx env conversation endpoint).1,
      (clients.openClientSession ctx env conversation endpoint).2.1) := by
  obtain ⟨admission, admitted⟩ := @canOpenClientSession_spec ctx.nodeId rules clients env conversation endpoint
  unfold openClientSession
  split
  · rename_i clients' _ eq
    rw [eq] at admission
    exact admission
  · rename_i clients' eq
    rw [eq] at admission admitted
    obtain ⟨reservation, reserved, valid⟩ := admitted rfl
    split
    · rename_i net eq
      have none := ClientNetwork.createSession_none (congrArg Prod.snd eq)
      rw [eq] at none
      exact (Changes.onNetwork clients' (.of_eq none)).after admission
    · rename_i net session eq
      have created := ClientNetwork.createSession_some (congrArg Prod.snd eq)
      rw [eq] at created
      split
      · exact (Changes.onNetwork clients' (.of_eq created.removed)).after admission
      · rename_i opened
        refine Changes.after (handleClientSessionOpened_changes created ?_ opened) admission
        intro other found
        rw [reserved] at found
        cases found
        exact valid

/-! ## Payloads -/

theorem modifyRecord_changes (clients : GateClients) (sessionId : UInt64)
    {f : ClientSessionRecord → ClientSessionRecord} (same : ∀ record, SameBinding record (f record)) :
    Changes nodeId rules clients (clients.modifyRecord sessionId f, []) := by
  unfold modifyRecord
  split
  · exact .refl clients
  · rename_i record found
    exact .one (.touch found (same record))

theorem sendPayload_changes (clients : GateClients) (env : GateEnv) (sessionId : UInt64) (packet : Bytes) :
    Changes nodeId rules clients (clients.sendPayload env sessionId packet) := by
  have same := ClientNetwork.sendPayload_same clients.clientNetwork sessionId packet (env.kcpSendOk sessionId packet)
    env.laterUnixMs
  exact (Changes.onNetwork clients same).seq (.emit _ (.sendPayload ..) trivial)

theorem sendClientSelectAvatarResult_changes (clients : GateClients) (env : GateEnv) (sessionId : UInt64)
    (requestSeq : UInt32) (success : Bool) (accountId avatarId gameNodeId error : Bytes) :
    Changes nodeId rules clients (clients.sendClientSelectAvatarResult env sessionId requestSeq success accountId
      avatarId gameNodeId error) := by
  unfold sendClientSelectAvatarResult
  split
  · exact .refl clients
  · split
    · exact .emit clients _ trivial
    · split
      · exact .refl clients
      · exact sendPayload_changes clients env sessionId _

theorem readSelectAvatarRequest_canonical {env : GateEnv} {payload avatarId : Bytes}
    (h : readSelectAvatarRequest env payload = .ok avatarId) : isCanonicalGuidText avatarId = true := by
  unfold readSelectAvatarRequest at h
  repeat' split at h
  all_goals try cases h
  assumption

/-- The record an accepted request leaves. -/
structure Selected (clients : GateClients) (sessionId : UInt64) (record next : ClientSessionRecord) : Prop where
  found : clients.clientSessionRecords[sessionId]? = some record
  unbound : record.avatarId = []
  free : ∀ other : UInt64, clients.sessionIdsByAvatar[next.avatarId]? = some other → other = sessionId
  canonical : isCanonicalGuidText next.avatarId = true
  game : next.gameNodeId ≠ []
  accountId : next.accountId = record.accountId
  gateNodeId : next.gateNodeId = record.gateNodeId
  closed : next.closed = record.closed

theorem nextSelectAvatarRecord_ok {clients : GateClients} {ctx : GateContext} {env : GateEnv} {sessionId : UInt64}
    {packet : Packet} {next : ClientSessionRecord}
    (h : clients.nextSelectAvatarRecord ctx env sessionId packet = .ok next) :
    readSelectAvatarRequest env packet.payload = .ok next.avatarId ∧
      ∃ record, Selected clients sessionId record next := by
  unfold nextSelectAvatarRecord at h
  split at h
  · cases h
  split at h
  · cases h
  rename_i record found
  split at h
  · cases h
  split at h
  · cases h
  rename_i unbound
  split at h
  · cases h
  rename_i avatarId read
  split at h
  · cases h
  rename_i free
  simp only at h
  split at h
  · cases h
  rename_i game
  cases h
  refine ⟨read, record, found, by simpa using unbound, ?_, readSelectAvatarRequest_canonical read, game, rfl, rfl, rfl⟩
  intro other bound
  simpa [bound] using free

theorem handleClientSelectAvatarPacket_done {clients : GateClients} {ctx : GateContext} {env : GateEnv}
    {sessionId : UInt64} {packet : Packet} {result : GateClients × ClientEvent}
    (h : clients.handleClientSelectAvatarPacket ctx env sessionId packet = .done result) :
    ∃ next routingId sent, clients.nextSelectAvatarRecord ctx env sessionId packet = .ok next ∧
      result = (clients.bindAvatar sessionId next, .toGame routingId sent) := by
  unfold handleClientSelectAvatarPacket at h
  split at h
  · cases h
  · rename_i next accepted
    split at h
    · cases h
    · cases h
    · cases h
      exact ⟨next, _, _, accepted, rfl⟩

/-- The avatar that the request in a payload binds, if it is accepted. -/
def selectedAvatar (clients : GateClients) (ctx : GateContext) (env : GateEnv) (sessionId : UInt64) (payload : Bytes) :
    Option Bytes :=
  match decodePacket payload with
  | .error _ => none
  | .ok packet =>
    if packet.header.msgId = clientSelectAvatarMsgId then
      match (clients.touchRecord env sessionId).handleClientSelectAvatarPacket ctx env sessionId packet with
      | .done _ => (readSelectAvatarRequest env packet.payload).toOption
      | _ => none
    else none

/-- The avatars bound by a sequence of payloads. -/
def selectedAvatars (ctx : GateContext) (env : GateEnv) (sessionId : UInt64) : GateClients → List Bytes → List Bytes
  | _, [] => []
  | clients, payload :: rest =>
    let touched := clients.touchSession env sessionId
    let (next, events) := touched.handleClientPayloadReceived ctx env sessionId payload
    (touched.selectedAvatar ctx env sessionId payload).toList ++
      if .threw ∈ events then [] else selectedAvatars ctx env sessionId next rest

theorem touchRecord_changes (clients : GateClients) (env : GateEnv) (sessionId : UInt64) :
    Changes nodeId rules clients (clients.touchRecord env sessionId, []) :=
  modifyRecord_changes clients sessionId fun _ => ⟨rfl, rfl, rfl, rfl, rfl, rfl⟩

/-- A call that is forwarded is in order, on a session with an avatar, and goes to an
available Game. -/
theorem handleClientEntityRpcPacket_ok {clients : GateClients} {ctx : GateContext} {env : GateEnv} {sessionId : UInt64}
    {packet : Packet} {result : GateClients × ClientEvent}
    (h : clients.handleClientEntityRpcPacket ctx env sessionId packet = .ok result) :
    packet.header.flags = 0 ∧ packet.header.seq ≠ packetSeqNone ∧
      ∃ record target sent, clients.clientSessionRecords[sessionId]? = some record ∧ record.avatarId ≠ [] ∧
        ctx.availableGame record.gameNodeId = some target ∧
        result = (clients.touchRecord env sessionId, .toGame target.routingId sent) := by
  unfold handleClientEntityRpcPacket at h
  split at h
  · cases h
  rename_i envelope
  rw [not_or, not_not] at envelope
  refine ⟨envelope.1, envelope.2, ?_⟩
  split at h
  · cases h
  rename_i record found
  split at h
  · cases h
  split at h
  · cases h
  rename_i avatar
  split at h
  · cases h
  split at h
  · cases h
  split at h
  · cases h
  split at h
  · cases h
  rename_i target available
  simp only at h
  repeat' split at h
  all_goals try cases h
  exact ⟨record, target, _, found, avatar, available, rfl⟩

theorem handleClientEntityRpcPacket_changes {clients clients' : GateClients} {ctx : GateContext} {env : GateEnv}
    {sessionId : UInt64} {packet : Packet} {event : ClientEvent}
    (h : clients.handleClientEntityRpcPacket ctx env sessionId packet = .ok (clients', event)) :
    Changes nodeId rules clients (clients', [event]) := by
  obtain ⟨-, -, record, target, sent, -, -, -, eq⟩ := handleClientEntityRpcPacket_ok h
  cases eq
  exact (touchRecord_changes clients env sessionId).seq (.emit _ (.toGame ..) trivial)

theorem handleClientPayloadReceived_changes {clients : GateClients} {ctx : GateContext} {env : GateEnv}
    {sessionId : UInt64} {payload : Bytes}
    (allowed : ∀ avatar ∈ clients.selectedAvatar ctx env sessionId payload, rules.avatar avatar) :
    Changes nodeId rules clients (clients.handleClientPayloadReceived ctx env sessionId payload) := by
  have touched := @touchRecord_changes nodeId rules clients env sessionId
  unfold handleClientPayloadReceived
  unfold selectedAvatar at allowed
  simp only
  split
  · exact touched
  · rename_i packet decoded
    rw [decoded] at allowed
    simp only at allowed
    split
    · rename_i isSelect
      rw [if_pos isSelect] at allowed
      split
      · rename_i clients' event done
        rw [done] at allowed
        obtain ⟨next, routingId, sent, accepted, eq⟩ := handleClientSelectAvatarPacket_done done
        cases eq
        obtain ⟨requested, record, selected⟩ := nextSelectAvatarRecord_ok accepted
        have permitted : rules.avatar next.avatarId := allowed next.avatarId (by rw [requested]; rfl)
        refine Changes.after (Steps.single ?_) touched
        exact .bind selected.found selected.unbound selected.free selected.canonical permitted selected.game
          selected.accountId selected.gateNodeId selected.closed trivial
      · exact Changes.after (.emit _ _ trivial) touched
      · exact Changes.after (sendClientSelectAvatarResult_changes ..) touched
    · split
      · split
        · exact touched
        · rename_i clients' event ok
          exact Changes.after (handleClientEntityRpcPacket_changes ok) touched
      · exact touched

theorem touchSession_changes (clients : GateClients) (env : GateEnv) (sessionId : UInt64) :
    Changes nodeId rules clients (clients.touchSession env sessionId, []) :=
  .onNetwork clients (ClientNetwork.modifySession_same fun session _ =>
    ClientSession.touch_sameLink session env.nowUnixMs)

theorem receivePayloads_changes {ctx : GateContext} {env : GateEnv} {sessionId : UInt64} {clients : GateClients}
    {payloads : List Bytes}
    (allowed : ∀ avatar ∈ selectedAvatars ctx env sessionId clients payloads, rules.avatar avatar) :
    Changes nodeId rules clients (receivePayloads ctx env sessionId clients payloads) := by
  induction payloads generalizing clients with
  | nil => exact .refl clients
  | cons payload rest ih =>
    unfold selectedAvatars at allowed
    unfold receivePayloads
    simp only [List.mem_append, Option.mem_toList] at allowed ⊢
    have received := Changes.after
      (@handleClientPayloadReceived_changes nodeId rules (clients.touchSession env sessionId) ctx env sessionId payload
        fun avatar mem => allowed avatar (.inl mem))
      (touchSession_changes clients env sessionId)
    split
    · exact received
    · rename_i noThrow
      refine Changes.seq received (ih fun avatar mem => allowed avatar (.inr ?_))
      rwa [if_neg noThrow]

/-! ## Datagrams -/

/-- The avatars bound by the messages a datagram completes. -/
def datagramAvatars (clients : GateClients) (ctx : GateContext) (env : GateEnv) (endpoint : Endpoint)
    (datagram : Bytes) : List Bytes :=
  match clients.datagramSession ctx env endpoint datagram with
  | (_, _, none) => []
  | (clients, _, some (sessionId, _)) =>
    if env.kcpInputOk then selectedAvatars ctx env sessionId (clients.touchSession env sessionId) env.received else []

/-- A session is created for the datagram. -/
def opensSession (clients : GateClients) (ctx : GateContext) (env : GateEnv) (endpoint : Endpoint) (datagram : Bytes) :
    Bool :=
  (clients.datagramSession ctx env endpoint datagram).2.2.any (·.2)

theorem datagramSession_changes (clients : GateClients) (ctx : GateContext) (env : GateEnv) (endpoint : Endpoint)
    (datagram : Bytes) :
    Changes ctx.nodeId rules clients ((clients.datagramSession ctx env endpoint datagram).1,
      (clients.datagramSession ctx env endpoint datagram).2.1) := by
  unfold datagramSession
  split
  · exact .refl clients
  · split
    · exact .refl clients
    · split
      · exact .refl clients
      · exact openClientSession_changes clients ctx env _ endpoint

theorem feedDatagram_changes {clients : GateClients} {ctx : GateContext} {env : GateEnv} {sessionId : UInt64}
    {sessionCreated : Bool}
    (avatars : env.kcpInputOk = true → ∀ avatar ∈ selectedAvatars ctx env sessionId (clients.touchSession env sessionId)
      env.received, rules.avatar avatar)
    (removals : sessionCreated = true → env.kcpInputOk = false → ∀ other : GateClients, rules.removal other sessionId) :
    Changes nodeId rules clients (clients.feedDatagram ctx env sessionId sessionCreated) := by
  have touched := @touchSession_changes nodeId rules clients env sessionId
  unfold feedDatagram
  simp only
  split
  · rename_i input
    exact Changes.after (receivePayloads_changes (avatars input)) touched
  · rename_i input
    split
    · rename_i created
      exact Changes.after (.one (.remove sessionId (removals created (by simpa using input) _))) touched
    · exact touched

theorem handleIncomingDatagram_changes {clients : GateClients} {ctx : GateContext} {env : GateEnv}
    {endpoint : Endpoint} {datagram : Bytes}
    (avatars : ∀ avatar ∈ clients.datagramAvatars ctx env endpoint datagram, rules.avatar avatar)
    (removals : clients.opensSession ctx env endpoint datagram = true → env.kcpInputOk = false →
      ∀ (other : GateClients) (sessionId : UInt64), rules.removal other sessionId) :
    Changes ctx.nodeId rules clients (clients.handleIncomingDatagram ctx env endpoint datagram) := by
  have found := @datagramSession_changes rules clients ctx env endpoint datagram
  unfold datagramAvatars at avatars
  unfold opensSession at removals
  unfold handleIncomingDatagram
  generalize clients.datagramSession ctx env endpoint datagram = outcome at *
  obtain ⟨clients', events, session⟩ := outcome
  cases session with
  | none => exact found
  | some session =>
    obtain ⟨sessionId, sessionCreated⟩ := session
    have fed : Changes ctx.nodeId rules clients' (clients'.feedDatagram ctx env sessionId sessionCreated) := by
      refine feedDatagram_changes (fun input => ?_) fun created input other => removals (by simpa using created) input _ _
      simpa only [input, if_true] using avatars
    exact Changes.seq found fed

/-! ## Messages from a Game -/

theorem rollbackPendingSelection_changes {clients : GateClients} {env : GateEnv} {result : AvatarCreateResult}
    {record : ClientSessionRecord} (found : clients.clientSessionRecords[result.sessionId]? = some record)
    (rollbackError : Bytes) (notifyClient : Bool) :
    Changes nodeId rules clients (clients.rollbackPendingSelection env result record rollbackError notifyClient) := by
  have undone : Changes nodeId rules clients (clients.unbindAvatar result.sessionId record, []) := .one (.unbind found)
  unfold rollbackPendingSelection
  simp only
  split
  · exact Changes.after (sendClientSelectAvatarResult_changes ..) undone
  · exact undone

theorem confirmAvatar_changes {clients : GateClients} (env : GateEnv) {result : AvatarCreateResult}
    {record : ClientSessionRecord} (found : clients.clientSessionRecords[result.sessionId]? = some record)
    (game : result.gameNodeId ≠ []) : Changes nodeId rules clients (clients.confirmAvatar env result record, []) :=
  .one (.confirm found (by exact game) (by rfl) (by rfl) (by rfl) (by rfl) (by rfl))

theorem readAvatarCreateResult_game {members : Table Bytes JsonScalar} {result : AvatarCreateResult}
    (h : readAvatarCreateResult members = .ok result) : result.gameNodeId ≠ [] := by
  unfold readAvatarCreateResult at h
  simp only [bind, Except.bind, pure, Except.pure] at h
  repeat' split at h
  all_goals try cases h
  all_goals exact (requiredJsonString_ok ‹tryReadRequiredJsonString members "gameNodeId" = _›).2

/-- The record waits for the result, and the result names a Game. -/
theorem pendingCreateResult_some {clients : GateClients} {ctx : GateContext} {env : GateEnv} {routingId payload : Bytes}
    {source : InnerNetworkSession} {result : AvatarCreateResult} {record : ClientSessionRecord}
    (h : clients.pendingCreateResult ctx env routingId payload = some (source, result, record)) :
    clients.clientSessionRecords[result.sessionId]? = some record ∧ result.gameNodeId ≠ [] := by
  unfold pendingCreateResult at h
  obtain ⟨packet, -, h⟩ := Option.bind_eq_some_iff.mp h
  obtain ⟨source', -, h⟩ := Option.bind_eq_some_iff.mp h
  obtain ⟨json, -, h⟩ := Option.bind_eq_some_iff.mp h
  split at h
  · obtain ⟨result', read, h⟩ := Option.bind_eq_some_iff.mp h
    split at h
    · cases h
    split at h
    · cases h
    split at h
    · cases h
    obtain ⟨record', found, h⟩ := Option.bind_eq_some_iff.mp h
    split at h
    · cases h
    · cases h
      exact ⟨found, readAvatarCreateResult_game (ok_of_toOption read)⟩
  · cases h

theorem bindSessionRoute_sameLink (session : ClientSession) (target : ClientRouteTarget) :
    session.SameLink (bindSessionRoute session target).1 := by
  unfold bindSessionRoute
  simp only
  split
  · exact .refl session
  · rename_i selecting eq
    have first : session.SameLink selecting := by
      split at eq
      · exact ClientSession.transitionRoute_sameLink eq
      · cases eq
        exact .refl session
    split
    · split
      · exact first
      · rename_i bound
        exact first.trans (ClientSession.bindRoute_sameLink bound)
    · exact first

theorem handleGameAvatarEntityCreateResultMessage_changes (clients : GateClients) (ctx : GateContext) (env : GateEnv)
    (routingId payload : Bytes) :
    Changes nodeId rules clients (clients.handleGameAvatarEntityCreateResultMessage ctx env routingId payload) := by
  unfold handleGameAvatarEntityCreateResultMessage
  split
  · exact .refl clients
  · rename_i source result record pending
    obtain ⟨found, game⟩ := pendingCreateResult_some pending
    split
    · exact rollbackPendingSelection_changes found _ _
    · split
      · exact rollbackPendingSelection_changes found _ _
      · rename_i session live
        simp only
        have link : ∀ old : ClientSession, clients.clientNetwork.sessions[result.sessionId]? = some old →
            old.SameLink (bindSessionRoute session (routeTarget ctx source result.gameNodeId)).1 := by
          intro old stored
          rw [show clients.clientNetwork.sessions[result.sessionId]? = some session from live] at stored
          cases stored
          exact bindSessionRoute_sameLink session _
        have routed := @Changes.onNetwork nodeId rules clients _ (ClientNetwork.modifySession_same link)
        split
        · exact Changes.after (rollbackPendingSelection_changes (by exact found) _ _) routed
        · have confirmed := Changes.after (confirmAvatar_changes env (by exact found) game) routed
          exact Changes.after (sendClientSelectAvatarResult_changes ..) confirmed

theorem handleGamePushToClientMessage_changes (clients : GateClients) (ctx : GateContext) (env : GateEnv)
    (routingId payload : Bytes) :
    Changes nodeId rules clients (clients.handleGamePushToClientMessage ctx env routingId payload) := by
  unfold handleGamePushToClientMessage
  split
  · exact .refl clients
  · split
    · exact .refl clients
    · split
      · exact .refl clients
      · exact sendPayload_changes clients env _ _

theorem forwardToGame_changes (clients : GateClients) (ctx : GateContext) (env : GateEnv) (gameNodeId payload : Bytes) :
    Changes nodeId rules clients (clients, forwardToGame ctx env gameNodeId payload) := by
  unfold forwardToGame
  split
  · exact .refl clients
  · split
    · exact .emit clients _ trivial
    · exact .refl clients

theorem handleGameForwardProxyCallMessage_changes (clients : GateClients) (ctx : GateContext) (env : GateEnv)
    (routingId payload : Bytes) :
    Changes nodeId rules clients (clients, clients.handleGameForwardProxyCallMessage ctx env routingId payload) := by
  unfold handleGameForwardProxyCallMessage
  split
  · exact .refl clients
  split
  · exact .refl clients
  split
  · exact .refl clients
  · exact forwardToGame_changes clients ctx env _ payload

theorem handleGameForwardStubCallMessage_changes (clients : GateClients) (ctx : GateContext) (env : GateEnv)
    (routingId payload : Bytes) :
    Changes nodeId rules clients (clients, handleGameForwardStubCallMessage ctx env routingId payload) := by
  unfold handleGameForwardStubCallMessage
  split
  · exact .refl clients
  split
  · exact .refl clients
  split
  · exact .refl clients
  split
  · exact .refl clients
  · exact forwardToGame_changes clients ctx env _ payload

end XServer.Node.GateClients
