import XServer.Lib.Mail
import XServer.Node.AvatarCreate
import XServer.Node.GameMesh
import XServer.Node.GameProvenance
import XServer.Node.GateAccounts
import XServer.Node.GateLink

/-!
# A Gate and a Game over links that lose packets

A client that selected an avatar waits until the Gate takes up a result for its
session: nothing else ends the wait, and while it lasts every further selection is
refused. The create request goes out with the selection, and the Game answers it
with a result. In a run in which no awaited request or result is lost, whatever a
client waits for is in flight (`selections_covered`).
-/

namespace XServer.Node
open XServer.Lib XServer.Lib.Wire XServer.Net XServer.Core

namespace GateClients

/-! ## Where records come from -/

/-- Records are kept under the ids of their sessions. -/
def Named (clients : GateClients) : Prop :=
  ∀ (id : UInt64) (record : ClientSessionRecord), clients.clientSessionRecords[id]? = some record → record.sessionId = id

/-- At most the time of the last activity differs. -/
def SameSelection (a b : ClientSessionRecord) : Prop := b = { a with lastActiveUnixMs := b.lastActiveUnixMs }

/-- A record after a handler call: it was there before, its client waits for
nothing, or its create request has just gone out. -/
inductive RecordFrom (ctx : GateContext) (a : GateClients) (events : List ClientEvent) (id : UInt64)
    (next : ClientSessionRecord) : Prop where
  | kept {record : ClientSessionRecord} (found : a.clientSessionRecords[id]? = some record)
      (same : SameSelection record next) : RecordFrom ctx a events id next
  | idle (settled : next.pendingSelectAvatarSeq = 0) : RecordFrom ctx a events id next
  | requested {routingId packet : Bytes} {game : InnerNetworkSession} (sent : .toGame routingId packet ∈ events)
      (target : GameChannel ctx next.gameNodeId routingId game) (request : next.createRequest.packet = some packet) :
      RecordFrom ctx a events id next

/-- A handler call that ends no wait but those of the sessions in `ends`: every
record after it comes from one of these, under its own id, and a record that waited
is as it was. -/
structure Follows (ctx : GateContext) (ends : UInt64 → Prop) (a : GateClients) (result : GateClients × List ClientEvent) :
    Prop where
  origin : ∀ (id : UInt64) (next : ClientSessionRecord), result.1.clientSessionRecords[id]? = some next →
    next.sessionId = id ∧ RecordFrom ctx a result.2 id next
  waiting : ∀ (id : UInt64) (record : ClientSessionRecord), a.clientSessionRecords[id]? = some record →
    record.pendingSelectAvatarSeq ≠ 0 → ¬ ends id →
    ∃ next, result.1.clientSessionRecords[id]? = some next ∧ SameSelection record next

section Follows

variable {ctx : GateContext} {ends : UInt64 → Prop} {a b c : GateClients} {events more : List ClientEvent}

theorem SameSelection.trans {x y z : ClientSessionRecord} (first : SameSelection x y) (second : SameSelection y z) :
    SameSelection x z := by
  unfold SameSelection at first second ⊢
  rw [second, first]

theorem SameSelection.pending {x y : ClientSessionRecord} (same : SameSelection x y) :
    y.pendingSelectAvatarSeq = x.pendingSelectAvatarSeq := by
  unfold SameSelection at same
  rw [same]

theorem Follows.named {result : GateClients × List ClientEvent} (h : Follows ctx ends a result) : Named result.1 :=
  fun id next found => (h.origin id next found).1

theorem Follows.mono {more : UInt64 → Prop} {result : GateClients × List ClientEvent} (h : Follows ctx ends a result)
    (wider : ∀ id, ends id → more id) : Follows ctx more a result where
  origin := h.origin
  waiting id record found waits kept := h.waiting id record found waits fun ended => kept (wider id ended)

theorem RecordFrom.after {id : UInt64} {record next : ClientSessionRecord} (h : RecordFrom ctx a events id record)
    (same : SameSelection record next) : RecordFrom ctx a (events ++ more) id next := by
  cases h with
  | kept found before => exact .kept found (before.trans same)
  | idle settled => exact .idle (same.pending.trans settled)
  | requested sent target request =>
    unfold SameSelection at same
    rw [same]
    exact .requested (List.mem_append_left _ sent) target request

theorem Follows.of_records (named : Named a) (same : b.clientSessionRecords = a.clientSessionRecords) :
    Follows ctx ends a (b, events) where
  origin id next found := by
    rw [show (b, events).1.clientSessionRecords = a.clientSessionRecords from same] at found
    exact ⟨named id next found, .kept found rfl⟩
  waiting id record found _ _ := ⟨record, (congrArg (·[id]?) same).trans found, rfl⟩

theorem Follows.seq (first : Follows ctx ends a (b, events)) (second : Follows ctx ends b (c, more)) :
    Follows ctx ends a (c, events ++ more) where
  origin id next found := by
    obtain ⟨own, origin⟩ := second.origin id next found
    refine ⟨own, ?_⟩
    cases origin with
    | kept held same => exact (first.origin id _ held).2.after same
    | idle settled => exact .idle settled
    | requested sent target request => exact .requested (List.mem_append_right _ sent) target request
  waiting id record found waits kept := by
    obtain ⟨middle, held, same⟩ := first.waiting id record found waits kept
    obtain ⟨next, held', same'⟩ := second.waiting id middle held (by rwa [same.pending]) kept
    exact ⟨next, held', same.trans same'⟩

/-- One record is written; if it waited, it is as it was or its wait may end. -/
theorem Follows.write (named : Named a) {id : UInt64} {next : ClientSessionRecord}
    (records : b.clientSessionRecords = a.clientSessionRecords.insert id next) (own : next.sessionId = id)
    (origin : RecordFrom ctx a events id next)
    (waited : ∀ record, a.clientSessionRecords[id]? = some record → record.pendingSelectAvatarSeq ≠ 0 → ¬ ends id →
      SameSelection record next) : Follows ctx ends a (b, events) where
  origin other held found := by
    rw [show (b, events).1.clientSessionRecords = _ from records] at found
    by_cases hit : other = id
    · subst hit
      rw [Table.get_insert_self] at found
      cases found
      exact ⟨own, origin⟩
    · rw [Table.get_insert_of_ne _ _ (Ne.symm hit)] at found
      exact ⟨named other held found, .kept found rfl⟩
  waiting other record found waits kept := by
    show ∃ held, b.clientSessionRecords[other]? = some held ∧ _
    rw [records]
    by_cases hit : other = id
    · subst hit
      exact ⟨next, Table.get_insert_self _ _ _, waited record found waits kept⟩
    · exact ⟨record, (Table.get_insert_of_ne _ _ (Ne.symm hit)).trans found, rfl⟩

theorem Follows.erase (named : Named a) {id : UInt64} (ended : ends id) :
    Follows ctx ends a (a.clearClientSessionRecord id, events) where
  origin other held found := by
    have before : a.clientSessionRecords[other]? = some held := by
      by_cases hit : other = id
      · subst hit
        rw [show (a.clearClientSessionRecord other, events).1.clientSessionRecords[other]? = none from
          clearClientSessionRecord_records a other] at found
        cases found
      · rwa [show (a.clearClientSessionRecord id, events).1.clientSessionRecords[other]? = _ from
          clearClientSessionRecord_others a hit] at found
    exact ⟨named other held before, .kept before rfl⟩
  waiting other record found waits kept := by
    have ne : other ≠ id := fun same => kept (same ▸ ended)
    exact ⟨record, (clearClientSessionRecord_others a ne).trans found, rfl⟩

end Follows

/-! ## Messages of a client -/

section Clients

variable {ctx : GateContext} {ends : UInt64 → Prop} {env : GateEnv} {clients : GateClients} {sessionId : UInt64}

theorem touchRecord_follows (named : Named clients) (env : GateEnv) (sessionId : UInt64) :
    Follows ctx ends clients (clients.touchRecord env sessionId, []) := by
  unfold touchRecord modifyRecord
  split
  · exact .of_records named rfl
  · rename_i record found
    refine .write named rfl (named sessionId record found) (.kept found rfl) fun held stored _ _ => ?_
    rw [found] at stored
    cases stored
    rfl

/-- An accepted selection is of a session that waited for nothing. -/
theorem nextSelectAvatarRecord_idle {packet : Packet} {next : ClientSessionRecord}
    (accepted : clients.nextSelectAvatarRecord ctx env sessionId packet = .ok next) :
    ∃ record, clients.clientSessionRecords[sessionId]? = some record ∧ record.pendingSelectAvatarSeq = 0 ∧
      next.sessionId = record.sessionId := by
  unfold nextSelectAvatarRecord at accepted
  simp only at accepted
  repeat' split at accepted
  all_goals try cases accepted
  rename_i record found settled _ _ _ _ _ _
  exact ⟨record, found, not_not.mp settled, rfl⟩

theorem sendCreateAvatarEntityRequest_packet {record : ClientSessionRecord} {routingId sent : Bytes}
    (created : ctx.sendCreateAvatarEntityRequest env record = .done (routingId, sent)) :
    record.createRequest.packet = some sent := by
  unfold GateContext.sendCreateAvatarEntityRequest at created
  repeat' split at created
  all_goals try cases created
  rename_i body dumped _ encoded _
  have same : record.createRequest.members = createAvatarMembers record := rfl
  simp [AvatarCreateRequest.packet, AvatarCreateRequest.callPacket, same, dumped, encoded, Except.toOption]

theorem Served.follows {result : GateClients × List ClientEvent} (served : Served clients ctx env sessionId result)
    (named : Named clients) : Follows ctx ends clients result := by
  have touched := @touchRecord_follows ctx ends clients named env sessionId
  cases served with
  | quiet book => exact touched.seq (.of_records touched.named book.records)
  | selected accepted created =>
    obtain ⟨game, target⟩ := sendCreateAvatarEntityRequest_done created
    obtain ⟨record, found, settled, same⟩ := nextSelectAvatarRecord_idle accepted
    have own := same.trans (touched.named sessionId record found)
    have request := sendCreateAvatarEntityRequest_packet created
    refine touched.seq (.write touched.named rfl own (.requested (List.mem_singleton_self _) target request) ?_)
    intro held stored waits
    rw [found] at stored
    cases stored
    exact absurd settled waits
  | call =>
    have again := @touchRecord_follows ctx ends _ touched.named env sessionId
    exact touched.seq (again.seq (.of_records again.named rfl))

theorem receivePayloads_follows {payloads : List Bytes} (named : Named clients) :
    Follows ctx ends clients (receivePayloads ctx env sessionId clients payloads) := by
  induction payloads generalizing clients with
  | nil => exact .of_records named rfl
  | cons payload rest ih =>
    have touched : Follows ctx ends clients (clients.touchSession env sessionId, []) := .of_records named rfl
    have next := touched.seq ((payload_served _ ctx env sessionId payload).follows touched.named)
    unfold receivePayloads
    simp only
    split
    · exact next
    · exact next.seq (ih next.named)

theorem feedDatagram_follows {sessionCreated : Bool} (named : Named clients) :
    Follows ctx ends clients (clients.feedDatagram ctx env sessionId sessionCreated) := by
  have touched : Follows ctx ends clients (clients.touchSession env sessionId, []) := .of_records named rfl
  unfold feedDatagram
  simp only
  split
  · exact touched.seq (receivePayloads_follows touched.named)
  split
  · exact .of_records named rfl
  · exact touched

/-- The session was opened in these events. -/
def OpenedIn (events : List ClientEvent) (id : UInt64) : Prop :=
  ∃ c address reservation now, .opened id c address reservation now ∈ events

theorem openClientSession_follows (named : Named clients) (conversation : UInt32) (endpoint : Endpoint) :
    Follows ctx (OpenedIn (clients.openClientSession ctx env conversation endpoint).2.1) clients
      ((clients.openClientSession ctx env conversation endpoint).1,
        (clients.openClientSession ctx env conversation endpoint).2.1) := by
  have untouched := canOpenClientSession_records clients env conversation endpoint
  unfold openClientSession
  split
  · rename_i eq
    rw [eq] at untouched
    exact .of_records named untouched
  rename_i admitted eq
  rw [eq] at untouched
  split
  · exact .of_records named untouched
  split
  · exact .of_records named untouched
  · rename_i net session _ _ event _ ok
    obtain ⟨reservation, active, record, -, -, -, -, fresh, own, rfl, rfl⟩ := handleClientSessionOpened_ok ok
    have opened : OpenedIn [.opened active.sessionId active.conversation
        (normalizeClientAddress active.remoteEndpoint.host) reservation env.admissionUnixMs] active.sessionId :=
      ⟨_, _, _, _, List.mem_singleton_self _⟩
    generalize OpenedIn _ = ends at opened
    have start : Follows ctx ends clients ({ admitted with clientNetwork := net }, []) := .of_records named untouched
    have cleared := start.seq (@Follows.erase ctx ends _ [] start.named _ opened)
    exact cleared.seq (.write cleared.named rfl own (.idle fresh.pending) fun _ _ _ kept => absurd opened kept)

theorem handleIncomingDatagram_follows (named : Named clients) (endpoint : Endpoint) (datagram : Bytes) :
    Follows ctx (OpenedIn (clients.handleIncomingDatagram ctx env endpoint datagram).2) clients
      (clients.handleIncomingDatagram ctx env endpoint datagram) := by
  have opened : Follows ctx (OpenedIn (clients.datagramSession ctx env endpoint datagram).2.1) clients
      ((clients.datagramSession ctx env endpoint datagram).1, (clients.datagramSession ctx env endpoint datagram).2.1) := by
    unfold datagramSession
    split
    · exact .of_records named rfl
    split
    · exact .of_records named rfl
    split
    · exact .of_records named rfl
    · exact openClientSession_follows named _ endpoint
  unfold handleIncomingDatagram
  generalize clients.datagramSession ctx env endpoint datagram = outcome at opened
  obtain ⟨clients', events, session⟩ := outcome
  cases session with
  | none => exact opened
  | some session =>
    refine (opened.mono fun id known => ?_).seq (feedDatagram_follows opened.named)
    obtain ⟨c, address, reservation, now, mem⟩ := known
    exact ⟨c, address, reservation, now, List.mem_append_left _ mem⟩

end Clients

theorem handleAuthLogin_records (clients : GateClients) (ctx : GateContext) (env : GateEnv) (request : GateAuthLoginRequest) :
    (clients.handleAuthLogin ctx env request).1.clientSessionRecords = clients.clientSessionRecords := by
  unfold handleAuthLogin
  split
  · rfl
  simp only
  split
  · rfl
  · rename_i allocated
    exact (consumeNextClientConversation_some allocated).2.1.records

/-- A create result that is taken up ends the wait of its session. -/
theorem createResult_follows {ctx : GateContext} {clients : GateClients} (named : Named clients) (env : GateEnv)
    (routingId payload : Bytes) :
    Follows ctx (fun id => ∃ source result record,
        clients.pendingCreateResult ctx env routingId payload = some (source, result, record) ∧ result.sessionId = id)
      clients (clients.handleGameAvatarEntityCreateResultMessage ctx env routingId payload) := by
  cases pending : clients.pendingCreateResult ctx env routingId payload with
  | none =>
    have ignored : clients.handleGameAvatarEntityCreateResultMessage ctx env routingId payload = (clients, []) := by
      unfold handleGameAvatarEntityCreateResultMessage
      rw [pending]
    rw [ignored]
    exact .of_records named rfl
  | some taken =>
    obtain ⟨source, result, record⟩ := taken
    obtain ⟨settled, done, same, records⟩ := settled_records pending
    have own := same.trans (named _ _ (pendingCreateResult_some pending).1)
    exact .write named records own (.idle done) fun _ _ _ kept => absurd ⟨source, result, record, rfl, rfl⟩ kept

end GateClients

namespace GateNode

/-! ## Steps of a Gate -/

theorem handleConnectorMessage_records (gate : GateNode) (env : GateEnv) (peer payload : Bytes) :
    (gate.handleConnectorMessage env peer payload).clients.clientSessionRecords = gate.clients.clientSessionRecords := by
  unfold handleConnectorMessage
  split
  · rfl
  unfold handleGmMessage
  split
  · rfl
  split
  · rfl
  split
  · unfold handleClusterReadyNotify
    split
    · rfl
    split
    · rfl
    split
    · rfl
    · rfl
  split
  · rfl
  split
  · split <;> rfl
  split
  · split <;> rfl
  · rfl

/-- The wait of this session may end with the step: a result for it is taken up, its
record is cleared, or a session is opened under its id. -/
def EndsWait (gate : GateNode) (input : Input) (id : UInt64) : Prop :=
  match input with
  | .gameMessage env routingId payload => ∃ source result record,
    gate.clients.pendingCreateResult gate.toGateContext env routingId payload = some (source, result, record) ∧
      result.sessionId = id
  | .datagram .. => GateClients.OpenedIn (clientEvents (gate.step input).2) id
  | .clearRecord sessionId => sessionId = id
  | _ => False

/-- **What a step does to the records of waiting clients.** -/
theorem step_follows {gate : GateNode} (named : gate.clients.Named) (input : Input) :
    GateClients.Follows gate.toGateContext (EndsWait gate input) gate.clients
      ((gate.step input).1.clients, clientEvents (gate.step input).2) := by
  cases input with
  | connectorState env peer state =>
    exact .of_records named (congrArg (·.clientSessionRecords) (handleConnectorStateChanged_clients gate env peer state))
  | connectorMessage env peer payload => exact .of_records named (handleConnectorMessage_records gate env peer payload)
  | gameMessage env routingId payload =>
    simp only [step, handleGameMessage]
    split
    · exact .of_records named rfl
    split
    · exact .of_records named (congrArg (·.clientSessionRecords) (handleGameRegisterMessage_clients gate env routingId payload))
    split
    · exact .of_records named (congrArg (·.clientSessionRecords) (handleGameHeartbeatMessage_clients gate env routingId payload))
    split
    · simp only [onClients, clientEvents_map_client]
      exact GateClients.createResult_follows named env routingId payload
    split
    · refine .of_records named ?_
      show (gate.clients.handleGamePushToClientMessage _ _ _ _).1.clientSessionRecords = _
      unfold GateClients.handleGamePushToClientMessage
      split
      · rfl
      split
      · rfl
      split
      · rfl
      · rfl
    split
    · exact .of_records named rfl
    split
    · exact .of_records named rfl
    · exact .of_records named rfl
  | heartbeatTimer env => exact .of_records named (congrArg (·.clientSessionRecords) (onGmSession_clients gate _))
  | authLogin env request => exact .of_records named (GateClients.handleAuthLogin_records ..)
  | datagram env endpoint datagram =>
    have follows := @GateClients.handleIncomingDatagram_follows gate.toGateContext env gate.clients named endpoint datagram
    simp only [step, onClients, clientEvents_map_client]
    refine follows.mono fun id known => ?_
    show GateClients.OpenedIn (clientEvents (List.map _ _)) id
    rwa [clientEvents_map_client]
  | removeSession sessionId => exact .of_records named rfl
  | clearRecord sessionId => exact .erase named rfl

/-! ## Routes to Games -/

/-- A session that is routed to is reached under its own node id. -/
def OwnRoutes (gate : GateNode) : Prop :=
  gate.sessions.Corresponds ∧ ∀ (nodeId : Bytes) (session : InnerNetworkSession),
    gate.sessions.findByNodeId nodeId = some session → session.routingId = [] ∨ session.routingId = nodeId

theorem step_ownRoutes (gate : GateNode) (input : Input) (inv : OwnRoutes gate) : OwnRoutes (gate.step input).1 := by
  refine @Steps.invariant _ _ _ OwnRoutes (fun _ _ _ inv act => ⟨act.corresponds inv.1, fun nodeId session' found' => ?_⟩)
    _ _ _ (step_acts gate input) inv
  obtain ⟨session, held, same⟩ := act.routingId inv.1 found'
  rw [same]
  exact inv.2 nodeId session held

theorem onInit_ownRoutes {config : ClusterConfig} {self : NodeEntry} {boot : GateBoot} {gate : GateNode}
    (init : onInit config self boot = some gate) : OwnRoutes gate := by
  have maps := onInit_corresponds init
  refine ⟨maps, fun nodeId session found => ?_⟩
  rw [← maps.filed found]
  simp only [onInit, Option.bind_eq_bind, Option.bind_eq_some_iff] at init
  obtain ⟨_, -, _, -, _, -, _, -, gm, gmOk, sessions, gamesOk, _, -, eq⟩ := init
  cases eq
  refine @InnerNetworkSessionManager.foldlM_register _ (fun m => ∀ nodeId session, m.findByNodeId nodeId = some session →
    session.routingId = [] ∨ session.routingId = session.nodeId) _ (fun game _ _ accepted held => ?_) _ _ _ ?_ gamesOk
    nodeId session found
  · exact InnerNetworkSessionManager.register_sessions accepted (.inr rfl) held
  · refine InnerNetworkSessionManager.register_sessions (ok_of_toOption gmOk) (.inl rfl) fun nodeId session found => ?_
    simp [InnerNetworkSessionManager.findByNodeId] at found

/-- The packets that a step has for a Game. -/
def packetsFor (nodeId : Bytes) (events : List GateEvent) : List Bytes :=
  events.filterMap fun event => match event with
    | .client (.toGame routingId packet) => if routingId = nodeId then some packet else none
    | .reply routingId packet => if routingId = nodeId then some packet else none
    | _ => none

theorem mem_packetsFor {nodeId packet : Bytes} {events : List GateEvent}
    (mem : .client (.toGame nodeId packet) ∈ events) : packet ∈ packetsFor nodeId events :=
  List.mem_filterMap.mpr ⟨_, mem, if_pos rfl⟩

/-- The Gate takes up a result for the request: it knows the Game as registered, and
it reads in the packet what the Game wrote. -/
def Takes (gate : GateNode) (env : GateEnv) (game packet : Bytes) (request : AvatarCreateRequest) : Prop :=
  ∃ source result, gate.sessions.findByRoutingId game = some source ∧ source.registered = true ∧
    GateClients.createResultOf env packet = some result ∧ result.action = text "createAvatarResult" ∧
    result.sessionId = request.sessionId ∧ result.gateNodeId = request.gateNodeId ∧ result.gameNodeId = game

/-- A result that is taken up ends the wait of its session. -/
theorem Takes.settles {gate : GateNode} {env : GateEnv} {game packet : Bytes} {request : AvatarCreateRequest}
    {record : ClientSessionRecord} (takes : Takes gate env game packet request) (routes : OwnRoutes gate)
    (isResult : HasMsgId packet gameAvatarEntityCreateResultMsgId) (own : request.gateNodeId = gate.nodeId)
    (found : gate.clients.clientSessionRecords[request.sessionId]? = some record)
    (waits : record.pendingSelectAvatarSeq ≠ 0) :
    ∃ settled, (gate.step (.gameMessage env game packet)).1.clients.clientSessionRecords[request.sessionId]? = some settled ∧
      settled.pendingSelectAvatarSeq = 0 := by
  obtain ⟨source, result, reached, registered, carried, action, session, gateNodeId, gameNodeId⟩ := takes
  obtain ⟨named, routed, filed⟩ := routes.1.found.mp reached
  have name : source.nodeId = result.gameNodeId := by
    rcases routes.2 _ _ filed with unrouted | own
    · exact absurd (routed.symm.trans unrouted) named
    · exact own.symm.trans (routed.trans gameNodeId.symm)
  have pending : gate.clients.pendingCreateResult gate.toGateContext env game packet = some (source, result, record) := by
    have known : GateClients.registeredSource gate.toGateContext game = some source := by
      simp [GateClients.registeredSource, reached, registered]
    simp only [GateClients.createResultOf, Option.bind_eq_bind, Option.bind_eq_some_iff] at carried
    obtain ⟨body, decoded, json, parsed, read⟩ := carried
    cases json with
    | other => cases read
    | object members =>
      simp [GateClients.pendingCreateResult, decoded, known, parsed, read, action, gateNodeId, own, name, session, found,
        waits]
  have handled : gate.step (.gameMessage env game packet) = gate.onClients
      (gate.clients.handleGameAvatarEntityCreateResultMessage gate.toGateContext env game packet) := by
    obtain ⟨raw, header, id⟩ := isResult
    simp only [step, handleGameMessage, header, id]
    rfl
  obtain ⟨settled, done, -, records⟩ := GateClients.settled_records pending
  refine ⟨settled, ?_, done⟩
  rw [handled]
  show (GateClients.handleGameAvatarEntityCreateResultMessage _ _ _ _ _).1.clientSessionRecords[_]? = _
  rw [records, session]
  exact Table.get_insert_self _ _ _

end GateNode

/-! ## The link -/

/-- A packet in flight. -/
inductive AvatarMail where
  | toGame (packet : Bytes)
  | toGate (packet : Bytes)
  deriving DecidableEq, Repr

/-- A Gate, one of its Games, and what is in flight between them. -/
structure AvatarLink where
  gate : GateNode
  game : GameNode
  network : List AvatarMail := []

namespace AvatarLink

/-- The surroundings of whichever of the two a packet is delivered to. -/
structure Env where
  gate : GateEnv := {}
  game : CreateEnv := {}

/-- What can happen next: a packet arrives or is lost, or something else reaches the
Gate (clients, the GM, other Games) or the Game (the GM, other Gates, its timers and
its runtime). Connections go up and down with the inputs of the two. -/
inductive Input where
  | deliver (env : Env) (index : Nat)
  | lose (index : Nat)
  | gate (input : GateNode.Input)
  | game (input : GameNode.Input)

/-- The packets that a Game hands to its connector to a Gate. -/
def packetsTo (gate : Bytes) (events : List GameEvent) : List Bytes :=
  events.filterMap fun event => match event with
    | .send connector packet => if connector = gate then some packet else none
    | _ => none

def gateStep (link : AvatarLink) (input : GateNode.Input) : AvatarLink × List GateEvent :=
  let result := link.gate.step input
  ({ link with
      gate := result.1
      network := link.network ++ (GateNode.packetsFor link.game.nodeId result.2).map .toGame }, result.2)

def gameStep (link : AvatarLink) (result : GameNode × List GameEvent) : AvatarLink where
  gate := link.gate
  game := result.1
  network := link.network ++ (packetsTo link.gate.nodeId result.2).map .toGate

def receive (link : AvatarLink) (env : Env) : AvatarMail → AvatarLink × List GateEvent
  | .toGame packet => (link.gameStep (link.game.handleMessageOfGate env.game link.gate.nodeId packet), [])
  | .toGate packet => link.gateStep (.gameMessage env.gate link.game.nodeId packet)

def step (link : AvatarLink) : Input → AvatarLink × List GateEvent
  | .deliver env index =>
    match link.network[index]? with
    | none => (link, [])
    | some mail => receive { link with network := link.network.eraseIdx index } env mail
  | .lose index => ({ link with network := link.network.eraseIdx index }, [])
  | .gate input => link.gateStep input
  | .game input => (link.gameStep (link.game.step input), [])

def machine : Machine AvatarLink Input GateEvent := ⟨step⟩

/-! ## Requests and results in flight -/

/-- A client waits for this request: its record says so, and names the Game. -/
def Awaits (link : AvatarLink) (request : AvatarCreateRequest) : Prop :=
  ∃ record, link.gate.clients.clientSessionRecords[request.sessionId]? = some record ∧
    record.pendingSelectAvatarSeq ≠ 0 ∧ record.gameNodeId = link.game.nodeId ∧ record.createRequest = request

/-- The packet is the request, or a result of the Game for it. -/
def Carries (game : Bytes) : AvatarMail → AvatarCreateRequest → Prop
  | .toGame packet, request => request.packet = some packet
  | .toGate packet, request => request.IsResult game packet

def selectionMail (game : Bytes) : Mail AvatarLink AvatarMail AvatarCreateRequest where
  network := (·.network)
  awaits := Awaits
  carries := Carries game

/-- Whoever gets the packet does with it what its sender waits for: the Game answers,
the Gate takes up the result. -/
def Handles (link : AvatarLink) (env : Env) (request : AvatarCreateRequest) : AvatarMail → Prop
  | .toGame bytes => ∃ packet, decodePacket bytes = .ok packet ∧
    link.game.Answers env.game link.gate.nodeId request packet
  | .toGate bytes => link.gate.Takes env.gate link.game.nodeId bytes request

/-- No awaited request or result is lost: the link does not lose it, the Game answers
the request, the Gate takes up the result. -/
def KeepsSelections (link : AvatarLink) : Input → Prop
  | .deliver env index => ∀ mail, link.network[index]? = some mail → ∀ request, link.Awaits request →
    Carries link.game.nodeId mail request → link.Handles env request mail
  | .lose index => ∀ mail, link.network[index]? = some mail → ∀ request, link.Awaits request →
    ¬ Carries link.game.nodeId mail request
  | _ => True

/-- The two keep their names, and the Gate its books. -/
structure Inv (gate game : Bytes) (link : AvatarLink) : Prop where
  gateId : link.gate.nodeId = gate
  gameId : link.game.nodeId = game
  named : link.gate.clients.Named
  book : GateClients.BookInv link.gate.nodeId .all link.gate.clients
  routes : GateNode.OwnRoutes link.gate

section Steps

variable {gate game : Bytes} {link : AvatarLink}

theorem gateStep_inv (inv : Inv gate game link) (input : GateNode.Input) : Inv gate game (link.gateStep input).1 where
  gateId := (GateNode.step_nodeId link.gate input).trans inv.gateId
  gameId := inv.gameId
  named := (GateNode.step_follows inv.named input).named
  book := GateNode.step_book link.gate input inv.book (GateNode.admits_all link.gate input)
  routes := GateNode.step_ownRoutes link.gate input inv.routes

theorem gameStep_inv (inv : Inv gate game link) {result : GameNode × List GameEvent}
    (same : result.1.nodeId = link.game.nodeId) : Inv gate game (link.gameStep result) :=
  ⟨inv.gateId, same.trans inv.gameId, inv.named, inv.book, inv.routes⟩

theorem handleMessageOfGate_nodeId (game : GameNode) (env : CreateEnv) (gate payload : Bytes) :
    (game.handleMessageOfGate env gate payload).1.nodeId = game.nodeId := by
  unfold GameNode.handleMessageOfGate
  split
  · exact GameNode.step_nodeId game _
  split
  · rfl
  · rfl

theorem Inv.withNetwork (inv : Inv gate game link) (network : List AvatarMail) : Inv gate game { link with network } :=
  ⟨inv.gateId, inv.gameId, inv.named, inv.book, inv.routes⟩

theorem step_linkInv (link : AvatarLink) (input : Input) (inv : Inv gate game link) : Inv gate game (link.step input).1 := by
  cases input with
  | deliver env index =>
    simp only [step]
    split
    · exact inv
    · rename_i mail _
      cases mail with
      | toGame packet => exact gameStep_inv (inv.withNetwork _) (handleMessageOfGate_nodeId ..)
      | toGate packet => exact gateStep_inv (inv.withNetwork _) _
  | lose index => exact inv.withNetwork _
  | gate input => exact gateStep_inv inv input
  | game input => exact gameStep_inv inv (GameNode.step_nodeId link.game input)

/-- What is awaited after a step of the Gate was awaited before, or its request has
just gone out. -/
theorem gateStep_renews (inv : Inv gate game link) (input : GateNode.Input) :
    (selectionMail game).Renews link (link.gateStep input).1 := by
  rintro request ⟨record, found, waits, target, asked⟩
  obtain ⟨own, origin⟩ := (GateNode.step_follows inv.named input).origin _ record found
  cases origin with
  | kept held same =>
    unfold GateClients.SameSelection at same
    rw [same] at waits target asked
    exact .inl ⟨_, held, waits, target, asked⟩
  | idle settled => exact absurd settled waits
  | requested sent channel written =>
    rename_i routingId packet session
    have routed : routingId = link.game.nodeId := by
      rcases inv.routes.2 _ _ channel.found with unrouted | own
      · exact absurd (channel.channel.symm.trans unrouted) channel.named
      · exact channel.channel.symm.trans (own.trans target)
    subst routed
    refine .inr ⟨.toGame packet, List.mem_append_right _ (List.mem_map.mpr ⟨packet, ?_, rfl⟩), ?_⟩
    · exact GateNode.mem_packetsFor (GateNode.mem_clientEvents.mp sent)
    · rw [← asked]
      exact written

/-- What the Gate awaits does not depend on what is in flight. -/
theorem renews_of_gate {link' : AvatarLink} (sameGate : link'.gate = link.gate)
    (sameGame : link'.game.nodeId = link.game.nodeId) : (selectionMail game).Renews link link' := by
  rintro request ⟨record, found, waits, target, asked⟩
  rw [sameGate] at found
  exact .inl ⟨record, found, waits, target.trans sameGame, asked⟩

theorem deliver_covered (inv : Inv gate game link) (covered : (selectionMail game).Covered link) (env : Env) {index : Nat}
    {mail : AvatarMail} (at_index : link.network[index]? = some mail)
    (handles : ∀ request, link.Awaits request → Carries game mail request → link.Handles env request mail) :
    (selectionMail game).Covered (receive { link with network := link.network.eraseIdx index } env mail).1 := by
  have erased : ∀ e ∈ link.network, e = mail ∨ e ∈ link.network.eraseIdx index := fun e mem => mem_eraseIdx_of_mem mem at_index
  have inv' := inv.withNetwork (link.network.eraseIdx index)
  cases mail with
  | toGame bytes =>
    refine covered.take (fun e mem => (erased e mem).imp_right (List.mem_append_left _))
      (renews_of_gate rfl (handleMessageOfGate_nodeId ..)) fun request awaited carries _ => ?_
    obtain ⟨packet, decoded, answers⟩ := handles request awaited carries
    obtain ⟨sent, result, handled⟩ := GameNode.handleMessageOfGate_answers carries decoded answers
    refine ⟨.toGate sent, List.mem_append_right _ (List.mem_map.mpr ⟨sent, ?_, rfl⟩), ?_⟩
    · rw [handled]
      exact List.mem_filterMap.mpr ⟨_, List.mem_singleton_self _, if_pos rfl⟩
    · rw [← inv.gameId]
      exact result
  | toGate bytes =>
    refine covered.take (fun e mem => (erased e mem).imp_right (List.mem_append_left _))
      (gateStep_renews inv' _) fun request awaited carries after => ?_
    obtain ⟨success, error, written⟩ := carries
    obtain ⟨body, -, isResult, -⟩ := callPacket_some written
    have takes := handles request awaited ⟨success, error, written⟩
    obtain ⟨record, found, waits, -, asked⟩ := awaited
    have own : request.gateNodeId = link.gate.nodeId := by
      rw [← asked]
      exact (inv.book.records _ _ found).gate
    -- the result has ended the wait
    obtain ⟨settled, found', done⟩ := takes.settles inv.routes isResult own found waits
    obtain ⟨record', found'', waits', -⟩ := after
    have same : record' = settled := Option.some.inj (found''.symm.trans found')
    exact absurd (same ▸ done) waits'

theorem step_covered (link : AvatarLink) (input : Input)
    (h : Inv gate game link ∧ (selectionMail game).Covered link) (keeps : KeepsSelections link input) :
    Inv gate game (link.step input).1 ∧ (selectionMail game).Covered (link.step input).1 := by
  obtain ⟨inv, covered⟩ := h
  refine ⟨step_linkInv link input inv, ?_⟩
  cases input with
  | deliver env index =>
    simp only [step]
    split
    · exact covered
    · rename_i mail at_index
      exact deliver_covered inv covered env at_index fun request awaited carries =>
        keeps mail at_index request awaited (by rwa [inv.gameId])
  | lose index =>
    cases at_index : link.network[index]? with
    | none =>
      show (selectionMail game).Covered { link with network := link.network.eraseIdx index }
      rw [List.eraseIdx_of_length_le (List.getElem?_eq_none_iff.mp at_index)]
      exact covered
    | some mail =>
      refine covered.take (fun e mem => mem_eraseIdx_of_mem mem at_index) (renews_of_gate rfl rfl) fun request awaited carries => ?_
      exact absurd (by rwa [inv.gameId]) (keeps mail at_index request awaited)
  | gate input => exact covered.grow (fun e mem => List.mem_append_left _ mem) (gateStep_renews inv input)
  | game input =>
    exact covered.grow (fun e mem => List.mem_append_left _ mem)
      (renews_of_gate rfl (GameNode.step_nodeId link.game input))

end Steps

/-! ## Waits that do not end -/

/-- The wait of this session may end with the step. -/
def EndsWait (link : AvatarLink) (id : UInt64) : Input → Prop
  | .deliver env index => ∃ packet, link.network[index]? = some (.toGate packet) ∧
    link.gate.EndsWait (.gameMessage env.gate link.game.nodeId packet) id
  | .gate input => link.gate.EndsWait input id
  | _ => False

theorem step_waits {gate game : Bytes} {link : AvatarLink} (inv : Inv gate game link) (input : Input) {id : UInt64}
    {record : ClientSessionRecord} (found : link.gate.clients.clientSessionRecords[id]? = some record)
    (waits : record.pendingSelectAvatarSeq ≠ 0) (kept : ¬ link.EndsWait id input) :
    ∃ next, (link.step input).1.gate.clients.clientSessionRecords[id]? = some next ∧
      GateClients.SameSelection record next := by
  cases input with
  | deliver env index =>
    simp only [step]
    split
    · exact ⟨record, found, rfl⟩
    · rename_i mail at_index
      cases mail with
      | toGame packet => exact ⟨record, found, rfl⟩
      | toGate packet =>
        exact (GateNode.step_follows inv.named _).waiting id record found waits fun ended => kept ⟨packet, at_index, ended⟩
  | lose index => exact ⟨record, found, rfl⟩
  | gate input => exact (GateNode.step_follows inv.named input).waiting id record found waits kept
  | game input => exact ⟨record, found, rfl⟩

/-- A client that waits is refused whatever it selects. -/
theorem waiting_refused {clients : GateClients} {ctx : GateContext} {env : GateEnv} {id : UInt64} {packet : Packet}
    {record : ClientSessionRecord} (found : clients.clientSessionRecords[id]? = some record)
    (waits : record.pendingSelectAvatarSeq ≠ 0) (flags : packet.header.flags = 0)
    (seq : packet.header.seq ≠ packetSeqNone) :
    clients.nextSelectAvatarRecord ctx env id packet =
      .error (text "Client select-avatar request is already waiting for a server result.") := by
  unfold GateClients.nextSelectAvatarRecord
  rw [if_neg (not_or.mpr ⟨not_not.mpr flags, seq⟩), found]
  exact if_pos waits

/-- Whatever a client waits for from this Game is in flight. -/
def SelectionsCovered (link : AvatarLink) : Prop :=
  ∀ (id : UInt64) (record : ClientSessionRecord), link.gate.clients.clientSessionRecords[id]? = some record →
    record.pendingSelectAvatarSeq ≠ 0 → record.gameNodeId = link.game.nodeId →
    record.sessionId = id ∧ ∃ mail ∈ link.network, Carries link.game.nodeId mail record.createRequest

/-- As long as nothing ends its wait, the session of this record waits on, and every
selection of its client is refused. -/
def WaitsOn (link : AvatarLink) (id : UInt64) (record : ClientSessionRecord) : Prop :=
  ∀ js, machine.Along (fun link input => ¬ link.EndsWait id input) link js →
    ∃ next, (machine.run link js).1.gate.clients.clientSessionRecords[id]? = some next ∧
      GateClients.SameSelection record next ∧ ∀ (env : GateEnv) (packet : Packet), packet.header.flags = 0 →
      packet.header.seq ≠ packetSeqNone →
      (machine.run link js).1.gate.clients.nextSelectAvatarRecord (machine.run link js).1.gate.toGateContext env id packet =
        .error (text "Client select-avatar request is already waiting for a server result.")

theorem waitsOn {gate game : Bytes} {link : AvatarLink} (inv : Inv gate game link) {id : UInt64}
    {record : ClientSessionRecord} (found : link.gate.clients.clientSessionRecords[id]? = some record)
    (waits : record.pendingSelectAvatarSeq ≠ 0) : link.WaitsOn id record := by
  intro js along
  have after : Inv gate game (machine.run link js).1 ∧
      ∃ next, (machine.run link js).1.gate.clients.clientSessionRecords[id]? = some next ∧
        GateClients.SameSelection record next := by
    refine @Machine.run_invariant _ _ _ machine _ (fun link => Inv gate game link ∧
      ∃ next, link.gate.clients.clientSessionRecords[id]? = some next ∧ GateClients.SameSelection record next)
      (fun link input h kept => ?_) _ _ ⟨inv, record, found, rfl⟩ along
    obtain ⟨inv, middle, held, same⟩ := h
    obtain ⟨next, held', same'⟩ := step_waits inv input held (by rwa [same.pending]) kept
    exact ⟨step_linkInv link input inv, next, held', same.trans same'⟩
  obtain ⟨-, next, held, same⟩ := after
  exact ⟨next, held, same, fun env packet flags seq => waiting_refused held (by rwa [same.pending]) flags seq⟩

/-- **Selections in flight.** In every run of a Gate and a Game over links that may
lose packets: as long as no awaited request or result is lost, whatever a client
waits for is in flight; and a wait ends only when a result for the session is taken up
or its record is cleared. -/
theorem selections_covered {config : ClusterConfig} {self : NodeEntry} {boot : GateBoot} {gate : GateNode}
    (init : GateNode.onInit config self boot = some gate) (game : GameNode) (is : List Input) :
    (machine.Along KeepsSelections { gate, game } is → SelectionsCovered (machine.run { gate, game } is).1) ∧
      ∀ (id : UInt64) (record : ClientSessionRecord),
        (machine.run { gate, game } is).1.gate.clients.clientSessionRecords[id]? = some record →
        record.pendingSelectAvatarSeq ≠ 0 → (machine.run { gate, game } is).1.WaitsOn id record := by
  have empty : gate.clients.clientSessionRecords = ∅ := by rw [GateNode.onInit_clients init]
  have start : Inv gate.nodeId game.nodeId { gate, game } := by
    refine ⟨rfl, rfl, fun id record found => ?_, GateNode.init_book init, GateNode.onInit_ownRoutes init⟩
    rw [empty] at found
    simp at found
  refine ⟨fun keeps => ?_, fun id record found waits => ?_⟩
  · have covered : (selectionMail game.nodeId).Covered { gate, game } := by
      rintro request ⟨record, found, -⟩
      rw [empty] at found
      simp at found
    obtain ⟨inv, covered⟩ := @Machine.run_invariant _ _ _ machine _ (fun link => Inv gate.nodeId game.nodeId link ∧
      (selectionMail game.nodeId).Covered link) step_covered _ _ ⟨start, covered⟩ keeps
    intro id record found waits target
    have own := inv.named id record found
    refine ⟨own, ?_⟩
    rw [inv.gameId]
    exact covered record.createRequest ⟨record, (congrArg (_[·]?) own).trans found, waits, target, rfl⟩
  · exact waitsOn (@Machine.invariant _ _ _ machine (Inv gate.nodeId game.nodeId) step_linkInv _ _ start ⟨is, rfl⟩) found waits

/-! ## A small link -/

/-- The small Game once it has registered with the small Gate. -/
def sampleMeshedGame : GameNode := (GameNode.machine.run GameNode.sampleGame GameNode.sampleMeshed).1

def sampleLink : AvatarLink := { gate := GateNode.sampleGate, game := sampleMeshedGame }

/-- The client of the Gate selects an avatar. -/
def sampleSelected : List Input := (GateNode.sampleLogin ++ [GateNode.sampleSelect GateNode.sampleAvatar]).map .gate

def sampleCreate : AvatarCreateRequest where
  accountId := text "alice"
  avatarId := GateNode.sampleAvatar
  gateNodeId := text "Gate0"
  sessionId := 1

/-- The Game reads the request, and its runtime accepts it. -/
def sampleCreateEnv : Env where
  game := {
    parseJson := fun content =>
      if some content = dump (jsonObject sampleCreate.members) then .ok (.object (jsonObject sampleCreate.members))
      else .error []
    onMessage := some fun _ => 0 }

theorem along_gate (link : AvatarLink) (inputs : List GateNode.Input) : machine.Along KeepsSelections link (inputs.map .gate) := by
  induction inputs generalizing link with
  | nil => trivial
  | cons input rest ih => exact ⟨trivial, ih _⟩

/-- The only client of the small Gate waits for this request, which is on its way to a
Game that can answer it. -/
theorem sampleSelected_checked :
    (∀ entry ∈ (machine.run sampleLink sampleSelected).1.gate.clients.clientSessionRecords.toList,
        entry.2.createRequest = sampleCreate) ∧
      (machine.run sampleLink sampleSelected).1.network[2]? = sampleCreate.packet.map .toGame ∧
      (machine.run sampleLink sampleSelected).1.game.managedExportsLoaded = true ∧
      (∃ session ∈ (machine.run sampleLink sampleSelected).1.game.sessions.findByNodeId
        (machine.run sampleLink sampleSelected).1.gate.nodeId, GameNode.isReadyGate session = true) ∧
      (sampleCreate.resultPacket (machine.run sampleLink sampleSelected).1.game.nodeId true []).isSome = true := by
  decide +kernel

theorem sampleSelected_awaits {request : AvatarCreateRequest}
    (awaits : (machine.run sampleLink sampleSelected).1.Awaits request) : request = sampleCreate := by
  obtain ⟨record, found, -, -, asked⟩ := awaits
  exact asked.symm.trans (sampleSelected_checked.1 _ (Std.ExtTreeMap.mem_toList_iff_getElem?_eq_some.mpr found))

theorem sampleSelected_answers {packet : Packet}
    (body : packet.payload = (dump (jsonObject sampleCreate.members)).getD []) :
    (machine.run sampleLink sampleSelected).1.game.Answers sampleCreateEnv.game
      (machine.run sampleLink sampleSelected).1.gate.nodeId sampleCreate packet := by
  obtain ⟨-, -, loaded, ready, written⟩ := sampleSelected_checked
  have created : (machine.run sampleLink sampleSelected).1.game.managedCreate sampleCreateEnv.game packet = (true, []) := by
    simp [GameNode.managedCreate, loaded, sampleCreateEnv]
  refine ⟨?_, ?_, ?_⟩
  · rw [body]
    decide +kernel
  · exact ready
  · rw [created]
    obtain ⟨sent, some_sent⟩ := Option.isSome_iff_exists.mp written
    exact ⟨sent, some_sent, rfl⟩

theorem sampleSelected_keeps : KeepsSelections (machine.run sampleLink sampleSelected).1 (.deliver sampleCreateEnv 2) := by
  have sent := sampleSelected_checked.2.1
  have only := @sampleSelected_awaits
  have answers := @sampleSelected_answers
  generalize (machine.run sampleLink sampleSelected).1 = link at sent only answers ⊢
  intro mail at_index request awaits carries
  obtain ⟨bytes, written, rfl⟩ := Option.map_eq_some_iff.mp (sent.symm.trans at_index)
  cases only awaits
  obtain ⟨body, dumped, -, decoded⟩ := callPacket_some written
  exact ⟨_, decoded, answers (by rw [dumped]; rfl)⟩

/-- The request is delivered, and its result is in flight while the client waits. -/
theorem selections_covered_sample :
    SelectionsCovered (machine.run sampleLink (sampleSelected ++ [.deliver sampleCreateEnv 2])).1 ∧
      ∃ record ∈ (machine.run sampleLink
          (sampleSelected ++ [.deliver sampleCreateEnv 2])).1.gate.clients.clientSessionRecords[(1 : UInt64)]?,
        record.pendingSelectAvatarSeq ≠ 0 := by
  have keeps : machine.Along KeepsSelections sampleLink (sampleSelected ++ [.deliver sampleCreateEnv 2]) :=
    Machine.along_append (along_gate sampleLink _) ⟨sampleSelected_keeps, trivial⟩
  have covered := (selections_covered GateNode.sampleGate_init sampleMeshedGame
    (sampleSelected ++ [.deliver sampleCreateEnv 2])).1
  rw [← sampleLink] at covered
  exact ⟨covered keeps, by decide +kernel⟩

/-- The request is lost: the client waits, and nothing is on its way. -/
theorem lost_request_waits :
    ¬ SelectionsCovered (machine.run sampleLink (sampleSelected ++ [.lose 2])).1 := by
  obtain ⟨waits, others⟩ : (∃ record ∈ (machine.run sampleLink
        (sampleSelected ++ [.lose 2])).1.gate.clients.clientSessionRecords[(1 : UInt64)]?,
        record.pendingSelectAvatarSeq ≠ 0 ∧
          record.gameNodeId = (machine.run sampleLink (sampleSelected ++ [.lose 2])).1.game.nodeId) ∧
      (machine.run sampleLink (sampleSelected ++ [.lose 2])).1.network.all (fun mail => match mail with
        | .toGame packet => !decide (HasMsgId packet gateCreateAvatarEntityMsgId)
        | .toGate _ => false) = true := by decide +kernel
  generalize (machine.run sampleLink (sampleSelected ++ [.lose 2])).1 = link at waits others
  intro covered
  obtain ⟨record, found, waiting, target⟩ := waits
  obtain ⟨-, mail, mem, carries⟩ := covered 1 record found waiting target
  have other := List.all_eq_true.mp others mail mem
  cases mail with
  | toGate packet => cases other
  | toGame packet =>
    obtain ⟨-, -, isCreate, -⟩ := callPacket_some carries
    simp [isCreate] at other

end AvatarLink

end XServer.Node
