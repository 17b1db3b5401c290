import XServer.Node.GateAnswer

/-!
# Records and routes

A Gate stores the way of a client twice: its record names the Game, and the
route state of its session has a target. `RouteInv` says that the two agree,
session by session: a confirmed avatar has a live session that is bound to the
record's Game, and as long as the avatar is not confirmed the session has no
route. Every handler keeps it (`routes_agree`).
-/

namespace XServer.Node
open XServer.Lib XServer.Lib.Wire XServer.Net XServer.Core

/-- The part of a record that a route depends on. -/
structure Selection where
  avatarId : Bytes
  gameNodeId : Bytes
  pendingSelectAvatarSeq : UInt32

/-- The avatar was created. -/
def Selection.Confirmed (selection : Selection) : Prop :=
  selection.avatarId ≠ [] ∧ selection.pendingSelectAvatarSeq = 0

def ClientSessionRecord.selection (record : ClientSessionRecord) : Selection :=
  ⟨record.avatarId, record.gameNodeId, record.pendingSelectAvatarSeq⟩

/-- The route of a session. -/
def ClientSession.route (session : ClientSession) : ClientRouteState × Option ClientRouteTarget :=
  (session.routeState, session.routeTarget)

/-- The routes of the sessions by their ids. -/
def ClientNetwork.routes (net : ClientNetwork) (id : UInt64) : Option (ClientRouteState × Option ClientRouteTarget) :=
  (net.sessions[id]?).map (·.route)

/-- A selection and the route of its session, if there is one. -/
structure RouteOk (selection : Selection) (route : Option (ClientRouteState × Option ClientRouteTarget)) : Prop where
  waiting : selection.pendingSelectAvatarSeq ≠ 0 → selection.avatarId ≠ []
  bound : selection.Confirmed → ∃ target, route = some (.bound, some target) ∧ target.gameNodeId = selection.gameNodeId
  loose : ¬ selection.Confirmed → ∀ state target, route = some (state, target) → state = .unassigned ∨ state = .selecting

/-! ## Routes of the network -/

namespace ClientNetwork

variable {net : ClientNetwork}

theorem routes_of_sessions {a b : ClientNetwork} (same : b.sessions = a.sessions) : b.routes = a.routes := by
  funext id
  rw [routes, routes, same]

theorem routes_of_insert {a b : ClientNetwork} {id : UInt64} {session : ClientSession}
    (stored : b.sessions = a.sessions.insert id session) : b.routes = Function.update a.routes id (some session.route) := by
  funext other
  rw [routes, stored]
  by_cases same : other = id
  · subst same
    rw [Table.get_insert_self, Function.update_self]
    rfl
  · rw [Table.get_insert_of_ne _ _ (Ne.symm same), Function.update_of_ne same]
    rfl

/-- A change in place that keeps the route. -/
theorem routes_modifySession {sessionId : UInt64} {f : ClientSession → ClientSession}
    (keeps : ∀ session, (f session).route = session.route) : (net.modifySession sessionId f).routes = net.routes := by
  unfold modifySession
  split
  · rfl
  · rename_i session found
    rw [@routes_of_insert net _ sessionId (f session) rfl, keeps]
    have here : net.routes sessionId = some session.route := by rw [routes, found]; rfl
    rw [← here, Function.update_eq_self]

theorem routes_replaceSession {sessionId : UInt64} {session next : ClientSession}
    (found : net.sessions[sessionId]? = some session) :
    (net.modifySession sessionId fun _ => next).routes = Function.update net.routes sessionId (some next.route) := by
  unfold modifySession
  rw [found]
  exact routes_of_insert rfl

theorem routes_removeSession (net : ClientNetwork) (sessionId : UInt64) :
    (net.removeSession sessionId).routes = Function.update net.routes sessionId none := by
  funext other
  rw [routes, removeSession_sessions]
  by_cases same : other = sessionId
  · subst same
    rw [Table.get_erase_self, Function.update_self]
    rfl
  · rw [Table.get_erase_of_ne _ (Ne.symm same), Function.update_of_ne same]
    rfl

theorem touch_route (now : UInt64) (session : ClientSession) : (session.touch now).route = session.route := by
  unfold ClientSession.touch
  split <;> rfl

theorem routes_sendPayload (net : ClientNetwork) (sessionId : UInt64) (payload : Bytes) (kcpOk : Bool) (now : UInt64) :
    (net.sendPayload sessionId payload kcpOk now).1.routes = net.routes := by
  unfold sendPayload
  split
  · rfl
  split
  · rfl
  split
  · exact routes_modifySession (touch_route now)
  · rfl

end ClientNetwork

/-! ## Binding a route -/

/-- From a session without a route, the binding succeeds with the target or
leaves the session without one. -/
theorem bindSessionRoute_route {session next : ClientSession} {target : ClientRouteTarget} {failure : Option Bytes}
    (loose : session.routeState = .unassigned ∨ session.routeState = .selecting)
    (h : GateClients.bindSessionRoute session target = (next, failure)) :
    (failure = none → next.route = (.bound, some target)) ∧
      (failure ≠ none → next.routeState = .unassigned ∨ next.routeState = .selecting) := by
  unfold GateClients.bindSessionRoute at h
  simp only at h
  split at h
  · cases h
    exact ⟨nofun, fun _ => loose⟩
  · rename_i selecting eq
    have entered : selecting.routeState = .selecting := by
      split at eq
      · obtain ⟨-, rfl⟩ := ClientSession.transitionRoute_ok eq
        rfl
      · rename_i assigned
        cases eq
        exact loose.resolve_left assigned
    rw [if_pos (.inl entered)] at h
    split at h
    · cases h
      exact ⟨nofun, fun _ => .inr entered⟩
    · rename_i bound
      cases h
      obtain ⟨-, rfl⟩ := ClientSession.bindRoute_ok bound
      exact ⟨fun _ => rfl, fun failed => absurd rfl failed⟩

namespace GateClients

/-! ## The invariant -/

/-- The selections of the clients by their sessions. -/
def selections (clients : GateClients) (id : UInt64) : Option Selection :=
  (clients.clientSessionRecords[id]?).map (·.selection)

def routes (clients : GateClients) : UInt64 → Option (ClientRouteState × Option ClientRouteTarget) :=
  clients.clientNetwork.routes

/-- Records and routes agree. -/
def RouteInv (clients : GateClients) : Prop :=
  ∀ (id : UInt64) (selection : Selection), clients.selections id = some selection → RouteOk selection (clients.routes id)

/-- Neither a selection nor a route changes. -/
structure SameRoutes (a b : GateClients) : Prop where
  selections : b.selections = a.selections
  routes : b.routes = a.routes

theorem SameRoutes.refl (a : GateClients) : SameRoutes a a := ⟨rfl, rfl⟩

theorem SameRoutes.inv {a b : GateClients} (same : SameRoutes a b) (inv : RouteInv a) : RouteInv b := by
  intro id selection chosen
  rw [same.selections] at chosen
  rw [same.routes]
  exact inv id selection chosen

/-- A change of one session and its record. -/
theorem RouteInv.change {a b : GateClients} (inv : RouteInv a) {id : UInt64} {selection : Option Selection}
    {route : Option (ClientRouteState × Option ClientRouteTarget)}
    (selections : b.selections = Function.update a.selections id selection)
    (routes : b.routes = Function.update a.routes id route) (ok : ∀ s, selection = some s → RouteOk s route) :
    RouteInv b := by
  intro other s chosen
  rw [selections] at chosen
  rw [routes]
  by_cases same : other = id
  · subst same
    rw [Function.update_self] at chosen ⊢
    exact ok s chosen
  · rw [Function.update_of_ne same] at chosen ⊢
    exact inv other s chosen

theorem selections_of_insert {a b : GateClients} {id : UInt64} {record : ClientSessionRecord}
    (stored : b.clientSessionRecords = a.clientSessionRecords.insert id record) :
    b.selections = Function.update a.selections id (some record.selection) := by
  funext other
  rw [selections, stored]
  by_cases same : other = id
  · subst same
    rw [Table.get_insert_self, Function.update_self]
    rfl
  · rw [Table.get_insert_of_ne _ _ (Ne.symm same), Function.update_of_ne same]
    rfl

theorem selections_of_erase {a b : GateClients} {id : UInt64}
    (stored : b.clientSessionRecords = a.clientSessionRecords.erase id) :
    b.selections = Function.update a.selections id none := by
  funext other
  rw [selections, stored]
  by_cases same : other = id
  · subst same
    rw [Table.get_erase_self, Function.update_self]
    rfl
  · rw [Table.get_erase_of_ne _ (Ne.symm same), Function.update_of_ne same]
    rfl

/-! ## Handlers that touch neither -/

theorem modifyRecord_sameRoutes (clients : GateClients) (sessionId : UInt64)
    {f : ClientSessionRecord → ClientSessionRecord} (keeps : ∀ record, (f record).selection = record.selection) :
    SameRoutes clients (clients.modifyRecord sessionId f) := by
  unfold modifyRecord
  split
  · exact .refl clients
  · rename_i record found
    refine ⟨?_, rfl⟩
    rw [@selections_of_insert clients _ sessionId (f record) rfl, keeps]
    have here : clients.selections sessionId = some record.selection := by rw [selections, found]; rfl
    rw [← here, Function.update_eq_self]

theorem touchRecord_sameRoutes (clients : GateClients) (env : GateEnv) (sessionId : UInt64) :
    SameRoutes clients (clients.touchRecord env sessionId) := modifyRecord_sameRoutes clients sessionId fun _ => rfl

theorem touchSession_sameRoutes (clients : GateClients) (env : GateEnv) (sessionId : UInt64) :
    SameRoutes clients (clients.touchSession env sessionId) :=
  ⟨rfl, ClientNetwork.routes_modifySession (ClientNetwork.touch_route env.nowUnixMs)⟩

theorem sendPayload_sameRoutes (clients : GateClients) (env : GateEnv) (sessionId : UInt64) (packet : Bytes) :
    SameRoutes clients (clients.sendPayload env sessionId packet).1 := ⟨rfl, ClientNetwork.routes_sendPayload ..⟩

theorem sendClientSelectAvatarResult_sameRoutes (clients : GateClients) (env : GateEnv) (sessionId : UInt64)
    (requestSeq : UInt32) (success : Bool) (accountId avatarId gameNodeId error : Bytes) :
    SameRoutes clients (clients.sendClientSelectAvatarResult env sessionId requestSeq success accountId avatarId
      gameNodeId error).1 := by
  unfold sendClientSelectAvatarResult
  split
  · exact .refl clients
  split
  · exact .refl clients
  split
  · exact .refl clients
  · exact sendPayload_sameRoutes clients env sessionId _

theorem handleClientEntityRpcPacket_sameRoutes {clients clients' : GateClients} {ctx : GateContext} {env : GateEnv}
    {sessionId : UInt64} {packet : Packet} {event : ClientEvent}
    (h : clients.handleClientEntityRpcPacket ctx env sessionId packet = .ok (clients', event)) :
    SameRoutes clients clients' := by
  obtain ⟨-, -, record, target, sent, -, -, -, eq⟩ := handleClientEntityRpcPacket_ok h
  cases eq
  exact touchRecord_sameRoutes clients env sessionId

theorem handleAuthLogin_sameRoutes (clients : GateClients) (ctx : GateContext) (env : GateEnv)
    (request : GateAuthLoginRequest) : SameRoutes clients (clients.handleAuthLogin ctx env request).1 := by
  unfold handleAuthLogin
  split
  · exact .refl clients
  simp only
  split
  · exact ⟨rfl, rfl⟩
  · rename_i allocated
    obtain ⟨-, book, network⟩ := consumeNextClientConversation_some allocated
    refine ⟨?_, ?_⟩
    · funext id
      rw [selections, book.records]
      rfl
    · rw [routes, network]
      rfl

/-! ## Selecting -/

theorem nextSelectAvatarRecord_waits {clients : GateClients} {ctx : GateContext} {env : GateEnv} {sessionId : UInt64}
    {packet : Packet} {next : ClientSessionRecord}
    (h : clients.nextSelectAvatarRecord ctx env sessionId packet = .ok next) : next.pendingSelectAvatarSeq ≠ 0 := by
  unfold nextSelectAvatarRecord at h
  split at h
  · cases h
  · rename_i envelope
    rw [not_or] at envelope
    simp only at h
    repeat' split at h
    all_goals try cases h
    exact envelope.2

/-- An accepted selection waits, and the session has no route yet. -/
theorem bindAvatar_routes {clients : GateClients} (inv : RouteInv clients) {id : UInt64}
    {record next : ClientSessionRecord} (found : clients.clientSessionRecords[id]? = some record)
    (unbound : record.avatarId = []) (waits : next.pendingSelectAvatarSeq ≠ 0) (avatar : next.avatarId ≠ []) :
    RouteInv (clients.bindAvatar id next) := by
  have here : clients.selections id = some record.selection := by rw [selections, found]; rfl
  have old := inv id record.selection here
  refine inv.change (selections_of_insert rfl) (Function.update_eq_self id clients.routes).symm ?_
  rintro s ⟨⟩
  refine ⟨fun _ => avatar, ?_, ?_⟩
  · rintro ⟨-, settled⟩
    exact absurd settled waits
  · intro _
    exact old.loose fun confirmed => confirmed.1 unbound

theorem handleClientPayloadReceived_routes {clients : GateClients} (inv : RouteInv clients) (ctx : GateContext)
    (env : GateEnv) (sessionId : UInt64) (payload : Bytes) :
    RouteInv (clients.handleClientPayloadReceived ctx env sessionId payload).1 := by
  have touched := (touchRecord_sameRoutes clients env sessionId).inv inv
  unfold handleClientPayloadReceived
  simp only
  split
  · exact touched
  split
  · split
    · rename_i done
      obtain ⟨next, routingId, sent, accepted, eq⟩ := handleClientSelectAvatarPacket_done done
      cases eq
      obtain ⟨-, record, selected⟩ := nextSelectAvatarRecord_ok accepted
      exact bindAvatar_routes touched selected.found selected.unbound (nextSelectAvatarRecord_waits accepted)
        (isCanonicalGuidText_ne selected.canonical)
    · exact touched
    · exact (sendClientSelectAvatarResult_sameRoutes ..).inv touched
  split
  · split
    · exact touched
    · rename_i ok
      exact (handleClientEntityRpcPacket_sameRoutes ok).inv touched
  · exact touched

theorem receivePayloads_routes {clients : GateClients} (inv : RouteInv clients) (ctx : GateContext) (env : GateEnv)
    (sessionId : UInt64) (payloads : List Bytes) :
    RouteInv (receivePayloads ctx env sessionId clients payloads).1 := by
  induction payloads generalizing clients with
  | nil => exact inv
  | cons payload rest ih =>
    have next := handleClientPayloadReceived_routes ((touchSession_sameRoutes clients env sessionId).inv inv) ctx env
      sessionId payload
    unfold receivePayloads
    simp only
    split
    · exact next
    · exact ih next

/-! ## Opening -/

theorem activate_route {session active : ClientSession} {now : UInt64} (h : session.activate now = .ok active) :
    active.route = session.route := by
  unfold ClientSession.activate ClientSession.transition at h
  split at h
  · cases h
    simp only [ClientSession.route]
    split <;> rfl
  · cases h

theorem create_route {gateNodeId : Bytes} {sessionId : UInt64} {conversation : UInt32} {remoteEndpoint : Endpoint}
    {kcpValid : Bool} {now : UInt64} {session : ClientSession}
    (h : ClientSession.create gateNodeId sessionId conversation remoteEndpoint kcpValid now = .ok session) :
    session.route = (.unassigned, none) := by
  unfold ClientSession.create at h
  repeat' split at h
  all_goals try cases h
  rfl

theorem createSession_route {net : ClientNetwork} {conversation : UInt32} {endpoint : Endpoint} {kcpValid : Bool}
    {now : UInt64} {session : ClientSession}
    (h : (net.createSession conversation endpoint kcpValid now).2 = some session) :
    session.route = (.unassigned, none) := by
  unfold ClientNetwork.createSession at h
  simp only at h
  repeat' split at h
  all_goals try cases h
  rename_i created
  exact create_route created

theorem clearClientSessionRecord_selections (clients : GateClients) (sessionId : UInt64) :
    (clients.clearClientSessionRecord sessionId).selections = Function.update clients.selections sessionId none := by
  unfold clearClientSessionRecord
  split
  · rename_i missing
    have here : clients.selections sessionId = none := by rw [selections, missing]; rfl
    rw [← here, Function.update_eq_self]
  · exact selections_of_erase rfl

/-- The session that a Gate opens has a fresh record and no route. -/
theorem handleClientSessionOpened_routes {clients clients' : GateClients} {ctx : GateContext} {env : GateEnv}
    {session : ClientSession} {event : ClientEvent} (live : clients.clientNetwork.sessions[session.sessionId]? = some session)
    (h : clients.handleClientSessionOpened ctx env session = .ok (clients', event)) :
    ∃ selection : Selection, selection.avatarId = [] ∧ selection.pendingSelectAvatarSeq = 0 ∧
      clients'.selections = Function.update clients.selections session.sessionId (some selection) ∧
      clients'.routes = Function.update clients.routes session.sessionId (some session.route) := by
  unfold handleClientSessionOpened at h
  simp only at h
  split at h
  · cases h
  split at h
  · cases h
  split at h
  · cases h
  rename_i active activated
  split at h
  · cases h
  rename_i registered
  cases h
  have link := ClientSession.activate_sameLink activated
  obtain ⟨-, record, fresh, -, rfl⟩ := tryRegisterAuthenticatedClientSession_ok registered
  refine ⟨record.selection, fresh.avatarId, fresh.pending, ?_, ?_⟩
  · rw [← link.sessionId]
    refine (selections_of_insert rfl).trans ?_
    rw [clearClientSessionRecord_selections, Function.update_idem]
    rfl
  · rw [← activate_route activated]
    show ({ clients with clientNetwork := _ }.clearClientSessionRecord active.sessionId).clientNetwork.routes = _
    rw [clearClientSessionRecord_network]
    exact ClientNetwork.routes_replaceSession live

theorem canOpenClientSession_sameRoutes (clients : GateClients) (env : GateEnv) (conversation : UInt32)
    (endpoint : Endpoint) : SameRoutes clients (clients.canOpenClientSession env conversation endpoint).1 := by
  unfold canOpenClientSession
  simp only
  split
  · exact ⟨rfl, rfl⟩
  split
  · exact ⟨rfl, rfl⟩
  split <;> exact ⟨rfl, rfl⟩

/-- The session has a record that selects nothing. -/
def Unselected (clients : GateClients) (id : UInt64) : Prop :=
  ∃ selection, clients.selections id = some selection ∧ selection.avatarId = [] ∧ selection.pendingSelectAvatarSeq = 0

theorem openClientSession_routes {clients : GateClients} (inv : RouteInv clients) (ctx : GateContext) (env : GateEnv)
    (conversation : UInt32) (endpoint : Endpoint) :
    RouteInv (clients.openClientSession ctx env conversation endpoint).1 ∧
      ∀ id, (clients.openClientSession ctx env conversation endpoint).2.2 = some id →
        Unselected (clients.openClientSession ctx env conversation endpoint).1 id := by
  have admission := canOpenClientSession_sameRoutes clients env conversation endpoint
  unfold openClientSession
  split
  · rename_i clients' _ eq
    rw [eq] at admission
    exact ⟨admission.inv inv, nofun⟩
  · rename_i clients' eq
    rw [eq] at admission
    have inv' := admission.inv inv
    split
    · rename_i net eq
      have none := ClientNetwork.createSession_none (congrArg Prod.snd eq)
      rw [eq] at none
      have same : SameRoutes clients' { clients' with clientNetwork := net } := ⟨rfl, ClientNetwork.routes_of_sessions none⟩
      exact ⟨same.inv inv', nofun⟩
    · rename_i net session eq
      have created := ClientNetwork.createSession_some (congrArg Prod.snd eq)
      have unrouted := createSession_route (congrArg Prod.snd eq)
      rw [eq] at created
      split
      · have same : SameRoutes clients' { clients' with clientNetwork := net.removeSession session.sessionId } :=
          ⟨rfl, ClientNetwork.routes_of_sessions created.removed⟩
        exact ⟨same.inv inv', nofun⟩
      · rename_i opened
        have live : net.sessions[session.sessionId]? = some session := by rw [created.stored, Table.get_insert_self]
        obtain ⟨selection, unbound, settled, selections, routes⟩ := handleClientSessionOpened_routes live opened
        have before : ({ clients' with clientNetwork := net } : GateClients).routes =
            Function.update clients'.routes session.sessionId (some session.route) :=
          ClientNetwork.routes_of_insert created.stored
        rw [before, Function.update_idem] at routes
        constructor
        · refine inv'.change selections routes ?_
          rintro s ⟨⟩
          refine ⟨fun waits => absurd settled waits, fun confirmed => absurd unbound confirmed.1,
            fun _ state target at_ => ?_⟩
          rw [unrouted] at at_
          cases at_
          exact .inl rfl
        · rintro id ⟨⟩
          exact ⟨selection, by rw [selections, Function.update_self], unbound, settled⟩

theorem datagramSession_routes {clients : GateClients} (inv : RouteInv clients) (ctx : GateContext) (env : GateEnv)
    (endpoint : Endpoint) (datagram : Bytes) :
    RouteInv (clients.datagramSession ctx env endpoint datagram).1 ∧
      ∀ id, (clients.datagramSession ctx env endpoint datagram).2.2 = some (id, true) →
        Unselected (clients.datagramSession ctx env endpoint datagram).1 id := by
  unfold datagramSession
  split
  · exact ⟨inv, nofun⟩
  split
  · exact ⟨inv, nofun⟩
  rename_i conversation read
  split
  · refine ⟨inv, ?_⟩
    rintro id ⟨⟩
  · obtain ⟨opened, fresh⟩ := openClientSession_routes inv ctx env conversation endpoint
    refine ⟨opened, ?_⟩
    intro id at_
    simp only [Option.map_eq_some_iff, Prod.mk.injEq, and_true, exists_eq_right] at at_
    exact fresh id at_

/-- A session is removed again only before anything was selected on it. -/
theorem feedDatagram_routes {clients : GateClients} (inv : RouteInv clients) (ctx : GateContext) (env : GateEnv)
    {sessionId : UInt64} {sessionCreated : Bool} (fresh : sessionCreated = true → Unselected clients sessionId) :
    RouteInv (clients.feedDatagram ctx env sessionId sessionCreated).1 := by
  have same := touchSession_sameRoutes clients env sessionId
  have touched := same.inv inv
  unfold feedDatagram
  simp only
  split
  · exact receivePayloads_routes touched ctx env sessionId env.received
  split
  · rename_i created
    obtain ⟨selection, chosen, unbound, settled⟩ := fresh created
    rw [← same.selections] at chosen
    refine touched.change (Function.update_eq_self sessionId _).symm (ClientNetwork.routes_removeSession _ sessionId) ?_
    intro s at_
    cases chosen.symm.trans at_
    exact ⟨fun waits => absurd settled waits, fun confirmed => absurd unbound confirmed.1, nofun⟩
  · exact touched

theorem handleIncomingDatagram_routes {clients : GateClients} (inv : RouteInv clients) (ctx : GateContext)
    (env : GateEnv) (endpoint : Endpoint) (datagram : Bytes) :
    RouteInv (clients.handleIncomingDatagram ctx env endpoint datagram).1 := by
  obtain ⟨found, fresh⟩ := datagramSession_routes inv ctx env endpoint datagram
  unfold handleIncomingDatagram
  generalize clients.datagramSession ctx env endpoint datagram = outcome at *
  obtain ⟨clients', events, session⟩ := outcome
  cases session with
  | none => exact found
  | some session =>
    obtain ⟨sessionId, sessionCreated⟩ := session
    refine feedDatagram_routes found ctx env ?_
    rintro rfl
    exact fresh sessionId rfl

/-! ## Results of Games -/

theorem unbindAvatar_selections (clients : GateClients) (id : UInt64) (record : ClientSessionRecord) :
    (clients.unbindAvatar id record).selections = Function.update clients.selections id (some ⟨[], [], 0⟩) := by
  have stored : (clients.unbindAvatar id record).clientSessionRecords = clients.clientSessionRecords.insert id
    { record with avatarId := [], gameNodeId := [], pendingSelectAvatarSeq := 0 } := rfl
  exact selections_of_insert stored

theorem rollbackPendingSelection_sameRoutes (clients : GateClients) (env : GateEnv) (result : AvatarCreateResult)
    (record : ClientSessionRecord) (error : Bytes) (notify : Bool) :
    SameRoutes (clients.unbindAvatar result.sessionId record)
      (clients.rollbackPendingSelection env result record error notify).1 := by
  unfold rollbackPendingSelection
  cases notify with
  | true => exact sendClientSelectAvatarResult_sameRoutes ..
  | false => exact .refl _

/-- The session of a waiting record has no route. -/
theorem pending_loose {clients : GateClients} (inv : RouteInv clients) {ctx : GateContext} {env : GateEnv}
    {routingId payload : Bytes} {source : InnerNetworkSession} {result : AvatarCreateResult}
    {record : ClientSessionRecord} {session : ClientSession}
    (pending : clients.pendingCreateResult ctx env routingId payload = some (source, result, record))
    (live : clients.clientNetwork.findSession result.sessionId = some session) :
    session.routeState = .unassigned ∨ session.routeState = .selecting := by
  obtain ⟨-, found, waiting⟩ := pendingCreateResult_waits pending
  have chosen : clients.selections result.sessionId = some record.selection := by rw [selections, found]; rfl
  refine (inv result.sessionId record.selection chosen).loose (fun confirmed => waiting confirmed.2)
    session.routeState session.routeTarget ?_
  rw [routes, ClientNetwork.routes, show clients.clientNetwork.sessions[result.sessionId]? = some session from live]
  rfl

theorem handleGameAvatarEntityCreateResultMessage_routes {clients : GateClients} (inv : RouteInv clients)
    (ctx : GateContext) (env : GateEnv) (routingId payload : Bytes) :
    RouteInv (clients.handleGameAvatarEntityCreateResultMessage ctx env routingId payload).1 := by
  have outcome := createOutcome clients ctx env routingId payload
  generalize clients.handleGameAvatarEntityCreateResultMessage ctx env routingId payload = handled at outcome ⊢
  -- what is left without an avatar only needs a session without a route
  have released : ∀ {route : Option (ClientRouteState × Option ClientRouteTarget)},
      (∀ state target, route = some (state, target) → state = .unassigned ∨ state = .selecting) →
      ∀ s : Selection, some (⟨[], [], 0⟩ : Selection) = some s → RouteOk s route := by
    rintro route loose s ⟨⟩
    exact ⟨fun waits => absurd rfl waits, fun confirmed => absurd rfl confirmed.1, fun _ => loose⟩
  cases outcome with
  | ignored => exact inv
  | @undone source result record net error notify pending routed =>
    refine (rollbackPendingSelection_sameRoutes ..).inv ?_
    obtain ⟨-, found, waiting⟩ := pendingCreateResult_waits pending
    have chosen : clients.selections result.sessionId = some record.selection := by rw [selections, found]; rfl
    rcases routed with rfl | ⟨session, next, failure, live, failed, rfl⟩
    · refine inv.change (unbindAvatar_selections ..) (Function.update_eq_self result.sessionId _).symm
        (released fun state target at_ => ?_)
      exact (inv result.sessionId record.selection chosen).loose (fun confirmed => waiting confirmed.2) state target at_
    · have left := (bindSessionRoute_route (pending_loose inv pending live) failed).2 nofun
      refine inv.change (unbindAvatar_selections ..) (ClientNetwork.routes_replaceSession live)
        (released fun state target at_ => ?_)
      cases at_
      exact left
  | @confirmed source result record session next pending _ live bound =>
    refine (sendClientSelectAvatarResult_sameRoutes ..).inv ?_
    have route := (bindSessionRoute_route (pending_loose inv pending live) bound).1 rfl
    obtain ⟨-, found, waiting⟩ := pendingCreateResult_waits pending
    have chosen : clients.selections result.sessionId = some record.selection := by rw [selections, found]; rfl
    have avatar : record.avatarId ≠ [] := (inv result.sessionId record.selection chosen).waiting waiting
    refine inv.change (selections_of_insert rfl) (ClientNetwork.routes_replaceSession live) ?_
    rintro s ⟨⟩
    refine ⟨fun waits => absurd rfl waits, ?_, ?_⟩
    · intro _
      exact ⟨_, by rw [route], rfl⟩
    · intro unconfirmed
      exact absurd ⟨avatar, rfl⟩ unconfirmed

theorem handleGamePushToClientMessage_sameRoutes (clients : GateClients) (ctx : GateContext) (env : GateEnv)
    (routingId payload : Bytes) :
    SameRoutes clients (clients.handleGamePushToClientMessage ctx env routingId payload).1 := by
  unfold handleGamePushToClientMessage
  split
  · exact .refl clients
  split
  · exact .refl clients
  split
  · exact .refl clients
  · exact sendPayload_sameRoutes clients env _ _

end GateClients

namespace GateNode

/-! ## The node -/

theorem onGmSession_clients (gate : GateNode) (f : InnerNetworkSession → InnerNetworkSession × Option Bytes) :
    (gate.onGmSession f).1.clients = gate.clients := by
  unfold onGmSession
  split <;> rfl

theorem handleConnectorStateChanged_clients (gate : GateNode) (env : GateEnv) (peer : Bytes)
    (state : ZmqConnectionState) : (gate.handleConnectorStateChanged env peer state).1.clients = gate.clients := by
  unfold handleConnectorStateChanged
  split
  · rfl
  unfold handleGmConnectionStateChanged
  split
  · rfl
  simp only
  split
  · rfl
  split
  · exact onGmSession_clients { gate with sessions := _ } _
  · rfl

theorem handleClusterReadyNotify_sameRoutes (gate : GateNode) (env : GateEnv) (session : InnerNetworkSession)
    (packet : Packet) :
    GateClients.SameRoutes gate.clients (gate.handleClusterReadyNotify env session packet).clients := by
  unfold handleClusterReadyNotify
  split
  · exact .refl _
  split
  · exact .refl _
  · rename_i net running
    have same : net.routes = gate.clients.clientNetwork.routes :=
      ClientNetwork.routes_of_sessions (ClientNetwork.run_sessions running)
    split
    · exact ⟨rfl, same⟩
    · exact ⟨rfl, same⟩

theorem handleConnectorMessage_sameRoutes (gate : GateNode) (env : GateEnv) (peer payload : Bytes) :
    GateClients.SameRoutes gate.clients (gate.handleConnectorMessage env peer payload).clients := by
  unfold handleConnectorMessage
  split
  · exact .refl _
  unfold handleGmMessage
  split
  · exact .refl _
  split
  · exact .refl _
  split
  · exact handleClusterReadyNotify_sameRoutes gate env _ _
  split
  · exact .refl _
  split
  · split <;> exact .refl _
  split
  · split <;> exact .refl _
  · exact .refl _

theorem handleGameRegisterMessage_clients (gate : GateNode) (env : GateEnv) (routingId payload : Bytes) :
    (gate.handleGameRegisterMessage env routingId payload).1.clients = gate.clients := by
  unfold handleGameRegisterMessage
  simp only
  repeat' split
  all_goals rfl

theorem handleGameHeartbeatMessage_clients (gate : GateNode) (env : GateEnv) (routingId payload : Bytes) :
    (gate.handleGameHeartbeatMessage env routingId payload).1.clients = gate.clients := by
  unfold handleGameHeartbeatMessage
  simp only
  repeat' split
  all_goals rfl

theorem handleGameMessage_routes {gate : GateNode} (inv : gate.clients.RouteInv) (env : GateEnv)
    (routingId payload : Bytes) : (gate.handleGameMessage env routingId payload).1.clients.RouteInv := by
  unfold handleGameMessage
  split
  · exact inv
  simp only
  split
  · rw [handleGameRegisterMessage_clients]
    exact inv
  split
  · rw [handleGameHeartbeatMessage_clients]
    exact inv
  split
  · exact GateClients.handleGameAvatarEntityCreateResultMessage_routes inv gate.toGateContext env routingId payload
  split
  · exact (GateClients.handleGamePushToClientMessage_sameRoutes ..).inv inv
  split
  · exact inv
  split
  · exact inv
  · exact inv

/-- The node itself never removes a client session: `RemoveSession` is called
only while a session is being opened. -/
def KeepsSessions (_ : GateNode) : Input → Prop
  | .removeSession _ => False
  | _ => True

instance (gate : GateNode) : ∀ input, Decidable (KeepsSessions gate input)
  | .removeSession _ => .isFalse id
  | .connectorState .. | .connectorMessage .. | .gameMessage .. | .heartbeatTimer .. | .authLogin .. | .datagram ..
  | .clearRecord .. => .isTrue trivial

theorem step_routes (gate : GateNode) (input : Input) (inv : gate.clients.RouteInv) (kept : KeepsSessions gate input) :
    (gate.step input).1.clients.RouteInv := by
  cases input with
  | connectorState env peer state =>
    show (gate.handleConnectorStateChanged env peer state).1.clients.RouteInv
    rw [handleConnectorStateChanged_clients]
    exact inv
  | connectorMessage env peer payload => exact (handleConnectorMessage_sameRoutes gate env peer payload).inv inv
  | gameMessage env routingId payload => exact handleGameMessage_routes inv env routingId payload
  | heartbeatTimer env =>
    show (gate.onGmSession _).1.clients.RouteInv
    rw [onGmSession_clients]
    exact inv
  | authLogin env request => exact (GateClients.handleAuthLogin_sameRoutes ..).inv inv
  | datagram env endpoint datagram => exact GateClients.handleIncomingDatagram_routes inv _ env endpoint datagram
  | removeSession sessionId => exact kept.elim
  | clearRecord sessionId =>
    have routes : (gate.clients.clearClientSessionRecord sessionId).routes =
        Function.update gate.clients.routes sessionId (gate.clients.routes sessionId) := by
      rw [Function.update_eq_self, GateClients.routes, GateClients.clearClientSessionRecord_network]
      rfl
    exact inv.change (GateClients.clearClientSessionRecord_selections ..) routes nofun

/-- Records and routes agree along a run. -/
theorem run_routes {config : ClusterConfig} {self : NodeEntry} {boot : GateBoot} {gate : GateNode}
    (init : onInit config self boot = some gate) {is : List Input} (kept : machine.Along KeepsSessions gate is) :
    (machine.run gate is).1.clients.RouteInv := by
  refine Machine.run_invariant step_routes ?_ kept
  intro id selection chosen
  rw [onInit_clients init] at chosen
  simp [GateClients.selections] at chosen

/-! ## Results -/

/-- A confirmed avatar has a live session bound to the record's Game. -/
def RoutesAgree (clients : GateClients) : Prop :=
  ∀ (id : UInt64) (record : ClientSessionRecord), clients.clientSessionRecords[id]? = some record →
    record.avatarId ≠ [] → record.pendingSelectAvatarSeq = 0 →
    ∃ session target, clients.clientNetwork.findSession id = some session ∧ session.routeState = .bound ∧
      session.routeTarget = some target ∧ target.gameNodeId = record.gameNodeId

theorem routesAgree_of_routes {clients : GateClients} (inv : clients.RouteInv) : RoutesAgree clients := by
  intro id record found avatar settled
  have chosen : clients.selections id = some record.selection := by rw [GateClients.selections, found]; rfl
  obtain ⟨target, route, game⟩ := (inv id record.selection chosen).bound ⟨avatar, settled⟩
  obtain ⟨session, live, eq⟩ := Option.map_eq_some_iff.mp route
  exact ⟨session, target, live, congrArg Prod.fst eq, congrArg Prod.snd eq, game⟩

/-- The confirmation that a create result asks for its session fails: the Game
reports an error, the session is gone, or its route cannot be bound. -/
def ConfirmationFails (gate : GateNode) (env : GateEnv) (routingId payload : Bytes) (sessionId : UInt64) : Prop :=
  ∃ source result record,
    gate.clients.pendingCreateResult gate.toGateContext env routingId payload = some (source, result, record) ∧
    result.sessionId = sessionId ∧
    (result.success = false ∨ gate.clients.clientNetwork.findSession sessionId = none ∨
      ∃ session, gate.clients.clientNetwork.findSession sessionId = some session ∧
        (GateClients.bindSessionRoute session
          (GateClients.routeTarget gate.toGateContext source result.gameNodeId)).2 ≠ none)

/-- The record is back where it was before the selection. -/
def SelectionUndone (clients : GateClients) (sessionId : UInt64) : Prop :=
  (∃ record, clients.clientSessionRecords[sessionId]? = some record ∧ record.avatarId = [] ∧ record.gameNodeId = [] ∧
    record.pendingSelectAvatarSeq = 0) ∧
  ∀ avatar : Bytes, clients.sessionIdsByAvatar[avatar]? ≠ some sessionId

theorem undone_record {gate : GateNode} {env : GateEnv} {routingId payload : Bytes} {sessionId : UInt64}
    (fails : gate.ConfirmationFails env routingId payload sessionId) :
    ∃ record, (gate.clients.handleGameAvatarEntityCreateResultMessage gate.toGateContext env routingId
      payload).1.clientSessionRecords[sessionId]? = some record ∧ record.avatarId = [] ∧ record.gameNodeId = [] ∧
      record.pendingSelectAvatarSeq = 0 := by
  obtain ⟨source, result, record, pending, rfl, failure⟩ := fails
  have outcome := GateClients.createOutcome gate.clients gate.toGateContext env routingId payload
  generalize gate.clients.handleGameAvatarEntityCreateResultMessage gate.toGateContext env routingId payload = handled
    at outcome ⊢
  cases outcome with
  | ignored nothing =>
    rw [nothing] at pending
    cases pending
  | undone error notify pending' routed =>
    rw [pending] at pending'
    cases pending'
    refine ⟨{ record with avatarId := [], gameNodeId := [], pendingSelectAvatarSeq := 0 }, ?_, rfl, rfl, rfl⟩
    have records : ∀ clients : GateClients, (clients.rollbackPendingSelection env result record error
        notify).1.clientSessionRecords = (clients.unbindAvatar result.sessionId record).clientSessionRecords := by
      intro clients
      unfold GateClients.rollbackPendingSelection
      cases notify with
      | false => rfl
      | true => exact GateClients.sendClientSelectAvatarResult_records ..
    rw [records]
    exact Table.get_insert_self ..
  | confirmed pending' success live bound =>
    rw [pending] at pending'
    cases pending'
    rcases failure with refused | gone | ⟨session, live', unbound⟩
    · rw [success] at refused
      cases refused
    · rw [live] at gone
      cases gone
    · rw [live] at live'
      cases live'
      rw [bound] at unbound
      exact absurd rfl unbound

/-- **Records and routes.** In every reachable state the two copies of the
routing decision agree, and a result whose confirmation fails at any point
leaves its session as if nothing had been selected. -/
theorem routes_agree {config : ClusterConfig} {self : NodeEntry} {boot : GateBoot} {gate : GateNode}
    (init : onInit config self boot = some gate) {is : List Input} (kept : machine.Along KeepsSessions gate is) :
    RoutesAgree (machine.run gate is).1.clients ∧
      ∀ (env : GateEnv) (routingId payload : Bytes) (sessionId : UInt64),
        HasMsgId payload gameAvatarEntityCreateResultMsgId →
        (machine.run gate is).1.ConfirmationFails env routingId payload sessionId →
        SelectionUndone ((machine.run gate is).1.step (.gameMessage env routingId payload)).1.clients sessionId := by
  constructor
  · exact routesAgree_of_routes (run_routes init kept)
  · rintro env routingId payload sessionId ⟨raw, header, isResult⟩ fails
    have book := step_book (machine.run gate is).1 (.gameMessage env routingId payload) (run_book_all init is) trivial
    have handled : ((machine.run gate is).1.step (.gameMessage env routingId payload)).1.clients =
        ((machine.run gate is).1.clients.handleGameAvatarEntityCreateResultMessage (machine.run gate is).1.toGateContext
          env routingId payload).1 := by
      simp only [step, handleGameMessage, header, isResult]
      rw [if_neg (by decide), if_neg (by decide), if_pos trivial]
      rfl
    obtain ⟨record, found, avatar, game, settled⟩ := undone_record fails
    rw [← handled] at found
    refine ⟨⟨record, found, avatar, game, settled⟩, ?_⟩
    intro indexedAvatar indexed
    obtain ⟨record', found', bound⟩ := (book.avatars _ _).mp indexed
    rw [found] at found'
    cases found'
    obtain ⟨rfl, nonempty⟩ := GateClients.boundAvatar_some.mp bound
    exact nonempty avatar

/-- The small Gate's client selects an avatar and the Game creates it. -/
def sampleConfirmed : List Input :=
  let result := { GateClients.strayResult with avatarId := text "0f8fad5b-d9cb-469f-a165-70867728950e" }
  sampleLogin ++ [sampleSelect result.avatarId,
    .gameMessage (GateClients.sampleResultEnv result) (text "Game0") (GateClients.sampleResultMessage result)]

theorem routes_agree_sample :
    RoutesAgree (machine.run sampleGate sampleConfirmed).1.clients ∧
      ∀ (env : GateEnv) (routingId payload : Bytes) (sessionId : UInt64),
        HasMsgId payload gameAvatarEntityCreateResultMsgId →
        (machine.run sampleGate sampleConfirmed).1.ConfirmationFails env routingId payload sessionId →
        SelectionUndone ((machine.run sampleGate sampleConfirmed).1.step (.gameMessage env routingId payload)).1.clients
          sessionId :=
  routes_agree sampleGate_init (by decide +kernel)

/-- The session is then bound to the Game. -/
example : (((machine.run sampleGate sampleConfirmed).1.clients.clientNetwork.findSession 1).bind
    (·.routeTarget)).map (·.gameNodeId) = some (text "Game0") := by decide +kernel

end GateNode

end XServer.Node
