import Mathlib.Logic.Relation
import XServer.Node.GateTargets

/-!
# The session store of the client network

The maps of `node/ClientNetwork.cpp` over its whole life. The key of the
transport index is computed in three places: from the host that `CreateSession`
has already normalized, from the endpoint of the stored session on removal, and
from the endpoint of a datagram. Every handler of clients moves the network by its
own operations (`Moves`); whatever is done to it, the index is exactly the inverse
of the keys of the sessions (`session_store_exact`).
-/

namespace XServer.Node
open XServer.Lib XServer.Lib.Wire XServer.Net XServer.Core

namespace ClientNetwork

/-! ## The life of the network -/

/-- `Init`; `valid` is the outcome of its checks of the options. -/
def init (net : ClientNetwork) (valid : Bool) : Option ClientNetwork :=
  if net.initialized then none
  else if valid then some { net with initialized := true }
  else none

/-- `Uninit` drops every session and numbers them from one again. -/
def uninit (net : ClientNetwork) : ClientNetwork :=
  { net.stop with sessions := ∅, transportIndex := ∅, nextSessionId := 1, running := false, initialized := false }

/-! ## The invariant -/

/-- The key a session is found by. -/
def keyOf (session : ClientSession) : TransportKey := makeTransportKey session.remoteEndpoint session.conversation

theorem keyOf_sameLink {a b : ClientSession} (same : a.SameLink b) : keyOf b = keyOf a := by
  unfold keyOf
  rw [same.remoteEndpoint, same.conversation]

/-- The index is the inverse of the sessions' keys, and a session is stored under
its own id. -/
structure Indexed (net : ClientNetwork) : Prop where
  inverse : Inverse net.sessions net.transportIndex (fun session => some (keyOf session))
  filed : ∀ {id : UInt64} {session : ClientSession}, net.sessions[id]? = some session → session.sessionId = id

variable {net net' : ClientNetwork}

/-- Only the two maps matter. -/
theorem Indexed.of_maps (h : net.Indexed) (sessions : net'.sessions = net.sessions)
    (index : net'.transportIndex = net.transportIndex) : net'.Indexed := by
  constructor
  · rw [sessions, index]
    exact h.inverse
  · intro id session found
    rw [sessions] at found
    exact h.filed found

theorem indexed_empty (sessions : net.sessions = ∅) (index : net.transportIndex = ∅) : net.Indexed := by
  constructor
  · rw [sessions, index]
    exact Inverse.empty
  · intro id session found
    rw [sessions] at found
    simp at found

/-! ## The operations -/

theorem consumeNextSessionId_maps {id : UInt64} (h : net.consumeNextSessionId = some (id, net')) :
    net'.sessions = net.sessions ∧ net'.transportIndex = net.transportIndex ∧ net.sessions[id]? = none := by
  obtain ⟨free, same⟩ := consumeNextSessionId_some h
  unfold consumeNextSessionId at h
  split at h
  · cases h
  · cases h
    exact ⟨same, rfl, free⟩

/-- What `CreateSession` does to the maps: nothing, or a session that is new under
its id and under its key. -/
inductive Created (net : ClientNetwork) (conversation : UInt32) (endpoint : Endpoint) :
    ClientNetwork × Option ClientSession → Prop where
  | refused {next : ClientNetwork} (sessions : next.sessions = net.sessions)
      (index : next.transportIndex = net.transportIndex) : Created net conversation endpoint (next, none)
  | stored {next : ClientNetwork} {session : ClientSession}
      (unused : net.sessions[session.sessionId]? = none) (free : net.transportIndex[keyOf session]? = none)
      (own : session.conversation = conversation)
      (normalized : session.remoteEndpoint = { host := normalizeHost endpoint.host, port := endpoint.port })
      (sessions : next.sessions = net.sessions.insert session.sessionId session)
      (index : next.transportIndex = net.transportIndex.insert (keyOf session) session.sessionId) :
      Created net conversation endpoint (next, some session)

theorem createSession_created (net : ClientNetwork) (conversation : UInt32) (endpoint : Endpoint) (kcpValid : Bool)
    (connectedAtUnixMs : UInt64) :
    Created net conversation endpoint (net.createSession conversation endpoint kcpValid connectedAtUnixMs) := by
  unfold createSession
  simp only
  split
  · exact .refused rfl rfl
  split
  · exact .refused rfl rfl
  split
  · exact .refused rfl rfl
  · rename_i free
    split
    · exact .refused rfl rfl
    · rename_i id next allocated
      obtain ⟨sessions, index, unused⟩ := consumeNextSessionId_maps allocated
      split
      · exact .refused sessions index
      · rename_i session made
        obtain ⟨own, conv, remote, -, -⟩ := ClientSession.create_ok made
        -- the key of the new session is the one that was looked up
        have key : keyOf session =
            makeTransportKey { host := normalizeHost endpoint.host, port := endpoint.port } conversation := by
          rw [keyOf, conv, remote]
        refine .stored (own ▸ unused) ?_ conv remote ?_ ?_
        · rw [key]
          simpa [← Std.ExtTreeMap.isSome_getElem?_eq_contains] using free
        · rw [own, ← sessions]
        · rw [own, key, ← index]

theorem Indexed.createSession (h : net.Indexed) (conversation : UInt32) (endpoint : Endpoint) (kcpValid : Bool)
    (connectedAtUnixMs : UInt64) : (net.createSession conversation endpoint kcpValid connectedAtUnixMs).1.Indexed := by
  have created := createSession_created net conversation endpoint kcpValid connectedAtUnixMs
  generalize net.createSession conversation endpoint kcpValid connectedAtUnixMs = result at created
  cases created with
  | refused sessions index => exact h.of_maps sessions index
  | stored unused free own normalized sessions index =>
    constructor
    · rw [sessions, index]
      exact h.inverse.insertBound unused free rfl
    · intro id session found
      rw [sessions, Table.get_insert] at found
      split at found
      · rename_i same
        cases found
        exact same
      · exact h.filed found

theorem Indexed.removeSession (h : net.Indexed) (sessionId : UInt64) : (net.removeSession sessionId).Indexed := by
  constructor
  · unfold ClientNetwork.removeSession
    split
    · exact h.inverse
    · rename_i session found
      exact h.inverse.eraseBound found rfl
  · intro id session found
    rw [removeSession_sessions] at found
    exact h.filed (Table.get_erase_some found).2

theorem Indexed.modifySession (h : net.Indexed) {sessionId : UInt64} {f : ClientSession → ClientSession}
    (keeps : ∀ session : ClientSession, net.sessions[sessionId]? = some session → session.SameLink (f session)) :
    (net.modifySession sessionId f).Indexed := by
  constructor
  · unfold ClientNetwork.modifySession
    split
    · exact h.inverse
    · rename_i session found
      exact h.inverse.touch found (congrArg some (keyOf_sameLink (keeps session found)))
  · intro id session found
    obtain ⟨old, stored, same⟩ := (modifySession_same keeps).back found
    exact same.sessionId.trans (h.filed stored)

theorem Indexed.run (h : net.Indexed) {ok : Bool} (running : net.run ok = some net') : net'.Indexed := by
  unfold ClientNetwork.run at running
  split at running
  · cases running
  split at running
  · cases running
    exact h
  split at running
  · cases running
    exact h.of_maps rfl rfl
  · cases running

theorem Indexed.init (h : net.Indexed) {valid : Bool} (initialized : net.init valid = some net') : net'.Indexed := by
  unfold ClientNetwork.init at initialized
  split at initialized
  · cases initialized
  split at initialized
  · cases initialized
    exact h.of_maps rfl rfl
  · cases initialized

/-! ## Moves -/

/-- An operation on the sessions; a session keeps its link to the client. -/
inductive Move (net : ClientNetwork) : ClientNetwork → Prop where
  | create (conversation : UInt32) (endpoint : Endpoint) (kcpValid : Bool) (connectedAtUnixMs : UInt64) :
      Move net (net.createSession conversation endpoint kcpValid connectedAtUnixMs).1
  | remove (sessionId : UInt64) : Move net (net.removeSession sessionId)
  | modify {sessionId : UInt64} {f : ClientSession → ClientSession}
      (keeps : ∀ session : ClientSession, net.sessions[sessionId]? = some session → session.SameLink (f session)) :
      Move net (net.modifySession sessionId f)

abbrev Moves : ClientNetwork → ClientNetwork → Prop := Relation.ReflTransGen Move

/-- What operations on the sessions leave alone. -/
structure SameState (a b : ClientNetwork) : Prop where
  ownerNodeId : b.ownerNodeId = a.ownerNodeId
  initialized : b.initialized = a.initialized
  running : b.running = a.running

theorem SameState.refl (a : ClientNetwork) : SameState a a := ⟨rfl, rfl, rfl⟩

theorem SameState.trans {a b c : ClientNetwork} (ab : SameState a b) (bc : SameState b c) : SameState a c :=
  ⟨bc.ownerNodeId.trans ab.ownerNodeId, bc.initialized.trans ab.initialized, bc.running.trans ab.running⟩

theorem createSession_sameState (net : ClientNetwork) (conversation : UInt32) (endpoint : Endpoint) (kcpValid : Bool)
    (connectedAtUnixMs : UInt64) :
    SameState net (net.createSession conversation endpoint kcpValid connectedAtUnixMs).1 := by
  unfold ClientNetwork.createSession
  simp only
  split
  · exact .refl net
  split
  · exact .refl net
  split
  · exact .refl net
  split
  · exact .refl net
  · rename_i id next allocated
    have same : SameState net next := by
      unfold consumeNextSessionId at allocated
      split at allocated
      · cases allocated
      · cases allocated
        constructor
        · rfl
        · rfl
        · rfl
    split
    · exact same
    · exact ⟨same.ownerNodeId, same.initialized, same.running⟩

theorem Move.sameState (h : Move net net') : SameState net net' := by
  cases h with
  | create conversation endpoint kcpValid connectedAtUnixMs => exact createSession_sameState net ..
  | remove sessionId =>
    unfold ClientNetwork.removeSession
    split
    · exact .refl net
    · exact ⟨rfl, rfl, rfl⟩
  | modify keeps =>
    unfold ClientNetwork.modifySession
    split
    · exact .refl net
    · exact ⟨rfl, rfl, rfl⟩

theorem Moves.sameState (h : Moves net net') : SameState net net' := by
  induction h with
  | refl => exact .refl net
  | tail _ last ih => exact ih.trans last.sameState

theorem Moves.indexed (moves : Moves net net') (h : net.Indexed) : net'.Indexed := by
  induction moves with
  | refl => exact h
  | tail _ last ih =>
    cases last with
    | create conversation endpoint kcpValid connectedAtUnixMs => exact ih.createSession ..
    | remove sessionId => exact ih.removeSession sessionId
    | modify keeps => exact ih.modifySession keeps

theorem sendPayload_moves (net : ClientNetwork) (sessionId : UInt64) (payload : Bytes) (kcpOk : Bool) (now : UInt64) :
    Moves net (net.sendPayload sessionId payload kcpOk now).1 := by
  unfold ClientNetwork.sendPayload
  split
  · exact .refl
  split
  · exact .refl
  split
  · exact .single (.modify fun session _ => session.touch_sameLink now)
  · exact .refl

end ClientNetwork

/-! ## The handlers of the Gate -/

namespace GateClients

open ClientNetwork (Moves)

theorem modifyRecord_network (clients : GateClients) (sessionId : UInt64) (f : ClientSessionRecord → ClientSessionRecord) :
    (clients.modifyRecord sessionId f).clientNetwork = clients.clientNetwork := by
  unfold modifyRecord
  split
  · rfl
  · rfl

theorem touchRecord_network (clients : GateClients) (env : GateEnv) (sessionId : UInt64) :
    (clients.touchRecord env sessionId).clientNetwork = clients.clientNetwork :=
  modifyRecord_network clients sessionId _

theorem canOpenClientSession_network (clients : GateClients) (env : GateEnv) (conversation : UInt32)
    (endpoint : Endpoint) :
    (clients.canOpenClientSession env conversation endpoint).1.clientNetwork = clients.clientNetwork := by
  unfold canOpenClientSession
  simp only
  split
  · rfl
  split
  · rfl
  split
  · rfl
  · rfl

theorem handleAuthLogin_network (clients : GateClients) (ctx : GateContext) (env : GateEnv)
    (request : GateAuthLoginRequest) :
    (clients.handleAuthLogin ctx env request).1.clientNetwork = clients.clientNetwork := by
  unfold handleAuthLogin
  split
  · rfl
  simp only
  split
  · rfl
  · rename_i conversation next allocated
    exact (consumeNextClientConversation_some allocated).2.2

theorem touchSession_moves (clients : GateClients) (env : GateEnv) (sessionId : UInt64) :
    Moves clients.clientNetwork (clients.touchSession env sessionId).clientNetwork :=
  .single (.modify fun session _ => session.touch_sameLink env.nowUnixMs)

theorem sendClientSelectAvatarResult_moves (clients : GateClients) (env : GateEnv) (sessionId : UInt64)
    (requestSeq : UInt32) (success : Bool) (accountId avatarId gameNodeId error : Bytes) :
    Moves clients.clientNetwork (clients.sendClientSelectAvatarResult env sessionId requestSeq success accountId avatarId
      gameNodeId error).1.clientNetwork := by
  unfold sendClientSelectAvatarResult
  split
  · exact .refl
  split
  · exact .refl
  split
  · exact .refl
  · exact ClientNetwork.sendPayload_moves ..

theorem openClientSession_moves (clients : GateClients) (ctx : GateContext) (env : GateEnv) (conversation : UInt32)
    (endpoint : Endpoint) :
    Moves clients.clientNetwork (clients.openClientSession ctx env conversation endpoint).1.clientNetwork := by
  have network := canOpenClientSession_network clients env conversation endpoint
  unfold openClientSession
  split
  · rename_i next _ eq
    rw [eq] at network
    rw [← network]
  · rename_i next eq
    rw [eq] at network
    rw [← network]
    have created : ClientNetwork.Move next.clientNetwork
        (next.clientNetwork.createSession conversation endpoint env.kcpValid env.nowUnixMs).1 :=
      .create conversation endpoint env.kcpValid env.nowUnixMs
    split
    · rename_i net eq
      rw [eq] at created
      exact .single created
    · rename_i net session eq
      have opened := ClientNetwork.createSession_some (congrArg Prod.snd eq)
      rw [eq] at created opened
      split
      · exact .tail (.single created) (.remove session.sessionId)
      · rename_i last event accepted
        obtain ⟨_, active, _, link, -, -, -, -, -, -, rfl⟩ := handleClientSessionOpened_ok accepted
        refine .tail (.single created) (.modify fun stored found => ?_)
        -- the session written back is the one just created, activated
        rw [link.sessionId, opened.stored, Table.get_insert_self] at found
        cases found
        exact link

theorem handleClientPayloadReceived_moves (clients : GateClients) (ctx : GateContext) (env : GateEnv)
    (sessionId : UInt64) (payload : Bytes) :
    Moves clients.clientNetwork (clients.handleClientPayloadReceived ctx env sessionId payload).1.clientNetwork := by
  have touched := touchRecord_network clients env sessionId
  unfold handleClientPayloadReceived
  rw [← touched]
  generalize clients.touchRecord env sessionId = touched
  simp only
  split
  · exact .refl
  split
  · split
    · rename_i next event done
      obtain ⟨record, _, _, -, eq⟩ := handleClientSelectAvatarPacket_done done
      cases eq
      exact .refl
    · exact .refl
    · exact sendClientSelectAvatarResult_moves ..
  split
  · split
    · exact .refl
    · rename_i next event ok
      obtain ⟨-, -, record, target, sent, -, -, -, eq⟩ := handleClientEntityRpcPacket_ok ok
      cases eq
      rw [touchRecord_network]
  · exact .refl

theorem receivePayloads_moves (ctx : GateContext) (env : GateEnv) (sessionId : UInt64) (clients : GateClients)
    (payloads : List Bytes) :
    Moves clients.clientNetwork (receivePayloads ctx env sessionId clients payloads).1.clientNetwork := by
  induction payloads generalizing clients with
  | nil => exact .refl
  | cons payload rest ih =>
    have received := (touchSession_moves clients env sessionId).trans
      (handleClientPayloadReceived_moves (clients.touchSession env sessionId) ctx env sessionId payload)
    unfold receivePayloads
    simp only
    split
    · exact received
    · exact received.trans (ih _)

theorem feedDatagram_moves (clients : GateClients) (ctx : GateContext) (env : GateEnv) (sessionId : UInt64)
    (sessionCreated : Bool) :
    Moves clients.clientNetwork (clients.feedDatagram ctx env sessionId sessionCreated).1.clientNetwork := by
  have touched := touchSession_moves clients env sessionId
  unfold feedDatagram
  simp only
  split
  · exact touched.trans (receivePayloads_moves ctx env sessionId _ env.received)
  split
  · exact touched.tail (.remove sessionId)
  · exact touched

theorem datagramSession_moves (clients : GateClients) (ctx : GateContext) (env : GateEnv) (endpoint : Endpoint)
    (datagram : Bytes) :
    Moves clients.clientNetwork (clients.datagramSession ctx env endpoint datagram).1.clientNetwork := by
  unfold datagramSession
  split
  · exact .refl
  split
  · exact .refl
  split
  · exact .refl
  · exact openClientSession_moves clients ctx env _ endpoint

theorem handleIncomingDatagram_moves (clients : GateClients) (ctx : GateContext) (env : GateEnv) (endpoint : Endpoint)
    (datagram : Bytes) :
    Moves clients.clientNetwork (clients.handleIncomingDatagram ctx env endpoint datagram).1.clientNetwork := by
  have found := datagramSession_moves clients ctx env endpoint datagram
  unfold handleIncomingDatagram
  split
  · rename_i next events eq
    rw [eq] at found
    exact found
  · rename_i next events sessionId sessionCreated eq
    rw [eq] at found
    exact found.trans (feedDatagram_moves next ctx env sessionId sessionCreated)

theorem rollbackPendingSelection_moves (clients : GateClients) (env : GateEnv) (result : AvatarCreateResult)
    (record : ClientSessionRecord) (rollbackError : Bytes) (notifyClient : Bool) :
    Moves clients.clientNetwork
      (clients.rollbackPendingSelection env result record rollbackError notifyClient).1.clientNetwork := by
  unfold rollbackPendingSelection
  simp only
  split
  · exact sendClientSelectAvatarResult_moves (clients.unbindAvatar result.sessionId record) ..
  · exact .refl

theorem handleGameAvatarEntityCreateResultMessage_moves (clients : GateClients) (ctx : GateContext) (env : GateEnv)
    (routingId payload : Bytes) :
    Moves clients.clientNetwork
      (clients.handleGameAvatarEntityCreateResultMessage ctx env routingId payload).1.clientNetwork := by
  unfold handleGameAvatarEntityCreateResultMessage
  split
  · exact .refl
  · rename_i source result record pending
    split
    · exact rollbackPendingSelection_moves ..
    · split
      · exact rollbackPendingSelection_moves ..
      · rename_i session live
        have routed : ClientNetwork.Move clients.clientNetwork
            (clients.clientNetwork.modifySession result.sessionId fun _ =>
              (bindSessionRoute session (routeTarget ctx source result.gameNodeId)).1) := by
          refine .modify fun old stored => ?_
          rw [show clients.clientNetwork.sessions[result.sessionId]? = some session from live] at stored
          cases stored
          exact bindSessionRoute_sameLink session _
        simp only
        split
        · exact .head routed (rollbackPendingSelection_moves { clients with clientNetwork := _ } env result record _ true)
        · exact .head routed (sendClientSelectAvatarResult_moves
            ({ clients with clientNetwork := _ }.confirmAvatar env result record) env result.sessionId ..)

theorem handleGamePushToClientMessage_moves (clients : GateClients) (ctx : GateContext) (env : GateEnv)
    (routingId payload : Bytes) :
    Moves clients.clientNetwork (clients.handleGamePushToClientMessage ctx env routingId payload).1.clientNetwork := by
  unfold handleGamePushToClientMessage
  split
  · exact .refl
  split
  · exact .refl
  split
  · exact .refl
  · exact ClientNetwork.sendPayload_moves ..

end GateClients

/-! ## Over every run -/

namespace ClientNetwork

/-- What can happen to the network of a Gate: its own functions, the datagrams, and
the messages of a Game that change a session or send on one. -/
inductive StoreInput where
  | init (valid : Bool)
  | run (ok : Bool)
  | stop
  | uninit
  | createSession (conversation : UInt32) (endpoint : Endpoint) (kcpValid : Bool) (connectedAtUnixMs : UInt64)
  | removeSession (sessionId : UInt64)
  | sendPayload (sessionId : UInt64) (payload : Bytes) (kcpOk : Bool) (now : UInt64)
  | datagram (ctx : GateContext) (env : GateEnv) (endpoint : Endpoint) (bytes : Bytes)
  | createResult (ctx : GateContext) (env : GateEnv) (routingId payload : Bytes)
  | push (ctx : GateContext) (env : GateEnv) (routingId payload : Bytes)

def storeStep (clients : GateClients) : StoreInput → GateClients × List ClientEvent
  | .init valid =>
    ({ clients with clientNetwork := (clients.clientNetwork.init valid).getD clients.clientNetwork }, [])
  | .run ok => ({ clients with clientNetwork := (clients.clientNetwork.run ok).getD clients.clientNetwork }, [])
  | .stop => ({ clients with clientNetwork := clients.clientNetwork.stop }, [])
  | .uninit => ({ clients with clientNetwork := clients.clientNetwork.uninit }, [])
  | .createSession conversation endpoint kcpValid connectedAtUnixMs =>
    ({ clients with
      clientNetwork := (clients.clientNetwork.createSession conversation endpoint kcpValid connectedAtUnixMs).1 }, [])
  | .removeSession sessionId => ({ clients with clientNetwork := clients.clientNetwork.removeSession sessionId }, [])
  | .sendPayload sessionId payload kcpOk now =>
    ({ clients with clientNetwork := (clients.clientNetwork.sendPayload sessionId payload kcpOk now).1 }, [])
  | .datagram ctx env endpoint bytes => clients.handleIncomingDatagram ctx env endpoint bytes
  | .createResult ctx env routingId payload =>
    clients.handleGameAvatarEntityCreateResultMessage ctx env routingId payload
  | .push ctx env routingId payload => clients.handleGamePushToClientMessage ctx env routingId payload

def storeMachine : Machine GateClients StoreInput ClientEvent := ⟨storeStep⟩

theorem storeStep_indexed (clients : GateClients) (input : StoreInput) (h : clients.clientNetwork.Indexed) :
    (storeStep clients input).1.clientNetwork.Indexed := by
  cases input with
  | init valid =>
    show ((clients.clientNetwork.init valid).getD clients.clientNetwork).Indexed
    cases initialized : clients.clientNetwork.init valid with
    | none => exact h
    | some net => exact Indexed.init h initialized
  | run ok =>
    show ((clients.clientNetwork.run ok).getD clients.clientNetwork).Indexed
    cases running : clients.clientNetwork.run ok with
    | none => exact h
    | some net => exact Indexed.run h running
  | stop => exact Indexed.of_maps h rfl rfl
  | uninit => exact indexed_empty rfl rfl
  | createSession conversation endpoint kcpValid connectedAtUnixMs => exact Indexed.createSession h ..
  | removeSession sessionId => exact Indexed.removeSession h sessionId
  | sendPayload sessionId payload kcpOk now => exact (sendPayload_moves clients.clientNetwork ..).indexed h
  | datagram ctx env endpoint bytes => exact (clients.handleIncomingDatagram_moves ctx env endpoint bytes).indexed h
  | createResult ctx env routingId payload =>
    exact (clients.handleGameAvatarEntityCreateResultMessage_moves ctx env routingId payload).indexed h
  | push ctx env routingId payload =>
    exact (clients.handleGamePushToClientMessage_moves ctx env routingId payload).indexed h

/-- The index and the sessions say the same, and a session that cannot be created
changes neither. -/
structure SessionStore (net : ClientNetwork) : Prop where
  index : ∀ (key : TransportKey) (id : UInt64), net.transportIndex[key]? = some id ↔
    ∃ session : ClientSession, net.sessions[id]? = some session ∧ session.sessionId = id ∧
      key = makeTransportKey session.remoteEndpoint session.conversation
  nonzero : ∀ (id : UInt64) (session : ClientSession), net.sessions[id]? = some session → id ≠ 0
  found : ∀ (id : UInt64) (session : ClientSession), net.sessions[id]? = some session →
    net.findSessionByTransport session.conversation session.remoteEndpoint = some session
  failed : ∀ (conversation : UInt32) (endpoint : Endpoint) (kcpValid : Bool) (connectedAtUnixMs : UInt64),
    (net.createSession conversation endpoint kcpValid connectedAtUnixMs).2 = none →
    (net.createSession conversation endpoint kcpValid connectedAtUnixMs).1.sessions = net.sessions ∧
      (net.createSession conversation endpoint kcpValid connectedAtUnixMs).1.transportIndex = net.transportIndex
  refused : ∀ (conversation : UInt32) (endpoint : Endpoint) (kcpValid : Bool) (connectedAtUnixMs : UInt64),
    net.transportIndex.contains
        (makeTransportKey { host := normalizeHost endpoint.host, port := endpoint.port } conversation) = true ∨
      normalizeHost endpoint.host = [] ∨ endpoint.port = 0 ∨ kcpValid = false →
    (net.createSession conversation endpoint kcpValid connectedAtUnixMs).2 = none

/-- Options that KCP does not take never make a session. -/
theorem create_invalid (gateNodeId : Bytes) (sessionId : UInt64) (conversation : UInt32) (remoteEndpoint : Endpoint)
    (connectedAtUnixMs : UInt64) (session : ClientSession) :
    ClientSession.create gateNodeId sessionId conversation remoteEndpoint false connectedAtUnixMs ≠ .ok session := by
  intro made
  unfold ClientSession.create at made
  repeat' split at made
  all_goals contradiction

theorem createSession_failed (net : ClientNetwork) {conversation : UInt32} {endpoint : Endpoint} {kcpValid : Bool}
    {connectedAtUnixMs : UInt64}
    (none : (net.createSession conversation endpoint kcpValid connectedAtUnixMs).2 = none) :
    (net.createSession conversation endpoint kcpValid connectedAtUnixMs).1.sessions = net.sessions ∧
      (net.createSession conversation endpoint kcpValid connectedAtUnixMs).1.transportIndex = net.transportIndex := by
  have created := createSession_created net conversation endpoint kcpValid connectedAtUnixMs
  generalize net.createSession conversation endpoint kcpValid connectedAtUnixMs = result at created none
  cases created with
  | refused sessions index => exact ⟨sessions, index⟩
  | stored => cases none

theorem createSession_refused (net : ClientNetwork) {conversation : UInt32} {endpoint : Endpoint} {kcpValid : Bool}
    (connectedAtUnixMs : UInt64)
    (bad : net.transportIndex.contains
        (makeTransportKey { host := normalizeHost endpoint.host, port := endpoint.port } conversation) = true ∨
      normalizeHost endpoint.host = [] ∨ endpoint.port = 0 ∨ kcpValid = false) :
    (net.createSession conversation endpoint kcpValid connectedAtUnixMs).2 = none := by
  unfold createSession
  simp only
  split
  · rfl
  split
  · rfl
  · rename_i complete
    split
    · rfl
    · rename_i free
      split
      · rfl
      · split
        · rfl
        · rename_i session made
          rcases bad with taken | host | port | invalid
          · exact absurd taken free
          · exact absurd (.inl host) complete
          · exact absurd (.inr port) complete
          · rw [invalid] at made
            exact absurd made (create_invalid _ _ _ _ _ session)

theorem Indexed.sessionStore {net : ClientNetwork} (h : net.Indexed) : net.SessionStore := by
  refine ⟨fun key id => ?_, fun id session found => ?_, fun id session found => ?_, fun _ _ _ _ => createSession_failed net,
    fun _ _ _ connectedAtUnixMs => createSession_refused net connectedAtUnixMs⟩
  · rw [h.inverse key id]
    constructor
    · rintro ⟨session, held, same⟩
      exact ⟨session, held, h.filed held, (Option.some.inj same).symm⟩
    · rintro ⟨session, held, -, rfl⟩
      exact ⟨session, held, rfl⟩
  · rw [← h.filed found]
    exact session.sessionId_ne
  · have indexed := (h.inverse (keyOf session) id).mpr ⟨session, found, rfl⟩
    unfold findSessionByTransport
    rw [show net.transportIndex[makeTransportKey session.remoteEndpoint session.conversation]? = some id from indexed]
    exact found

/-- **The session store is exact** in every state that a new network reaches,
whatever host text, conversation and handler outcome comes with each call. -/
theorem session_store_exact (clients : GateClients) (ownerNodeId : Bytes) (initialized : Bool) (is : List StoreInput) :
    (storeMachine.run { clients with clientNetwork := { ownerNodeId, initialized } } is).1.clientNetwork.SessionStore := by
  apply Indexed.sessionStore
  exact @Machine.run_invariant _ _ _ storeMachine (fun _ _ => True) (fun clients => clients.clientNetwork.Indexed)
    (fun clients input h _ => storeStep_indexed clients input h) _ _ (indexed_empty rfl rfl) (Machine.along_true _ is)

/-- Normalizing twice is not normalizing once: a host in two pairs of brackets is
found by what the session carries, not by the text it was created with. -/
example :
    let host := text "[[fe80::1]]"
    let net := (createSession { ownerNodeId := text "Gate0" } 7 { host, port := 5000 } true 1).1
    (net.findSessionByTransport 7 { host := text "[fe80::1]", port := 5000 }).isSome = true ∧
      net.findSessionByTransport 7 { host, port := 5000 } = none := by
  decide +kernel

end ClientNetwork

end XServer.Node
