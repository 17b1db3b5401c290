import XServer.Lib.Scan
import XServer.Lib.Table
import XServer.Node.ClientSession

/-!
# The client network of a Gate

`node/ClientNetwork.cpp`: the sessions of the KCP clients by session id, and an
index from the transport key (remote host, port, conversation) to the id. The
sockets and the KCP peers are in the environment; the datagram handler calls
back into the Gate and is modelled there.
-/

namespace XServer.Node
open XServer.Lib XServer.Lib.Wire XServer.Net

structure TransportKey where
  remoteHost : Bytes
  remotePort : UInt16
  conversation : UInt32
  deriving DecidableEq, Repr

namespace TransportKey

/-- Host, then port, then conversation, as `operator<` has it. -/
instance : Ord TransportKey where
  compare := compareLex (compareOn (·.remoteHost)) (compareLex (compareOn (·.remotePort)) (compareOn (·.conversation)))

instance : Std.TransOrd TransportKey := inferInstanceAs <| Std.TransCmp (compareLex _ _)

instance : Std.LawfulEqOrd TransportKey where
  eq_of_compare {a b} h := by
    obtain ⟨host, rest⟩ := compareLex_eq_eq.mp h
    obtain ⟨port, conversation⟩ := compareLex_eq_eq.mp rest
    have host : a.remoteHost = b.remoteHost := Std.LawfulEqOrd.eq_of_compare host
    have port : a.remotePort = b.remotePort := Std.LawfulEqOrd.eq_of_compare port
    have conversation : a.conversation = b.conversation := Std.LawfulEqOrd.eq_of_compare conversation
    cases a
    cases b
    simp_all

end TransportKey

/-- `NormalizeHost`: brackets around the whole host are dropped. -/
def normalizeHost (host : Bytes) : Bytes :=
  if 2 ≤ host.length ∧ host.head? = some 91 ∧ host.getLast? = some 93 then (host.drop 1).dropLast else host

def makeTransportKey (endpoint : Endpoint) (conversation : UInt32) : TransportKey :=
  { remoteHost := normalizeHost endpoint.host, remotePort := endpoint.port, conversation }

/-- `TryReadKcpConversation`: the first four bytes, least significant first. -/
def tryReadKcpConversation : Bytes → Option UInt32
  | b0 :: b1 :: b2 :: b3 :: _ =>
    some (b0.toUInt32 ||| (b1.toUInt32 <<< 8) ||| (b2.toUInt32 <<< 16) ||| (b3.toUInt32 <<< 24))
  | _ => none

structure ClientNetwork where
  ownerNodeId : Bytes
  sessions : Table UInt64 ClientSession := ∅
  transportIndex : Table TransportKey UInt64 := ∅
  nextSessionId : UInt64 := 1
  initialized : Bool := true
  running : Bool := false
  deriving DecidableEq

namespace ClientNetwork

variable (net : ClientNetwork)

/-- `Run`; `ok` is the outcome of opening the listener and the timer. -/
def run (ok : Bool) : Option ClientNetwork :=
  if !net.initialized then none
  else if net.running then some net
  else if ok then some { net with running := true }
  else none

def stop : ClientNetwork := { net with running := false }

def findSession (sessionId : UInt64) : Option ClientSession := net.sessions[sessionId]?

def hasConversation (conversation : UInt32) : Bool :=
  net.sessions.any fun _ session => session.conversation == conversation

def findSessionByTransport (conversation : UInt32) (endpoint : Endpoint) : Option ClientSession :=
  match net.transportIndex[makeTransportKey endpoint conversation]? with
  | none => none
  | some sessionId => net.findSession sessionId

/-- The next id, never zero. -/
def succSessionId (id : UInt64) : UInt64 := if id + 1 = 0 then 1 else id + 1

/-- `ConsumeNextSessionId`. Among one more id than there are sessions one is
free; `none` only when every id is in use, where the loop would not end. -/
def consumeNextSessionId : Option (UInt64 × ClientNetwork) :=
  match scan succSessionId (fun id => net.sessions.contains id) (net.sessions.size + 1)
      (if net.nextSessionId = 0 then 1 else net.nextSessionId) with
  | none => none
  | some id => some (id, { net with nextSessionId := succSessionId id })

/-- `CreateSession`: the network with the new session. A session that cannot be
set up has used up an id. -/
def createSession (conversation : UInt32) (endpoint : Endpoint) (kcpValid : Bool) (connectedAtUnixMs : UInt64) :
    ClientNetwork × Option ClientSession :=
  let normalized : Endpoint := { host := normalizeHost endpoint.host, port := endpoint.port }
  let key := makeTransportKey normalized conversation
  if !net.initialized then (net, none)
  else if normalized.host = [] ∨ normalized.port = 0 then (net, none)
  else if net.transportIndex.contains key then (net, none)
  else
    match net.consumeNextSessionId with
    | none => (net, none)
    | some (id, net) =>
      match ClientSession.create net.ownerNodeId id conversation normalized kcpValid connectedAtUnixMs with
      | .error _ => (net, none)
      | .ok session =>
        ({ net with sessions := net.sessions.insert id session, transportIndex := net.transportIndex.insert key id },
          some session)

def removeSession (sessionId : UInt64) : ClientNetwork :=
  match net.sessions[sessionId]? with
  | none => net
  | some session =>
    { net with
      sessions := net.sessions.erase sessionId
      transportIndex := net.transportIndex.erase (makeTransportKey session.remoteEndpoint session.conversation) }

/-- A change of one session in place. -/
def modifySession (sessionId : UInt64) (f : ClientSession → ClientSession) : ClientNetwork :=
  match net.sessions[sessionId]? with
  | none => net
  | some session => { net with sessions := net.sessions.insert sessionId (f session) }

/-- `SendPayload`: whether the payload was accepted, and the session touched if
so. `kcpOk` is the outcome of queueing it and of the update. -/
def sendPayload (sessionId : UInt64) (payload : Bytes) (kcpOk : Bool) (now : UInt64) : ClientNetwork × Bool :=
  if !net.running ∨ payload = [] then (net, false)
  else
    match net.findSession sessionId with
    | none => (net, false)
    | some _ => if kcpOk then (net.modifySession sessionId (·.touch now), true) else (net, false)

/-! ## What the operations do to the sessions -/

/-- The same sessions up to their mutable parts. -/
def SameSessions (a b : ClientNetwork) : Prop :=
  ∀ id : UInt64, Option.Rel ClientSession.SameLink a.sessions[id]? b.sessions[id]?

variable {net}

theorem SameSessions.refl (a : ClientNetwork) : SameSessions a a := by
  intro id
  cases a.sessions[id]? with
  | none => exact .none
  | some session => exact .some (.refl session)

theorem SameSessions.of_eq {a b : ClientNetwork} (h : b.sessions = a.sessions) : SameSessions a b := by
  intro id
  rw [h]
  exact SameSessions.refl a id

/-- A session of either side is one of the other. -/
theorem SameSessions.isSome {a b : ClientNetwork} (h : SameSessions a b) (id : UInt64) :
    b.sessions[id]?.isSome = a.sessions[id]?.isSome := by
  have rel := h id
  generalize a.sessions[id]? = x at rel
  generalize b.sessions[id]? = y at rel
  cases rel with
  | none => rfl
  | some same => rfl

theorem SameSessions.back {a b : ClientNetwork} (h : SameSessions a b) {id : UInt64} {session : ClientSession}
    (found : b.sessions[id]? = some session) : ∃ old, a.sessions[id]? = some old ∧ old.SameLink session := by
  have rel := h id
  rw [found] at rel
  cases ha : a.sessions[id]? with
  | none => rw [ha] at rel; cases rel
  | some old =>
    rw [ha] at rel
    cases rel with
    | some same => exact ⟨old, rfl, same⟩

theorem modifySession_same {sessionId : UInt64} {f : ClientSession → ClientSession}
    (keeps : ∀ session : ClientSession, net.sessions[sessionId]? = some session → session.SameLink (f session)) :
    SameSessions net (net.modifySession sessionId f) := by
  unfold modifySession
  split
  · exact .refl net
  · rename_i session found
    intro id
    by_cases same : sessionId = id
    · subst same
      simp only [found, Table.get_insert_self]
      exact .some (keeps session found)
    · simp only [Table.get_insert_of_ne _ _ same]
      exact SameSessions.refl net id

theorem sendPayload_same (net : ClientNetwork) (sessionId : UInt64) (payload : Bytes) (kcpOk : Bool) (now : UInt64) :
    SameSessions net (net.sendPayload sessionId payload kcpOk now).1 := by
  unfold sendPayload
  split
  · exact .refl net
  · split
    · exact .refl net
    · split
      · exact modifySession_same fun session _ => ClientSession.touch_sameLink session now
      · exact .refl net

theorem run_sessions {net' : ClientNetwork} {ok : Bool} (h : net.run ok = some net') : net'.sessions = net.sessions := by
  unfold run at h
  split at h
  · cases h
  split at h
  · cases h
    rfl
  split at h
  · cases h
    rfl
  · cases h

/-- The id handed out is free. -/
theorem consumeNextSessionId_some {id : UInt64} {net' : ClientNetwork}
    (h : net.consumeNextSessionId = some (id, net')) :
    net.sessions[id]? = none ∧ net'.sessions = net.sessions := by
  unfold consumeNextSessionId at h
  split at h
  · cases h
  · rename_i found
    cases h
    have free := (scan_some found).1
    refine ⟨?_, rfl⟩
    simpa [← Std.ExtTreeMap.isSome_getElem?_eq_contains] using free

/-- What a new session is: under a fresh id, with the given conversation and the
normalized endpoint. -/
structure Opened (before after : ClientNetwork) (conversation : UInt32) (endpoint : Endpoint)
    (session : ClientSession) : Prop where
  fresh : before.sessions[session.sessionId]? = none
  stored : after.sessions = before.sessions.insert session.sessionId session
  conversation : session.conversation = conversation
  host : session.remoteEndpoint.host = normalizeHost endpoint.host
  state : session.sessionState = .created

theorem createSession_some {conversation : UInt32} {endpoint : Endpoint} {kcpValid : Bool} {now : UInt64}
    {session : ClientSession} (h : (net.createSession conversation endpoint kcpValid now).2 = some session) :
    Opened net (net.createSession conversation endpoint kcpValid now).1 conversation endpoint session := by
  unfold createSession at h ⊢
  simp only at h ⊢
  split
  · rename_i notReady; rw [if_pos notReady] at h; cases h
  · rename_i ready
    rw [if_neg ready] at h
    split
    · rename_i bad; rw [if_pos bad] at h; cases h
    · rename_i good
      rw [if_neg good] at h
      split
      · rename_i taken; rw [if_pos taken] at h; cases h
      · rename_i free
        rw [if_neg free] at h
        cases allocated : net.consumeNextSessionId with
        | none => rw [allocated] at h; cases h
        | some result =>
          obtain ⟨id, net'⟩ := result
          rw [allocated] at h
          simp only at h ⊢
          obtain ⟨unused, same⟩ := consumeNextSessionId_some allocated
          cases made : ClientSession.create net'.ownerNodeId id conversation
              { host := normalizeHost endpoint.host, port := endpoint.port } kcpValid now with
          | error e => rw [made] at h; cases h
          | ok created =>
            rw [made] at h
            cases h
            obtain ⟨hid, hconv, hend, hstate, -⟩ := ClientSession.create_ok made
            exact ⟨hid ▸ unused, by simp only [hid, same], hconv, by rw [hend], hstate⟩

theorem createSession_none {conversation : UInt32} {endpoint : Endpoint} {kcpValid : Bool} {now : UInt64}
    (h : (net.createSession conversation endpoint kcpValid now).2 = none) :
    (net.createSession conversation endpoint kcpValid now).1.sessions = net.sessions := by
  unfold createSession at h ⊢
  simp only at h ⊢
  split
  · rfl
  · split
    · rfl
    · split
      · rfl
      · rename_i ready good free
        rw [if_neg ready, if_neg good, if_neg free] at h
        cases allocated : net.consumeNextSessionId with
        | none => rfl
        | some result =>
          obtain ⟨id, net'⟩ := result
          rw [allocated] at h
          simp only at h ⊢
          obtain ⟨-, same⟩ := consumeNextSessionId_some allocated
          cases made : ClientSession.create net'.ownerNodeId id conversation
              { host := normalizeHost endpoint.host, port := endpoint.port } kcpValid now with
          | error e => simp only [same]
          | ok created => rw [made] at h; cases h

theorem removeSession_sessions (net : ClientNetwork) (sessionId : UInt64) :
    (net.removeSession sessionId).sessions = net.sessions.erase sessionId := by
  unfold removeSession
  split
  · rename_i missing
    ext1 id
    by_cases same : sessionId = id
    · subst same
      rw [missing, Table.get_erase_self]
    · rw [Table.get_erase_of_ne _ same]
  · rfl

/-- A new session that is removed again leaves no trace among the sessions. -/
theorem Opened.removed {before after : ClientNetwork} {conversation : UInt32} {endpoint : Endpoint}
    {session : ClientSession} (h : Opened before after conversation endpoint session) :
    (after.removeSession session.sessionId).sessions = before.sessions := by
  rw [removeSession_sessions, h.stored]
  ext1 id
  by_cases same : session.sessionId = id
  · subst same
    rw [Table.get_erase_self, h.fresh]
  · rw [Table.get_erase_of_ne _ same, Table.get_insert_of_ne _ _ same]

/-- A change of the new session in place. -/
theorem Opened.modified {before after : ClientNetwork} {conversation : UInt32} {endpoint : Endpoint}
    {session : ClientSession} (h : Opened before after conversation endpoint session)
    (f : ClientSession → ClientSession) :
    (after.modifySession session.sessionId f).sessions = before.sessions.insert session.sessionId (f session) := by
  have found : after.sessions[session.sessionId]? = some session := by rw [h.stored, Table.get_insert_self]
  unfold modifySession
  rw [found]
  ext1 id
  by_cases same : session.sessionId = id
  · subst same
    rw [Table.get_insert_self, Table.get_insert_self]
  · rw [Table.get_insert_of_ne _ _ same, Table.get_insert_of_ne _ _ same, h.stored, Table.get_insert_of_ne _ _ same]

theorem hasConversation_iff (net : ClientNetwork) (conversation : UInt32) :
    net.hasConversation conversation = true ↔
      ∃ (id : UInt64) (session : ClientSession), net.sessions[id]? = some session ∧
        session.conversation = conversation := by
  unfold hasConversation
  rw [Table.any_iff]
  simp only [beq_iff_eq]

end ClientNetwork

end XServer.Node
