import XServer.Node.GateAct
import XServer.Node.GateBook
import XServer.Node.GmPeers

/-!
# The two maps of the session manager

The rest of `node/InnerNetworkSessionManager.cpp`, and what its two maps have to
do with each other: the routing index is exactly the inverse of the routing ids
in the entries, and every entry is filed under its own node id (`Corresponds`).
The manager hands out entries to be changed in place, and the nodes write node
ids and routing ids into them; `session_maps_correspond` follows the maps through
any run of the GM and of a Gate, with calls of the manager anywhere in between.
-/

namespace XServer.Node
open XServer.Lib XServer.Lib.Wire XServer.Net XServer.Core

namespace InnerNetworkSessionManager

/-! ## The other operations -/

/-- What an operation leaves behind and the error it returns, if any. -/
abbrev Outcome := InnerNetworkSessionManager × Option InnerNetworkSessionManagerErrorCode

def unregisterByNodeId (m : InnerNetworkSessionManager) (nodeId : Bytes) : Outcome :=
  if nodeId = [] then (m, some .invalidNodeId)
  else
    match m.entriesByNodeId[nodeId]? with
    | none => (m, some .nodeNotFound)
    | some session =>
      ({ entriesByNodeId := m.entriesByNodeId.erase nodeId
         nodeIdByRoutingKey :=
          if session.routingId ≠ [] then m.nodeIdByRoutingKey.erase session.routingId else m.nodeIdByRoutingKey }, none)

/-- An index entry without its session is dropped, and the call fails. -/
def unregisterByRoutingId (m : InnerNetworkSessionManager) (routingId : Bytes) : Outcome :=
  if routingId = [] then (m, some .invalidArgument)
  else
    match m.nodeIdByRoutingKey[routingId]? with
    | none => (m, some .routingIdNotFound)
    | some nodeId =>
      let index := m.nodeIdByRoutingKey.erase routingId
      match m.entriesByNodeId[nodeId]? with
      | none => ({ m with nodeIdByRoutingKey := index }, some .routingIdNotFound)
      | some _ => ({ entriesByNodeId := m.entriesByNodeId.erase nodeId, nodeIdByRoutingKey := index }, none)

/-- The body that the updates by node id share. -/
def updateByNodeId (m : InnerNetworkSessionManager) (nodeId : Bytes) (f : InnerNetworkSession → InnerNetworkSession) :
    Outcome :=
  match m.findByNodeId nodeId with
  | none => (m, some (if nodeId = [] then .invalidNodeId else .nodeNotFound))
  | some _ => (m.modify nodeId f, none)

/-- The body that the updates by routing id share. -/
def updateByRoutingId (m : InnerNetworkSessionManager) (routingId : Bytes)
    (f : InnerNetworkSession → InnerNetworkSession) : Outcome :=
  match m.findByRoutingId routingId with
  | none => (m, some (if routingId = [] then .invalidArgument else .routingIdNotFound))
  | some _ => (m.modifyByRoutingId routingId f, none)

def updateHeartbeatByNodeId (m : InnerNetworkSessionManager) (nodeId : Bytes) (lastHeartbeatAtUnixMs : UInt64)
    (load : LoadSnapshot) : Outcome :=
  m.updateByNodeId nodeId fun session => { session with lastHeartbeatAtUnixMs, load }

def updateHeartbeatByRoutingId (m : InnerNetworkSessionManager) (routingId : Bytes) (lastHeartbeatAtUnixMs : UInt64)
    (load : LoadSnapshot) : Outcome :=
  m.updateByRoutingId routingId fun session => { session with lastHeartbeatAtUnixMs, load }

def updateInnerNetworkReadyByNodeId (m : InnerNetworkSessionManager) (nodeId : Bytes) (innerNetworkReady : Bool) :
    Outcome :=
  m.updateByNodeId nodeId fun session => { session with innerNetworkReady }

def updateInnerNetworkReadyByRoutingId (m : InnerNetworkSessionManager) (routingId : Bytes) (innerNetworkReady : Bool) :
    Outcome :=
  m.updateByRoutingId routingId fun session => { session with innerNetworkReady }

/-- `Snapshot`: the sessions in the order of their node ids. -/
def snapshot (m : InnerNetworkSessionManager) : List InnerNetworkSession := m.entriesByNodeId.toList.map (·.2)

/-- A loop over a snapshot that looks every session it selects up again, by the
node id that the session carries. -/
def updateSnapshot (m : InnerNetworkSessionManager) (selects : InnerNetworkSession → Bool)
    (f : InnerNetworkSession → InnerNetworkSession) : InnerNetworkSessionManager :=
  m.snapshot.foldl (fun m entry => if selects entry then m.modify entry.nodeId f else m) m

end InnerNetworkSessionManager

/-- A call that changes the manager. -/
inductive SessionCall where
  | register (registration : InnerNetworkSessionRegistration)
  | unregisterByNodeId (nodeId : Bytes)
  | unregisterByRoutingId (routingId : Bytes)
  | updateHeartbeatByNodeId (nodeId : Bytes) (lastHeartbeatAtUnixMs : UInt64) (load : LoadSnapshot)
  | updateHeartbeatByRoutingId (routingId : Bytes) (lastHeartbeatAtUnixMs : UInt64) (load : LoadSnapshot)
  | updateInnerNetworkReadyByNodeId (nodeId : Bytes) (innerNetworkReady : Bool)
  | updateInnerNetworkReadyByRoutingId (routingId : Bytes) (innerNetworkReady : Bool)
  | clear

namespace InnerNetworkSessionManager

def call (m : InnerNetworkSessionManager) : SessionCall → Outcome
  | .register registration =>
    match m.register registration with
    | .error e => (m, some e)
    | .ok next => (next, none)
  | .unregisterByNodeId nodeId => m.unregisterByNodeId nodeId
  | .unregisterByRoutingId routingId => m.unregisterByRoutingId routingId
  | .updateHeartbeatByNodeId nodeId at' load => m.updateHeartbeatByNodeId nodeId at' load
  | .updateHeartbeatByRoutingId routingId at' load => m.updateHeartbeatByRoutingId routingId at' load
  | .updateInnerNetworkReadyByNodeId nodeId ready => m.updateInnerNetworkReadyByNodeId nodeId ready
  | .updateInnerNetworkReadyByRoutingId routingId ready => m.updateInnerNetworkReadyByRoutingId routingId ready
  | .clear => ({}, none)

/-! ## The correspondence -/

/-- The routing id that a session is indexed by; an empty one is none. -/
def route (session : InnerNetworkSession) : Option Bytes :=
  if session.routingId = [] then none else some session.routingId

theorem route_eq_some {session : InnerNetworkSession} {routingId : Bytes} :
    route session = some routingId ↔ routingId ≠ [] ∧ session.routingId = routingId := by
  unfold route
  split
  · rename_i unrouted
    refine ⟨nofun, ?_⟩
    rintro ⟨routed, rfl⟩
    exact absurd unrouted routed
  · rename_i routed
    refine ⟨?_, fun same => congrArg some same.2⟩
    intro same
    cases same
    exact ⟨routed, rfl⟩

/-- The index is the inverse of the routing ids in the entries, and entries are
filed under their own node ids. -/
structure Corresponds (m : InnerNetworkSessionManager) : Prop where
  inverse : Inverse m.entriesByNodeId m.nodeIdByRoutingKey route
  filed : ∀ {nodeId : Bytes} {session : InnerNetworkSession}, m.findByNodeId nodeId = some session →
    session.nodeId = nodeId

/-- A change that writes back the ids it finds. -/
def KeepsIds (f : InnerNetworkSession → InnerNetworkSession) (session : InnerNetworkSession) : Prop :=
  (f session).nodeId = session.nodeId ∧ (f session).routingId = session.routingId

theorem KeepsIds.route {f : InnerNetworkSession → InnerNetworkSession} {session : InnerNetworkSession}
    (keeps : KeepsIds f session) : route (f session) = route session := by
  unfold InnerNetworkSessionManager.route
  rw [keeps.2]

variable {m m' : InnerNetworkSessionManager}

theorem corresponds_empty : Corresponds {} := ⟨Inverse.empty, fun found => by simp [findByNodeId] at found⟩

theorem Corresponds.register (h : m.Corresponds) {r : InnerNetworkSessionRegistration} (accepted : m.register r = .ok m') :
    m'.Corresponds := by
  obtain ⟨fresh, entries, index⟩ := register_ok accepted
  constructor
  · rw [entries, index]
    split
    · rename_i routed
      refine h.inverse.insertBound fresh ?_ (route_eq_some.mpr ⟨routed, rfl⟩)
      -- a routing id that is taken would have been refused
      unfold InnerNetworkSessionManager.register at accepted
      split at accepted
      · cases accepted
      split at accepted
      · cases accepted
      split at accepted
      · cases accepted
      · rename_i free
        simpa [routed, ← Std.ExtTreeMap.isSome_getElem?_eq_contains] using free
    · rename_i unrouted
      rw [ne_eq, Decidable.not_not] at unrouted
      exact h.inverse.insertFresh fresh (if_pos unrouted)
  · intro nodeId session found
    rw [findByNodeId, entries] at found
    by_cases same : r.nodeId = nodeId
    · rw [same, Table.get_insert_self] at found
      cases found
      exact same
    · rw [Table.get_insert_of_ne _ _ same] at found
      exact h.filed found

theorem Corresponds.modify (h : m.Corresponds) {nodeId : Bytes} {f : InnerNetworkSession → InnerNetworkSession}
    (keeps : ∀ session, m.findByNodeId nodeId = some session → KeepsIds f session) : (m.modify nodeId f).Corresponds := by
  constructor
  · unfold InnerNetworkSessionManager.modify
    split
    · exact h.inverse
    · rename_i session found
      exact h.inverse.touch found (keeps session found).route
  · intro other session found
    rw [findByNodeId_modify] at found
    split at found
    · rename_i same
      subst same
      obtain ⟨before, filed, rfl⟩ := Option.map_eq_some_iff.mp found
      exact (keeps before filed).1.trans (h.filed filed)
    · exact h.filed found

/-- A session found by its routing id carries it. -/
theorem Corresponds.found (h : m.Corresponds) {routingId : Bytes} {session : InnerNetworkSession} :
    m.findByRoutingId routingId = some session ↔
      routingId ≠ [] ∧ session.routingId = routingId ∧ m.findByNodeId session.nodeId = some session := by
  constructor
  · intro found
    obtain ⟨nodeId, indexed, filed⟩ := findByRoutingId_some found
    obtain ⟨session', held, routed⟩ := (h.inverse routingId nodeId).mp indexed
    rw [show m.entriesByNodeId[nodeId]? = some session from filed] at held
    cases held
    obtain ⟨nonempty, same⟩ := route_eq_some.mp routed
    exact ⟨nonempty, same, h.filed filed ▸ filed⟩
  · rintro ⟨nonempty, same, filed⟩
    have indexed := (h.inverse routingId session.nodeId).mpr ⟨session, filed, route_eq_some.mpr ⟨nonempty, same⟩⟩
    unfold findByRoutingId
    rw [if_neg nonempty, indexed]
    exact filed

theorem Corresponds.modifyByRoutingId_eq (h : m.Corresponds) {routingId : Bytes} {session : InnerNetworkSession}
    (found : m.findByRoutingId routingId = some session) (f : InnerNetworkSession → InnerNetworkSession) :
    m.modifyByRoutingId routingId f = m.modify session.nodeId f := by
  obtain ⟨nonempty, -, -⟩ := h.found.mp found
  obtain ⟨nodeId, indexed, filed⟩ := findByRoutingId_some found
  unfold InnerNetworkSessionManager.modifyByRoutingId
  rw [if_neg nonempty, indexed, h.filed filed]

theorem Corresponds.modifyByRoutingId (h : m.Corresponds) {routingId : Bytes}
    {f : InnerNetworkSession → InnerNetworkSession}
    (keeps : ∀ session, session.routingId = routingId → KeepsIds f session) : (m.modifyByRoutingId routingId f).Corresponds := by
  unfold InnerNetworkSessionManager.modifyByRoutingId
  split
  · exact h
  split
  · exact h
  · rename_i nodeId indexed
    refine h.modify fun session found => keeps session ?_
    obtain ⟨session', held, routed⟩ := (h.inverse routingId nodeId).mp indexed
    rw [show m.entriesByNodeId[nodeId]? = some session from found] at held
    cases held
    exact (route_eq_some.mp routed).2

theorem Corresponds.mapSessions (h : m.Corresponds) {f : InnerNetworkSession → InnerNetworkSession}
    (keeps : ∀ session, KeepsIds f session) : (m.mapSessions f).Corresponds := by
  refine ⟨h.inverse.map fun session => (keeps session).route, fun found => ?_⟩
  rw [findByNodeId_mapSessions] at found
  obtain ⟨before, filed, rfl⟩ := Option.map_eq_some_iff.mp found
  exact (keeps before).1.trans (h.filed filed)

theorem Corresponds.erase (h : m.Corresponds) {nodeId : Bytes} {session : InnerNetworkSession}
    (found : m.entriesByNodeId[nodeId]? = some session) :
    Corresponds {
      entriesByNodeId := m.entriesByNodeId.erase nodeId
      nodeIdByRoutingKey :=
        if session.routingId ≠ [] then m.nodeIdByRoutingKey.erase session.routingId else m.nodeIdByRoutingKey } := by
  constructor
  · split
    · rename_i routed
      exact h.inverse.eraseBound found (route_eq_some.mpr ⟨routed, rfl⟩)
    · rename_i unrouted
      rw [ne_eq, Decidable.not_not] at unrouted
      exact h.inverse.eraseUnbound found (if_pos unrouted)
  · intro other session' found'
    exact h.filed (Table.get_erase_some found').2

theorem Corresponds.unregisterByNodeId (h : m.Corresponds) (nodeId : Bytes) :
    (m.unregisterByNodeId nodeId).1.Corresponds := by
  unfold InnerNetworkSessionManager.unregisterByNodeId
  split
  · exact h
  split
  · exact h
  · rename_i session found
    exact h.erase found

/-- Unregistering by routing id is unregistering the node that has it; an index
entry without its session does not occur. -/
theorem Corresponds.unregisterByRoutingId_eq (h : m.Corresponds) {routingId nodeId : Bytes}
    (indexed : m.nodeIdByRoutingKey[routingId]? = some nodeId) :
    ∃ session, m.entriesByNodeId[nodeId]? = some session ∧ session.routingId = routingId ∧ routingId ≠ [] ∧
      m.unregisterByRoutingId routingId =
        ({ entriesByNodeId := m.entriesByNodeId.erase nodeId
           nodeIdByRoutingKey := m.nodeIdByRoutingKey.erase routingId }, none) := by
  obtain ⟨session, held, routed⟩ := (h.inverse routingId nodeId).mp indexed
  obtain ⟨nonempty, same⟩ := route_eq_some.mp routed
  refine ⟨session, held, same, nonempty, ?_⟩
  unfold InnerNetworkSessionManager.unregisterByRoutingId
  rw [if_neg nonempty, indexed]
  simp only [held]

theorem Corresponds.unregisterByRoutingId (h : m.Corresponds) (routingId : Bytes) :
    (m.unregisterByRoutingId routingId).1.Corresponds := by
  cases indexed : m.nodeIdByRoutingKey[routingId]? with
  | none =>
    unfold InnerNetworkSessionManager.unregisterByRoutingId
    rw [indexed]
    split
    · exact h
    · exact h
  | some nodeId =>
    obtain ⟨session, held, rfl, nonempty, eq⟩ := h.unregisterByRoutingId_eq indexed
    have erased := h.erase held
    rw [if_pos nonempty] at erased
    rw [eq]
    exact erased

theorem Corresponds.updateByNodeId (h : m.Corresponds) (nodeId : Bytes) {f : InnerNetworkSession → InnerNetworkSession}
    (keeps : ∀ session, KeepsIds f session) : (m.updateByNodeId nodeId f).1.Corresponds := by
  unfold InnerNetworkSessionManager.updateByNodeId
  split
  · exact h
  · exact h.modify fun session _ => keeps session

theorem Corresponds.updateByRoutingId (h : m.Corresponds) (routingId : Bytes)
    {f : InnerNetworkSession → InnerNetworkSession} (keeps : ∀ session, KeepsIds f session) :
    (m.updateByRoutingId routingId f).1.Corresponds := by
  unfold InnerNetworkSessionManager.updateByRoutingId
  split
  · exact h
  · exact h.modifyByRoutingId fun session _ => keeps session

/-- Every call keeps the correspondence. -/
theorem Corresponds.call (h : m.Corresponds) (call : SessionCall) : (m.call call).1.Corresponds := by
  cases call with
  | register registration =>
    simp only [InnerNetworkSessionManager.call]
    split
    · exact h
    · rename_i next accepted
      exact h.register accepted
  | unregisterByNodeId nodeId => exact h.unregisterByNodeId nodeId
  | unregisterByRoutingId routingId => exact h.unregisterByRoutingId routingId
  | updateHeartbeatByNodeId nodeId at' load => exact h.updateByNodeId nodeId fun _ => ⟨rfl, rfl⟩
  | updateHeartbeatByRoutingId routingId at' load => exact h.updateByRoutingId routingId fun _ => ⟨rfl, rfl⟩
  | updateInnerNetworkReadyByNodeId nodeId ready => exact h.updateByNodeId nodeId fun _ => ⟨rfl, rfl⟩
  | updateInnerNetworkReadyByRoutingId routingId ready => exact h.updateByRoutingId routingId fun _ => ⟨rfl, rfl⟩
  | clear => exact corresponds_empty

theorem updateByNodeId_error {nodeId : Bytes} {f : InnerNetworkSession → InnerNetworkSession}
    {e : InnerNetworkSessionManagerErrorCode} (failed : (m.updateByNodeId nodeId f).2 = some e) :
    (m.updateByNodeId nodeId f).1 = m := by
  unfold updateByNodeId at failed ⊢
  split at failed
  · rfl
  · cases failed

theorem updateByRoutingId_error {routingId : Bytes} {f : InnerNetworkSession → InnerNetworkSession}
    {e : InnerNetworkSessionManagerErrorCode} (failed : (m.updateByRoutingId routingId f).2 = some e) :
    (m.updateByRoutingId routingId f).1 = m := by
  unfold updateByRoutingId at failed ⊢
  split at failed
  · rfl
  · cases failed

/-- A call that fails changes nothing. -/
theorem Corresponds.call_error (h : m.Corresponds) {call : SessionCall} {e : InnerNetworkSessionManagerErrorCode}
    (failed : (m.call call).2 = some e) : (m.call call).1 = m := by
  cases call with
  | register registration =>
    simp only [InnerNetworkSessionManager.call] at failed ⊢
    split at failed
    · rfl
    · cases failed
  | unregisterByNodeId nodeId =>
    simp only [InnerNetworkSessionManager.call, InnerNetworkSessionManager.unregisterByNodeId] at failed ⊢
    split at failed
    · rename_i unnamed
      rw [if_pos unnamed]
    · rename_i named
      rw [if_neg named]
      split at failed
      · rfl
      · cases failed
  | unregisterByRoutingId routingId =>
    simp only [InnerNetworkSessionManager.call] at failed ⊢
    cases indexed : m.nodeIdByRoutingKey[routingId]? with
    | none =>
      unfold InnerNetworkSessionManager.unregisterByRoutingId
      rw [indexed]
      split
      · rfl
      · rfl
    | some nodeId =>
      obtain ⟨session, -, -, -, eq⟩ := h.unregisterByRoutingId_eq indexed
      rw [eq] at failed
      cases failed
  | updateHeartbeatByNodeId nodeId at' load => exact updateByNodeId_error failed
  | updateHeartbeatByRoutingId routingId at' load => exact updateByRoutingId_error failed
  | updateInnerNetworkReadyByNodeId nodeId ready => exact updateByNodeId_error failed
  | updateInnerNetworkReadyByRoutingId routingId ready => exact updateByRoutingId_error failed
  | clear => cases failed

/-! ## Loops over a snapshot -/

theorem nodeIdByRoutingKey_foldl (entries : List InnerNetworkSession) (m : InnerNetworkSessionManager)
    (selects : InnerNetworkSession → Bool) (f : InnerNetworkSession → InnerNetworkSession) :
    (entries.foldl (fun m entry => if selects entry then m.modify entry.nodeId f else m) m).nodeIdByRoutingKey =
      m.nodeIdByRoutingKey := by
  induction entries generalizing m with
  | nil => rfl
  | cons entry entries ih =>
    rw [List.foldl_cons, ih]
    split
    · exact nodeIdByRoutingKey_modify ..
    · rfl

/-- The loop from a table that still has the entries to come. -/
theorem findByNodeId_foldl {selects : InnerNetworkSession → Bool} {f : InnerNetworkSession → InnerNetworkSession}
    (entries : List (Bytes × InnerNetworkSession)) (distinct : (entries.map (·.1)).Nodup)
    (filed : ∀ e ∈ entries, e.2.nodeId = e.1) (m : InnerNetworkSessionManager)
    (there : ∀ e ∈ entries, m.findByNodeId e.1 = some e.2) (a : Bytes) :
    ((entries.map (·.2)).foldl (fun m entry => if selects entry then m.modify entry.nodeId f else m) m).findByNodeId a =
      if a ∈ entries.map (·.1) then (m.findByNodeId a).map (fun s => if selects s then f s else s)
      else m.findByNodeId a := by
  induction entries generalizing m with
  | nil => rfl
  | cons e entries ih =>
    rw [List.map_cons, List.nodup_cons] at distinct
    have other : ∀ b, e.1 ≠ b →
        (if selects e.2 then m.modify e.2.nodeId f else m).findByNodeId b = m.findByNodeId b := by
      intro b ne
      split
      · rw [findByNodeId_modify, if_neg (filed e List.mem_cons_self ▸ ne)]
      · rfl
    rw [List.map_cons, List.foldl_cons, ih distinct.2 (fun e' mem => filed e' (List.mem_cons_of_mem _ mem)) _ ?_]
    · by_cases here : e.1 = a
      · subst here
        have head : e.1 ∈ (e :: entries).map (·.1) := List.mem_cons_self
        rw [if_neg distinct.1, if_pos head, there e List.mem_cons_self]
        split
        · rename_i selected
          rw [findByNodeId_modify, if_pos (filed e List.mem_cons_self), there e List.mem_cons_self]
          simp [selected]
        · rename_i passed
          rw [there e List.mem_cons_self]
          simp [passed]
      · rw [other a here]
        have member : (a ∈ (e :: entries).map (·.1)) = (a ∈ entries.map (·.1)) := by
          simp [List.map_cons, List.mem_cons, Ne.symm here]
        simp only [member]
    · intro e' mem
      have ne : e.1 ≠ e'.1 := fun same => distinct.1 (same ▸ List.mem_map_of_mem mem)
      rw [other _ ne]
      exact there e' (List.mem_cons_of_mem _ mem)

/-- Looking a session up again by the node id it carries finds that session, so
the loop changes every session it selects, once. -/
theorem Corresponds.updateSnapshot_eq (h : m.Corresponds) (selects : InnerNetworkSession → Bool)
    (f : InnerNetworkSession → InnerNetworkSession) :
    m.updateSnapshot selects f = m.mapSessions fun session => if selects session then f session else session := by
  have distinct : (m.entriesByNodeId.toList.map (·.1)).Nodup := by
    rw [Std.ExtTreeMap.map_fst_toList_eq_keys]
    exact Std.ExtTreeMap.nodup_keys
  have there : ∀ e ∈ m.entriesByNodeId.toList, m.findByNodeId e.1 = some e.2 :=
    fun e mem => Std.ExtTreeMap.mem_toList_iff_getElem?_eq_some.mp mem
  have found : ∀ a, (m.updateSnapshot selects f).findByNodeId a =
      (m.mapSessions fun session => if selects session then f session else session).findByNodeId a := by
    intro a
    refine (@findByNodeId_foldl selects f m.entriesByNodeId.toList distinct (fun e mem => h.filed (there e mem)) m there
      a).trans ?_
    rw [findByNodeId_mapSessions]
    split
    · rfl
    · rename_i absent
      cases held : m.findByNodeId a with
      | none => rfl
      | some session =>
        have listed := Std.ExtTreeMap.mem_toList_iff_getElem?_eq_some.mpr held
        exact absurd (List.mem_map_of_mem listed) absent
  have entries : (m.updateSnapshot selects f).entriesByNodeId =
      (m.mapSessions fun session => if selects session then f session else session).entriesByNodeId :=
    Std.ExtTreeMap.ext_getElem? fun {a} => found a
  have index : (m.updateSnapshot selects f).nodeIdByRoutingKey = m.nodeIdByRoutingKey := nodeIdByRoutingKey_foldl ..
  generalize m.updateSnapshot selects f = looped at entries index
  cases looped
  cases entries
  cases index
  rfl

theorem Corresponds.updateSnapshot (h : m.Corresponds) {selects : InnerNetworkSession → Bool}
    {f : InnerNetworkSession → InnerNetworkSession} (keeps : ∀ session, KeepsIds f session) :
    (m.updateSnapshot selects f).Corresponds := by
  rw [h.updateSnapshot_eq]
  refine h.mapSessions fun session => ?_
  unfold KeepsIds
  beta_reduce
  split
  · exact keeps session
  · exact ⟨rfl, rfl⟩

end InnerNetworkSessionManager

open InnerNetworkSessionManager

/-! ## The GM -/

namespace GmNode

theorem registrationState_keeps {m m' : InnerNetworkSessionManager} {r : InnerNetworkSessionRegistration} {now : UInt64}
    (accepted : m.register r = .ok m') :
    ∀ session, m'.findByNodeId r.nodeId = some session → KeepsIds (applyRegistrationState r now) session := by
  obtain ⟨-, entries, -⟩ := register_ok accepted
  intro session found
  rw [findByNodeId, entries, Table.get_insert_self] at found
  cases found
  exact ⟨rfl, rfl⟩

theorem timeoutSession_keeps (now : UInt64) (session : InnerNetworkSession) : KeepsIds (timeoutSession now) session := by
  unfold KeepsIds timeoutSession
  split
  · exact ⟨rfl, rfl⟩
  split
  · exact ⟨rfl, rfl⟩
  split
  · exact ⟨rfl, rfl⟩
  · exact ⟨rfl, rfl⟩

theorem step_corresponds (gm : GmNode) (input : Input) (h : gm.sessions.Corresponds) :
    (gm.step input).1.sessions.Corresponds := by
  have sessions := step_sessionStep gm input
  generalize (gm.step input).1.sessions = after at sessions ⊢
  cases sessions with
  | same => exact h
  | registered arrived envelope decoded accepted => exact (h.register accepted).modify (registrationState_keeps accepted)
  | refreshed found live => exact h.modify fun _ _ => ⟨rfl, rfl⟩
  | scanned => exact h.mapSessions (timeoutSession_keeps _)

/-- The tests on the copy of a session in the scan's snapshot. -/
def scanSelects (now : UInt64) (entry : InnerNetworkSession) : Bool :=
  !(decide (entry.lastHeartbeatAtUnixMs = 0) || decide (entry.lastHeartbeatAtUnixMs > now)) &&
    !decide (now - entry.lastHeartbeatAtUnixMs < defaultHeartbeatTimeoutMs.toUInt64)

/-- What the scan writes into the session it looked up. -/
def expire (session : InnerNetworkSession) : InnerNetworkSession :=
  if session.heartbeatTimedOut then session
  else { session with
    heartbeatTimedOut := true, innerNetworkReady := false, registered := false, connectionState := .stopped,
    lastProtocolError := text "Heartbeat timed out." }

/-- The scan, as a change of every session, is the loop of the source. -/
theorem handleTimeoutScan_loop {gm : GmNode} (h : gm.sessions.Corresponds) (env : GmEnv) :
    (gm.handleTimeoutScan env).1.sessions = gm.sessions.updateSnapshot (scanSelects env.nowUnixMs) expire := by
  have same : timeoutSession env.nowUnixMs =
      fun session => if scanSelects env.nowUnixMs session then expire session else session := by
    funext session
    unfold timeoutSession scanSelects
    by_cases unseen : (decide (session.lastHeartbeatAtUnixMs = 0) ||
        decide (session.lastHeartbeatAtUnixMs > env.nowUnixMs)) = true
    · simp only [unseen, if_true, Bool.not_true, Bool.false_and, Bool.false_eq_true, if_false]
    · by_cases recent : env.nowUnixMs - session.lastHeartbeatAtUnixMs < defaultHeartbeatTimeoutMs.toUInt64
      · simp only [unseen, recent, if_true, if_false, decide_true, Bool.not_true, Bool.and_false, Bool.false_eq_true]
      · simp only [Bool.not_eq_true] at unseen
        simp only [unseen, recent, decide_false, Bool.not_false, Bool.and_true, if_true, if_false, Bool.false_eq_true]
        rfl
  rw [h.updateSnapshot_eq, ← same]
  rfl

/-- A handler call or a call of the session manager. -/
def sessionStep (gm : GmNode) : Input ⊕ SessionCall → GmNode × List GmEvent
  | .inl input => gm.step input
  | .inr call => ({ gm with sessions := (gm.sessions.call call).1 }, [])

def sessionMachine : Machine GmNode (Input ⊕ SessionCall) GmEvent := ⟨sessionStep⟩

theorem sessionStep_corresponds (gm : GmNode) (input : Input ⊕ SessionCall) (h : gm.sessions.Corresponds) :
    (gm.sessionStep input).1.sessions.Corresponds := by
  cases input with
  | inl input => exact step_corresponds gm input h
  | inr call => exact h.call call

end GmNode

/-! ## The Gate -/

namespace InnerNetworkSession

theorem cancelHeartbeatTimer_keeps (session : InnerNetworkSession) : KeepsIds cancelHeartbeatTimer session := by
  unfold KeepsIds cancelHeartbeatTimer
  split
  · exact ⟨rfl, rfl⟩
  · exact ⟨rfl, rfl⟩

theorem startOrResetHeartbeatTimer_keeps (env : LinkEnv) (intervalMs : UInt32) (session : InnerNetworkSession) :
    KeepsIds (fun s => s.startOrResetHeartbeatTimer env intervalMs) session := by
  unfold KeepsIds startOrResetHeartbeatTimer
  simp only
  split
  · exact session.cancelHeartbeatTimer_keeps
  · exact session.cancelHeartbeatTimer_keeps

theorem sendRegisterRequest_keeps (env : LinkEnv) (target : Bytes) (request : RegisterRequest)
    (session : InnerNetworkSession) : KeepsIds (fun s => (s.sendRegisterRequest env target request).1) session := by
  unfold KeepsIds sendRegisterRequest
  beta_reduce
  split
  · exact ⟨rfl, rfl⟩
  split
  · exact ⟨rfl, rfl⟩
  split
  · exact ⟨rfl, rfl⟩
  simp only
  split
  · exact ⟨rfl, rfl⟩
  · exact ⟨rfl, rfl⟩

theorem heartbeatTick_keeps (env : LinkEnv) (target : Bytes) (session : InnerNetworkSession) :
    KeepsIds (fun s => (s.heartbeatTick env target).1) session := by
  unfold KeepsIds heartbeatTick
  beta_reduce
  split
  · unfold sendHeartbeatRequest
    split
    · exact ⟨rfl, rfl⟩
    split
    · exact ⟨rfl, rfl⟩
    simp only
    split
    · exact ⟨rfl, rfl⟩
    · exact ⟨rfl, rfl⟩
  · exact ⟨rfl, rfl⟩

theorem heartbeatSucceeded_keeps (env : LinkEnv) (response : HeartbeatSuccessResponse) (session : InnerNetworkSession) :
    KeepsIds (fun s => s.heartbeatSucceeded env response) session := by
  unfold KeepsIds heartbeatSucceeded
  simp only
  split
  · exact startOrResetHeartbeatTimer_keeps env response.heartbeatIntervalMs { session with
      heartbeatIntervalMs := response.heartbeatIntervalMs, heartbeatTimeoutMs := response.heartbeatTimeoutMs,
      lastServerNowUnixMs := response.serverNowUnixMs, lastHeartbeatAtUnixMs := env.nowUnixMs }
  · exact ⟨rfl, rfl⟩

end InnerNetworkSession

namespace GateNode

theorem registerResponse_keeps (env : GateEnv) (packet : Packet) (session : InnerNetworkSession) :
    KeepsIds (registerResponse env packet) session := by
  unfold KeepsIds registerResponse
  split
  · exact ⟨rfl, rfl⟩
  simp only
  split
  · split
    · exact ⟨rfl, rfl⟩
    · exact ⟨rfl, rfl⟩
  split
  · exact ⟨rfl, rfl⟩
  · rename_i response decoded
    have succeeded : KeepsIds (fun s => (InnerNetworkSession.registerSucceeded
        { s with registerInFlight := false, registerSeq := 0 } env.toLinkEnv response)) session := ⟨rfl, rfl⟩
    have timer := InnerNetworkSession.startOrResetHeartbeatTimer_keeps env.toLinkEnv response.heartbeatIntervalMs
      (InnerNetworkSession.registerSucceeded { session with registerInFlight := false, registerSeq := 0 } env.toLinkEnv
        response)
    exact ⟨timer.1.trans succeeded.1, timer.2.trans succeeded.2⟩

theorem heartbeatResponse_keeps (env : GateEnv) (packet : Packet) (session : InnerNetworkSession) :
    KeepsIds (heartbeatResponse env packet) session := by
  unfold KeepsIds heartbeatResponse
  split
  · exact ⟨rfl, rfl⟩
  simp only
  split
  · exact ⟨rfl, rfl⟩
  · rename_i response decoded
    exact InnerNetworkSession.heartbeatSucceeded_keeps env.toLinkEnv response { session with heartbeatSeq := 0 }

theorem resetGmSession_keeps (session : InnerNetworkSession) : KeepsIds resetGmSession session :=
  session.cancelHeartbeatTimer_keeps

theorem GmOp.keeps {request : RegisterRequest} {session session' : InnerNetworkSession} {packet : Option Bytes}
    (op : GmOp request session session' packet) :
    session'.nodeId = session.nodeId ∧ session'.routingId = session.routingId := by
  cases op with
  | ask env => exact session.sendRegisterRequest_keeps env gmRemoteNodeId request
  | tick env => exact session.heartbeatTick_keeps env gmRemoteNodeId
  | registerResponse env packet => exact registerResponse_keeps env packet session
  | heartbeatResponse env packet => exact heartbeatResponse_keeps env packet session
  | state state => exact ⟨rfl, rfl⟩
  | reset => exact resetGmSession_keeps session

theorem Act.corresponds {input : Input} {gate gate' : GateNode} {events : List GateEvent}
    (act : Act input gate events gate') (h : gate.sessions.Corresponds) : gate'.sessions.Corresponds := by
  cases act with
  | clients result => exact h
  | notify arrived kind =>
    rw [handleClusterReadyNotify_sessions]
    exact h
  | gm found op =>
    refine h.modify fun session' found' => ?_
    rw [found] at found'
    cases found'
    exact op.keeps
  | refused replies => exact h
  | registered arrived found isGame channel replies =>
    -- a Game registers again over the channel its session has already
    refine h.modify fun session' found' => ?_
    rw [found] at found'
    cases found'
    exact ⟨rfl, channel.symm⟩
  | beat arrived read found isGame registered replies =>
    -- the routing id it came over is that of the session found by it
    exact h.modifyByRoutingId fun session routed => ⟨rfl, routed.symm⟩

theorem step_corresponds (gate : GateNode) (input : Input) (h : gate.sessions.Corresponds) :
    (gate.step input).1.sessions.Corresponds :=
  @Steps.invariant _ _ _ (fun gate => gate.sessions.Corresponds) (fun _ _ _ h act => act.corresponds h) _ _ _
    (step_acts gate input) h

/-- What `ResetGameSessionStates` leaves of a Game's session. -/
def resetGameSession (session : InnerNetworkSession) : InnerNetworkSession :=
  { session with
    pid := 0, startedAtUnixMs := 0, buildVersion := [], capabilityTags := [], load := ⟨0, 0, 0, 0, 0⟩
    lastHeartbeatAtUnixMs := 0, innerNetworkReady := false, connectionState := .stopped, registerSeq := 0
    heartbeatSeq := 0, heartbeatIntervalMs := 0, heartbeatTimeoutMs := 0, lastServerNowUnixMs := 0
    lastProtocolError := [], heartbeatTimedOut := false, registered := false, registerInFlight := false }

def resetGameSessionStates (gate : GateNode) : GateNode :=
  { gate with sessions := gate.sessions.updateSnapshot (fun entry => decide (entry.processType = .game)) resetGameSession }

def resetGmSessionState (gate : GateNode) : GateNode :=
  { gate with sessions := gate.sessions.modify gmRemoteNodeId resetGmSession }

/-- What changes a Gate's sessions: its handlers, the resets when it is shut down,
and calls of the session manager. -/
inductive SessionInput where
  | handler (input : Input)
  | call (call : SessionCall)
  | resetGameSessionStates
  | resetGmSessionState

def sessionStep (gate : GateNode) : SessionInput → GateNode × List GateEvent
  | .handler input => gate.step input
  | .call call => ({ gate with sessions := (gate.sessions.call call).1 }, [])
  | .resetGameSessionStates => (gate.resetGameSessionStates, [])
  | .resetGmSessionState => (gate.resetGmSessionState, [])

def sessionMachine : Machine GateNode SessionInput GateEvent := ⟨sessionStep⟩

theorem sessionStep_corresponds (gate : GateNode) (input : SessionInput) (h : gate.sessions.Corresponds) :
    (gate.sessionStep input).1.sessions.Corresponds := by
  cases input with
  | handler input => exact step_corresponds gate input h
  | call call => exact h.call call
  | resetGameSessionStates => exact h.updateSnapshot fun _ => ⟨rfl, rfl⟩
  | resetGmSessionState => exact h.modify fun session _ => resetGmSession_keeps session

theorem onInit_corresponds {config : ClusterConfig} {self : NodeEntry} {boot : GateBoot} {gate : GateNode}
    (init : onInit config self boot = some gate) : gate.sessions.Corresponds := by
  simp only [onInit, Option.bind_eq_bind, Option.bind_eq_some_iff] at init
  obtain ⟨_, -, _, -, _, -, _, -, gm, gmOk, sessions, gamesOk, _, -, eq⟩ := init
  cases eq
  have start : gm.Corresponds := corresponds_empty.register (ok_of_toOption gmOk)
  exact InnerNetworkSessionManager.foldlM_register (fun _ _ _ accepted h => h.register accepted) start gamesOk

end GateNode

/-! ## Both maps, over every run -/

namespace InnerNetworkSessionManager

/-- The two maps agree, and a call that fails leaves them alone. An empty routing
id is none: such a session is not indexed. -/
structure SessionMaps (m : InnerNetworkSessionManager) : Prop where
  index : ∀ (routingId nodeId : Bytes), m.nodeIdByRoutingKey[routingId]? = some nodeId ↔
    ∃ session : InnerNetworkSession, m.entriesByNodeId[nodeId]? = some session ∧ session.nodeId = nodeId ∧
      session.routingId = routingId ∧ routingId ≠ []
  distinct : ∀ (nodeId nodeId' : Bytes) (session session' : InnerNetworkSession),
    m.entriesByNodeId[nodeId]? = some session → m.entriesByNodeId[nodeId']? = some session' → nodeId ≠ nodeId' →
    session.routingId ≠ [] → session.routingId ≠ session'.routingId
  agree : ∀ (routingId : Bytes) (session : InnerNetworkSession), m.findByRoutingId routingId = some session ↔
    routingId ≠ [] ∧ session.routingId = routingId ∧ m.findByNodeId session.nodeId = some session
  errors : ∀ (call : SessionCall) (e : InnerNetworkSessionManagerErrorCode), (m.call call).2 = some e →
    (m.call call).1 = m

theorem Corresponds.sessionMaps {m : InnerNetworkSessionManager} (h : m.Corresponds) : SessionMaps m := by
  refine ⟨fun routingId nodeId => ?_, ?_, fun routingId session => h.found, fun call e failed => h.call_error failed⟩
  · rw [h.inverse routingId nodeId]
    constructor
    · rintro ⟨session, held, routed⟩
      obtain ⟨nonempty, same⟩ := route_eq_some.mp routed
      exact ⟨session, held, h.filed held, same, nonempty⟩
    · rintro ⟨session, held, -, same, nonempty⟩
      exact ⟨session, held, route_eq_some.mpr ⟨nonempty, same⟩⟩
  · intro nodeId nodeId' session session' held held' different routed same
    apply different
    exact h.inverse.injective held held' (route_eq_some.mpr ⟨routed, rfl⟩) (route_eq_some.mpr ⟨routed, same.symm⟩)

end InnerNetworkSessionManager

/-- **The maps correspond** in every state that the GM or a Gate reaches by its
handlers and by calls of the session manager, in any order. -/
theorem session_maps_correspond :
    (∀ (gates games : List Bytes) (is : List (GmNode.Input ⊕ SessionCall)),
      SessionMaps (GmNode.sessionMachine.run (GmNode.init gates games) is).1.sessions) ∧
    ∀ (config : ClusterConfig) (self : NodeEntry) (boot : GateBoot) (gate : GateNode),
      GateNode.onInit config self boot = some gate → ∀ is : List GateNode.SessionInput,
        SessionMaps (GateNode.sessionMachine.run gate is).1.sessions := by
  constructor
  · intro gates games is
    apply Corresponds.sessionMaps
    exact @Machine.run_invariant _ _ _ GmNode.sessionMachine (fun _ _ => True) (fun gm => gm.sessions.Corresponds)
      (fun gm input h _ => GmNode.sessionStep_corresponds gm input h) _ _ corresponds_empty (Machine.along_true _ is)
  · intro config self boot gate init is
    apply Corresponds.sessionMaps
    exact @Machine.run_invariant _ _ _ GateNode.sessionMachine (fun _ _ => True) (fun gate => gate.sessions.Corresponds)
      (fun gate input h _ => GateNode.sessionStep_corresponds gate input h) _ _ (GateNode.onInit_corresponds init)
      (Machine.along_true _ is)

/-- The small Gate after its Game registered, the Game's session is dropped by its
routing id, and the Gate is shut down. -/
theorem session_maps_correspond_sample :
    SessionMaps (GateNode.sessionMachine.run GateNode.sampleGate (GateNode.sampleLogin.map .handler ++
        [.call (.unregisterByRoutingId (text "Game0")), .resetGameSessionStates, .resetGmSessionState])).1.sessions ∧
      (GateNode.sessionMachine.run GateNode.sampleGate (GateNode.sampleLogin.map .handler ++
        [.call (.unregisterByRoutingId (text "Game0"))])).1.sessions.findByNodeId (text "Game0") = none := by
  refine ⟨session_maps_correspond.2 _ _ _ _ GateNode.sampleGate_init _, ?_⟩
  decide +kernel

/-- A Gate without a routing id, as a Game enters it. -/
def sampleUnrouted (nodeId : Bytes) : InnerNetworkSessionRegistration :=
  { processType := .gate, nodeId, innerNetworkEndpoint := sampleEndpoint 5100 }

/-- Two sessions entered without a routing id have the same one, the empty one. -/
theorem unrouted_sessions_not_distinct :
    ¬ ∀ (nodeId nodeId' : Bytes) (session session' : InnerNetworkSession),
      let m := (GmNode.sessionMachine.run (GmNode.init [] [])
        [.inr (.register (sampleUnrouted (text "Gate0"))), .inr (.register (sampleUnrouted (text "Gate1")))]).1.sessions
      m.entriesByNodeId[nodeId]? = some session → m.entriesByNodeId[nodeId']? = some session' → nodeId ≠ nodeId' →
        session.routingId ≠ session'.routingId := by
  intro distinct
  have entered := distinct (text "Gate0") (text "Gate1") (sampleUnrouted (text "Gate0")).toSession
    (sampleUnrouted (text "Gate1")).toSession (by decide +kernel) (by decide +kernel) (by decide +kernel)
  exact entered rfl

end XServer.Node
