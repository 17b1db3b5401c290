import XServer.Net.Register

/-!
# Client sessions

`node/ClientSession.cpp`: the lifecycle and the route state of one client.
The constructor's checks are fields, so a session that exists is valid. The KCP
peer inside a session appears only through its conversation id.
-/

namespace XServer.Node
open XServer.Lib.Wire XServer.Net

/-- How far a session is. -/
inductive ClientSessionState where
  | created
  | authenticating
  | active
  | closing
  | closed
  deriving DecidableEq, Repr

/-- How far the way from the client to a Game is. -/
inductive ClientRouteState where
  | unassigned
  | selecting
  | bound
  | routeLost
  | released
  deriving DecidableEq, Repr

/-- `ClientSessionErrorCode`, without `None`. -/
inductive ClientSessionErrorCode where
  | invalidArgument
  | invalidState
  | invalidSessionStateTransition
  | invalidRouteStateTransition
  | invalidRouteTarget
  deriving DecidableEq, Repr

/-- The Game that a route leads to. -/
structure ClientRouteTarget where
  gameNodeId : Bytes
  innerNetworkEndpoint : Endpoint
  routeEpoch : UInt64
  deriving DecidableEq, Repr

/-- A session and the checks of its constructor. -/
structure ClientSession where
  gateNodeId : Bytes
  sessionId : UInt64
  conversation : UInt32
  remoteEndpoint : Endpoint
  gateNodeId_ne : gateNodeId ≠ []
  sessionId_ne : sessionId ≠ 0
  host_ne : remoteEndpoint.host ≠ []
  port_ne : remoteEndpoint.port ≠ 0
  sessionState : ClientSessionState := .created
  routeState : ClientRouteState := .unassigned
  routeTarget : Option ClientRouteTarget := none
  connectedAtUnixMs : UInt64 := 0
  authenticatedAtUnixMs : UInt64 := 0
  lastActiveUnixMs : UInt64 := 0
  closedAtUnixMs : UInt64 := 0
  closeReasonCode : Int32 := 0
  deriving DecidableEq

/-- `ClientSessionStateName`. -/
def clientSessionStateName : ClientSessionState → String
  | .created => "Created"
  | .authenticating => "Authenticating"
  | .active => "Active"
  | .closing => "Closing"
  | .closed => "Closed"

/-- `ClientRouteStateName`. -/
def clientRouteStateName : ClientRouteState → String
  | .unassigned => "Unassigned"
  | .selecting => "Selecting"
  | .bound => "Bound"
  | .routeLost => "RouteLost"
  | .released => "Released"

/-- What `BindRoute` asks of a target. -/
structure ClientRouteTarget.Complete (target : ClientRouteTarget) : Prop where
  gameNodeId : target.gameNodeId ≠ []
  host : target.innerNetworkEndpoint.host ≠ []
  port : target.innerNetworkEndpoint.port ≠ 0
  routeEpoch : target.routeEpoch ≠ 0

/-- `ClientSession` of the given options; `kcpValid` is the outcome of setting up
the KCP peer. -/
def ClientSession.create (gateNodeId : Bytes) (sessionId : UInt64) (conversation : UInt32) (remoteEndpoint : Endpoint)
    (kcpValid : Bool) (connectedAtUnixMs : UInt64) : Except ClientSessionErrorCode ClientSession :=
  if gate : gateNodeId = [] then .error .invalidArgument
  else if id : sessionId = 0 then .error .invalidArgument
  else if host : remoteEndpoint.host = [] then .error .invalidArgument
  else if port : remoteEndpoint.port = 0 then .error .invalidArgument
  else if kcpValid then
    .ok {
      gateNodeId, sessionId, conversation, remoteEndpoint, connectedAtUnixMs
      gateNodeId_ne := gate, sessionId_ne := id, host_ne := host, port_ne := port }
  else .error .invalidState

namespace ClientSession

/-- A failed operation: the code and `last_error_message`. -/
structure Failure where
  code : ClientSessionErrorCode
  message : Bytes
  deriving DecidableEq, Repr

/-- `CanTransitionTo`: a session may stay where it is. -/
def canTransitionTo (session : ClientSession) (next : ClientSessionState) : Bool :=
  session.sessionState == next ||
    match session.sessionState with
    | .created => next == .authenticating || next == .active || next == .closing || next == .closed
    | .authenticating => next == .active || next == .closing || next == .closed
    | .active => next == .closing || next == .closed
    | .closing => next == .closed
    | .closed => false

/-- `CanTransitionRouteTo`: also a route may stay where it is. -/
def canTransitionRouteTo (session : ClientSession) (next : ClientRouteState) : Bool :=
  session.routeState == next ||
    match session.routeState with
    | .unassigned => next == .selecting || next == .bound || next == .released
    | .selecting => next == .unassigned || next == .bound || next == .released
    | .bound => next == .routeLost || next == .released
    | .routeLost => next == .bound || next == .released
    | .released => false

/-- The change `f`, if the session may move to `next`. -/
def transition (session : ClientSession) (next : ClientSessionState) (f : ClientSession → ClientSession) :
    Except Failure ClientSession :=
  if session.canTransitionTo next then .ok { f session with sessionState := next }
  else .error ⟨.invalidSessionStateTransition, text ("Client session cannot transition from " ++
    clientSessionStateName session.sessionState ++ " to " ++ clientSessionStateName next ++ ".")⟩

/-- The change of the route, if it may move to `next`. -/
def transitionRoute (session : ClientSession) (next : ClientRouteState)
    (target : Option ClientRouteTarget → Option ClientRouteTarget) : Except Failure ClientSession :=
  if session.canTransitionRouteTo next then
    .ok { session with routeState := next, routeTarget := target session.routeTarget }
  else .error ⟨.invalidRouteStateTransition, text ("Client session cannot transition route state from " ++
    clientRouteStateName session.routeState ++ " to " ++ clientRouteStateName next ++ ".")⟩

/-- `BeginAuthentication`. -/
def beginAuthentication (session : ClientSession) : Except Failure ClientSession :=
  session.transition .authenticating id

/-- `Activate`; time 0 leaves the time of the authentication as it is. -/
def activate (session : ClientSession) (authenticatedAtUnixMs : UInt64) : Except Failure ClientSession :=
  session.transition .active fun s =>
    if authenticatedAtUnixMs ≠ 0 then { s with authenticatedAtUnixMs } else s

/-- `BeginClosing`. -/
def beginClosing (session : ClientSession) : Except Failure ClientSession := session.transition .closing id

/-- `Close`. -/
def close (session : ClientSession) (closeReasonCode : Int32) (closedAtUnixMs : UInt64) :
    Except Failure ClientSession :=
  if closedAtUnixMs = 0 then
    .error ⟨.invalidArgument, text "Client session closed_at_unix_ms must be greater than zero."⟩
  else session.transition .closed fun s => { s with closeReasonCode, closedAtUnixMs }

/-- `SetRouteSelecting`, which drops the target. -/
def setRouteSelecting (session : ClientSession) : Except Failure ClientSession :=
  session.transitionRoute .selecting fun _ => none

/-- `BindRoute`; an incomplete target is refused before the route is asked. -/
def bindRoute (session : ClientSession) (target : ClientRouteTarget) : Except Failure ClientSession :=
  if target.gameNodeId = [] ∨ target.innerNetworkEndpoint.host = [] ∨ target.innerNetworkEndpoint.port = 0 ∨
      target.routeEpoch = 0 then
    .error ⟨.invalidRouteTarget, text "Client route target must include nodeId, endpoint, and routeEpoch."⟩
  else session.transitionRoute .bound fun _ => some target

/-- `MarkRouteLost`, which keeps the target. -/
def markRouteLost (session : ClientSession) : Except Failure ClientSession := session.transitionRoute .routeLost id

/-- `ReleaseRoute`. -/
def releaseRoute (session : ClientSession) : Except Failure ClientSession :=
  session.transitionRoute .released fun _ => none

/-- `Touch`; time 0 is no time. -/
def touch (session : ClientSession) (lastActiveUnixMs : UInt64) : ClientSession :=
  if lastActiveUnixMs ≠ 0 then { session with lastActiveUnixMs } else session

/-! ## What an accepted operation does -/

/-- An accepted change of the route. -/
theorem transitionRoute_ok {session session' : ClientSession} {next : ClientRouteState}
    {target : Option ClientRouteTarget → Option ClientRouteTarget}
    (ok : session.transitionRoute next target = .ok session') :
    session.canTransitionRouteTo next = true ∧
      session' = { session with routeState := next, routeTarget := target session.routeTarget } := by
  unfold transitionRoute at ok
  split at ok
  · rename_i allowed
    cases ok
    exact ⟨allowed, rfl⟩
  · cases ok

/-- An accepted binding. -/
theorem bindRoute_ok {session session' : ClientSession} {target : ClientRouteTarget}
    (ok : session.bindRoute target = .ok session') :
    target.Complete ∧ session' = { session with routeState := .bound, routeTarget := some target } := by
  unfold bindRoute at ok
  split at ok
  · cases ok
  · rename_i complete
    simp only [not_or] at complete
    obtain ⟨-, moved⟩ := transitionRoute_ok ok
    exact ⟨⟨complete.1, complete.2.1, complete.2.2.1, complete.2.2.2⟩, moved⟩

/-! ## What identifies a session never changes -/

/-- The id, the conversation and the remote endpoint of two sessions agree. -/
structure SameLink (a b : ClientSession) : Prop where
  sessionId : b.sessionId = a.sessionId
  conversation : b.conversation = a.conversation
  remoteEndpoint : b.remoteEndpoint = a.remoteEndpoint

theorem SameLink.refl (a : ClientSession) : SameLink a a := ⟨rfl, rfl, rfl⟩

theorem SameLink.trans {a b c : ClientSession} (ab : SameLink a b) (bc : SameLink b c) : SameLink a c :=
  ⟨bc.sessionId.trans ab.sessionId, bc.conversation.trans ab.conversation, bc.remoteEndpoint.trans ab.remoteEndpoint⟩

theorem touch_sameLink (session : ClientSession) (now : UInt64) : SameLink session (session.touch now) := by
  unfold touch
  split <;> exact ⟨rfl, rfl, rfl⟩

theorem transitionRoute_sameLink {session session' : ClientSession} {next : ClientRouteState}
    {target : Option ClientRouteTarget → Option ClientRouteTarget}
    (h : session.transitionRoute next target = .ok session') : SameLink session session' := by
  obtain ⟨-, rfl⟩ := transitionRoute_ok h
  exact ⟨rfl, rfl, rfl⟩

theorem bindRoute_sameLink {session session' : ClientSession} {target : ClientRouteTarget}
    (h : session.bindRoute target = .ok session') : SameLink session session' := by
  obtain ⟨-, rfl⟩ := bindRoute_ok h
  exact ⟨rfl, rfl, rfl⟩

theorem activate_sameLink {session session' : ClientSession} {now : UInt64}
    (h : session.activate now = .ok session') : SameLink session session' := by
  unfold activate transition at h
  split at h
  · cases h
    simp only
    split <;> exact ⟨rfl, rfl, rfl⟩
  · cases h

/-- A session that was created is new, and the one asked for. -/
theorem create_ok {gateNodeId : Bytes} {sessionId : UInt64} {conversation : UInt32} {remoteEndpoint : Endpoint}
    {kcpValid : Bool} {now : UInt64} {session : ClientSession}
    (h : create gateNodeId sessionId conversation remoteEndpoint kcpValid now = .ok session) :
    session.sessionId = sessionId ∧ session.conversation = conversation ∧ session.remoteEndpoint = remoteEndpoint ∧
      session.sessionState = .created ∧ sessionId ≠ 0 := by
  unfold create at h
  repeat' split at h
  all_goals try cases h
  rename_i id _ _ _
  exact ⟨rfl, rfl, rfl, rfl, id⟩

end ClientSession

end XServer.Node
