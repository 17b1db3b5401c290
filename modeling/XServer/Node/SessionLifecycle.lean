import XServer.Node.ClientSession
import XServer.Lib.Machine

/-!
# The lifecycle of a client session

Every operation of a `ClientSession` as a step. The session state and the route state
are two machines: an operation asks its own one alone, and may always move to the state
that it is in. So the session state only goes forward and the target stays with the
route state (`RouteInv`), while a closed session may be closed again and routed.
-/

namespace XServer.Node
open XServer.Lib XServer.Lib.Wire XServer.Net

/-- The operations of a session; one whose constructor failed refuses them all. -/
inductive ClientSessionOperation where
  | beginAuthentication
  | activate (authenticatedAtUnixMs : UInt64)
  | beginClosing
  | close (closeReasonCode : Int32) (closedAtUnixMs : UInt64)
  | setRouteSelecting
  | bindRoute (target : ClientRouteTarget)
  | markRouteLost
  | releaseRoute
  | touch (lastActiveUnixMs : UInt64)

/-- The place of a state in the lifecycle. -/
def ClientSessionState.rank : ClientSessionState → Nat
  | .created => 0
  | .authenticating => 1
  | .active => 2
  | .closing => 3
  | .closed => 4

namespace ClientSession

def perform (session : ClientSession) : ClientSessionOperation → Except Failure ClientSession
  | .beginAuthentication => session.beginAuthentication
  | .activate authenticatedAtUnixMs => session.activate authenticatedAtUnixMs
  | .beginClosing => session.beginClosing
  | .close closeReasonCode closedAtUnixMs => session.close closeReasonCode closedAtUnixMs
  | .setRouteSelecting => session.setRouteSelecting
  | .bindRoute target => session.bindRoute target
  | .markRouteLost => session.markRouteLost
  | .releaseRoute => session.releaseRoute
  | .touch lastActiveUnixMs => .ok (session.touch lastActiveUnixMs)

/-- An operation that fails leaves the session as it is, and a message. -/
def lifecycle : Machine ClientSession ClientSessionOperation Failure where
  step session operation :=
    match session.perform operation with
    | .ok session' => (session', [])
    | .error failure => (session, [failure])

/-- What a step keeps when every operation that succeeds keeps it. -/
theorem lifecycle_step {session : ClientSession} {operation : ClientSessionOperation} {P : ClientSession → Prop}
    (kept : P session) (performed : ∀ session', session.perform operation = .ok session' → P session') :
    P (lifecycle.step session operation).1 := by
  simp only [lifecycle]
  split
  · rename_i session' ok
    exact performed session' ok
  · exact kept

/-- A session as its constructor made it. -/
def Created (session : ClientSession) : Prop :=
  ∃ gateNodeId sessionId conversation remoteEndpoint kcpValid connectedAtUnixMs,
    create gateNodeId sessionId conversation remoteEndpoint kcpValid connectedAtUnixMs = .ok session

/-! ## The session state -/

/-- The close reason and time. -/
def closing (session : ClientSession) : Int32 × UInt64 := (session.closeReasonCode, session.closedAtUnixMs)

/-- The route state and target. -/
def routing (session : ClientSession) : ClientRouteState × Option ClientRouteTarget :=
  (session.routeState, session.routeTarget)

theorem canTransitionTo_rank {session : ClientSession} {next : ClientSessionState}
    (allowed : session.canTransitionTo next = true) : session.sessionState.rank ≤ next.rank := by
  unfold canTransitionTo at allowed
  cases state : session.sessionState <;> cases next <;> simp [state] at allowed <;> decide

theorem transition_ok {session session' : ClientSession} {next : ClientSessionState} {f : ClientSession → ClientSession}
    (ok : session.transition next f = .ok session') :
    session.canTransitionTo next = true ∧ session' = { f session with sessionState := next } := by
  unfold transition at ok
  split at ok
  · rename_i allowed
    cases ok
    exact ⟨allowed, rfl⟩
  · cases ok

/-- The session may always be closed. -/
theorem canTransitionTo_closed (session : ClientSession) : session.canTransitionTo .closed = true := by
  unfold canTransitionTo
  cases session.sessionState <;> rfl

theorem close_eq (session : ClientSession) (reason : Int32) {now : UInt64} (positive : now ≠ 0) :
    session.close reason now =
      .ok { session with closeReasonCode := reason, closedAtUnixMs := now, sessionState := .closed } := by
  unfold close transition
  rw [if_neg positive, if_pos (canTransitionTo_closed session)]

/-- The close reason and time that an operation sets. -/
def closes : ClientSessionOperation → Option (Int32 × UInt64)
  | .close reason now => if now = 0 then none else some (reason, now)
  | _ => none

/-- The operations of the route. -/
def routes : ClientSessionOperation → Bool
  | .setRouteSelecting | .bindRoute _ | .markRouteLost | .releaseRoute => true
  | _ => false

theorem step_rank (session : ClientSession) (operation : ClientSessionOperation) :
    session.sessionState.rank ≤ (lifecycle.step session operation).1.sessionState.rank := by
  refine @lifecycle_step session operation (fun s => session.sessionState.rank ≤ s.sessionState.rank) (Nat.le_refl _)
    fun session' ok => ?_
  have forward {next : ClientSessionState} {f : ClientSession → ClientSession}
      (ok : session.transition next f = .ok session') : session.sessionState.rank ≤ session'.sessionState.rank := by
    obtain ⟨allowed, rfl⟩ := transition_ok ok
    exact canTransitionTo_rank allowed
  have still {next : ClientRouteState} {target : Option ClientRouteTarget → Option ClientRouteTarget}
      (ok : session.transitionRoute next target = .ok session') :
      session.sessionState.rank ≤ session'.sessionState.rank := by
    obtain ⟨-, rfl⟩ := transitionRoute_ok ok
    exact Nat.le_refl _
  cases operation with
  | beginAuthentication => exact forward ok
  | activate now => exact forward ok
  | beginClosing => exact forward ok
  | close reason now =>
    simp only [perform, close] at ok
    split at ok
    · cases ok
    · exact forward ok
  | setRouteSelecting => exact @still .selecting (fun _ => none) ok
  | bindRoute target =>
    obtain ⟨-, rfl⟩ := bindRoute_ok ok
    exact Nat.le_refl _
  | markRouteLost => exact @still .routeLost id ok
  | releaseRoute => exact @still .released (fun _ => none) ok
  | touch now =>
    cases ok
    unfold touch
    split <;> exact Nat.le_refl _

theorem run_rank (session : ClientSession) (operations : List ClientSessionOperation) :
    session.sessionState.rank ≤ (lifecycle.run session operations).1.sessionState.rank :=
  @Machine.run_relates _ _ _ lifecycle (fun _ => True) (fun a b => a.sessionState.rank ≤ b.sessionState.rank)
    (fun _ => Nat.le_refl _) (fun _ _ _ => Nat.le_trans) (fun _ _ _ => trivial) (fun s i _ => step_rank s i)
    session trivial operations

theorem run_closed {session : ClientSession} (closed : session.sessionState = .closed)
    (operations : List ClientSessionOperation) : (lifecycle.run session operations).1.sessionState = .closed := by
  have forward := run_rank session operations
  rw [closed] at forward
  generalize (lifecycle.run session operations).1.sessionState = state at forward
  cases state <;> first | rfl | exact absurd forward (by decide)

/-! ## The close reason and time -/

theorem step_closing (session : ClientSession) (operation : ClientSessionOperation) :
    (lifecycle.step session operation).1.closing = (closes operation).getD session.closing := by
  have kept (same : closes operation = none)
      (performed : ∀ session', session.perform operation = .ok session' → session'.closing = session.closing) :
      (lifecycle.step session operation).1.closing = (closes operation).getD session.closing := by
    rw [same, Option.getD_none]
    exact @lifecycle_step session operation (fun s => s.closing = session.closing) rfl performed
  have still {next : ClientRouteState} {target : Option ClientRouteTarget → Option ClientRouteTarget}
      {session' : ClientSession} (ok : session.transitionRoute next target = .ok session') :
      session'.closing = session.closing := by
    obtain ⟨-, rfl⟩ := transitionRoute_ok ok
    rfl
  cases operation with
  | beginAuthentication =>
    refine kept rfl fun session' ok => ?_
    obtain ⟨-, rfl⟩ := transition_ok ok
    rfl
  | activate now =>
    refine kept rfl fun session' ok => ?_
    obtain ⟨-, rfl⟩ := transition_ok ok
    simp only [closing]
    split <;> rfl
  | beginClosing =>
    refine kept rfl fun session' ok => ?_
    obtain ⟨-, rfl⟩ := transition_ok ok
    rfl
  | close reason now =>
    by_cases zero : now = 0
    · refine kept (if_pos zero) fun session' ok => ?_
      simp only [perform, close] at ok
      rw [if_pos zero] at ok
      cases ok
    · have accepted : session.perform (.close reason now) =
          .ok { session with closeReasonCode := reason, closedAtUnixMs := now, sessionState := .closed } :=
        close_eq session reason zero
      simp only [lifecycle, accepted, closes]
      rw [if_neg zero]
      rfl
  | setRouteSelecting => exact kept rfl fun session' ok => @still .selecting (fun _ => none) session' ok
  | bindRoute target =>
    refine kept rfl fun session' ok => ?_
    obtain ⟨-, rfl⟩ := bindRoute_ok ok
    rfl
  | markRouteLost => exact kept rfl fun session' ok => @still .routeLost id session' ok
  | releaseRoute => exact kept rfl fun session' ok => @still .released (fun _ => none) session' ok
  | touch now =>
    refine kept rfl fun session' ok => ?_
    cases ok
    unfold touch
    split <;> rfl

/-- The close reason and time are those of the last operation that sets them. -/
theorem run_closing (session : ClientSession) (operations : List ClientSessionOperation) :
    (lifecycle.run session operations).1.closing =
      (lifecycle.latest (fun _ => closes) session operations).getD session.closing := by
  have latest := @Machine.run_latest _ _ _ lifecycle _ (fun _ => closes)
    (fun h s => s.closing = h.getD session.closing) ?_ session none rfl operations
  · rwa [Option.or_none] at latest
  · intro h s operation before
    rw [step_closing, before]
    cases closes operation <;> rfl

/-! ## The route -/

/-- A session has a target, and a complete one, exactly while its route is bound or lost. -/
structure RouteInv (session : ClientSession) : Prop where
  present : session.routeTarget.isSome ↔ session.routeState = .bound ∨ session.routeState = .routeLost
  complete : ∀ target, session.routeTarget = some target → target.Complete

theorem RouteInv.of_route {session session' : ClientSession} (inv : session.RouteInv) (same : session'.routing = session.routing) :
    session'.RouteInv := by
  have state : session'.routeState = session.routeState := congrArg Prod.fst same
  have target : session'.routeTarget = session.routeTarget := congrArg Prod.snd same
  constructor
  · rw [state, target]
    exact inv.present
  · rw [target]
    exact inv.complete

theorem RouteInv.of_none {session : ClientSession} (absent : session.routeTarget = none)
    (unbound : session.routeState ≠ .bound) (unlost : session.routeState ≠ .routeLost) : session.RouteInv := by
  constructor
  · simp [absent, unbound, unlost]
  · intro target is
    rw [absent] at is
    cases is

theorem step_route {session : ClientSession} {operation : ClientSessionOperation} (other : routes operation = false) :
    (lifecycle.step session operation).1.routing = session.routing := by
  refine @lifecycle_step session operation (fun s => s.routing = session.routing) rfl fun session' ok => ?_
  cases operation with
  | beginAuthentication =>
    obtain ⟨-, rfl⟩ := transition_ok ok
    rfl
  | activate now =>
    obtain ⟨-, rfl⟩ := transition_ok ok
    simp only [routing]
    split <;> rfl
  | beginClosing =>
    obtain ⟨-, rfl⟩ := transition_ok ok
    rfl
  | close reason now =>
    simp only [perform, close] at ok
    split at ok
    · cases ok
    · obtain ⟨-, rfl⟩ := transition_ok ok
      rfl
  | touch now =>
    cases ok
    unfold touch
    split <;> rfl
  | _ => cases other

theorem step_routeInv {session : ClientSession} (inv : session.RouteInv) (operation : ClientSessionOperation) :
    (lifecycle.step session operation).1.RouteInv := by
  by_cases other : routes operation = false
  · exact inv.of_route (step_route other)
  refine lifecycle_step inv fun session' ok => ?_
  cases operation with
  | setRouteSelecting =>
    obtain ⟨-, rfl⟩ := @transitionRoute_ok session session' .selecting (fun _ => none) ok
    exact .of_none rfl (by simp) (by simp)
  | bindRoute target =>
    obtain ⟨complete, rfl⟩ := bindRoute_ok ok
    refine ⟨by simp, fun bound is => ?_⟩
    cases is
    exact complete
  | markRouteLost =>
    obtain ⟨allowed, rfl⟩ := transitionRoute_ok ok
    -- Only a bound route is lost, or one that is lost already: either has its target.
    have had : session.routeTarget.isSome := by
      rw [inv.present]
      unfold canTransitionRouteTo at allowed
      cases state : session.routeState <;> simp [state] at allowed ⊢
    exact ⟨⟨fun _ => Or.inr rfl, fun _ => had⟩, inv.complete⟩
  | releaseRoute =>
    obtain ⟨-, rfl⟩ := @transitionRoute_ok session session' .released (fun _ => none) ok
    exact .of_none rfl (by simp) (by simp)
  | _ => exact absurd rfl other

theorem Created.routeInv {session : ClientSession} (made : session.Created) : session.RouteInv := by
  obtain ⟨gateNodeId, sessionId, conversation, remoteEndpoint, kcpValid, now, ok⟩ := made
  unfold create at ok
  repeat' split at ok
  all_goals try cases ok
  exact .of_none rfl (by simp) (by simp)

theorem run_routeInv {session : ClientSession} (inv : session.RouteInv) (operations : List ClientSessionOperation) :
    (lifecycle.run session operations).1.RouteInv :=
  @Machine.invariant _ _ _ lifecycle RouteInv (fun _ operation inv => step_routeInv inv operation) session _ inv
    ⟨operations, rfl⟩

theorem step_released {session : ClientSession} (released : session.routing = (.released, none))
    (operation : ClientSessionOperation) : (lifecycle.step session operation).1.routing = (.released, none) := by
  by_cases other : routes operation = false
  · rw [step_route other, released]
  have state : session.routeState = .released := congrArg Prod.fst released
  refine @lifecycle_step session operation (fun s => s.routing = (.released, none)) released fun session' ok => ?_
  have refused {next : ClientRouteState} {target : Option ClientRouteTarget → Option ClientRouteTarget}
      (ok : session.transitionRoute next target = .ok session') : next = .released := by
    obtain ⟨allowed, -⟩ := transitionRoute_ok ok
    unfold canTransitionRouteTo at allowed
    cases next <;> simp [state] at allowed ⊢
  cases operation with
  | setRouteSelecting => cases @refused .selecting (fun _ => none) ok
  | bindRoute target =>
    simp only [perform, bindRoute] at ok
    split at ok
    · cases ok
    · cases refused ok
  | markRouteLost => cases refused ok
  | releaseRoute =>
    obtain ⟨-, rfl⟩ := @transitionRoute_ok session session' .released (fun _ => none) ok
    rfl
  | _ => exact absurd rfl other

/-- No operation of the route, or a route that is released, and the route stays. -/
theorem run_route {session : ClientSession} {operations : List ClientSessionOperation}
    (stays : (∀ operation ∈ operations, routes operation = false) ∨ session.routing = (.released, none)) :
    (lifecycle.run session operations).1.routing = session.routing := by
  rcases stays with others | released
  · exact @Machine.run_invariant _ _ _ lifecycle (fun _ operation => routes operation = false)
      (fun s => s.routing = session.routing) (fun s operation same other => (step_route other).trans same) session operations
      rfl (Machine.along_of_forall session others)
  · rw [released]
    exact @Machine.invariant _ _ _ lifecycle (fun s => s.routing = (.released, none))
      (fun _ operation kept => step_released kept operation) session _ released ⟨operations, rfl⟩

/-! ## Every sequence of operations -/

/-- What stays of a closed session through operations: it stays closed, its reason and time are
those of the last accepted close, and only route operations move a route that is not released. -/
structure StaysClosed (closed : ClientSession) (operations : List ClientSessionOperation) : Prop where
  state : (lifecycle.run closed operations).1.sessionState = .closed
  closing : (lifecycle.run closed operations).1.closing =
    (lifecycle.latest (fun _ => closes) closed operations).getD closed.closing
  route : (∀ operation ∈ operations, routes operation = false) ∨ closed.routeState = .released →
    (lifecycle.run closed operations).1.routing = closed.routing

/-- Every session after every sequence of operations: its state has not gone back, its target
fits its route, and what a close has ended stays ended as far as `StaysClosed` says. -/
theorem lifecycle_laws {made : ClientSession} (created : made.Created) (earlier operations : List ClientSessionOperation) :
    let session := (lifecycle.run made earlier).1
    session.RouteInv ∧
    session.sessionState.rank ≤ (lifecycle.run session operations).1.sessionState.rank ∧
    ∀ reason now closed, session.close reason now = .ok closed →
      closed.closing = (reason, now) ∧ StaysClosed closed operations := by
  have inv := run_routeInv created.routeInv earlier
  generalize (lifecycle.run made earlier).1 = session at inv
  refine ⟨inv, run_rank session operations, fun reason now closed ok => ?_⟩
  have positive : now ≠ 0 := by
    rintro rfl
    cases ok
  rw [close_eq session reason positive] at ok
  cases ok
  refine ⟨rfl, run_closed rfl operations, run_closing _ operations, fun stays => run_route (stays.imp_right ?_)⟩
  intro released
  have released : session.routeState = .released := released
  have absent : ¬ session.routeTarget.isSome := by
    rw [inv.present, released]
    decide
  simp only [routing, released, Option.not_isSome_iff_eq_none.mp absent]

/-- A session of one client. -/
def sampleClientSession : ClientSession where
  gateNodeId := text "Gate0"
  sessionId := 1
  conversation := 7
  remoteEndpoint := ⟨text "10.0.0.1", 5000⟩
  gateNodeId_ne := by decide
  sessionId_ne := by decide
  host_ne := by decide
  port_ne := by decide

theorem sampleClientSession_created : sampleClientSession.Created :=
  ⟨text "Gate0", 1, 7, ⟨text "10.0.0.1", 5000⟩, true, 0, rfl⟩

/-- A session that is closed, closed again, and then routed. -/
def sampleOperations : List ClientSessionOperation :=
  [.close 2 200, .bindRoute ⟨text "Game0", ⟨text "10.0.0.2", 6000⟩, 1⟩]

theorem lifecycle_laws_sample :
    let session := (lifecycle.run sampleClientSession []).1
    session.RouteInv ∧
    session.sessionState.rank ≤ (lifecycle.run session sampleOperations).1.sessionState.rank ∧
    ∀ reason now closed, session.close reason now = .ok closed →
      closed.closing = (reason, now) ∧ StaysClosed closed sampleOperations :=
  lifecycle_laws sampleClientSession_created [] sampleOperations

/-- After a close, another close changes the reason and the time, and a route is still bound. -/
theorem closed_not_terminal :
    ¬ ∀ made : ClientSession, made.Created → ∀ earlier reason now closed operations,
      (lifecycle.run made earlier).1.close reason now = .ok closed →
      (lifecycle.run closed operations).1.closing = closed.closing ∧
        (lifecycle.run closed operations).1.routing = closed.routing := by
  intro terminal
  obtain ⟨closing, -⟩ := terminal sampleClientSession sampleClientSession_created [] 1 100
    { sampleClientSession with closeReasonCode := 1, closedAtUnixMs := 100, sessionState := .closed } sampleOperations rfl
  exact absurd closing (by decide +kernel)

end ClientSession

end XServer.Node
