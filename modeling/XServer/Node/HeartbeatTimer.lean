import XServer.Managed.TimerScheduler
import XServer.Node.GameNode
import XServer.Node.GateNode

/-!
# The heartbeat timers of the client side

The sessions of a Game or a Gate towards the nodes it registers with, together with the
one `TimerManager` of its event loop, in which each session keeps the timer of its
heartbeats and others keep theirs. A session becomes registered before its timer is
created, and what the codecs accept as an interval is wider than what a repeating timer
takes: `Armed` holds through a run as long as no accepted interval is zero.
-/

namespace XServer.Node
open XServer.Core XServer.Lib XServer.Lib.Wire XServer.Net XServer.Managed

/-- Whose callback a timer calls. -/
inductive TimerOwner where
  | heartbeat (peer : Bytes)
  | other (key : Nat)
  deriving DecidableEq, Repr

/-- Which node the sessions belong to. -/
inductive ClientRole where
  | game
  | gate
  deriving DecidableEq, Repr

/-- `std::chrono::milliseconds` as a duration, in nanoseconds. -/
def milliseconds (count : UInt32) : Int := count.toNat * 1000000

/-- A session and the timers of its node. -/
structure TimedLink where
  session : InnerNetworkSession
  timers : TimerManager TimerOwner

namespace TimedLink

def cancelHeartbeatTimer (link : TimedLink) : TimedLink :=
  if link.session.heartbeatTimerId > 0 then
    { session := { link.session with heartbeatTimerId := 0 }
      timers := (link.timers.cancel link.session.heartbeatTimerId.toInt).1 }
  else link

/-- What `CreateRepeating` does, and the `TimerCreateResult`. -/
def createRepeating (link : TimedLink) (peer : Bytes) (intervalMs : UInt32) : TimerManager TimerOwner × Int :=
  let outcome := link.timers.step (.createRepeating (milliseconds intervalMs) (some (.heartbeat peer)))
  (outcome.1, createResult outcome.2)

/-- `StartOrResetHeartbeatTimer` and `StartOrResetGateHeartbeatTimer`. -/
def startOrResetHeartbeatTimer (link : TimedLink) (peer : Bytes) (intervalMs : UInt32) : TimedLink :=
  let link := link.cancelHeartbeatTimer
  let created := link.createRepeating peer intervalMs
  if 0 < created.2 then
    { session := { link.session with heartbeatTimerId := .ofInt created.2 }, timers := created.1 }
  else { link with timers := created.1 }

/-- `HandleRegisterResponse` and `HandleGateRegisterResponse`. A Gate leaves the registration
alone at an error response that it cannot decode. -/
def registerResponse (role : ClientRole) (env : LinkEnv) (peer : Bytes) (packet : Packet) (link : TimedLink) : TimedLink :=
  if !link.session.awaitsRegister packet.header.seq then link
  else
    let session := { link.session with registerInFlight := false, registerSeq := 0 }
    if packet.header.flags = kErrorResponseFlags then
      match role, decodeRegisterErrorResponse packet.payload with
      | .gate, .error _ => { link with session }
      | _, _ => { link with session := { session with registered := false } }
    else
      match decodeRegisterSuccessResponse packet.payload with
      | .error _ => { link with session := { session with registered := false } }
      | .ok response =>
        let session := session.registerSucceeded env response
        let session := match role with
          | .game => { session with innerNetworkReady := false }
          | .gate => session
        { link with session }.startOrResetHeartbeatTimer peer response.heartbeatIntervalMs

/-- `HandleHeartbeatResponse` and `HandleGateHeartbeatResponse`. -/
def heartbeatResponse (role : ClientRole) (env : LinkEnv) (peer : Bytes) (packet : Packet) (link : TimedLink) :
    TimedLink :=
  if !link.session.awaitsHeartbeat packet.header.seq then link
  else
    let session := { link.session with heartbeatSeq := 0 }
    match decodeHeartbeatSuccessResponse packet.payload with
    | .error _ => { link with session }
    | .ok response =>
      let changed := session.heartbeatIntervalMs ≠ response.heartbeatIntervalMs ∨
        session.heartbeatTimeoutMs ≠ response.heartbeatTimeoutMs ∨ session.heartbeatTimerId = 0
      let session := { session with
        heartbeatIntervalMs := response.heartbeatIntervalMs, heartbeatTimeoutMs := response.heartbeatTimeoutMs
        lastServerNowUnixMs := response.serverNowUnixMs, lastHeartbeatAtUnixMs := env.nowUnixMs }
      let session := match role with
        | .game => { session with innerNetworkReady := true }
        | .gate => session
      if changed then { link with session }.startOrResetHeartbeatTimer peer response.heartbeatIntervalMs
      else { link with session }

def sendRegisterRequest (env : LinkEnv) (peer : Bytes) (request : RegisterRequest) (link : TimedLink) : TimedLink :=
  { link with session := (link.session.sendRegisterRequest env peer request).1 }

def sendHeartbeatRequest (env : LinkEnv) (peer : Bytes) (link : TimedLink) : TimedLink :=
  { link with session := (link.session.sendHeartbeatRequest env peer).1 }

/-- The session of a link that is no longer connected. -/
def resetSession (role : ClientRole) (state : ZmqConnectionState) (session : InnerNetworkSession) : InnerNetworkSession :=
  match role with
  | .game => GameNode.resetGateSession state session
  | .gate => GateNode.resetGmSession { session with connectionState := state }

def reset (role : ClientRole) (state : ZmqConnectionState) (link : TimedLink) : TimedLink :=
  { session := resetSession role state link.session, timers := link.cancelHeartbeatTimer.timers }

/-- A change of the connection. A Game leaves its session with the GM as it is. -/
def connectionStateChanged (role : ClientRole) (peer : Bytes) (state : ZmqConnectionState) (link : TimedLink) :
    TimedLink :=
  if state = .connected ∨ (role = .game ∧ peer = gmRemoteNodeId) then
    { link with session := { link.session with connectionState := state } }
  else link.reset role state

end TimedLink

/-- The sessions of a node by peer, and its timers. -/
structure TimedNode where
  sessions : Table Bytes InnerNetworkSession := ∅
  timers : TimerManager TimerOwner := {}

/-- What happens to the sessions and the timers of a node, whoever they belong to. -/
inductive TimedInput where
  | register (registration : InnerNetworkSessionRegistration)
  | connectionStateChanged (peer : Bytes) (state : ZmqConnectionState)
  | reset (peer : Bytes) (state : ZmqConnectionState)
  | sendRegisterRequest (peer : Bytes) (env : LinkEnv) (request : RegisterRequest)
  | sendHeartbeatRequest (peer : Bytes) (env : LinkEnv)
  | registerResponse (peer : Bytes) (env : LinkEnv) (packet : Packet)
  | heartbeatResponse (peer : Bytes) (env : LinkEnv) (packet : Packet)
  | timers (input : TimerInput TimerOwner)

namespace TimedNode

/-- A change of the session of one peer and of the timers. -/
def onLink (node : TimedNode) (peer : Bytes) (f : TimedLink → TimedLink) : TimedNode :=
  match node.sessions[peer]? with
  | none => node
  | some session =>
    let link := f ⟨session, node.timers⟩
    { sessions := node.sessions.insert peer link.session, timers := link.timers }

def step (role : ClientRole) (node : TimedNode) : TimedInput → TimedNode
  | .register registration =>
    if node.sessions.contains registration.nodeId then node
    else { node with sessions := node.sessions.insert registration.nodeId registration.toSession }
  | .connectionStateChanged peer state => node.onLink peer (TimedLink.connectionStateChanged role peer state)
  | .reset peer state => node.onLink peer (TimedLink.reset role state)
  | .sendRegisterRequest peer env request => node.onLink peer (TimedLink.sendRegisterRequest env peer request)
  | .sendHeartbeatRequest peer env => node.onLink peer (TimedLink.sendHeartbeatRequest env peer)
  | .registerResponse peer env packet => node.onLink peer (TimedLink.registerResponse role env peer packet)
  | .heartbeatResponse peer env packet => node.onLink peer (TimedLink.heartbeatResponse role env peer packet)
  | .timers input => { node with timers := (node.timers.step input).1 }

def machine (role : ClientRole) : Machine TimedNode TimedInput Unit where
  step node input := (node.step role input, [])

end TimedNode

/-! ## The timer manager -/

section Timers
variable {timers : TimerManager TimerOwner}

/-- The call does nothing to the timer of this id. -/
def Spares (id : Int) : TimerInput TimerOwner → Prop
  | .createOnce .. | .createRepeating .. | .callbackReturned => True
  | .resetOnce timerId .. | .resetRepeating timerId .. | .cancel timerId => timerId ≠ id
  | .cancelAll => False
  | .complete _ error => error ≠ .other

theorem createTimer_get {firstDelay interval : Int} {repeating : Bool} {callback : Option TimerOwner} {id : Int}
    (below : id < timers.nextTimerId) :
    (timers.createTimer firstDelay interval repeating callback).1.timers[id]? = timers.timers[id]? := by
  rcases timers.createTimer_outcome firstDelay interval repeating callback with ⟨code, refused⟩ | ⟨called, -, -, made⟩
  · rw [refused]
  · rw [made]
    exact Table.get_insert_of_ne _ _ (by omega)

theorem resetTimer_get {timerId firstDelay interval : Int} {repeating : Bool} {callback : Option TimerOwner} {id : Int}
    (other : timerId ≠ id) :
    (timers.resetTimer timerId firstDelay interval repeating callback).1.timers[id]? = timers.timers[id]? := by
  rcases timers.resetTimer_outcome timerId firstDelay interval repeating callback with
    ⟨code, refused⟩ | ⟨timer, called, -, -, made⟩
  · rw [refused]
  · rw [made]
    exact Table.get_insert_of_ne _ _ other

theorem cancel_get {timerId id : Int} (other : timerId ≠ id) :
    (timers.cancel timerId).1.timers[id]? = timers.timers[id]? := by
  unfold TimerManager.cancel
  split
  · rfl
  · split
    · rfl
    · exact Table.get_erase_of_ne _ other

theorem cancel_nextTimerId (timerId : Int) : (timers.cancel timerId).1.nextTimerId = timers.nextTimerId := by
  unfold TimerManager.cancel
  split
  · rfl
  · split <;> rfl

theorem eq_none_of_ne {error : WaitError} (notAborted : error ≠ .operationAborted) (notOther : error ≠ .other) :
    error = .none := by
  cases error <;> simp at notAborted notOther ⊢

/-- A repeating timer stays through every step that spares it. -/
theorem step_get {timer : TimerEntry TimerOwner} {id : Int} (live : timers.timers[id]? = some timer)
    (repeating : timer.repeating = true) (callable : timer.callback.isSome) (below : id < timers.nextTimerId)
    {input : TimerInput TimerOwner} (spares : Spares id input) : (timers.step input).1.timers[id]? = some timer := by
  rw [← live]
  cases input with
  | createOnce delay callback => exact createTimer_get below
  | createRepeating interval callback =>
    simp only [TimerManager.step]
    split
    · rfl
    · exact createTimer_get below
  | resetOnce timerId delay callback => exact resetTimer_get spares
  | resetRepeating timerId interval callback =>
    simp only [TimerManager.step]
    split
    · rfl
    · exact resetTimer_get spares
  | cancel timerId => exact cancel_get spares
  | cancelAll => exact spares.elim
  | complete index error =>
    simp only [TimerManager.step]
    split
    · rename_i wait idle taken
      unfold TimerManager.handleWait
      split
      · rfl
      · rename_i notAborted
        split
        · rfl
        · rename_i entry current
          split
          · rfl
          · rename_i uncallable
            -- A wait that ends without an error removes only a timer that has no callback.
            refine Table.get_erase_of_ne _ ?_
            rintro rfl
            obtain ⟨callback, has⟩ := Option.isSome_iff_exists.mp callable
            have same : entry = timer := by
              have stored := (TimerManager.currentEntry_some.mp current).1
              exact Option.some.inj (stored.symm.trans live)
            exact uncallable callback (eq_none_of_ne notAborted spares) (same ▸ has)
    · rfl
  | callbackReturned =>
    simp only [TimerManager.step]
    split
    · rfl
    · rename_i wait running
      unfold TimerManager.finishWait
      split
      · rfl
      · rename_i entry current
        split
        · rfl
        · rename_i once
          refine Table.get_erase_of_ne _ ?_
          rintro rfl
          have stored := (TimerManager.currentEntry_some.mp current).1
          have same : entry = timer := Option.some.inj (stored.symm.trans live)
          exact once (same ▸ repeating)

theorem step_nextTimerId (timers : TimerManager TimerOwner) (input : TimerInput TimerOwner) :
    timers.nextTimerId ≤ (timers.step input).1.nextTimerId := by
  have changes := timers.step_changes input
  generalize timers.step input = outcome at changes
  cases changes with
  | created => exact Int.le_add_of_nonneg_right (by decide)
  | _ => exact Int.le_refl _

theorem step_fits (fits : timers.nextTimerId ≤ maxTimerId) (input : TimerInput TimerOwner) :
    (timers.step input).1.nextTimerId ≤ maxTimerId := by
  have made {firstDelay interval : Int} {repeating : Bool} {callback : Option TimerOwner} :
      (timers.createTimer firstDelay interval repeating callback).1.nextTimerId ≤ maxTimerId := by
    unfold TimerManager.createTimer
    split
    · exact fits
    · split
      · exact fits
      · show timers.nextTimerId + 1 ≤ maxTimerId
        omega
  have reset {timerId firstDelay interval : Int} {repeating : Bool} {callback : Option TimerOwner} :
      (timers.resetTimer timerId firstDelay interval repeating callback).1.nextTimerId ≤ maxTimerId := by
    rcases timers.resetTimer_outcome timerId firstDelay interval repeating callback with
      ⟨code, refused⟩ | ⟨timer, called, -, -, done⟩
    · rw [refused]
      exact fits
    · rw [done]
      exact fits
  cases input with
  | createOnce delay callback => exact made
  | createRepeating interval callback =>
    simp only [TimerManager.step]
    split
    · exact fits
    · exact made
  | resetOnce timerId delay callback => exact reset
  | resetRepeating timerId interval callback =>
    simp only [TimerManager.step]
    split
    · exact fits
    · exact reset
  | cancel timerId =>
    show (timers.cancel timerId).1.nextTimerId ≤ maxTimerId
    rw [cancel_nextTimerId]
    exact fits
  | cancelAll => exact fits
  | complete index error =>
    simp only [TimerManager.step]
    split
    · unfold TimerManager.handleWait
      repeat' split
      all_goals exact fits
    · exact fits
  | callbackReturned =>
    simp only [TimerManager.step]
    split
    · exact fits
    · unfold TimerManager.finishWait
      repeat' split
      all_goals exact fits

end Timers

/-! ## The timer of one session -/

/-- The session's timer id names a live repeating timer that sends its heartbeats at its interval. -/
def Armed (peer : Bytes) (session : InnerNetworkSession) (timers : TimerManager TimerOwner) : Prop :=
  ∃ timer, timers.timers[session.heartbeatTimerId.toInt]? = some timer ∧ timer.callback = some (.heartbeat peer) ∧
    timer.repeating = true ∧ timer.interval = milliseconds session.heartbeatIntervalMs

/-- A timer id is the one of an armed timer, and a registered session has one. -/
structure Sound (peer : Bytes) (session : InnerNetworkSession) (timers : TimerManager TimerOwner) : Prop where
  armed : 0 < session.heartbeatTimerId.toInt → Armed peer session timers
  below : session.heartbeatTimerId.toInt < timers.nextTimerId
  registered : session.registered = true → 0 < session.heartbeatTimerId.toInt

/-- A session whose timer was cancelled, changed but for its timer and not registered, is sound. -/
theorem sound_of_none {peer : Bytes} {session : InnerNetworkSession} {timers : TimerManager TimerOwner}
    (none : session.heartbeatTimerId.toInt ≤ 0) (positive : 0 < timers.nextTimerId)
    (unregistered : session.registered = false) : Sound peer session timers := by
  refine ⟨fun live => absurd live (by omega), by omega, fun registered => ?_⟩
  rw [unregistered] at registered
  cases registered

/-- Changes of a session that keep its timer, its interval and what it is registered for. -/
theorem Sound.session {peer : Bytes} {session session' : InnerNetworkSession} {timers : TimerManager TimerOwner}
    (h : Sound peer session timers) (timerId : session'.heartbeatTimerId = session.heartbeatTimerId)
    (interval : session'.heartbeatIntervalMs = session.heartbeatIntervalMs)
    (registered : session'.registered = true → session.registered = true) : Sound peer session' timers := by
  refine ⟨fun positive => ?_, ?_, fun live => ?_⟩
  · rw [timerId] at positive
    obtain ⟨timer, live, callback, repeating, lasts⟩ := h.armed positive
    refine ⟨timer, ?_, callback, repeating, ?_⟩
    · rw [timerId]
      exact live
    · rw [interval]
      exact lasts
  · rw [timerId]
    exact h.below
  · rw [timerId]
    exact h.registered (registered live)

/-- Only the timer `own` and new ones change. -/
structure Frame (own : Int) (before after : TimerManager TimerOwner) : Prop where
  same : ∀ id, id ≠ own → id < before.nextTimerId → after.timers[id]? = before.timers[id]?
  next : before.nextTimerId ≤ after.nextTimerId

theorem Frame.refl (own : Int) (timers : TimerManager TimerOwner) : Frame own timers timers :=
  ⟨fun _ _ _ => rfl, Int.le_refl _⟩

/-- The timer of another session is not touched: two sessions do not share one. -/
theorem Frame.sound {peer other : Bytes} {session session' : InnerNetworkSession} {before after : TimerManager TimerOwner}
    (frame : Frame session.heartbeatTimerId.toInt before after) (apart : peer ≠ other) (own : Sound peer session before)
    (h : Sound other session' before) : Sound other session' after := by
  refine ⟨fun positive => ?_, Int.lt_of_lt_of_le h.below frame.next, h.registered⟩
  obtain ⟨timer, live, callback, repeating, interval⟩ := h.armed positive
  have different : session'.heartbeatTimerId.toInt ≠ session.heartbeatTimerId.toInt := by
    intro shared
    obtain ⟨timer', live', callback', -⟩ := own.armed (shared ▸ positive)
    rw [← shared, live] at live'
    cases live'
    rw [callback] at callback'
    cases callback'
    exact apart rfl
  refine ⟨timer, ?_, callback, repeating, interval⟩
  rw [frame.same _ different h.below]
  exact live

namespace TimedLink
variable {link : TimedLink} {peer : Bytes} {intervalMs : UInt32}

theorem timerId_pos (session : InnerNetworkSession) :
    session.heartbeatTimerId > 0 ↔ 0 < session.heartbeatTimerId.toInt := Int64.lt_iff_toInt_lt

theorem cancelHeartbeatTimer_frame (link : TimedLink) :
    Frame link.session.heartbeatTimerId.toInt link.timers link.cancelHeartbeatTimer.timers := by
  unfold cancelHeartbeatTimer
  split
  · exact ⟨fun id other _ => cancel_get (Ne.symm other), Int.le_of_eq (cancel_nextTimerId _).symm⟩
  · exact .refl _ _

theorem cancelHeartbeatTimer_nextTimerId (link : TimedLink) :
    link.cancelHeartbeatTimer.timers.nextTimerId = link.timers.nextTimerId := by
  unfold cancelHeartbeatTimer
  split
  · exact cancel_nextTimerId _
  · rfl

/-- Without its timer a session has no timer id. -/
theorem cancelHeartbeatTimer_timerId (link : TimedLink) :
    link.cancelHeartbeatTimer.session.heartbeatTimerId.toInt ≤ 0 := by
  unfold cancelHeartbeatTimer
  split
  · exact Int.le_refl _
  · rename_i none
    rw [timerId_pos] at none
    omega

theorem milliseconds_pos (nonzero : intervalMs ≠ 0) : 0 < milliseconds intervalMs := by
  have positive : intervalMs.toNat ≠ 0 := fun zero => nonzero (UInt32.toNat_inj.mp zero)
  unfold milliseconds
  omega

theorem createRepeating_refused (refused : intervalMs = 0 ∨ link.timers.nextTimerId = maxTimerId) :
    ∃ code : TimerErrorCode, link.createRepeating peer intervalMs = (link.timers, code.value) := by
  have outcome : ∃ code, link.timers.step (.createRepeating (milliseconds intervalMs) (some (.heartbeat peer))) =
      (link.timers, [.refused code]) := by
    rcases refused with rfl | exhausted
    · have zero : milliseconds 0 ≤ 0 := by decide
      simp only [TimerManager.step]
      rw [if_pos zero]
      exact ⟨_, rfl⟩
    · simp only [TimerManager.step]
      split
      · exact ⟨_, rfl⟩
      · unfold TimerManager.createTimer
        simp only
        rw [if_pos (Or.inr exhausted)]
        exact ⟨_, rfl⟩
  obtain ⟨code, outcome⟩ := outcome
  refine ⟨code, ?_⟩
  unfold createRepeating
  simp only [outcome]
  rfl

/-- The entry of a heartbeat timer. -/
def heartbeatEntry (timers : TimerManager TimerOwner) (peer : Bytes) (intervalMs : UInt32) : TimerEntry TimerOwner :=
  ⟨timers.nextAddress, some (.heartbeat peer), milliseconds intervalMs, true, 1⟩

theorem createRepeating_created (nonzero : intervalMs ≠ 0) (positive : 0 < link.timers.nextTimerId)
    (room : link.timers.nextTimerId ≠ maxTimerId) :
    ∃ timers, link.createRepeating peer intervalMs = (timers, link.timers.nextTimerId) ∧
      timers.timers = link.timers.timers.insert link.timers.nextTimerId (heartbeatEntry link.timers peer intervalMs) ∧
      timers.nextTimerId = link.timers.nextTimerId + 1 := by
  have lasts := milliseconds_pos nonzero
  have absent : ¬ (link.timers.nextTimerId ≤ 0 ∨ link.timers.nextTimerId = maxTimerId) := by omega
  have outcome : link.timers.step (.createRepeating (milliseconds intervalMs) (some (.heartbeat peer))) =
      link.timers.createTimer (milliseconds intervalMs) (milliseconds intervalMs) true (some (.heartbeat peer)) := by
    simp only [TimerManager.step]
    rw [if_neg (by omega)]
  unfold createRepeating
  rw [outcome]
  unfold TimerManager.createTimer
  simp only
  rw [if_neg absent]
  exact ⟨_, rfl, rfl, rfl⟩

/-- A timer that cannot be created leaves the session without one. -/
theorem startOrResetHeartbeatTimer_refused (refused : intervalMs = 0 ∨ link.timers.nextTimerId = maxTimerId) :
    link.startOrResetHeartbeatTimer peer intervalMs = link.cancelHeartbeatTimer := by
  rw [← cancelHeartbeatTimer_nextTimerId] at refused
  obtain ⟨code, created⟩ := @createRepeating_refused link.cancelHeartbeatTimer peer intervalMs refused
  have negative := code.value_neg
  unfold startOrResetHeartbeatTimer
  simp only [created]
  rw [if_neg (by omega)]

theorem startOrResetHeartbeatTimer_scheduled (nonzero : intervalMs ≠ 0) (positive : 0 < link.timers.nextTimerId)
    (room : link.timers.nextTimerId ≠ maxTimerId) :
    ∃ timers timer, link.startOrResetHeartbeatTimer peer intervalMs =
        ⟨{ link.cancelHeartbeatTimer.session with heartbeatTimerId := .ofInt link.timers.nextTimerId }, timers⟩ ∧
      timers.timers[link.timers.nextTimerId]? = some timer ∧ timer.callback = some (.heartbeat peer) ∧
      timer.repeating = true ∧ timer.interval = milliseconds intervalMs ∧
      timers.nextTimerId = link.timers.nextTimerId + 1 ∧ Frame link.session.heartbeatTimerId.toInt link.timers timers := by
  have frame := cancelHeartbeatTimer_frame link
  have next := cancelHeartbeatTimer_nextTimerId link
  rw [← next] at positive room
  obtain ⟨timers, created, inserted, after⟩ := @createRepeating_created link.cancelHeartbeatTimer peer intervalMs nonzero
    positive room
  rw [next] at positive inserted after
  refine ⟨timers, heartbeatEntry link.cancelHeartbeatTimer.timers peer intervalMs, ?_, ?_, rfl, rfl, rfl, after, ?_, ?_⟩
  · unfold startOrResetHeartbeatTimer
    simp only [created, next]
    rw [if_pos positive]
  · rw [inserted, Table.get_insert_self]
  · intro id other below
    rw [inserted, Table.get_insert_of_ne _ _ (by omega)]
    exact frame.same id other below
  · rw [after]
    omega

/-- What a restart leaves: a session with a timer at this interval, or without one where none could be created. -/
theorem startOrResetHeartbeatTimer_sound (positive : 0 < link.timers.nextTimerId)
    (fits : link.timers.nextTimerId ≤ maxTimerId) (interval : link.session.heartbeatIntervalMs = intervalMs)
    (schedulable : link.session.registered = true → intervalMs ≠ 0 ∧ link.timers.nextTimerId ≠ maxTimerId) :
    let after := link.startOrResetHeartbeatTimer peer intervalMs
    Sound peer after.session after.timers ∧ Frame link.session.heartbeatTimerId.toInt link.timers after.timers ∧
      after.timers.nextTimerId ≤ maxTimerId := by
  intro after
  by_cases can : intervalMs ≠ 0 ∧ link.timers.nextTimerId ≠ maxTimerId
  · obtain ⟨timers, timer, is, live, callback, repeating, lasts, next, frame⟩ :=
      @startOrResetHeartbeatTimer_scheduled link peer intervalMs can.1 positive can.2
    have room := can.2
    have id : (Int64.ofInt link.timers.nextTimerId).toInt = link.timers.nextTimerId :=
      Int64.toInt_ofInt_of_le (by omega) (by unfold maxTimerId at fits room; omega)
    have same : link.cancelHeartbeatTimer.session.heartbeatIntervalMs = link.session.heartbeatIntervalMs := by
      unfold cancelHeartbeatTimer
      split <;> rfl
    simp only [after, is]
    refine ⟨⟨fun _ => ⟨timer, ?_, callback, repeating, ?_⟩, ?_, fun _ => ?_⟩, frame, ?_⟩
    · simp only [id]
      exact live
    · simp only [same, interval]
      exact lasts
    · simp only [id]
      omega
    · simp only [id]
      exact positive
    · omega
  · have refused : intervalMs = 0 ∨ link.timers.nextTimerId = maxTimerId := by
      by_cases zero : intervalMs = 0
      · exact .inl zero
      · exact .inr (by_contra fun room => can ⟨zero, room⟩)
    have next := cancelHeartbeatTimer_nextTimerId link
    have unregistered : link.cancelHeartbeatTimer.session.registered = false := by
      have same : link.cancelHeartbeatTimer.session.registered = link.session.registered := by
        unfold cancelHeartbeatTimer
        split <;> rfl
      rw [same]
      exact Bool.eq_false_iff.mpr fun registered => can (schedulable registered)
    simp only [after, startOrResetHeartbeatTimer_refused refused]
    refine ⟨sound_of_none (cancelHeartbeatTimer_timerId link) (by omega) unregistered, cancelHeartbeatTimer_frame link, ?_⟩
    omega

/-- What a handler may rely on. -/
structure Ready (peer : Bytes) (link : TimedLink) : Prop where
  sound : Sound peer link.session link.timers
  positive : 0 < link.timers.nextTimerId
  fits : link.timers.nextTimerId ≤ maxTimerId

/-- What a handler leaves. -/
structure Keeps (peer : Bytes) (link after : TimedLink) : Prop where
  sound : Sound peer after.session after.timers
  frame : Frame link.session.heartbeatTimerId.toInt link.timers after.timers
  fits : after.timers.nextTimerId ≤ maxTimerId

theorem Ready.session (ready : Ready peer link) {session : InnerNetworkSession}
    (timerId : session.heartbeatTimerId = link.session.heartbeatTimerId)
    (interval : session.heartbeatIntervalMs = link.session.heartbeatIntervalMs)
    (registered : session.registered = true → link.session.registered = true) : Keeps peer link { link with session } :=
  ⟨ready.sound.session timerId interval registered, .refl _ _, ready.fits⟩

/-- The timer of this interval can be created. -/
def Schedulable (timers : TimerManager TimerOwner) (intervalMs : UInt32) : Prop :=
  intervalMs ≠ 0 ∧ timers.nextTimerId ≠ maxTimerId

theorem Ready.restart (ready : Ready peer link) {session : InnerNetworkSession}
    (timerId : session.heartbeatTimerId = link.session.heartbeatTimerId)
    (interval : session.heartbeatIntervalMs = intervalMs)
    (schedulable : session.registered = true → Schedulable link.timers intervalMs) :
    Keeps peer link ({ link with session }.startOrResetHeartbeatTimer peer intervalMs) := by
  have restarted := @startOrResetHeartbeatTimer_sound { link with session } peer intervalMs ready.positive ready.fits
    interval schedulable
  obtain ⟨sound, frame, fits⟩ := restarted
  simp only [timerId] at frame
  exact ⟨sound, frame, fits⟩

theorem registerResponse_keeps {role : ClientRole} {env : LinkEnv} {packet : Packet} (ready : Ready peer link)
    (schedulable : ∀ response, link.session.awaitsRegister packet.header.seq = true →
      packet.header.flags ≠ kErrorResponseFlags → decodeRegisterSuccessResponse packet.payload = .ok response →
      Schedulable link.timers response.heartbeatIntervalMs) :
    Keeps peer link (link.registerResponse role env peer packet) := by
  unfold registerResponse
  split
  · exact ready.session rfl rfl fun registered => registered
  · rename_i awaited
    have awaited : link.session.awaitsRegister packet.header.seq = true := by simpa using awaited
    simp only
    split
    · split
      · exact ready.session rfl rfl fun registered => registered
      · exact ready.session rfl rfl fun registered => nomatch registered
    · rename_i success
      split
      · exact ready.session rfl rfl fun registered => nomatch registered
      · rename_i response decoded
        cases role <;> exact ready.restart rfl rfl fun _ => schedulable response awaited success decoded

/-- A heartbeat response asks for a new timer. -/
def Restarts (session : InnerNetworkSession) (response : HeartbeatSuccessResponse) : Prop :=
  session.heartbeatIntervalMs ≠ response.heartbeatIntervalMs ∨
    session.heartbeatTimeoutMs ≠ response.heartbeatTimeoutMs ∨ session.heartbeatTimerId = 0

theorem heartbeatResponse_keeps {role : ClientRole} {env : LinkEnv} {packet : Packet} (ready : Ready peer link)
    (schedulable : ∀ response, link.session.registered = true → link.session.awaitsHeartbeat packet.header.seq = true →
      decodeHeartbeatSuccessResponse packet.payload = .ok response → Restarts link.session response →
      Schedulable link.timers response.heartbeatIntervalMs) :
    Keeps peer link (link.heartbeatResponse role env peer packet) := by
  unfold heartbeatResponse
  split
  · exact ready.session rfl rfl fun registered => registered
  · rename_i awaited
    have awaited : link.session.awaitsHeartbeat packet.header.seq = true := by simpa using awaited
    simp only
    split
    · exact ready.session rfl rfl fun registered => registered
    · rename_i response decoded
      split
      · rename_i restarts
        cases role <;> exact ready.restart rfl rfl fun registered => schedulable response registered awaited decoded restarts
      · rename_i same
        simp only [not_or, not_not] at same
        cases role <;> exact ready.session rfl same.1.symm fun registered => registered

theorem reset_keeps {role : ClientRole} {state : ZmqConnectionState} (ready : Ready peer link) :
    Keeps peer link (link.reset role state) := by
  have next := cancelHeartbeatTimer_nextTimerId link
  have none := cancelHeartbeatTimer_timerId link
  have positive := ready.positive
  have fits := ready.fits
  refine ⟨sound_of_none ?_ ?_ ?_, cancelHeartbeatTimer_frame link, ?_⟩
  · have same : (resetSession role state link.session).heartbeatTimerId = link.cancelHeartbeatTimer.session.heartbeatTimerId := by
      unfold resetSession cancelHeartbeatTimer
      cases role <;> simp only [GameNode.resetGateSession, GateNode.resetGmSession,
        InnerNetworkSession.cancelHeartbeatTimer] <;> split <;> rfl
    show (resetSession role state link.session).heartbeatTimerId.toInt ≤ 0
    rw [same]
    exact none
  · show 0 < link.cancelHeartbeatTimer.timers.nextTimerId
    omega
  · cases role <;> rfl
  · show link.cancelHeartbeatTimer.timers.nextTimerId ≤ maxTimerId
    omega

theorem connectionStateChanged_keeps {role : ClientRole} {state : ZmqConnectionState} (ready : Ready peer link) :
    Keeps peer link (link.connectionStateChanged role peer state) := by
  unfold connectionStateChanged
  split
  · exact ready.session rfl rfl fun registered => registered
  · exact reset_keeps ready

theorem sendRegisterRequest_keeps {env : LinkEnv} {request : RegisterRequest} (ready : Ready peer link) :
    Keeps peer link (link.sendRegisterRequest env peer request) := by
  simp only [sendRegisterRequest, InnerNetworkSession.sendRegisterRequest, InnerNetworkSession.consumeNextInnerSequence]
  repeat' split
  all_goals exact ready.session rfl rfl fun registered => registered

theorem sendHeartbeatRequest_keeps {env : LinkEnv} (ready : Ready peer link) :
    Keeps peer link (link.sendHeartbeatRequest env peer) := by
  simp only [sendHeartbeatRequest, InnerNetworkSession.sendHeartbeatRequest, InnerNetworkSession.consumeNextInnerSequence]
  repeat' split
  all_goals exact ready.session rfl rfl fun registered => registered

/-! ## The sessions are those of the nodes -/

/-- The result that the node's session is given for a positive interval. -/
def nextTimerResult (timers : TimerManager TimerOwner) : Int64 :=
  if timers.nextTimerId ≤ 0 ∨ timers.nextTimerId = maxTimerId then .ofInt TimerErrorCode.timerIdExhausted.value
  else .ofInt timers.nextTimerId

theorem startOrResetHeartbeatTimer_session (env : LinkEnv) (positive : 0 < link.timers.nextTimerId)
    (fits : link.timers.nextTimerId ≤ maxTimerId) :
    (link.startOrResetHeartbeatTimer peer intervalMs).session = link.session.startOrResetHeartbeatTimer
      { env with nextTimerId := nextTimerResult link.timers } intervalMs := by
  have cancelled : link.cancelHeartbeatTimer.session = link.session.cancelHeartbeatTimer := by
    unfold cancelHeartbeatTimer InnerNetworkSession.cancelHeartbeatTimer
    split <;> rfl
  unfold InnerNetworkSession.startOrResetHeartbeatTimer LinkEnv.createRepeating nextTimerResult
  simp only
  by_cases refused : intervalMs = 0 ∨ link.timers.nextTimerId = maxTimerId
  · rw [startOrResetHeartbeatTimer_refused refused, cancelled]
    have none : ¬ (if intervalMs = 0 then timerIntervalMustBePositive
        else if link.timers.nextTimerId ≤ 0 ∨ link.timers.nextTimerId = maxTimerId then
          .ofInt TimerErrorCode.timerIdExhausted.value
        else .ofInt link.timers.nextTimerId) > (0 : Int64) := by
      rcases refused with zero | exhausted
      · rw [if_pos zero]
        decide
      · rw [if_pos (Or.inr exhausted)]
        split <;> decide
    rw [if_neg none]
  · rw [not_or] at refused
    obtain ⟨timers, timer, is, -⟩ := @startOrResetHeartbeatTimer_scheduled link peer intervalMs refused.1 positive refused.2
    have id : (Int64.ofInt link.timers.nextTimerId).toInt = link.timers.nextTimerId :=
      Int64.toInt_ofInt_of_le (by omega) (by unfold maxTimerId at fits; omega)
    have some : Int64.ofInt link.timers.nextTimerId > 0 := by
      show (0 : Int64) < _
      rw [Int64.lt_iff_toInt_lt, id]
      exact positive
    have room : ¬ (link.timers.nextTimerId ≤ 0 ∨ link.timers.nextTimerId = maxTimerId) := by
      have left := refused.2
      omega
    rw [is, cancelled, if_neg refused.1, if_neg room, if_pos some]

section Nodes
variable (packet : Packet) (positive : 0 < link.timers.nextTimerId) (fits : link.timers.nextTimerId ≤ maxTimerId)
include positive fits

theorem registerResponse_game (env : GameEnv) :
    (link.registerResponse .game env.toLinkEnv peer packet).session =
      (GameNode.registerResponse { env with nextTimerId := nextTimerResult link.timers } packet link.session).1 := by
  unfold registerResponse GameNode.registerResponse
  split
  · rfl
  · simp only
    split
    · rfl
    · cases decodeRegisterSuccessResponse packet.payload with
      | error failure => rfl
      | ok response =>
        exact @startOrResetHeartbeatTimer_session { link with session := _ } peer _ env.toLinkEnv positive fits

theorem heartbeatResponse_game (env : GameEnv) :
    (link.heartbeatResponse .game env.toLinkEnv peer packet).session =
      (GameNode.heartbeatResponse { env with nextTimerId := nextTimerResult link.timers } packet link.session).1 := by
  unfold heartbeatResponse GameNode.heartbeatResponse
  split
  · rfl
  · simp only
    cases decodeHeartbeatSuccessResponse packet.payload with
    | error failure => rfl
    | ok response =>
      unfold InnerNetworkSession.heartbeatSucceeded
      simp only
      split
      · have restarted (session : InnerNetworkSession) := @startOrResetHeartbeatTimer_session ⟨session, link.timers⟩ peer
          response.heartbeatIntervalMs env.toLinkEnv positive fits
        rw [restarted]
        unfold InnerNetworkSession.startOrResetHeartbeatTimer InnerNetworkSession.cancelHeartbeatTimer
        simp only
        split <;> split <;> rfl
      · rfl

theorem registerResponse_gate (env : GateEnv) :
    (link.registerResponse .gate env.toLinkEnv peer packet).session =
      GateNode.registerResponse { env with nextTimerId := nextTimerResult link.timers } packet link.session := by
  unfold registerResponse GateNode.registerResponse
  split
  · rfl
  · simp only
    split
    · cases decodeRegisterErrorResponse packet.payload <;> rfl
    · cases decodeRegisterSuccessResponse packet.payload with
      | error failure => rfl
      | ok response =>
        exact @startOrResetHeartbeatTimer_session { link with session := _ } peer _ env.toLinkEnv positive fits

theorem heartbeatResponse_gate (env : GateEnv) :
    (link.heartbeatResponse .gate env.toLinkEnv peer packet).session =
      GateNode.heartbeatResponse { env with nextTimerId := nextTimerResult link.timers } packet link.session := by
  unfold heartbeatResponse GateNode.heartbeatResponse
  split
  · rfl
  · simp only
    cases decodeHeartbeatSuccessResponse packet.payload with
    | error failure => rfl
    | ok response =>
      unfold InnerNetworkSession.heartbeatSucceeded
      simp only
      split
      · exact @startOrResetHeartbeatTimer_session { link with session := _ } peer _ env.toLinkEnv positive fits
      · rfl

end Nodes

end TimedLink

/-! ## Runs -/

namespace TimedNode
open TimedLink (Schedulable Restarts Ready Keeps)

structure Inv (node : TimedNode) : Prop where
  sound : ∀ peer session, node.sessions[peer]? = some session → Sound peer session node.timers
  positive : 0 < node.timers.nextTimerId
  fits : node.timers.nextTimerId ≤ maxTimerId

/-- A success response that (re)starts the timer of a registered session asks for one that can be created,
and what else happens to the timers is not done to the timer of a session. -/
def Fits (node : TimedNode) : TimedInput → Prop
  | .registerResponse peer _ packet => ∀ (session : InnerNetworkSession) response, node.sessions[peer]? = some session →
    session.awaitsRegister packet.header.seq = true → packet.header.flags ≠ kErrorResponseFlags →
    decodeRegisterSuccessResponse packet.payload = .ok response →
    Schedulable node.timers response.heartbeatIntervalMs
  | .heartbeatResponse peer _ packet => ∀ (session : InnerNetworkSession) response, node.sessions[peer]? = some session →
    session.registered = true → session.awaitsHeartbeat packet.header.seq = true →
    decodeHeartbeatSuccessResponse packet.payload = .ok response → Restarts session response →
    Schedulable node.timers response.heartbeatIntervalMs
  | .timers input => ∀ (peer : Bytes) (session : InnerNetworkSession), node.sessions[peer]? = some session →
    0 < session.heartbeatTimerId.toInt → Spares session.heartbeatTimerId.toInt input
  | _ => True

theorem onLink_inv {node : TimedNode} {peer : Bytes} {f : TimedLink → TimedLink} (inv : node.Inv)
    (keeps : ∀ session, node.sessions[peer]? = some session → Ready peer ⟨session, node.timers⟩ →
      Keeps peer ⟨session, node.timers⟩ (f ⟨session, node.timers⟩)) : (node.onLink peer f).Inv := by
  unfold onLink
  split
  · exact inv
  · rename_i session found
    have own := inv.sound peer session found
    have kept := keeps session found ⟨own, inv.positive, inv.fits⟩
    refine ⟨fun other stored at_other => ?_, Int.lt_of_lt_of_le inv.positive kept.frame.next, kept.fits⟩
    by_cases same : peer = other
    · subst same
      rw [Table.get_insert_self] at at_other
      cases at_other
      exact kept.sound
    · rw [Table.get_insert_of_ne _ _ same] at at_other
      exact kept.frame.sound same own (inv.sound other stored at_other)

theorem step_inv {role : ClientRole} {node : TimedNode} (inv : node.Inv) {input : TimedInput} (fits : node.Fits input) :
    (node.step role input).Inv := by
  cases input with
  | register registration =>
    simp only [step]
    split
    · exact inv
    · refine ⟨fun peer session at_peer => ?_, inv.positive, inv.fits⟩
      by_cases same : registration.nodeId = peer
      · subst same
        rw [Table.get_insert_self] at at_peer
        cases at_peer
        exact sound_of_none (Int.le_refl _) inv.positive rfl
      · rw [Table.get_insert_of_ne _ _ same] at at_peer
        exact inv.sound peer session at_peer
  | connectionStateChanged peer state =>
    exact onLink_inv inv fun _ _ ready => TimedLink.connectionStateChanged_keeps ready
  | reset peer state => exact onLink_inv inv fun _ _ ready => TimedLink.reset_keeps ready
  | sendRegisterRequest peer env request =>
    exact onLink_inv inv fun _ _ ready => TimedLink.sendRegisterRequest_keeps ready
  | sendHeartbeatRequest peer env => exact onLink_inv inv fun _ _ ready => TimedLink.sendHeartbeatRequest_keeps ready
  | registerResponse peer env packet =>
    exact onLink_inv inv fun session found ready =>
      TimedLink.registerResponse_keeps ready fun response => fits session response found
  | heartbeatResponse peer env packet =>
    exact onLink_inv inv fun session found ready =>
      TimedLink.heartbeatResponse_keeps ready fun response => fits session response found
  | timers input =>
    refine ⟨fun peer session found => ?_, ?_, ?_⟩
    · have own := inv.sound peer session found
      refine ⟨fun positive => ?_, ?_, own.registered⟩
      · obtain ⟨timer, live, callback, repeating, interval⟩ := own.armed positive
        have callable : timer.callback.isSome := by rw [callback]; rfl
        exact ⟨timer, step_get live repeating callable own.below (fits peer session found positive), callback, repeating,
          interval⟩
      · exact Int.lt_of_lt_of_le own.below (step_nextTimerId node.timers input)
    · exact Int.lt_of_lt_of_le inv.positive (step_nextTimerId node.timers input)
    · exact step_fits inv.fits input

theorem start_inv : Inv {} where
  sound := fun peer session found => by simp at found
  positive := by decide
  fits := by decide

/-- **Heartbeats are armed.** In a run whose accepted timings can be scheduled, every registered session has its timer. -/
theorem registered_armed (role : ClientRole) (inputs : List TimedInput) (along : (machine role).Along Fits {} inputs)
    (peer : Bytes) (session : InnerNetworkSession)
    (found : ((machine role).run {} inputs).1.sessions[peer]? = some session) (registered : session.registered = true) :
    0 < session.heartbeatTimerId.toInt ∧ Armed peer session ((machine role).run {} inputs).1.timers := by
  have inv := @Machine.run_invariant _ _ _ (machine role) Fits Inv (fun node input inv fits => step_inv inv fits) {} inputs
    start_inv along
  have sound := inv.sound peer session found
  exact ⟨sound.registered registered, sound.armed (sound.registered registered)⟩

/-! ## Accepted timings that cannot be scheduled -/

/-- A success response to the first register request, with this interval and a timeout of 15 s. -/
def registerAnswer (intervalMs : UInt32) : Packet where
  header := makePacketHeader innerRegisterMsgId 1 kResponseFlags 16
  payload := bigEndian 4 intervalMs.toNat ++ (bigEndian 4 15000 ++ bigEndian 8 1)

def sampleRegisterRequest : RegisterRequest where
  processType := innerProcessTypeGame
  processFlags := 0
  nodeId := text "Game0"
  pid := 1
  startedAtUnixMs := 1
  innerNetworkEndpoint := ⟨text "10.0.0.2", 6000⟩
  buildVersion := buildVersion
  capabilityTags := []
  load := ⟨0, 0, 0, 0, 0⟩

/-- A Game that registers with the GM and is told this interval. -/
def sampleRegistration (intervalMs : UInt32) : List TimedInput :=
  [.register { processType := .gm, nodeId := gmRemoteNodeId, innerNetworkEndpoint := ⟨text "10.0.0.1", 5000⟩ },
    .connectionStateChanged gmRemoteNodeId .connected, .sendRegisterRequest gmRemoteNodeId {} sampleRegisterRequest,
    .registerResponse gmRemoteNodeId {} (registerAnswer intervalMs)]

/-- Whether the GM session is registered, and its timer. -/
def gmTimer (node : TimedNode) : Option (Bool × Int64) :=
  node.sessions[gmRemoteNodeId]?.map fun session => (session.registered, session.heartbeatTimerId)

theorem registerAnswer_accepted :
    decodeRegisterSuccessResponse (registerAnswer 5000).payload = .ok ⟨5000, 15000, 1⟩ ∧
      decodeRegisterSuccessResponse (registerAnswer 0).payload = .ok ⟨0, 15000, 1⟩ := by
  constructor <;> decide +kernel

theorem sampleRegistration_fits : (machine .game).Along Fits {} (sampleRegistration 5000) := by
  refine ⟨trivial, trivial, trivial, fun session response _ _ _ decoded => ?_, trivial⟩
  rw [registerAnswer_accepted.1] at decoded
  cases decoded
  exact ⟨by decide, by decide +kernel⟩

theorem registered_armed_sample :
    ∃ session, ((machine .game).run {} (sampleRegistration 5000)).1.sessions[gmRemoteNodeId]? = some session ∧
      0 < session.heartbeatTimerId.toInt ∧
      Armed gmRemoteNodeId session ((machine .game).run {} (sampleRegistration 5000)).1.timers := by
  have seen : gmTimer ((machine .game).run {} (sampleRegistration 5000)).1 = some (true, 1) := by decide +kernel
  obtain ⟨session, found, is⟩ := Option.map_eq_some_iff.mp seen
  have registered : session.registered = true := congrArg Prod.fst is
  exact ⟨session, found, registered_armed .game (sampleRegistration 5000) sampleRegistration_fits gmRemoteNodeId session
    found registered⟩

/-- A registration with an interval of zero is accepted and leaves a session without a timer. -/
theorem registered_unarmed :
    ¬ ∀ (role : ClientRole) (inputs : List TimedInput), (∀ call, .timers call ∉ inputs) →
      ∀ (peer : Bytes) (session : InnerNetworkSession),
      ((machine role).run {} inputs).1.sessions[peer]? = some session → session.registered = true →
      0 < session.heartbeatTimerId.toInt ∧ Armed peer session ((machine role).run {} inputs).1.timers := by
  intro armed
  have seen : gmTimer ((machine .game).run {} (sampleRegistration 0)).1 = some (true, 0) := by decide +kernel
  obtain ⟨session, found, is⟩ := Option.map_eq_some_iff.mp seen
  have registered : session.registered = true := congrArg Prod.fst is
  have timerId : session.heartbeatTimerId = 0 := congrArg Prod.snd is
  obtain ⟨positive, -⟩ := armed .game (sampleRegistration 0) (by simp [sampleRegistration]) gmRemoteNodeId session found
    registered
  rw [timerId] at positive
  exact absurd positive (by decide)

end TimedNode

end XServer.Node
