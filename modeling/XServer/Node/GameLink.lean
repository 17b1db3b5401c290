import XServer.Node.GameAct

/-!
# The links of a Game

`Move` says what a response, a heartbeat or a register request does to the
session of a link, and `LinkChange` what a handler call does to the links and to
the mesh flag as a whole (`step_links`). From it follows when a link that comes up
starts afresh: a Gate link always does, because its session is reset when the link
goes down; the GM link does exactly when its session holds no registration then
(`relink_fresh_iff`), because nothing resets it.
-/

namespace XServer.Node
open XServer.Lib XServer.Lib.Wire XServer.Net XServer.Core

/-! ## What happens to a session -/

/-- What the client side keeps true of a session: there is a sequence number only
for a request in flight, a registered session asks for nothing, and only a
registered one waits for a heartbeat. -/
structure LinkInv (session : InnerNetworkSession) : Prop where
  idle : session.registerInFlight = false → session.registerSeq = 0
  asks : session.registerInFlight = true → session.registered = false
  beats : session.registered = false → session.heartbeatSeq = 0

theorem LinkInv.asking {session : InnerNetworkSession} (inv : LinkInv session) (awaited : session.registerSeq ≠ 0) :
    session.registerInFlight = true := by
  by_contra none
  exact awaited (inv.idle (Bool.eq_false_iff.mpr none))

/-- What happens to a session while the state of its link stays: nothing but
heartbeats, a register request, or the answer to one. -/
inductive Move (session session' : InnerNetworkSession) : Prop where
  | kept (state : session'.connectionState = session.connectionState)
      (registered : session'.registered = session.registered)
      (inFlight : session'.registerInFlight = session.registerInFlight)
      (seq : session'.registerSeq = session.registerSeq)
      (beats : session.registered = false → session.heartbeatSeq = 0 → session'.heartbeatSeq = 0)
      (ready : session.innerNetworkReady = true → session'.innerNetworkReady = true)
  | asked (connected : session.connectionState = .connected) (idle : Idle session)
      (state : session'.connectionState = .connected) (registered : session'.registered = false)
      (inFlight : session'.registerInFlight = true) (beats : session'.heartbeatSeq = session.heartbeatSeq)
  | answered (awaited : session.registerSeq ≠ 0) (state : session'.connectionState = session.connectionState)
      (inFlight : session'.registerInFlight = false) (seq : session'.registerSeq = 0)
      (beats : session.heartbeatSeq = 0 → session'.heartbeatSeq = 0)

theorem Move.refl (session : InnerNetworkSession) : Move session session := .kept rfl rfl rfl rfl (fun _ => id) id

theorem Move.inv {session session' : InnerNetworkSession} (move : Move session session') (inv : LinkInv session) :
    LinkInv session' := by
  cases move with
  | kept state registered inFlight seq beats ready =>
    refine ⟨fun none => ?_, fun some => ?_, fun unregistered => ?_⟩
    · rw [seq]
      exact inv.idle (inFlight ▸ none)
    · rw [registered]
      exact inv.asks (inFlight ▸ some)
    · rw [registered] at unregistered
      exact beats unregistered (inv.beats unregistered)
  | asked connected idle state registered inFlight beats =>
    refine ⟨fun none => ?_, fun _ => registered, fun _ => ?_⟩
    · rw [inFlight] at none
      cases none
    · rw [beats]
      exact inv.beats idle.1
  | answered awaited state inFlight seq beats =>
    refine ⟨fun _ => seq, fun some => ?_, fun _ => beats ?_⟩
    · rw [inFlight] at some
      cases some
    · -- an answer is awaited only by a session that asks, and that one has no heartbeat out
      exact inv.beats (inv.asks (inv.asking awaited))

/-- What a link that is down leaves behind: nothing. -/
def Rests (session : InnerNetworkSession) : Prop :=
  LinkInv session ∧ (session.connectionState ≠ .connected → Idle session)

theorem Move.rests {session session' : InnerNetworkSession} (move : Move session session') (rests : Rests session) :
    Rests session' := by
  refine ⟨move.inv rests.1, fun down => ?_⟩
  cases move with
  | kept state registered inFlight seq beats ready =>
    rw [state] at down
    unfold Idle
    rw [registered, inFlight]
    exact rests.2 down
  | asked connected idle state => exact absurd state down
  | answered awaited state =>
    rw [state] at down
    exact absurd (rests.1.idle (rests.2 down).2) awaited

/-- A registered session that is ready stays so while its link is up: no answer to
a register request is awaited there. -/
theorem Move.ready {session session' : InnerNetworkSession} (move : Move session session') (inv : LinkInv session)
    (connected : session.connectionState = .connected) (registered : session.registered = true)
    (ready : session.innerNetworkReady = true) :
    session'.connectionState = .connected ∧ session'.registered = true ∧ session'.innerNetworkReady = true := by
  cases move with
  | kept state registered' inFlight seq beats ready' => exact ⟨state.trans connected, registered'.trans registered, ready' ready⟩
  | asked _ idle => exact absurd (registered.symm.trans idle.1) (by decide)
  | answered awaited =>
    have asking := inv.asking awaited
    exact absurd (registered.symm.trans (inv.asks asking)) (by decide)

/-- A session as `Register` enters it. -/
theorem toSession_rests (r : InnerNetworkSessionRegistration) : Rests r.toSession :=
  ⟨⟨fun _ => rfl, fun _ => rfl, fun _ => rfl⟩, fun _ => ⟨rfl, rfl⟩⟩

namespace InnerNetworkSession

/-- A change of the timer alone. -/
structure SameLink (session session' : InnerNetworkSession) : Prop where
  state : session'.connectionState = session.connectionState
  registered : session'.registered = session.registered
  inFlight : session'.registerInFlight = session.registerInFlight
  seq : session'.registerSeq = session.registerSeq
  beats : session'.heartbeatSeq = session.heartbeatSeq
  ready : session'.innerNetworkReady = session.innerNetworkReady

theorem startOrResetHeartbeatTimer_link (session : InnerNetworkSession) (env : LinkEnv) (intervalMs : UInt32) :
    SameLink session (session.startOrResetHeartbeatTimer env intervalMs) := by
  have cancelled : SameLink session session.cancelHeartbeatTimer := by
    unfold cancelHeartbeatTimer
    split
    · exact ⟨rfl, rfl, rfl, rfl, rfl, rfl⟩
    · exact ⟨rfl, rfl, rfl, rfl, rfl, rfl⟩
  unfold startOrResetHeartbeatTimer
  simp only
  split
  · exact ⟨cancelled.state, cancelled.registered, cancelled.inFlight, cancelled.seq, cancelled.beats, cancelled.ready⟩
  · exact cancelled

theorem heartbeatSucceeded_link (session : InnerNetworkSession) (env : LinkEnv) (response : HeartbeatSuccessResponse) :
    SameLink session (session.heartbeatSucceeded env response) := by
  unfold heartbeatSucceeded
  simp only
  split
  · have timer := startOrResetHeartbeatTimer_link { session with
      heartbeatIntervalMs := response.heartbeatIntervalMs, heartbeatTimeoutMs := response.heartbeatTimeoutMs,
      lastServerNowUnixMs := response.serverNowUnixMs, lastHeartbeatAtUnixMs := env.nowUnixMs } env
      response.heartbeatIntervalMs
    exact ⟨timer.state, timer.registered, timer.inFlight, timer.seq, timer.beats, timer.ready⟩
  · exact ⟨rfl, rfl, rfl, rfl, rfl, rfl⟩

/-- The packet carries this request under this sequence number. -/
def CarriesRegister (request : RegisterRequest) (seq : UInt32) (packet : Bytes) : Prop :=
  ∃ header body, decodePacket packet = .ok ⟨header, body⟩ ∧ header.msgId = innerRegisterMsgId ∧ header.flags = 0 ∧
    header.seq = seq ∧ decodeRegisterRequest body = .ok request

/-- The request has a wire form, and the network takes packets to the target. -/
def Sendable (env : LinkEnv) (target : Bytes) (request : RegisterRequest) : Prop :=
  (∃ size, getRegisterRequestWireSize request = .ok size) ∧ ∀ packet, env.sendOk target packet = true

/-- A register request on a link that is up: it goes out under a new sequence
number and is in flight then, or the codec or the network refuses it. -/
inductive AskOutcome (session : InnerNetworkSession) (env : LinkEnv) (target : Bytes) (request : RegisterRequest) :
    InnerNetworkSession × Option Bytes → Prop where
  | sent {packet : Bytes} {seq nextSeq : UInt32} (carries : CarriesRegister request seq packet) :
      AskOutcome session env target request
        ({ session with nextSeq, registerInFlight := true, registerSeq := seq }, some packet)
  | refused {nextSeq : UInt32} (why : ¬ Sendable env target request) :
      AskOutcome session env target request ({ session with nextSeq }, none)

theorem sendRegisterRequest_outcome {session : InnerNetworkSession} (env : LinkEnv) (target : Bytes)
    (request : RegisterRequest) (connected : session.connectionState = .connected)
    (idle : session.registerInFlight = false) :
    AskOutcome session env target request (session.sendRegisterRequest env target request) := by
  unfold sendRegisterRequest
  rw [if_neg (by simp [connected, idle])]
  split
  · rename_i unsized
    refine .refused fun sendable => ?_
    obtain ⟨⟨size, sized⟩, -⟩ := sendable
    rw [unsized] at sized
    cases sized
  · rename_i size sized
    rw [encodeRegisterRequest_ok sized]
    simp only
    obtain ⟨-, bounded, -⟩ := getRegisterRequestWireSize_ok sized
    split
    · rename_i unsent
      refine .refused fun sendable => ?_
      have encoded := fun seq => @encodePacket_make innerRegisterMsgId seq 0 _ (by decide) bounded.short
      unfold LinkEnv.send at unsent
      rw [encoded] at unsent
      simp [sendable.2] at unsent
    · rename_i packet sent
      exact .sent ⟨_, _, decodePacket_encodePacket (LinkEnv.send_some sent), rfl, rfl, rfl,
        decodeRegisterRequest_encode (encodeRegisterRequest_ok sized)⟩

theorem sendRegisterRequest_move {session : InnerNetworkSession} (env : LinkEnv) (target : Bytes)
    (request : RegisterRequest) (idle : Idle session) :
    Move session (session.sendRegisterRequest env target request).1 := by
  by_cases connected : session.connectionState = .connected
  · have outcome := sendRegisterRequest_outcome env target request connected idle.2
    generalize session.sendRegisterRequest env target request = result at outcome ⊢
    cases outcome with
    | sent carries => exact .asked connected idle connected idle.1 rfl rfl
    | refused why => exact .kept rfl rfl rfl rfl (fun _ => id) id
  · unfold sendRegisterRequest
    rw [if_pos (.inl connected)]
    exact .refl session

theorem heartbeatTick_move (session : InnerNetworkSession) (env : LinkEnv) (target : Bytes) :
    Move session (session.heartbeatTick env target).1 := by
  unfold heartbeatTick
  split
  · unfold sendHeartbeatRequest
    split
    · exact .refl session
    · rename_i registered
      simp only [not_or, Bool.not_eq_false] at registered
      split
      · exact .refl session
      · simp only
        split
        · exact .kept rfl rfl rfl rfl (fun _ => id) id
        · refine .kept rfl rfl rfl rfl (fun unregistered => ?_) id
          rw [registered.1] at unregistered
          cases unregistered
  · exact .refl session

end InnerNetworkSession

/-- An ownership sync applied or a service-ready report sent. -/
def GameEvent.OfStubs : GameEvent → Prop
  | .send _ _ => False
  | .applied _ => True
  | .reported _ => True

instance : ∀ event : GameEvent, Decidable event.OfStubs
  | .send _ _ => inferInstanceAs (Decidable False)
  | .applied _ => inferInstanceAs (Decidable True)
  | .reported _ => inferInstanceAs (Decidable True)

namespace GameNode

theorem registerResponse_move (env : GameEnv) (packet : Packet) (session : InnerNetworkSession) :
    Move session (registerResponse env packet session).1 := by
  unfold registerResponse
  split
  · exact .refl session
  · rename_i awaited
    simp only [InnerNetworkSession.awaitsRegister, Bool.not_eq_true', Bool.not_eq_false, Bool.and_eq_true,
      bne_iff_ne, ne_eq] at awaited
    simp only
    split
    · exact .answered awaited.1 rfl rfl rfl id
    split
    · exact .answered awaited.1 rfl rfl rfl id
    · rename_i response decoded
      have timer := InnerNetworkSession.startOrResetHeartbeatTimer_link
        { ({ session with registerInFlight := false, registerSeq := 0 }).registerSucceeded env.toLinkEnv response with
          innerNetworkReady := false } env.toLinkEnv response.heartbeatIntervalMs
      exact .answered awaited.1 timer.state timer.inFlight timer.seq fun _ => timer.beats

theorem heartbeatResponse_move (env : GameEnv) (packet : Packet) (session : InnerNetworkSession) :
    Move session (heartbeatResponse env packet session).1 := by
  unfold heartbeatResponse
  split
  · exact .refl session
  · simp only
    split
    · exact .kept rfl rfl rfl rfl (fun _ _ => rfl) id
    · rename_i response decoded
      have same := InnerNetworkSession.heartbeatSucceeded_link { session with heartbeatSeq := 0 } env.toLinkEnv response
      exact .kept same.state same.registered same.inFlight same.seq (fun _ _ => same.beats) fun _ => rfl

/-! ## What a handler call does to the links -/

/-- The links and the mesh flag are as before. -/
structure SameLinks (game game' : GameNode) : Prop where
  sessions : game'.sessions = game.sessions
  gates : game'.gates = game.gates
  mesh : game'.meshReady.current = game.meshReady.current

/-- The elementary changes of a Game's links and mesh flag, within the handling of
`input` in the state `origin`. The state of a link changes only at the beginning. -/
inductive LinkChange (origin : GameNode) (input : Input) (game : GameNode) : List GameEvent → GameNode → Prop where
  | apart {game' : GameNode} {events : List GameEvent} (same : SameLinks game game')
      (gated : ∀ event ∈ events, GameEvent.OfStubs event → game.meshReady.current = true) :
      LinkChange origin input game events game'
  | link {peer : Bytes} {session session' : InnerNetworkSession} {events : List GameEvent}
      (found : game.sessions.findByNodeId peer = some session) (move : Move session session')
      (sends : ∀ event ∈ events, ¬ GameEvent.OfStubs event) :
      LinkChange origin input game events { game with sessions := game.sessions.modify peer fun _ => session' }
  | state {env : GameEnv} {peer : Bytes} {state : ZmqConnectionState} (first : game = origin)
      (changed : input = .connectorState env peer state) (passed : peer = gmRemoteNodeId ∨ state = .connected) :
      LinkChange origin input game []
        { game with sessions := game.sessions.modify peer fun s => { s with connectionState := state } }
  | reset {env : GameEnv} {peer : Bytes} {state : ZmqConnectionState} (first : game = origin)
      (changed : input = .connectorState env peer state) (isGate : peer ≠ gmRemoteNodeId) (down : state ≠ .connected) :
      LinkChange origin input game [] { game with sessions := game.sessions.modify peer (resetGateSession state) }
  | mesh (complete : game.areAllGateSessionsConnected = true) :
      LinkChange origin input game [] { game with meshReady := { game.meshReady with current := true } }

/-- A handler call as a sequence of such changes. -/
def LinkChanges (origin : GameNode) (input : Input) (game : GameNode) (result : GameNode × List GameEvent) : Prop :=
  Steps (LinkChange origin input) game result.2 result.1

variable {origin : GameNode} {input : Input}

theorem LinkOp.move {request : RegisterRequest} {peer : Bytes} {session session' : InnerNetworkSession}
    {packet : Option Bytes} (op : LinkOp request peer session session' packet) : Move session session' := by
  cases op with
  | ask env idle => exact InnerNetworkSession.sendRegisterRequest_move _ _ _ idle
  | tick env => exact session.heartbeatTick_move _ _
  | registerResponse env packet => exact registerResponse_move env packet session
  | heartbeatResponse env packet => exact heartbeatResponse_move env packet session

theorem sent_not_ofStubs {peer : Bytes} {packet : Option Bytes} {event : GameEvent}
    (mem : event ∈ GameEvent.sent peer packet) : ¬ event.OfStubs := by
  simp only [GameEvent.sent, List.mem_map, Option.mem_toList] at mem
  obtain ⟨packet, -, rfl⟩ := mem
  exact id

theorem Opening.links {game game' : GameNode} {events : List GameEvent} (opening : Opening game input events game') :
    LinkChanges game input game (game', events) := by
  cases opening with
  | nothing => exact Steps.nil game
  | state found passed => exact Steps.single (.state rfl rfl passed)
  | reset found isGate down => exact Steps.single (.reset rfl rfl isGate down)
  | apply latched brought => exact Steps.single (.apart ⟨rfl, rfl, rfl⟩ fun _ _ _ => latched)
  | ready taken => exact Steps.single (.apart ⟨rfl, rfl, rfl⟩ (by simp))

theorem Act.links {game game' : GameNode} {events : List GameEvent} (act : Act origin input game events game') :
    LinkChanges origin input game (game', events) := by
  cases act with
  | link found op => exact Steps.single (.link found op.move fun _ mem => sent_not_ofStubs mem)
  | online serverNowUnixMs => exact Steps.single (.apart ⟨rfl, rfl, rfl⟩ (by simp))
  | @mesh env looked unlatched complete =>
    have latched : LinkChange origin input game [] game.latch := .mesh complete
    rcases game.latch.sendMeshReadyReport_cases env with ⟨packet, -, sent⟩ | unsent
    · rw [sent]
      refine Steps.cons latched (Steps.single (.apart ⟨rfl, rfl, rfl⟩ fun event mem ofStubs => ?_))
      rw [List.mem_singleton.mp mem] at ofStubs
      exact ofStubs.elim
    · rw [unsent]
      exact Steps.single latched
  | report latched complete unreported encoded decoded =>
    exact Steps.single (.apart ⟨rfl, rfl, rfl⟩ fun _ _ _ => latched)

/-- **Every input is a sequence of link changes.** -/
theorem step_links (game : GameNode) (input : Input) : LinkChanges game input game (game.step input) :=
  (step_handled game input).steps (fun _ _ opening => opening.links) fun _ _ _ act => act.links

/-! ## What the changes preserve -/

/-- The session of the peer, if there is one, has the property. -/
def AtPeer (P : InnerNetworkSession → Prop) (peer : Bytes) (game : GameNode) : Prop :=
  ∀ session, game.sessions.findByNodeId peer = some session → P session

theorem AtPeer.modify {P : InnerNetworkSession → Prop} {peer : Bytes} {game : GameNode} (h : AtPeer P peer game)
    {other : Bytes} {f : InnerNetworkSession → InnerNetworkSession}
    (kept : ∀ session, game.sessions.findByNodeId peer = some session → other = peer → P (f session)) :
    AtPeer P peer { game with sessions := game.sessions.modify other f } := by
  intro session found
  rw [InnerNetworkSessionManager.findByNodeId_modify] at found
  split at found
  · rename_i same
    obtain ⟨before, held, rfl⟩ := Option.map_eq_some_iff.mp found
    exact kept before held same
  · exact h session found

theorem LinkChange.inv {peer : Bytes} {game game' : GameNode} {events : List GameEvent}
    (change : LinkChange origin input game events game') (inv : AtPeer LinkInv peer game) :
    AtPeer LinkInv peer game' := by
  cases change with
  | apart same gated =>
    intro session found
    rw [same.sessions] at found
    exact inv session found
  | link found move sends =>
    refine inv.modify fun session held same => ?_
    subst same
    rw [found] at held
    cases held
    exact move.inv (inv _ found)
  | state first changed passed =>
    refine inv.modify fun session held _ => ?_
    obtain ⟨idle, asks, beats⟩ := inv session held
    exact ⟨idle, asks, beats⟩
  | reset first changed isGate down => exact inv.modify fun session _ _ => ⟨fun _ => rfl, fun _ => rfl, fun _ => rfl⟩
  | mesh complete => exact inv

/-- The GM link goes down only while its session is idle. -/
def DropIdle (game : GameNode) (input : Input) : Prop :=
  ∀ env state session, input = .connectorState env gmRemoteNodeId state →
    game.sessions.findByNodeId gmRemoteNodeId = some session → session.connectionState = .connected →
    state ≠ .connected → Idle session

/-- A link that is down stays at rest: a Gate link always, the GM link if it went
down idle. -/
theorem LinkChange.rests {peer : Bytes} {game game' : GameNode} {events : List GameEvent}
    (change : LinkChange origin input game events game') (clean : peer = gmRemoteNodeId → DropIdle origin input)
    (rests : AtPeer Rests peer game) : AtPeer Rests peer game' := by
  have inv : AtPeer LinkInv peer game' := change.inv fun session found => (rests session found).1
  cases change with
  | apart same gated =>
    intro session found
    rw [same.sessions] at found
    exact rests session found
  | link found move sends =>
    refine rests.modify fun session held same => ?_
    subst same
    rw [found] at held
    cases held
    exact move.rests (rests _ found)
  | @state env other state first changed passed =>
    refine rests.modify fun session held same => ?_
    subst same first
    have after : LinkInv { session with connectionState := state } := inv _ (findByNodeId_state held)
    refine ⟨after, fun down => ?_⟩
    have isGm : other = gmRemoteNodeId := passed.resolve_right down
    by_cases up : session.connectionState = .connected
    · subst isGm
      exact clean rfl env state session changed held up down
    · exact (rests session held).2 up
  | reset first changed isGate down =>
    refine rests.modify fun session _ _ => ?_
    exact ⟨⟨fun _ => rfl, fun _ => rfl, fun _ => rfl⟩, fun _ => ⟨rfl, rfl⟩⟩
  | mesh complete => exact rests

theorem step_linkInv (peer : Bytes) (game : GameNode) (input : Input) (inv : AtPeer LinkInv peer game) :
    AtPeer LinkInv peer (game.step input).1 :=
  Steps.invariant (fun _ _ _ inv change => change.inv inv) (step_links game input) inv

theorem step_rests (peer : Bytes) (game : GameNode) (input : Input) (rests : AtPeer Rests peer game)
    (clean : peer = gmRemoteNodeId → DropIdle game input) : AtPeer Rests peer (game.step input).1 :=
  Steps.invariant (fun _ _ _ rests change => change.rests clean rests) (step_links game input) rests

/-- The sessions of a Game that starts are as `Register` enters them. -/
theorem onInit_sessions {P : InnerNetworkSession → Prop} {config : ClusterConfig} {self : NodeEntry} {boot : NodeBoot}
    {game : GameNode} (init : onInit config self boot = some game)
    (new : ∀ r : InnerNetworkSessionRegistration, r.innerNetworkReady = false → P r.toSession) (peer : Bytes) :
    AtPeer P peer game := by
  simp only [onInit, Option.bind_eq_bind, Option.bind_eq_some_iff] at init
  obtain ⟨-, -, -, -, gm, gmOk, sessions, gatesOk, eq⟩ := init
  cases eq
  suffices all : ∀ peer session, sessions.findByNodeId peer = some session → P session from all peer
  have start : ∀ peer session, gm.findByNodeId peer = some session → P session :=
    InnerNetworkSessionManager.register_sessions (ok_of_toOption gmOk) (new _ rfl) fun peer session found => by
      simp [InnerNetworkSessionManager.findByNodeId] at found
  exact @InnerNetworkSessionManager.foldlM_register _ (fun m => ∀ peer session, m.findByNodeId peer = some session → P session)
    _ (fun gate _ _ accepted => InnerNetworkSessionManager.register_sessions accepted (new _ rfl)) _ _ _ start gatesOk

theorem onInit_rests {config : ClusterConfig} {self : NodeEntry} {boot : NodeBoot} {game : GameNode}
    (init : onInit config self boot = some game) (peer : Bytes) : AtPeer Rests peer game :=
  onInit_sessions init (fun r _ => toSession_rests r) peer

/-! ## A link that comes up -/

open InnerNetworkSession in
/-- A link that has come up afresh: it is not registered and waits for no
heartbeat, and a register request in flight is one of these events. It is in
flight unless it could not be sent. -/
structure Fresh (peer : Bytes) (env : LinkEnv) (request : RegisterRequest) (session : InnerNetworkSession)
    (events : List GameEvent) : Prop where
  connected : session.connectionState = .connected
  unregistered : session.registered = false
  unbeaten : session.heartbeatSeq = 0
  asked : session.registerInFlight = true →
    ∃ packet, .send peer packet ∈ events ∧ CarriesRegister request session.registerSeq packet
  inFlight : Sendable env peer request → session.registerInFlight = true

/-- If the step brings the link to the peer up, the link is fresh. A Gate link is
used only once all nodes are online. -/
def FreshLink (peer : Bytes) (game : GameNode) (input : Input) : Prop :=
  ∀ env session, input = .connectorState env peer .connected → game.sessions.findByNodeId peer = some session →
    session.connectionState ≠ .connected → (peer = gmRemoteNodeId ∨ game.allNodesOnline = true) →
    ∃ session', (game.step input).1.sessions.findByNodeId peer = some session' ∧
      Fresh peer env.toLinkEnv game.registerRequest session' (game.step input).2

/-- The GM link comes up only while its session is idle. -/
def RelinkIdle (game : GameNode) (input : Input) : Prop :=
  ∀ env session, input = .connectorState env gmRemoteNodeId .connected →
    game.sessions.findByNodeId gmRemoteNodeId = some session → session.connectionState ≠ .connected → Idle session

/-- A register request from an idle session that is connected makes a fresh link. -/
theorem sendRegisterTo_fresh {game : GameNode} {env : GameEnv} {peer : Bytes} {session : InnerNetworkSession}
    (found : game.sessions.findByNodeId peer = some session) (connected : session.connectionState = .connected)
    (idle : Idle session) (inv : LinkInv session) :
    ∃ session', (game.sendRegisterTo env peer).1.sessions.findByNodeId peer = some session' ∧
      Fresh peer env.toLinkEnv game.registerRequest session' (game.sendRegisterTo env peer).2 := by
  have outcome := InnerNetworkSession.sendRegisterRequest_outcome env.toLinkEnv peer game.registerRequest connected idle.2
  unfold sendRegisterTo onSession
  rw [found]
  simp only [InnerNetworkSessionManager.findByNodeId_modify, if_pos, found, Option.map_some]
  generalize session.sendRegisterRequest env.toLinkEnv peer game.registerRequest = result at outcome ⊢
  refine ⟨result.1, rfl, ?_⟩
  cases outcome with
  | @sent packet seq nextSeq carries =>
    exact ⟨connected, idle.1, inv.beats idle.1, fun _ => ⟨packet, List.mem_singleton_self _, carries⟩, fun _ => rfl⟩
  | refused why =>
    refine ⟨connected, idle.1, inv.beats idle.1, fun some => ?_, fun sendable => absurd sendable why⟩
    have none : session.registerInFlight = true := some
    rw [idle.2] at none
    cases none

theorem fresh_of_idle {game : GameNode} {env : GameEnv} {peer : Bytes} {session : InnerNetworkSession}
    (found : game.sessions.findByNodeId peer = some session) (down : session.connectionState ≠ .connected)
    (idle : Idle session) (inv : LinkInv session) (used : peer = gmRemoteNodeId ∨ game.allNodesOnline = true) :
    ∃ session', (game.step (.connectorState env peer .connected)).1.sessions.findByNodeId peer = some session' ∧
      Fresh peer env.toLinkEnv game.registerRequest session' (game.step (.connectorState env peer .connected)).2 := by
  have fresh : ∃ session', _ ∧ Fresh peer env.toLinkEnv game.registerRequest session' _ :=
    @sendRegisterTo_fresh { game with
      sessions := game.sessions.modify peer fun s => { s with connectionState := .connected } } env peer _
      (findByNodeId_state found) rfl idle ⟨inv.idle, inv.asks, inv.beats⟩
  by_cases isGm : peer = gmRemoteNodeId
  · subst isGm
    simp only [step, handleConnectorStateChanged, if_true, handleGmConnectionStateChanged, found]
    rw [if_neg fun drop => down drop.1, if_pos (show session.registered = false ∧ _ from idle)]
    exact fresh
  · simp only [step, handleConnectorStateChanged, isGm, if_false, handleGateConnectionStateChanged, found]
    rw [if_neg (by simp), if_pos ⟨used.resolve_left isGm, idle⟩]
    exact fresh

/-- A session that is not idle is taken over as it is, and nothing is sent. -/
theorem relink_busy {game : GameNode} {env : GameEnv} {session : InnerNetworkSession}
    (found : game.sessions.findByNodeId gmRemoteNodeId = some session) (down : session.connectionState ≠ .connected)
    (busy : ¬ Idle session) : game.step (.connectorState env gmRemoteNodeId .connected) =
      ({ game with sessions := game.sessions.modify gmRemoteNodeId fun s => { s with connectionState := .connected } }, []) := by
  simp only [step, handleConnectorStateChanged, if_true, handleGmConnectionStateChanged, found]
  rw [if_neg fun drop => down drop.1, if_neg (show ¬ (session.registered = false ∧ _) from busy)]

theorem FreshLink.relinkIdle {game : GameNode} {input : Input} (fresh : FreshLink gmRemoteNodeId game input) :
    RelinkIdle game input := by
  intro env session arrived found down
  by_contra busy
  subst arrived
  obtain ⟨session', found', after⟩ := fresh env session rfl found down (.inl rfl)
  rw [relink_busy found down busy] at found' after
  rw [findByNodeId_state found] at found'
  cases found'
  -- the registration is still there, or a request that was not sent now
  apply busy
  refine ⟨after.unregistered, Bool.eq_false_iff.mpr fun inFlight => ?_⟩
  obtain ⟨packet, sent, -⟩ := after.asked inFlight
  cases sent

theorem RelinkIdle.freshLink {game : GameNode} {input : Input} (idle : RelinkIdle game input)
    (inv : AtPeer LinkInv gmRemoteNodeId game) : FreshLink gmRemoteNodeId game input := by
  intro env session arrived found down used
  subst arrived
  exact fresh_of_idle found down (idle env session rfl found down) (inv session found) used

/-- A link at rest comes up afresh. -/
theorem freshLink_of_rests {peer : Bytes} {game : GameNode} {input : Input} (rests : AtPeer Rests peer game) :
    FreshLink peer game input := by
  intro env session arrived found down used
  subst arrived
  obtain ⟨inv, atRest⟩ := rests session found
  exact fresh_of_idle found down (atRest down) inv used

/-- **A Gate link comes up afresh**, in every run. -/
theorem gate_relink_fresh {config : ClusterConfig} {self : NodeEntry} {boot : NodeBoot} {game : GameNode}
    (init : onInit config self boot = some game) {gate : Bytes} (isGate : gate ≠ gmRemoteNodeId) (is : List Input) :
    machine.Along (FreshLink gate) game is := by
  exact Machine.Along.of_invariant (fun game input rests _ => step_rests gate game input rests fun isGm => absurd isGm isGate)
    (fun game input rests _ => freshLink_of_rests rests) (onInit_rests init gate) (Machine.along_true game is)

/-- **The GM link comes up afresh** in a run exactly if its session is idle each
time it does; and it is, if the link never goes down with a registration or a
request for one. -/
theorem relink_fresh_iff {config : ClusterConfig} {self : NodeEntry} {boot : NodeBoot} {game : GameNode}
    (init : onInit config self boot = some game) (is : List Input) :
    (machine.Along (FreshLink gmRemoteNodeId) game is ↔ machine.Along RelinkIdle game is) ∧
      (machine.Along DropIdle game is → machine.Along (FreshLink gmRemoteNodeId) game is) := by
  have start := onInit_rests init gmRemoteNodeId
  refine ⟨⟨fun fresh => fresh.mono fun _ _ fresh => fresh.relinkIdle, fun idle => ?_⟩, fun clean => ?_⟩
  · exact Machine.Along.of_invariant (fun game input inv _ => step_linkInv gmRemoteNodeId game input inv)
      (fun game input inv idle => idle.freshLink inv) (fun session found => (start session found).1) idle
  · exact Machine.Along.of_invariant (fun game input rests clean => step_rests gmRemoteNodeId game input rests fun _ => clean)
      (fun game input rests _ => freshLink_of_rests rests) start clean

theorem sampleGame_isSome : (onInit sampleConfig sampleGameEntry {}).isSome = true := by decide +kernel

/-- The Game of the small cluster. -/
def sampleGame : GameNode := (onInit sampleConfig sampleGameEntry {}).get sampleGame_isSome

theorem sampleGame_init : onInit sampleConfig sampleGameEntry {} = some sampleGame := (Option.some_get _).symm

/-- The GM link comes up for the first time. -/
theorem relink_fresh_sample :
    machine.Along (FreshLink gmRemoteNodeId) sampleGame [.connectorState {} gmRemoteNodeId .connected] := by
  refine (relink_fresh_iff sampleGame_init _).2 ⟨?_, trivial⟩
  intro env state session arrived found up down
  cases arrived
  exact absurd rfl down

/-- The GM link comes up, goes down before the answer to the register request is
there, and comes up again: nothing is sent, and the old request is still in
flight. -/
theorem lost_answer_keeps_request :
    ¬ machine.Along (FreshLink gmRemoteNodeId) sampleGame [.connectorState {} gmRemoteNodeId .connected,
      .connectorState {} gmRemoteNodeId .disconnected, .connectorState {} gmRemoteNodeId .connected] := by
  rintro ⟨-, -, fresh, -⟩
  have held : (((machine.run sampleGame [.connectorState {} gmRemoteNodeId .connected,
      .connectorState {} gmRemoteNodeId .disconnected]).1.sessions.findByNodeId gmRemoteNodeId).map
        fun session => (session.connectionState, session.registerInFlight)) = some (.disconnected, true) := by decide +kernel
  obtain ⟨session, found, fields⟩ := Option.map_eq_some_iff.mp held
  obtain ⟨state, inFlight⟩ := Prod.mk.inj fields
  have down : session.connectionState ≠ .connected := by
    rw [state]
    decide
  have idle := fresh.relinkIdle {} session rfl found down
  rw [idle.2] at inFlight
  cases inFlight

end GameNode

end XServer.Node
