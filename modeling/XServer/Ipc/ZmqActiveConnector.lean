import XServer.Ipc.ZmqSocket
import XServer.Lib.History
import XServer.Lib.Machine

/-!
# The active connector

`ZmqActiveConnector`, the DEALER socket of a node. Its state follows the events of the
monitor: it is told to the node when it changes, a retry does not take a connection back,
and nothing is told between a stop and the next start.
-/

namespace XServer.Ipc
open XServer.Lib XServer.Lib.Wire

inductive ZmqConnectionState where
  | stopped
  | connecting
  | connected
  | disconnected
  deriving DecidableEq, Repr

structure ZmqActiveConnectorOptions where
  remoteEndpoint : String
  routingId : String := ""
  pollInterval : Int := 1
  sendHighWaterMark : Int := 1024
  receiveHighWaterMark : Int := 1024
  reconnectIntervalMs : Int := 100
  reconnectIntervalMaxMs : Int := 1000
  handshakeIntervalMs : Int := 3000
  deriving DecidableEq, Repr

/-- The connector with the frames that wait in its sockets; `none` is a closed one. -/
structure ZmqActiveConnector where
  options : ZmqActiveConnectorOptions
  waits : List PumpWait := []
  pump : PumpPhase := .idle
  socket : Option (List ZmqFrame) := none
  monitorSocket : Option (List ZmqFrame) := none
  running : Bool := false
  state : ZmqConnectionState := .stopped
  lastErrorMessage : String := ""
  deriving DecidableEq, Repr

/-- What a step hands out. -/
inductive ConnectorOutput where
  | received (message : Bytes)
  | stateChanged (state : ZmqConnectionState)
  | returned (code : ZmqSocketErrorCode)
  deriving DecidableEq, Repr

inductive ConnectorInput where
  /-- `opened` is what `OpenSockets` comes to: `none`, or its error. -/
  | start (contextValid : Bool) (opened : Option (ZmqSocketErrorCode × String))
  | stop
  /-- `failed` is what libzmq fails with. -/
  | send (message : Bytes) (failed : Option String)
  /-- A message arrives at the socket, or at the one of the monitor. -/
  | arrive (parts : List Bytes)
  | notify (parts : List Bytes)
  /-- The time of the pump timer comes. -/
  | expire
  /-- The io context runs the handler of a wait, which fails if its time has not come. -/
  | complete (index : Nat) (error : String)
  /-- One round of the loop that the pump is in; `error` is what a receive fails with when no frame waits. -/
  | poll (error : Option String)
  deriving DecidableEq, Repr

namespace ZmqActiveConnector

def validateOptions (connector : ZmqActiveConnector) (contextValid : Bool) : Option (ZmqSocketErrorCode × String) :=
  if contextValid = false then some (.contextNotInitialized, "ZeroMQ context is not initialized.")
  else if connector.options.remoteEndpoint = "" then
    some (.endpointEmpty, "ZeroMQ active connector remote_endpoint must not be empty.")
  else if connector.options.pollInterval ≤ 0 then
    some (.pollIntervalMustBePositive, "ZeroMQ active connector poll_interval must be greater than zero.")
  else if connector.options.sendHighWaterMark < 0 ∨ connector.options.receiveHighWaterMark < 0 then
    some (.highWaterMarkNegative, "ZeroMQ active connector high water marks must not be negative.")
  else if connector.options.reconnectIntervalMs < 0 ∨ connector.options.reconnectIntervalMaxMs < 0 ∨
      connector.options.handshakeIntervalMs < 0 then
    some (.timingOptionNegative, "ZeroMQ active connector timing options must not be negative.")
  else none

def updateState (connector : ZmqActiveConnector) (newState : ZmqConnectionState) :
    ZmqActiveConnector × List ConnectorOutput :=
  if connector.state = newState then (connector, []) else ({ connector with state := newState }, [.stateChanged newState])

def closeSockets (connector : ZmqActiveConnector) : ZmqActiveConnector :=
  { connector with socket := none, monitorSocket := none }

def schedulePump (connector : ZmqActiveConnector) : ZmqActiveConnector :=
  if connector.running = true then { connector with waits := scheduleWait connector.waits } else connector

def start (connector : ZmqActiveConnector) (contextValid : Bool) (opened : Option (ZmqSocketErrorCode × String)) :
    ZmqActiveConnector × List ConnectorOutput :=
  if connector.running = true then
    ({ connector with lastErrorMessage := "ZeroMQ active connector is already running." }, [.returned .alreadyRunning])
  else
    match connector.validateOptions contextValid with
    | some (code, message) => ({ connector with lastErrorMessage := message }, [.returned code])
    | none =>
      match opened with
      | some (code, message) => ({ connector with lastErrorMessage := message }.closeSockets, [.returned code])
      | none =>
        let changed := { connector with
          socket := some [], monitorSocket := some [], running := true, lastErrorMessage := "" }.updateState .connecting
        (changed.1.schedulePump, changed.2 ++ [.returned .none])

def stop (connector : ZmqActiveConnector) : ZmqActiveConnector × List ConnectorOutput :=
  let stopped := if connector.running = true then
      { connector with running := false, waits := cancelWaits connector.waits }
    else connector
  { stopped.closeSockets with lastErrorMessage := "" }.updateState .stopped

def send (connector : ZmqActiveConnector) (_message : Bytes) (failed : Option String) :
    ZmqActiveConnector × List ConnectorOutput :=
  if connector.running = false ∨ connector.socket = none then
    ({ connector with lastErrorMessage := "ZeroMQ active connector must be started before Send()." },
      [.returned .notStarted])
  else
    match failed with
    | some error =>
      ({ connector with lastErrorMessage := buildZmqErrorMessage "Failed to send ZeroMQ message" error },
        [.returned .messageSendFailed])
    | none => ({ connector with lastErrorMessage := "" }, [.returned .none])

/-! ## The pump -/

/-- `HandlePump` for a wait that was not aborted, up to its first loop. -/
def handlePump (connector : ZmqActiveConnector) (error : Option String) : ZmqActiveConnector :=
  if connector.running = false then connector
  else
    match error with
    | some text => { connector with
        lastErrorMessage := "Asio timer error while driving ZeroMQ active connector: " ++ text }
    | none => { connector with pump := .monitor }

def complete (connector : ZmqActiveConnector) (index : Nat) (error : String) : ZmqActiveConnector :=
  match connector.waits[index]? with
  | none => connector
  | some .waiting => { connector with waits := connector.waits.eraseIdx index }.handlePump (some error)
  | some .due => { connector with waits := connector.waits.eraseIdx index }.handlePump none
  | some .aborted => { connector with waits := connector.waits.eraseIdx index }

def handleMonitorEvent (connector : ZmqActiveConnector) (event : UInt16) : ZmqActiveConnector × List ConnectorOutput :=
  if event = eventConnected ∨ event = eventHandshakeSucceeded then connector.updateState .connected
  else if event = eventConnectDelayed ∨ event = eventConnectRetried then
    if connector.state ≠ .connected then connector.updateState .connecting else (connector, [])
  else if event = eventDisconnected ∨ event = eventClosed ∨ event = eventCloseFailed ∨
      event = eventHandshakeFailedNoDetail ∨ event = eventHandshakeFailedProtocol ∨ event = eventHandshakeFailedAuth then
    connector.updateState .disconnected
  else (connector, [])

/-- After a loop of the pump: the next one, or the end of the handler. -/
def leaveMonitor (connector : ZmqActiveConnector) : ZmqActiveConnector :=
  { connector with pump := if connector.running = true then .messages else .idle }

def leaveMessages (connector : ZmqActiveConnector) : ZmqActiveConnector := { connector.schedulePump with pump := .idle }

/-- A round of `PollMonitor`. -/
def pollMonitor (connector : ZmqActiveConnector) (error : Option String) :
    ZmqActiveConnector × List ConnectorOutput :=
  match connector.running, connector.monitorSocket with
  | true, some frames =>
    let receipt := receiveMonitorEvent error frames
    let connector := { connector with monitorSocket := some receipt.2 }
    match receipt.1 with
    | .again => (connector.leaveMonitor, [])
    | .failed _ message => ({ connector with lastErrorMessage := message }.leaveMonitor, [])
    | .received (event, _) => connector.handleMonitorEvent event
  | _, _ => (connector.leaveMonitor, [])

/-- `ReceiveMessage`: the message, and the frames that are left. -/
def receiveMessage (error : Option String) : List ZmqFrame → Receipt Bytes × List ZmqFrame
  | [] => (receiveNothing .receiveFailed "Failed to receive ZeroMQ message" error, [])
  | frame :: rest =>
    if frame.more = true then
      (.failed .multipartNotSupported "ZeroMQ active connector only supports single-frame messages.",
        drainMultipartFrames rest)
    else (.received frame.data, rest)

/-- A round of `PollIncomingMessages`; the handler runs with what is handed out. -/
def pollIncomingMessages (connector : ZmqActiveConnector) (error : Option String) :
    ZmqActiveConnector × List ConnectorOutput :=
  match connector.running, connector.socket with
  | true, some frames =>
    let receipt := receiveMessage error frames
    let connector := { connector with socket := some receipt.2 }
    match receipt.1 with
    | .again => (connector.leaveMessages, [])
    | .failed _ message => ({ connector with lastErrorMessage := message }.leaveMessages, [])
    | .received message => ({ connector with lastErrorMessage := "" }, [.received message])
  | _, _ => (connector.leaveMessages, [])

def poll (connector : ZmqActiveConnector) (error : Option String) : ZmqActiveConnector × List ConnectorOutput :=
  match connector.pump with
  | .idle => (connector, [])
  | .monitor => connector.pollMonitor error
  | .messages => connector.pollIncomingMessages error

/-- Messages come to open sockets only, and a wait is completed while no handler runs. -/
def step (connector : ZmqActiveConnector) : ConnectorInput → ZmqActiveConnector × List ConnectorOutput
  | .start contextValid opened => connector.start contextValid opened
  | .stop => connector.stop
  | .send message failed => connector.send message failed
  | .arrive parts => ({ connector with socket := connector.socket.map (· ++ multipart parts) }, [])
  | .notify parts => ({ connector with monitorSocket := connector.monitorSocket.map (· ++ multipart parts) }, [])
  | .expire => ({ connector with waits := expireWaits connector.waits }, [])
  | .complete index error => (if connector.pump = .idle then connector.complete index error else connector, [])
  | .poll error => connector.poll error

def machine : Machine ZmqActiveConnector ConnectorInput ConnectorOutput where
  step := step

end ZmqActiveConnector

/-! ## What the node is told -/

/-- The state that is told. -/
def ConnectorOutput.state : ConnectorOutput → Option ZmqConnectionState
  | .stateChanged state => some state
  | _ => none

/-- What may be told after a state. -/
def ZmqConnectionState.Leads : ZmqConnectionState → ZmqConnectionState → Prop
  | .stopped, next => next = .connecting
  | .connecting, next => next ≠ .connecting
  | .connected, next => next = .disconnected ∨ next = .stopped
  | .disconnected, next => next ≠ .disconnected

/-- The last state that was told. -/
def lastTold (told : List ZmqConnectionState) : ZmqConnectionState := told.getLast?.getD .stopped

/-- Each state may be told after the one before it. -/
def Path (told : List ZmqConnectionState) : Prop := History (fun before next => (lastTold before).Leads next) told

namespace ZmqActiveConnector
variable {connector : ZmqActiveConnector} {told : List ZmqConnectionState}

/-- What was told is a path to the state, which is stopped exactly while the sockets are closed. -/
structure Told (connector : ZmqActiveConnector) (told : List ZmqConnectionState) : Prop where
  path : Path told
  last : lastTold told = connector.state
  running : connector.running = true ↔ connector.state ≠ .stopped
  socket : connector.socket.isSome = connector.running
  monitor : connector.monitorSocket.isSome = connector.running

/-- What the state depends on. -/
def face (connector : ZmqActiveConnector) : Bool × ZmqConnectionState × Bool × Bool :=
  (connector.running, connector.state, connector.socket.isSome, connector.monitorSocket.isSome)

theorem Told.of_face {after : ZmqActiveConnector} (h : Told connector told) (same : after.face = connector.face) :
    Told after told := by
  have running : after.running = connector.running := congrArg Prod.fst same
  have state : after.state = connector.state := congrArg (fun face => face.2.1) same
  have socket : after.socket.isSome = connector.socket.isSome := congrArg (fun face => face.2.2.1) same
  have monitor : after.monitorSocket.isSome = connector.monitorSocket.isSome := congrArg (fun face => face.2.2.2) same
  refine ⟨h.path, h.last.trans state.symm, ?_, ?_, ?_⟩
  · rw [running, state]
    exact h.running
  · rw [socket, running]
    exact h.socket
  · rw [monitor, running]
    exact h.monitor

theorem updateState_after (connector : ZmqActiveConnector) (newState : ZmqConnectionState) :
    (connector.updateState newState).1 = { connector with state := newState } := by
  rw [updateState]
  split
  · rename_i same
    rw [← same]
  · rfl

/-- A change of the state. -/
theorem Told.update (h : Told connector told) {changed : ZmqActiveConnector} {newState : ZmqConnectionState}
    (from_ : changed.state = connector.state) (leads : connector.state ≠ newState → connector.state.Leads newState)
    (running : changed.running = true ↔ newState ≠ .stopped) (socket : changed.socket.isSome = changed.running)
    (monitor : changed.monitorSocket.isSome = changed.running) :
    Told (changed.updateState newState).1
      (told ++ (changed.updateState newState).2.filterMap ConnectorOutput.state) := by
  rw [updateState_after]
  rw [updateState]
  split
  · rename_i same
    rw [List.filterMap_nil, List.append_nil]
    exact ⟨h.path, h.last.trans (from_.symm.trans same), running, socket, monitor⟩
  · rename_i other
    rw [from_] at other
    have step : (lastTold told).Leads newState := h.last ▸ leads other
    refine ⟨History.snoc h.path step, ?_, running, socket, monitor⟩
    rw [lastTold, show [ConnectorOutput.stateChanged newState].filterMap ConnectorOutput.state = [newState] from rfl,
      List.getLast?_concat]
    rfl

theorem Told.stopped (h : Told connector told) (off : ¬ connector.running = true) : connector.state = .stopped := by
  by_contra other
  exact off (h.running.mpr other)

theorem schedulePump_face (connector : ZmqActiveConnector) : connector.schedulePump.face = connector.face := by
  rw [schedulePump]
  split <;> rfl

theorem start_told (h : Told connector told) (contextValid : Bool) (opened : Option (ZmqSocketErrorCode × String)) :
    Told (connector.start contextValid opened).1
      (told ++ (connector.start contextValid opened).2.filterMap ConnectorOutput.state) := by
  have silent (code : ZmqSocketErrorCode) :
      told ++ [ConnectorOutput.returned code].filterMap ConnectorOutput.state = told := List.append_nil told
  unfold start
  split
  · rw [silent]
    exact h.of_face rfl
  · rename_i off
    have stopped := h.stopped off
    rw [Bool.not_eq_true] at off
    split
    · rw [silent]
      exact h.of_face rfl
    · split
      · rw [silent]
        refine h.of_face ?_
        have socket := h.socket
        have monitor := h.monitor
        simp only [face, closeSockets, socket, monitor, off, Option.isSome_none]
      · dsimp only
        have update := @Told.update connector told h { connector with
          socket := some [], monitorSocket := some [], running := true, lastErrorMessage := "" } .connecting rfl
          (fun _ => stopped ▸ rfl) (iff_of_true rfl ZmqConnectionState.noConfusion) rfl rfl
        have next := update.of_face (schedulePump_face _)
        have none : [ConnectorOutput.returned .none].filterMap ConnectorOutput.state = [] := rfl
        rw [List.filterMap_append, none, List.append_nil]
        exact next

theorem stop_told (h : Told connector told) :
    Told connector.stop.1 (told ++ connector.stop.2.filterMap ConnectorOutput.state) := by
  have leads (apart : connector.state ≠ .stopped) : connector.state.Leads .stopped := by
    cases state : connector.state with
    | stopped => exact absurd state apart
    | connecting => exact ZmqConnectionState.noConfusion
    | connected => exact .inr rfl
    | disconnected => exact ZmqConnectionState.noConfusion
  rw [stop]
  cases on : connector.running with
  | true =>
    exact h.update rfl leads (iff_of_false Bool.false_ne_true (not_not.mpr rfl)) rfl rfl
  | false =>
    have off : ¬ connector.closeSockets.running = true := by
      simp only [closeSockets, on]
      exact Bool.false_ne_true
    refine h.update rfl leads (iff_of_false off (not_not.mpr rfl)) ?_ ?_
    · exact on.symm
    · exact on.symm

theorem send_face (connector : ZmqActiveConnector) (message : Bytes) (failed : Option String) :
    (connector.send message failed).1.face = connector.face ∧
      (connector.send message failed).2.filterMap ConnectorOutput.state = [] := by
  unfold send
  split
  · exact ⟨rfl, rfl⟩
  · split <;> exact ⟨rfl, rfl⟩

theorem handlePump_face (connector : ZmqActiveConnector) (error : Option String) :
    (connector.handlePump error).face = connector.face := by
  unfold handlePump
  split
  · rfl
  · split <;> rfl

theorem complete_face (connector : ZmqActiveConnector) (index : Nat) (error : String) :
    (connector.complete index error).face = connector.face := by
  rw [complete]
  split
  · rfl
  · exact handlePump_face _ _
  · exact handlePump_face _ _
  · rfl

/-- An event of the monitor while the connector runs. A retry changes nothing while it is connected. -/
theorem handleMonitorEvent_told (h : Told connector told) (on : connector.running = true) (event : UInt16) :
    Told (connector.handleMonitorEvent event).1
      (told ++ (connector.handleMonitorEvent event).2.filterMap ConnectorOutput.state) := by
  have going := h.running.mp on
  have quiet : Told connector (told ++ ([] : List ConnectorOutput).filterMap ConnectorOutput.state) := by
    rw [List.filterMap_nil, List.append_nil]
    exact h
  have update {newState : ZmqConnectionState} (apart : newState ≠ .stopped)
      (leads : connector.state ≠ newState → connector.state.Leads newState) :=
    h.update rfl leads (iff_of_true on apart) h.socket h.monitor
  rw [handleMonitorEvent]
  split
  · apply update ZmqConnectionState.noConfusion
    intro apart
    cases state : connector.state with
    | stopped => exact absurd state going
    | connecting => exact ZmqConnectionState.noConfusion
    | connected => exact absurd state apart
    | disconnected => exact ZmqConnectionState.noConfusion
  · split
    · split
      · rename_i notConnected
        apply update ZmqConnectionState.noConfusion
        intro apart
        cases state : connector.state with
        | stopped => exact absurd state going
        | connecting => exact absurd state apart
        | connected => exact absurd state notConnected
        | disconnected => exact ZmqConnectionState.noConfusion
      · exact quiet
    · split
      · apply update ZmqConnectionState.noConfusion
        intro apart
        cases state : connector.state with
        | stopped => exact absurd state going
        | connecting => exact ZmqConnectionState.noConfusion
        | connected => exact .inl rfl
        | disconnected => exact absurd state apart
      · exact quiet

theorem pollMonitor_told (h : Told connector told) (error : Option String) :
    Told (connector.pollMonitor error).1
      (told ++ (connector.pollMonitor error).2.filterMap ConnectorOutput.state) := by
  have quiet {after : ZmqActiveConnector} (same : after.face = connector.face) :
      Told after (told ++ ([] : List ConnectorOutput).filterMap ConnectorOutput.state) := by
    rw [List.filterMap_nil, List.append_nil]
    exact h.of_face same
  unfold pollMonitor
  split
  · rename_i frames on opened
    have same (left : List ZmqFrame) : face { connector with monitorSocket := some left } = connector.face := by
      simp only [face, opened, Option.isSome_some]
    dsimp only
    split
    · exact quiet (same _)
    · exact quiet (same _)
    · exact handleMonitorEvent_told (h.of_face (same _)) on _
  · exact quiet rfl

theorem pollIncomingMessages_face (connector : ZmqActiveConnector) (error : Option String) :
    (connector.pollIncomingMessages error).1.face = connector.face ∧
      (connector.pollIncomingMessages error).2.filterMap ConnectorOutput.state = [] := by
  unfold pollIncomingMessages
  split
  · rename_i frames on opened
    have same (left : List ZmqFrame) : face { connector with socket := some left } = connector.face := by
      simp only [face, opened, Option.isSome_some]
    dsimp only
    split
    · exact ⟨(schedulePump_face _).trans (same _), rfl⟩
    · exact ⟨(schedulePump_face _).trans (same _), rfl⟩
    · exact ⟨same _, rfl⟩
  · exact ⟨schedulePump_face connector, rfl⟩

theorem step_told (h : Told connector told) (input : ConnectorInput) :
    Told (connector.step input).1 (told ++ (connector.step input).2.filterMap ConnectorOutput.state) := by
  have quiet {after : ZmqActiveConnector} {outputs : List ConnectorOutput}
      (same : after.face = connector.face ∧ outputs.filterMap ConnectorOutput.state = []) :
      Told after (told ++ outputs.filterMap ConnectorOutput.state) := by
    rw [same.2, List.append_nil]
    exact h.of_face same.1
  cases input with
  | start contextValid opened => exact start_told h contextValid opened
  | stop => exact stop_told h
  | send message failed => exact quiet (connector.send_face message failed)
  | arrive parts => exact quiet ⟨by simp only [step, face, Option.isSome_map], rfl⟩
  | notify parts => exact quiet ⟨by simp only [step, face, Option.isSome_map], rfl⟩
  | expire => exact quiet ⟨rfl, rfl⟩
  | complete index error =>
    refine quiet ⟨?_, rfl⟩
    simp only [step]
    split
    · exact complete_face _ _ _
    · rfl
  | poll error =>
    simp only [step, poll]
    split
    · exact quiet ⟨rfl, rfl⟩
    · exact pollMonitor_told h error
    · exact quiet (connector.pollIncomingMessages_face error)

/-- Whatever is called and whatever libzmq reports, in any order: the states that are told are each one that may follow
the one before, from stopped on. A connection is lost before it is made again, so that a connected node is never told
that it is connecting. The state is stopped exactly while no socket is open. -/
theorem connector_states (options : ZmqActiveConnectorOptions) (inputs : List ConnectorInput) :
    let connector := (machine.run { options } inputs).1
    let told := (machine.run { options } inputs).2.filterMap ConnectorOutput.state
    Path told ∧ lastTold told = connector.state ∧ (connector.running = true ↔ connector.state ≠ .stopped) ∧
    connector.socket.isSome = connector.running ∧ connector.monitorSocket.isSome = connector.running := by
  have start : Told { options } (([] : List ConnectorOutput).filterMap ConnectorOutput.state) :=
    ⟨history_nil, rfl, iff_of_false Bool.false_ne_true (not_not.mpr rfl), rfl, rfl⟩
  have told := @Machine.run_trace _ _ _ machine (fun connector outputs =>
    Told connector (outputs.filterMap ConnectorOutput.state)) (fun connector outputs input h => by
      rw [List.filterMap_append]
      exact step_told h input) _ _ start inputs
  rw [List.nil_append] at told
  exact ⟨told.path, told.last, told.running, told.socket, told.monitor⟩

end ZmqActiveConnector

end XServer.Ipc
