import XServer.Ipc.ZmqSocket
import XServer.Lib.Machine

/-!
# The passive listener

`ZmqPassiveListener`, the ROUTER socket of a node. A pump polls the monitor and then the
socket, one frame group after the other; the calls that a handler makes are steps of their
own between two polls. What it receives is exactly the messages of two frames with a
payload, in the order of their arrival, however many others come between.
-/

namespace XServer.Ipc
open XServer.Lib XServer.Lib.Wire

inductive ZmqListenerState where
  | stopped
  | listening
  deriving DecidableEq, Repr

structure ZmqPassiveListenerOptions where
  localEndpoint : String
  pollInterval : Int := 1
  sendHighWaterMark : Int := 1024
  receiveHighWaterMark : Int := 1024
  handshakeIntervalMs : Int := 3000
  deriving DecidableEq, Repr

structure ZmqListenerMetrics where
  activeConnectionCount : UInt64 := 0
  receivedMessageCount : UInt64 := 0
  receivedPayloadBytes : UInt64 := 0
  sentMessageCount : UInt64 := 0
  sentPayloadBytes : UInt64 := 0
  deriving DecidableEq, Repr

/-- The listener with the frames that wait in its sockets; `none` is a closed one. -/
structure ZmqPassiveListener where
  options : ZmqPassiveListenerOptions
  waits : List PumpWait := []
  pump : PumpPhase := .idle
  socket : Option (List ZmqFrame) := none
  monitorSocket : Option (List ZmqFrame) := none
  boundEndpoint : String := ""
  activeConnectionIds : List UInt32 := []
  metrics : ZmqListenerMetrics := {}
  running : Bool := false
  state : ZmqListenerState := .stopped
  lastErrorMessage : String := ""
  deriving DecidableEq, Repr

/-- What a step hands out. -/
inductive ListenerOutput where
  | received (routingId message : Bytes)
  | stateChanged (state : ZmqListenerState)
  | returned (code : ZmqSocketErrorCode)
  deriving DecidableEq, Repr

/-- What libzmq makes of a send. -/
inductive SendOutcome where
  | sent
  | routingIdFailed (error : String)
  | payloadFailed (error : String)
  deriving DecidableEq, Repr

inductive ListenerInput where
  /-- `opened` is what `OpenSockets` comes to: the bound endpoint, or its error. -/
  | start (contextValid : Bool) (opened : Except (ZmqSocketErrorCode × String) String)
  | stop
  | send (routingId message : Bytes) (outcome : SendOutcome)
  /-- A message arrives at the socket, or at the one of the monitor. -/
  | arrive (parts : List Bytes)
  | notify (parts : List Bytes)
  /-- The time of the pump timer comes. -/
  | expire
  /-- The io context runs the handler of a wait, which fails if its time has not come. -/
  | complete (index : Nat) (error : String)
  /-- One round of the loop that the pump is in; `error` is what a receive fails with when no frame waits. -/
  | poll (error : Option String)

namespace ZmqPassiveListener

def validateOptions (listener : ZmqPassiveListener) (contextValid : Bool) : Option (ZmqSocketErrorCode × String) :=
  if contextValid = false then some (.contextNotInitialized, "ZeroMQ context is not initialized.")
  else if listener.options.localEndpoint = "" then
    some (.endpointEmpty, "ZeroMQ passive listener local_endpoint must not be empty.")
  else if listener.options.pollInterval ≤ 0 then
    some (.pollIntervalMustBePositive, "ZeroMQ passive listener poll_interval must be greater than zero.")
  else if listener.options.sendHighWaterMark < 0 ∨ listener.options.receiveHighWaterMark < 0 then
    some (.highWaterMarkNegative, "ZeroMQ passive listener high water marks must not be negative.")
  else if listener.options.handshakeIntervalMs < 0 then
    some (.timingOptionNegative, "ZeroMQ passive listener handshake_interval_ms must not be negative.")
  else none

def updateState (listener : ZmqPassiveListener) (newState : ZmqListenerState) :
    ZmqPassiveListener × List ListenerOutput :=
  if listener.state = newState then (listener, []) else ({ listener with state := newState }, [.stateChanged newState])

def closeSockets (listener : ZmqPassiveListener) : ZmqPassiveListener :=
  { listener with socket := none, monitorSocket := none, boundEndpoint := "" }

def schedulePump (listener : ZmqPassiveListener) : ZmqPassiveListener :=
  if listener.running = true then { listener with waits := scheduleWait listener.waits } else listener

def start (listener : ZmqPassiveListener) (contextValid : Bool)
    (opened : Except (ZmqSocketErrorCode × String) String) : ZmqPassiveListener × List ListenerOutput :=
  if listener.running = true then
    ({ listener with lastErrorMessage := "ZeroMQ passive listener is already running." }, [.returned .alreadyRunning])
  else
    match listener.validateOptions contextValid with
    | some (code, message) => ({ listener with lastErrorMessage := message }, [.returned code])
    | none =>
      match opened with
      | .error (code, message) => ({ listener with lastErrorMessage := message }.closeSockets, [.returned code])
      | .ok boundEndpoint =>
        let changed := { listener with
          socket := some [], monitorSocket := some [], boundEndpoint, activeConnectionIds := [], metrics := {}
          running := true, lastErrorMessage := "" }.updateState .listening
        (changed.1.schedulePump, changed.2 ++ [.returned .none])

def stop (listener : ZmqPassiveListener) : ZmqPassiveListener × List ListenerOutput :=
  let stopped := if listener.running = true then { listener with running := false, waits := cancelWaits listener.waits }
    else listener
  { stopped.closeSockets with activeConnectionIds := [], lastErrorMessage := "" }.updateState .stopped

def send (listener : ZmqPassiveListener) (routingId message : Bytes) (outcome : SendOutcome) :
    ZmqPassiveListener × List ListenerOutput :=
  let failed (code : ZmqSocketErrorCode) (text : String) : ZmqPassiveListener × List ListenerOutput :=
    ({ listener with lastErrorMessage := text }, [.returned code])
  if listener.running = false ∨ listener.socket = none then
    failed .notStarted "ZeroMQ passive listener must be started before Send()."
  else if routingId = [] then failed .emptyRoutingId "ZeroMQ passive listener routing_id must not be empty."
  else
    match outcome with
    | .routingIdFailed error =>
      failed .routingIdSendFailed (buildZmqErrorMessage "Failed to send ZeroMQ routing id frame" error)
    | .payloadFailed error =>
      failed .payloadSendFailed (buildZmqErrorMessage "Failed to send ZeroMQ payload frame" error)
    | .sent =>
      ({ listener with
         metrics := { listener.metrics with
           sentMessageCount := listener.metrics.sentMessageCount + 1
           sentPayloadBytes := listener.metrics.sentPayloadBytes + .ofNat message.length }
         lastErrorMessage := "" }, [.returned .none])

/-! ## The pump -/

/-- `HandlePump` for a wait that was not aborted, up to its first loop. -/
def handlePump (listener : ZmqPassiveListener) (error : Option String) : ZmqPassiveListener :=
  if listener.running = false then listener
  else
    match error with
    | some text => { listener with
        lastErrorMessage := "Asio timer error while driving ZeroMQ passive listener: " ++ text }
    | none => { listener with pump := .monitor }

def complete (listener : ZmqPassiveListener) (index : Nat) (error : String) : ZmqPassiveListener :=
  match listener.waits[index]? with
  | none => listener
  | some .waiting => { listener with waits := listener.waits.eraseIdx index }.handlePump (some error)
  | some .due => { listener with waits := listener.waits.eraseIdx index }.handlePump none
  | some .aborted => { listener with waits := listener.waits.eraseIdx index }

def setActive (listener : ZmqPassiveListener) (ids : List UInt32) : ZmqPassiveListener :=
  { listener with
    activeConnectionIds := ids
    metrics := { listener.metrics with activeConnectionCount := .ofNat ids.length } }

def handleMonitorEvent (listener : ZmqPassiveListener) (event : UInt16) (value : UInt32) : ZmqPassiveListener :=
  if event = eventAccepted then
    if value ∈ listener.activeConnectionIds then listener else listener.setActive (value :: listener.activeConnectionIds)
  else if event = eventDisconnected then
    if value ∈ listener.activeConnectionIds then listener.setActive (listener.activeConnectionIds.erase value)
    else listener
  else listener

/-- After a loop of the pump: the next one, or the end of the handler. -/
def leaveMonitor (listener : ZmqPassiveListener) : ZmqPassiveListener :=
  { listener with pump := if listener.running = true then .messages else .idle }

def leaveMessages (listener : ZmqPassiveListener) : ZmqPassiveListener := { listener.schedulePump with pump := .idle }

/-- A round of `PollMonitor`. -/
def pollMonitor (listener : ZmqPassiveListener) (error : Option String) : ZmqPassiveListener :=
  match listener.running, listener.monitorSocket with
  | true, some frames =>
    let receipt := receiveMonitorEvent error frames
    let listener := { listener with monitorSocket := some receipt.2 }
    match receipt.1 with
    | .again => listener.leaveMonitor
    | .failed _ message => { listener with lastErrorMessage := message }.leaveMonitor
    | .received (event, value) => listener.handleMonitorEvent event value
  | _, _ => listener.leaveMonitor

/-- `ReceiveMessage`: the routing id and the payload, and the frames that are left. -/
def receiveMessage (error : Option String) : List ZmqFrame → Receipt (Bytes × Bytes) × List ZmqFrame
  | [] => (receiveNothing .receiveFailed "Failed to receive ZeroMQ routing id frame" error, [])
  | routing :: rest =>
    if routing.more = false then
      (.failed .payloadMissing "ZeroMQ passive listener expected a payload frame after routing id.", rest)
    else
      match rest with
      | [] =>
        (.failed .receiveFailed
          (buildZmqErrorMessage "Failed to receive ZeroMQ payload frame" (error.getD tryAgain)), [])
      | payload :: rest =>
        if payload.more = true then
          (.failed .multipartNotSupported
            "ZeroMQ passive listener only supports routing id plus single-frame payload.", drainMultipartFrames rest)
        else (.received (routing.data, payload.data), rest)

def recordReceivedMessage (metrics : ZmqListenerMetrics) (payloadSize : Nat) : ZmqListenerMetrics :=
  { metrics with
    receivedMessageCount := metrics.receivedMessageCount + 1
    receivedPayloadBytes := metrics.receivedPayloadBytes + .ofNat payloadSize }

/-- A round of `PollIncomingMessages`; the handler runs with what is handed out. -/
def pollIncomingMessages (listener : ZmqPassiveListener) (error : Option String) :
    ZmqPassiveListener × List ListenerOutput :=
  match listener.running, listener.socket with
  | true, some frames =>
    let receipt := receiveMessage error frames
    let listener := { listener with socket := some receipt.2 }
    match receipt.1 with
    | .again => (listener.leaveMessages, [])
    | .failed _ message => ({ listener with lastErrorMessage := message }.leaveMessages, [])
    | .received (routingId, message) =>
      let listener := { listener with lastErrorMessage := "" }
      if message = [] then (listener, [])
      else
        ({ listener with metrics := recordReceivedMessage listener.metrics message.length },
          [.received routingId message])
  | _, _ => (listener.leaveMessages, [])

def poll (listener : ZmqPassiveListener) (error : Option String) : ZmqPassiveListener × List ListenerOutput :=
  match listener.pump with
  | .idle => (listener, [])
  | .monitor => (listener.pollMonitor error, [])
  | .messages => listener.pollIncomingMessages error

/-- Messages come to open sockets only, and a wait is completed while no handler runs. -/
def step (listener : ZmqPassiveListener) : ListenerInput → ZmqPassiveListener × List ListenerOutput
  | .start contextValid opened => listener.start contextValid opened
  | .stop => listener.stop
  | .send routingId message outcome => listener.send routingId message outcome
  | .arrive parts => ({ listener with socket := listener.socket.map (· ++ multipart parts) }, [])
  | .notify parts => ({ listener with monitorSocket := listener.monitorSocket.map (· ++ multipart parts) }, [])
  | .expire => ({ listener with waits := expireWaits listener.waits }, [])
  | .complete index error => (if listener.pump = .idle then listener.complete index error else listener, [])
  | .poll error => listener.poll error

def machine : Machine ZmqPassiveListener ListenerInput ListenerOutput where
  step := step

end ZmqPassiveListener

end XServer.Ipc
