import XServer.Ipc.ZmqPassiveListener

/-!
# Runs of the passive listener

What a listener receives since its start is what arrived since then, in order, and its
counters count it. As long as no wait of its timer fails, a running listener is in its
pump or has a wait that will bring it there, and never two timers.
-/

namespace XServer.Ipc
open XServer.Lib XServer.Lib.Wire

/-- A routing id and a payload that is not empty. -/
def routedMessage : List Bytes → Option (Bytes × Bytes)
  | [routingId, message] => if message = [] then none else some (routingId, message)
  | _ => none

/-- A listener with the messages that arrived at its socket since it was started, and those it received. -/
structure ListenerLog where
  listener : ZmqPassiveListener
  arrived : List (List Bytes) := []
  received : List (Bytes × Bytes) := []

namespace ListenerLog

def start (options : ZmqPassiveListenerOptions) : ListenerLog := { listener := { options } }

end ListenerLog

/-- The message that is handed out, if it is one. -/
def ListenerOutput.message : ListenerOutput → Option (Bytes × Bytes)
  | .received routingId message => some (routingId, message)
  | _ => none

namespace ListenerLog

/-- The messages at the socket after an input: none after a start. -/
def arrivedAfter (log : ListenerLog) (input : ListenerInput) : List (List Bytes) :=
  match input with
  | .arrive parts => if parts = [] ∨ log.listener.socket = none then log.arrived else log.arrived ++ [parts]
  | _ => log.arrived

def step (log : ListenerLog) (input : ListenerInput) : ListenerLog :=
  let after := log.listener.step input
  if log.listener.running = false ∧ after.1.running = true then { listener := after.1 }
  else
    { listener := after.1, arrived := log.arrivedAfter input
      received := log.received ++ after.2.filterMap ListenerOutput.message }

def machine : Machine ListenerLog ListenerInput Unit where
  step log input := (log.step input, [])

end ListenerLog

namespace ZmqPassiveListener
variable {listener : ZmqPassiveListener}

/-- Reading takes the frames of one message, whatever it is; what is received is a routing id and a payload. -/
theorem receiveMessage_multipart (error : Option String) {parts : List Bytes} (some : parts ≠ [])
    (rest : List ZmqFrame) : (receiveMessage error (multipart parts ++ rest)).2 = rest ∧
      match (receiveMessage error (multipart parts ++ rest)).1 with
      | .again => False
      | .failed _ _ => routedMessage parts = none
      | .received (routingId, message) => parts = [routingId, message] := by
  match parts with
  | [] => exact absurd rfl some
  | [single] => exact ⟨rfl, rfl⟩
  | [routing, payload] => exact ⟨rfl, rfl⟩
  | routing :: payload :: more :: others => exact ⟨drain_multipart (List.cons_ne_nil more others) rest, rfl⟩

/-- What reading depends on. -/
structure Readings where
  running : Bool
  socket : Option (List ZmqFrame)
  monitorOpen : Bool
  state : ZmqListenerState
  messages : UInt64
  bytes : UInt64

def readings (listener : ZmqPassiveListener) : Readings :=
  ⟨listener.running, listener.socket, listener.monitorSocket.isSome, listener.state,
    listener.metrics.receivedMessageCount, listener.metrics.receivedPayloadBytes⟩

/-- The readings of a listener that was started or stopped. -/
def Readings.started : Readings := ⟨true, some [], true, .listening, 0, 0⟩

def Readings.closed (readings : Readings) : Readings := ⟨false, none, false, .stopped, readings.messages, readings.bytes⟩

/-- Sockets are open, and the state is listening, exactly while the listener runs. -/
structure Readings.Open (readings : Readings) : Prop where
  socket : readings.socket.isSome = readings.running
  monitor : readings.monitorOpen = readings.running
  state : readings.state = if readings.running = true then .listening else .stopped

/-- What a step does to the readings. -/
inductive Moved (listener : ZmqPassiveListener) (input : ListenerInput) :
    ZmqPassiveListener → List ListenerOutput → Prop where
  | kept {after : ZmqPassiveListener} {outputs : List ListenerOutput} (same : after.readings = listener.readings)
      (quiet : outputs.filterMap ListenerOutput.message = [])
      (elsewhere : ∀ parts, input = .arrive parts → parts = [] ∨ listener.socket = none) :
      Moved listener input after outputs
  | started {after : ZmqPassiveListener} {outputs : List ListenerOutput} (off : listener.running = false)
      (on : after.readings = .started) : Moved listener input after outputs
  | closed {after : ZmqPassiveListener} {outputs : List ListenerOutput}
      (off : after.readings = listener.readings.closed)
      (quiet : outputs.filterMap ListenerOutput.message = []) (elsewhere : ∀ parts, input ≠ .arrive parts) :
      Moved listener input after outputs
  | arrived {after : ZmqPassiveListener} {parts : List Bytes} {frames : List ZmqFrame} (here : input = .arrive parts)
      (some : parts ≠ []) (opened : listener.socket = .some frames)
      (same : after.readings = { listener.readings with socket := .some (frames ++ multipart parts) }) :
      Moved listener input after []
  | skipped {after : ZmqPassiveListener} {frames : List ZmqFrame} {error : Option String} (on : listener.running = true)
      (opened : listener.socket = some frames)
      (unwanted : ∀ routingId message, (receiveMessage error frames).1 = .received (routingId, message) → message = [])
      (same : after.readings = { listener.readings with socket := some (receiveMessage error frames).2 })
      (elsewhere : ∀ parts, input ≠ .arrive parts) : Moved listener input after []
  | received {after : ZmqPassiveListener} {frames : List ZmqFrame} {error : Option String} {routingId message : Bytes}
      (on : listener.running = true) (opened : listener.socket = some frames)
      (read : (receiveMessage error frames).1 = .received (routingId, message)) (filled : message ≠ [])
      (same : after.readings = { listener.readings with
        socket := some (receiveMessage error frames).2, messages := listener.metrics.receivedMessageCount + 1
        bytes := listener.metrics.receivedPayloadBytes + .ofNat message.length })
      (elsewhere : ∀ parts, input ≠ .arrive parts) : Moved listener input after [.received routingId message]

theorem updateState_after (listener : ZmqPassiveListener) (newState : ZmqListenerState) :
    (listener.updateState newState).1 = { listener with state := newState } ∧
      (listener.updateState newState).2.filterMap ListenerOutput.message = [] := by
  rw [updateState]
  split
  · rename_i same
    rw [← same]
    exact ⟨rfl, rfl⟩
  · exact ⟨rfl, rfl⟩

theorem schedulePump_readings (listener : ZmqPassiveListener) : listener.schedulePump.readings = listener.readings := by
  rw [schedulePump]
  split <;> rfl

theorem leaveMessages_readings (listener : ZmqPassiveListener) : listener.leaveMessages.readings = listener.readings :=
  schedulePump_readings listener

theorem handlePump_readings (listener : ZmqPassiveListener) (error : Option String) :
    (listener.handlePump error).readings = listener.readings := by
  unfold handlePump
  split
  · rfl
  · split <;> rfl

theorem complete_readings (listener : ZmqPassiveListener) (index : Nat) (error : String) :
    (listener.complete index error).readings = listener.readings := by
  rw [complete]
  split
  · rfl
  · exact handlePump_readings _ _
  · exact handlePump_readings _ _
  · rfl

theorem handleMonitorEvent_readings (listener : ZmqPassiveListener) (event : UInt16) (value : UInt32) :
    (listener.handleMonitorEvent event value).readings = listener.readings := by
  rw [handleMonitorEvent]
  split
  · split <;> rfl
  · split
    · split <;> rfl
    · rfl

theorem pollMonitor_readings (listener : ZmqPassiveListener) (error : Option String) :
    (listener.pollMonitor error).readings = listener.readings := by
  rw [pollMonitor]
  split
  · rename_i frames on opened
    have same (frames : List ZmqFrame) : { listener with monitorSocket := some frames }.readings = listener.readings := by
      simp only [readings, opened]
      rfl
    dsimp only
    split
    · exact same _
    · exact same _
    · rw [handleMonitorEvent_readings]
      exact same _
  · rfl

theorem start_moved (ok : listener.readings.Open) (contextValid : Bool)
    (opened : Except (ZmqSocketErrorCode × String) String) : Moved listener (.start contextValid opened)
      (listener.start contextValid opened).1 (listener.start contextValid opened).2 := by
  unfold start
  split
  · exact .kept rfl rfl fun _ => ListenerInput.noConfusion
  · rename_i off
    rw [Bool.not_eq_true] at off
    split
    · exact .kept rfl rfl fun _ => ListenerInput.noConfusion
    · split
      · refine .closed ?_ rfl fun _ => ListenerInput.noConfusion
        have state : listener.state = if listener.running = true then .listening else .stopped := ok.state
        rw [off] at state
        simp only [readings, closeSockets, Readings.closed, off, state, Option.isSome_none]
        rfl
      · refine .started off ?_
        dsimp only
        rw [schedulePump_readings, (updateState_after _ _).1]
        rfl

theorem stop_moved (listener : ZmqPassiveListener) : Moved listener .stop listener.stop.1 listener.stop.2 := by
  refine .closed ?_ (updateState_after _ _).2 fun _ => ListenerInput.noConfusion
  rw [stop, (updateState_after _ _).1]
  cases on : listener.running with
  | true => rfl
  | false => simp only [readings, closeSockets, Readings.closed, on, Bool.false_eq_true, if_false, Option.isSome_none]

theorem send_readings (listener : ZmqPassiveListener) (routingId message : Bytes) (outcome : SendOutcome) :
    (listener.send routingId message outcome).1.readings = listener.readings ∧
      (listener.send routingId message outcome).2.filterMap ListenerOutput.message = [] := by
  unfold send
  dsimp only
  split
  · exact ⟨rfl, rfl⟩
  · split
    · exact ⟨rfl, rfl⟩
    · split <;> exact ⟨rfl, rfl⟩

theorem pollIncomingMessages_moved (listener : ZmqPassiveListener) (error : Option String) :
    Moved listener (.poll error) (listener.pollIncomingMessages error).1 (listener.pollIncomingMessages error).2 := by
  have elsewhere (parts : List Bytes) : ListenerInput.poll error ≠ .arrive parts := ListenerInput.noConfusion
  unfold pollIncomingMessages
  split
  · rename_i frames on opened
    dsimp only
    split
    · rename_i again
      exact .skipped on opened (fun _ _ read => by rw [again] at read; cases read) (leaveMessages_readings _) elsewhere
    · rename_i failed
      exact .skipped on opened (fun _ _ read => by rw [failed] at read; cases read) (leaveMessages_readings _) elsewhere
    · rename_i routingId message read
      split
      · rename_i empty
        refine .skipped on opened ?_ rfl elsewhere
        intro routingId' message' read'
        rw [read] at read'
        cases read'
        exact empty
      · rename_i filled
        exact .received on opened read filled rfl elsewhere
  · exact .kept (leaveMessages_readings listener) rfl fun parts here => absurd here (elsewhere parts)

theorem step_moved (ok : listener.readings.Open) (input : ListenerInput) :
    Moved listener input (listener.step input).1 (listener.step input).2 := by
  cases input with
  | start contextValid opened => exact start_moved ok contextValid opened
  | stop => exact stop_moved listener
  | send routingId message outcome =>
    obtain ⟨same, quiet⟩ := listener.send_readings routingId message outcome
    exact .kept same quiet fun _ => ListenerInput.noConfusion
  | arrive parts =>
    simp only [step]
    cases opened : listener.socket with
    | none => exact .kept (by simp only [readings, opened, Option.map_none]) rfl fun _ _ => .inr opened
    | some frames =>
      by_cases none : parts = []
      · refine .kept ?_ rfl fun _ here => ?_
        · simp only [readings, opened, Option.map_some, none, multipart, List.append_nil]
        · cases here
          exact .inl none
      · exact .arrived rfl none opened rfl
  | notify parts =>
    refine .kept ?_ rfl fun _ => ListenerInput.noConfusion
    simp only [step, readings, Option.isSome_map]
  | expire => exact .kept rfl rfl fun _ => ListenerInput.noConfusion
  | complete index error =>
    refine .kept ?_ rfl fun _ => ListenerInput.noConfusion
    simp only [step]
    split
    · exact complete_readings _ _ _
    · rfl
  | poll error =>
    simp only [step, poll]
    split
    · exact .kept rfl rfl fun _ => ListenerInput.noConfusion
    · exact .kept (pollMonitor_readings _ _) rfl fun _ => ListenerInput.noConfusion
    · exact pollIncomingMessages_moved listener error

theorem Moved.opened {input : ListenerInput} {after : ZmqPassiveListener} {outputs : List ListenerOutput}
    (ok : listener.readings.Open) (moved : Moved listener input after outputs) : after.readings.Open := by
  cases moved with
  | kept same quiet elsewhere => exact same ▸ ok
  | started off on => exact on ▸ ⟨rfl, rfl, rfl⟩
  | closed off quiet elsewhere => exact off ▸ ⟨rfl, rfl, rfl⟩
  | arrived here some opened same =>
    have socket := ok.socket
    simp only [readings, opened, Option.isSome_some] at socket
    exact same ▸ ⟨socket, ok.monitor, ok.state⟩
  | skipped on opened unwanted same elsewhere => exact same ▸ ⟨on.symm, ok.monitor, ok.state⟩
  | received on opened read filled same elsewhere => exact same ▸ ⟨on.symm, ok.monitor, ok.state⟩

end ZmqPassiveListener

namespace ListenerLog
open ZmqPassiveListener

/-- What holds of a listener and of what it has received since its start. -/
structure Reads (log : ListenerLog) : Prop where
  opened : log.listener.readings.Open
  inOrder : log.received <+: log.arrived.filterMap routedMessage
  intake : ∀ frames, log.listener.socket = some frames →
    ∃ taken rest, Intake routedMessage log.arrived log.received taken rest frames
  messages : log.listener.metrics.receivedMessageCount = .ofNat log.received.length
  bytes : log.listener.metrics.receivedPayloadBytes = .ofNat (log.received.map fun entry => entry.2.length).sum

variable {log : ListenerLog}

theorem start_reads (options : ZmqPassiveListenerOptions) : (start options).Reads where
  opened := ⟨rfl, rfl, rfl⟩
  inOrder := List.nil_prefix
  intake frames opened := by cases opened
  messages := rfl
  bytes := rfl

/-- A step at which nothing arrives. -/
theorem arrivedAfter_of_ne {input : ListenerInput}
    (elsewhere : ∀ parts, input = .arrive parts → parts = [] ∨ log.listener.socket = none) :
    log.arrivedAfter input = log.arrived := by
  cases input with
  | arrive parts => exact if_pos (elsewhere parts rfl)
  | _ => rfl

/-- A round of the loop over messages: there is no frame, or one message is read. -/
theorem Reads.read (reads : log.Reads) {frames : List ZmqFrame} {error : Option String}
    (opened : log.listener.socket = some frames) : ∃ more : List (Bytes × Bytes),
      (more = match (receiveMessage error frames).1 with
        | .received (routingId, message) => if message = [] then [] else [(routingId, message)]
        | _ => []) ∧
      (∃ taken rest, Intake routedMessage log.arrived (log.received ++ more) taken rest (receiveMessage error frames).2) ∧
      log.received ++ more <+: log.arrived.filterMap routedMessage := by
  obtain ⟨taken, rest, intake⟩ := reads.intake frames opened
  cases rest with
  | nil =>
    obtain rfl := intake.frames_nil.mpr rfl
    have again : (receiveMessage error []).1 = .again ∨ ∃ code text, (receiveMessage error []).1 = .failed code text := by
      cases error with
      | none => exact .inl rfl
      | some text => exact .inr ⟨_, _, rfl⟩
    refine ⟨[], ?_, ⟨taken, [], ?_⟩, ?_⟩
    · rcases again with again | ⟨code, text, failed⟩
      · rw [again]
      · rw [failed]
    · rw [List.append_nil]
      exact intake
    · rw [List.append_nil]
      exact reads.inOrder
  | cons parts rest =>
    have some := intake.whole parts List.mem_cons_self
    obtain ⟨left, read⟩ := receiveMessage_multipart error some (rest.flatMap multipart)
    have waiting : frames = multipart parts ++ rest.flatMap multipart := intake.waiting
    rw [← waiting] at left read
    have next := intake.take
    rw [← left] at next
    refine ⟨(routedMessage parts).toList, ?_, ⟨taken ++ [parts], rest, next⟩, next.isPrefix⟩
    split at read
    · exact read.elim
    · rename_i failed
      rw [failed, read]
      rfl
    · rename_i routingId message received
      rw [received, read]
      simp only [routedMessage]
      split <;> rfl

section Outcomes
variable {after : ZmqPassiveListener}

theorem Reads.kept (reads : log.Reads) (opened : after.readings.Open) (same : after.readings = log.listener.readings) :
    Reads { listener := after, arrived := log.arrived, received := log.received } := by
  have socket : after.socket = log.listener.socket := congrArg Readings.socket same
  exact ⟨opened, reads.inOrder, socket ▸ reads.intake, (congrArg Readings.messages same).trans reads.messages,
    (congrArg Readings.bytes same).trans reads.bytes⟩

theorem Reads.restarted (opened : after.readings.Open) (on : after.readings = .started) : Reads { listener := after } := by
  have socket : after.socket = some [] := congrArg Readings.socket on
  refine ⟨opened, List.nil_prefix, ?_, congrArg Readings.messages on, congrArg Readings.bytes on⟩
  intro frames open_
  obtain rfl : [] = frames := Option.some_inj.mp (socket.symm.trans open_)
  exact ⟨[], [], Intake.empty routedMessage⟩

/-- A closed listener keeps what it has received. -/
theorem Reads.closed (reads : log.Reads) (opened : after.readings.Open)
    (off : after.readings = log.listener.readings.closed) :
    Reads { listener := after, arrived := log.arrived, received := log.received } := by
  have socket : after.socket = none := congrArg Readings.socket off
  refine ⟨opened, reads.inOrder, ?_, (congrArg Readings.messages off).trans reads.messages,
    (congrArg Readings.bytes off).trans reads.bytes⟩
  intro frames open_
  rw [socket] at open_
  cases open_

/-- The frames of a message wait behind those of the messages before it. -/
theorem Reads.arrived {parts : List Bytes} {frames : List ZmqFrame} (reads : log.Reads) (opened : after.readings.Open)
    (some : parts ≠ []) (open_ : log.listener.socket = .some frames)
    (same : after.readings = { log.listener.readings with socket := .some (frames ++ multipart parts) }) :
    Reads { listener := after, arrived := log.arrived ++ [parts], received := log.received } := by
  have socket : after.socket = .some (frames ++ multipart parts) := congrArg Readings.socket same
  refine ⟨opened, ?_, ?_, (congrArg Readings.messages same).trans reads.messages,
    (congrArg Readings.bytes same).trans reads.bytes⟩
  · simp only [List.filterMap_append]
    exact reads.inOrder.trans (List.prefix_append _ _)
  · intro others open'
    obtain rfl := Option.some_inj.mp (socket.symm.trans open')
    obtain ⟨taken, rest, intake⟩ := reads.intake frames open_
    exact ⟨taken, rest ++ [parts], intake.arrive some⟩

/-- What is read and not handed out is no message of a routing id and a payload. -/
theorem Reads.skipped {frames : List ZmqFrame} {error : Option String} (reads : log.Reads)
    (opened : after.readings.Open) (open_ : log.listener.socket = some frames)
    (unwanted : ∀ routingId message, (receiveMessage error frames).1 = .received (routingId, message) → message = [])
    (same : after.readings = { log.listener.readings with socket := some (receiveMessage error frames).2 }) :
    Reads { listener := after, arrived := log.arrived, received := log.received } := by
  have socket : after.socket = some (receiveMessage error frames).2 := congrArg Readings.socket same
  obtain ⟨more, which, ⟨taken, rest, intake⟩, -⟩ := @Reads.read log reads frames error open_
  obtain rfl : more = [] := by
    rw [which]
    split
    · rename_i routingId message read
      rw [if_pos (unwanted routingId message read)]
    · rfl
  rw [List.append_nil] at intake
  refine ⟨opened, reads.inOrder, ?_, (congrArg Readings.messages same).trans reads.messages,
    (congrArg Readings.bytes same).trans reads.bytes⟩
  intro others open'
  obtain rfl := Option.some_inj.mp (socket.symm.trans open')
  exact ⟨taken, rest, intake⟩

/-- What is handed out is the next message of a routing id and a payload, and it is counted. -/
theorem Reads.received {frames : List ZmqFrame} {error : Option String} {routingId message : Bytes} (reads : log.Reads)
    (opened : after.readings.Open) (open_ : log.listener.socket = some frames)
    (read : (receiveMessage error frames).1 = .received (routingId, message)) (filled : message ≠ [])
    (same : after.readings = { log.listener.readings with
      socket := some (receiveMessage error frames).2, messages := log.listener.metrics.receivedMessageCount + 1
      bytes := log.listener.metrics.receivedPayloadBytes + .ofNat message.length }) :
    Reads { listener := after, arrived := log.arrived, received := log.received ++ [(routingId, message)] } := by
  have socket : after.socket = some (receiveMessage error frames).2 := congrArg Readings.socket same
  have messages : after.metrics.receivedMessageCount = log.listener.metrics.receivedMessageCount + 1 :=
    congrArg Readings.messages same
  have bytes : after.metrics.receivedPayloadBytes =
      log.listener.metrics.receivedPayloadBytes + .ofNat message.length := congrArg Readings.bytes same
  obtain ⟨more, which, ⟨taken, rest, intake⟩, front⟩ := @Reads.read log reads frames error open_
  obtain rfl : more = [(routingId, message)] := by
    rw [which, read]
    exact if_neg filled
  refine ⟨opened, front, ?_, ?_, ?_⟩
  · intro others open'
    obtain rfl := Option.some_inj.mp (socket.symm.trans open')
    exact ⟨taken, rest, intake⟩
  · simp only [messages, reads.messages, List.length_append, List.length_singleton, UInt64.ofNat_add]
    rfl
  · simp only [bytes, reads.bytes, List.map_append, List.map_singleton, List.sum_append, List.sum_singleton,
      UInt64.ofNat_add]

end Outcomes

theorem step_reads (reads : log.Reads) (input : ListenerInput) : (log.step input).Reads := by
  have moved := step_moved reads.opened input
  have opened := moved.opened reads.opened
  rw [step]
  generalize (log.listener.step input).1 = after, (log.listener.step input).2 = outputs at moved opened
  -- Without a start, what is there and what was received stays or grows.
  have going (same : after.running = true → log.listener.running = true) (result : ListenerLog.Reads
      { listener := after, arrived := log.arrivedAfter input
        received := log.received ++ outputs.filterMap ListenerOutput.message }) :
      ListenerLog.Reads (if log.listener.running = false ∧ after.running = true then { listener := after } else
        { listener := after, arrived := log.arrivedAfter input
          received := log.received ++ outputs.filterMap ListenerOutput.message }) := by
    rw [if_neg]
    · exact result
    · rintro ⟨off, on⟩
      rw [same on] at off
      cases off
  cases moved with
  | kept same quiet elsewhere =>
    have running : after.running = log.listener.running := congrArg Readings.running same
    refine going (fun on => running ▸ on) ?_
    rw [quiet, List.append_nil, arrivedAfter_of_ne elsewhere]
    exact reads.kept opened same
  | started off on =>
    have running : after.running = true := congrArg Readings.running on
    rw [if_pos ⟨off, running⟩]
    exact Reads.restarted opened on
  | closed off quiet elsewhere =>
    have running : after.running = false := congrArg Readings.running off
    refine going (fun on => absurd (running.symm.trans on) Bool.false_ne_true) ?_
    rw [quiet, List.append_nil, arrivedAfter_of_ne fun parts here => absurd here (elsewhere parts)]
    exact reads.closed opened off
  | @arrived parts frames here some open_ same =>
    have running : after.running = log.listener.running := congrArg Readings.running same
    have more : log.arrivedAfter input = log.arrived ++ [parts] := by
      rw [here, arrivedAfter, if_neg]
      rw [not_or, open_]
      exact ⟨some, Option.some_ne_none _⟩
    refine going (fun on => running ▸ on) ?_
    rw [more, List.filterMap_nil, List.append_nil]
    exact reads.arrived opened some open_ same
  | skipped on open_ unwanted same elsewhere =>
    refine going (fun _ => on) ?_
    rw [arrivedAfter_of_ne fun parts here => absurd here (elsewhere parts), List.filterMap_nil, List.append_nil]
    exact reads.skipped opened open_ unwanted same
  | received on open_ read filled same elsewhere =>
    refine going (fun _ => on) ?_
    rw [arrivedAfter_of_ne fun parts here => absurd here (elsewhere parts)]
    exact reads.received opened open_ read filled same

/-- Since a start, the listener has received the messages of a routing id and a payload among those that arrived, in
the order of their arrival: all of them, if no frame waits. Its counters count them. -/
theorem listener_receives_in_order (options : ZmqPassiveListenerOptions) (inputs : List ListenerInput) :
    let log := (machine.run (start options) inputs).1
    log.received <+: log.arrived.filterMap routedMessage ∧
    (log.listener.socket = some [] → log.received = log.arrived.filterMap routedMessage) ∧
    log.listener.metrics.receivedMessageCount = .ofNat log.received.length ∧
    log.listener.metrics.receivedPayloadBytes = .ofNat (log.received.map fun entry => entry.2.length).sum := by
  have reads := @Machine.run_invariant _ _ _ machine (fun _ _ => True) Reads
    (fun _ input reads _ => step_reads reads input) _ inputs (start_reads options) (Machine.along_true _ inputs)
  refine ⟨reads.inOrder, ?_, reads.messages, reads.bytes⟩
  intro idle
  obtain ⟨taken, rest, intake⟩ := reads.intake [] idle
  exact intake.caughtUp rfl

end ListenerLog

namespace ZmqPassiveListener
variable {listener : ZmqPassiveListener}

/-! ## The pump goes on -/

/-- A listener whose pump goes on: while it runs, its handler is running or a wait will start it. -/
structure Pumping (listener : ZmqPassiveListener) : Prop where
  opened : listener.readings.Open
  single : Single listener.waits
  alive : listener.running = true → listener.pump = .idle → Alive listener.waits

/-- The timer, the handler and whether the listener runs. -/
def beat (listener : ZmqPassiveListener) : List PumpWait × PumpPhase × Bool :=
  (listener.waits, listener.pump, listener.running)

/-- What keeps the timer and the handler keeps the pump going. -/
theorem Pumping.of_beat {after : ZmqPassiveListener} (pumping : Pumping listener) (opened : after.readings.Open)
    (same : after.beat = listener.beat) : Pumping after := by
  have waits : after.waits = listener.waits := congrArg Prod.fst same
  have pump : after.pump = listener.pump := congrArg (fun beat => beat.2.1) same
  have running : after.running = listener.running := congrArg (fun beat => beat.2.2) same
  exact ⟨opened, waits ▸ pumping.single, fun on idle => waits ▸ pumping.alive (running ▸ on) (pump ▸ idle)⟩

theorem schedulePump_waits (single : Single listener.waits) : Single listener.schedulePump.waits ∧
    (listener.schedulePump.running = true → Alive listener.schedulePump.waits) := by
  rw [schedulePump]
  split
  · exact ⟨scheduleWait_single _, fun _ => scheduleWait_alive _⟩
  · rename_i off
    exact ⟨single, fun on => absurd on off⟩

theorem start_pumping (pumping : Pumping listener) (contextValid : Bool)
    (opened : Except (ZmqSocketErrorCode × String) String) : Pumping (listener.start contextValid opened).1 := by
  have next := (start_moved pumping.opened contextValid opened).opened pumping.opened
  revert next
  unfold start
  split
  · exact fun next => pumping.of_beat next rfl
  · split
    · exact fun next => pumping.of_beat next rfl
    · split
      · exact fun next => pumping.of_beat next rfl
      · rename_i boundEndpoint
        intro next
        dsimp only at next ⊢
        rw [(updateState_after _ _).1] at next ⊢
        obtain ⟨single, alive⟩ := @schedulePump_waits { listener with
          socket := some [], monitorSocket := some [], boundEndpoint := boundEndpoint, activeConnectionIds := []
          metrics := {}, running := true, lastErrorMessage := "", state := .listening } pumping.single
        exact ⟨next, single, fun on _ => alive on⟩

theorem stop_pumping (pumping : Pumping listener) : Pumping listener.stop.1 := by
  have next := (stop_moved listener).opened pumping.opened
  revert next
  rw [stop, (updateState_after _ _).1]
  split
  · exact fun next => ⟨next, completeWaits_single PumpWait.noConfusion _, fun on => by cases on⟩
  · exact fun next => pumping.of_beat next rfl

theorem send_beat (listener : ZmqPassiveListener) (routingId message : Bytes) (outcome : SendOutcome) :
    (listener.send routingId message outcome).1.beat = listener.beat := by
  unfold send
  dsimp only
  split
  · rfl
  · split
    · rfl
    · split <;> rfl

theorem complete_pumping (pumping : Pumping listener) {index : Nat} (error : String)
    (sound : listener.waits[index]? ≠ some .waiting) : Pumping (listener.complete index error) := by
  have next : (listener.complete index error).readings.Open := complete_readings listener index error ▸ pumping.opened
  have single := pumping.single.erase index
  revert next
  rw [complete]
  split
  · exact fun _ => pumping
  · rename_i waiting
    exact absurd waiting sound
  · unfold handlePump
    split
    · rename_i off
      exact fun next => ⟨next, single, fun on => absurd (off.symm.trans on) Bool.false_ne_true⟩
    · exact fun next => ⟨next, single, fun _ => PumpPhase.noConfusion⟩
  · rename_i aborted
    exact fun next => ⟨next, single, fun on idle => (pumping.alive on idle).erase aborted⟩

theorem handleMonitorEvent_beat (listener : ZmqPassiveListener) (event : UInt16) (value : UInt32) :
    (listener.handleMonitorEvent event value).beat = listener.beat := by
  rw [handleMonitorEvent]
  split
  · split <;> rfl
  · split
    · split <;> rfl
    · rfl

theorem leaveMonitor_pumping (opened : listener.readings.Open) (single : Single listener.waits) :
    Pumping listener.leaveMonitor := by
  refine ⟨opened, single, ?_⟩
  intro on idle
  simp only [leaveMonitor] at on idle
  rw [if_pos on] at idle
  cases idle

theorem leaveMessages_pumping (opened : listener.readings.Open) (single : Single listener.waits) :
    Pumping listener.leaveMessages := by
  obtain ⟨single, alive⟩ := schedulePump_waits single
  exact ⟨leaveMessages_readings listener ▸ opened, single, fun on _ => alive on⟩

theorem pollMonitor_pumping (pumping : Pumping listener) (error : Option String) :
    Pumping (listener.pollMonitor error) := by
  have next := pollMonitor_readings listener error ▸ pumping.opened
  revert next
  rw [pollMonitor]
  split
  · dsimp only
    split
    · exact fun next => leaveMonitor_pumping next pumping.single
    · exact fun next => leaveMonitor_pumping next pumping.single
    · exact fun next => pumping.of_beat next (handleMonitorEvent_beat _ _ _)
  · exact fun next => leaveMonitor_pumping next pumping.single

theorem pollIncomingMessages_pumping (pumping : Pumping listener) (error : Option String) :
    Pumping (listener.pollIncomingMessages error).1 := by
  have next := (pollIncomingMessages_moved listener error).opened pumping.opened
  revert next
  unfold pollIncomingMessages
  split
  · dsimp only
    split
    · exact fun next => leaveMessages_pumping (leaveMessages_readings _ ▸ next) pumping.single
    · exact fun next => leaveMessages_pumping (leaveMessages_readings _ ▸ next) pumping.single
    · split
      · exact fun next => pumping.of_beat next rfl
      · exact fun next => pumping.of_beat next rfl
  · exact fun next => leaveMessages_pumping (leaveMessages_readings _ ▸ next) pumping.single

/-- A step at which no wait of the timer fails. -/
def Sound (listener : ZmqPassiveListener) (input : ListenerInput) : Prop :=
  ∀ index error, input = .complete index error → listener.waits[index]? ≠ some .waiting

theorem step_pumping (pumping : Pumping listener) {input : ListenerInput} (sound : Sound listener input) :
    Pumping (listener.step input).1 := by
  have next := (step_moved pumping.opened input).opened pumping.opened
  cases input with
  | start contextValid opened => exact start_pumping pumping contextValid opened
  | stop => exact stop_pumping pumping
  | send routingId message outcome => exact pumping.of_beat next (send_beat listener routingId message outcome)
  | arrive parts => exact pumping.of_beat next rfl
  | notify parts => exact pumping.of_beat next rfl
  | expire =>
    exact ⟨next, completeWaits_single PumpWait.noConfusion _, fun on idle => expireWaits_alive (pumping.alive on idle)⟩
  | complete index error =>
    simp only [step] at next ⊢
    split
    · exact complete_pumping pumping error (sound index error rfl)
    · exact pumping
  | poll error =>
    simp only [step, poll]
    split
    · exact pumping
    · exact pollMonitor_pumping pumping error
    · exact pollIncomingMessages_pumping pumping error

/-- Whatever is called, also from a handler, and in whatever order the handlers of the timer run: while no wait of it
fails, a running listener is in its pump or has a wait that brings it there, and has one timer only. It runs exactly
while its sockets are open. -/
theorem listener_pump_alive (options : ZmqPassiveListenerOptions) (inputs : List ListenerInput)
    (sound : machine.Along Sound { options } inputs) :
    let listener := (machine.run { options } inputs).1
    (listener.running = true → listener.pump = .idle → ∃ wait ∈ listener.waits, wait ≠ .aborted) ∧
    listener.waits.count .waiting ≤ 1 ∧ listener.socket.isSome = listener.running ∧
    listener.monitorSocket.isSome = listener.running ∧
    listener.state = if listener.running = true then .listening else .stopped := by
  have start : Pumping { options } := ⟨⟨rfl, rfl, rfl⟩, Nat.zero_le 1, fun on => by cases on⟩
  have pumping := @Machine.run_invariant _ _ _ machine Sound Pumping
    (fun _ _ pumping sound => step_pumping pumping sound) _ inputs start sound
  exact ⟨pumping.alive, pumping.single, pumping.opened.socket, pumping.opened.monitor, pumping.opened.state⟩

/-- A stop and a start while the handler of the first timer is queued. -/
def restartInputs : List ListenerInput :=
  [.start true (.ok "tcp://127.0.0.1:5000"), .expire, .stop, .start true (.ok "tcp://127.0.0.1:5000"), .complete 0 ""]

theorem listener_pump_alive_restart : (machine.run { options := { localEndpoint := "tcp://*:*" } } restartInputs).1.waits.count
    .waiting ≤ 1 := by
  refine (listener_pump_alive { localEndpoint := "tcp://*:*" } restartInputs ?_).2.1
  refine ⟨?_, ?_, ?_, ?_, ?_, trivial⟩
  · exact fun index error here => by cases here
  · exact fun index error here => by cases here
  · exact fun index error here => by cases here
  · exact fun index error here => by cases here
  · intro index error here
    cases here
    decide +kernel

end ZmqPassiveListener

end XServer.Ipc
