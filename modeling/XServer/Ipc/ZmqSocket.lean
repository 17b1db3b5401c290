import XServer.Lib.Wire

/-!
# ZeroMQ sockets

What `ZmqPassiveListener` and `ZmqActiveConnector` share: the frames that a socket hands
over, the events of its monitor, and the timer that drives both. libzmq delivers a
message with all its frames or not at all.
-/

namespace XServer.Ipc
open XServer.Lib.Wire

inductive ZmqSocketErrorCode where
  | none
  | invalidState
  | alreadyRunning
  | contextNotInitialized
  | endpointEmpty
  | pollIntervalMustBePositive
  | highWaterMarkNegative
  | timingOptionNegative
  | socketCreateFailed
  | socketOptionFailed
  | monitorEnableFailed
  | monitorSocketCreateFailed
  | monitorSocketConnectFailed
  | connectFailed
  | bindFailed
  | lastEndpointQueryFailed
  | notStarted
  | emptyRoutingId
  | routingIdSendFailed
  | payloadSendFailed
  | messageSendFailed
  | receiveFailed
  | monitorReceiveFailed
  | multipartNotSupported
  | payloadMissing
  | timerPumpFailed
  deriving DecidableEq, Repr

/-- The text of an error that libzmq names. -/
def buildZmqErrorMessage (what error : String) : String := what ++ ": " ++ error

/-! ## Frames -/

/-- A frame as `zmq_msg_recv` hands it over; `more` is `zmq_msg_more`. -/
structure ZmqFrame where
  data : Bytes
  more : Bool
  deriving DecidableEq, Repr

/-- The frames of a message with these parts. -/
def multipart : List Bytes → List ZmqFrame
  | [] => []
  | [part] => [⟨part, false⟩]
  | part :: parts => ⟨part, true⟩ :: multipart parts

def drainMultipartFrames : List ZmqFrame → List ZmqFrame
  | [] => []
  | frame :: rest => if frame.more = true then drainMultipartFrames rest else rest

/-- What a receive comes to: nothing there, an error with its text, or a value. -/
inductive Receipt (α : Type) where
  | again
  | failed (code : ZmqSocketErrorCode) (message : String)
  | received (value : α)
  deriving DecidableEq, Repr

/-- `zmq_strerror(EAGAIN)` -/
def tryAgain : String := "Resource temporarily unavailable"

/-- A receive from a socket on which no frame waits. -/
def receiveNothing {α : Type} (code : ZmqSocketErrorCode) (what : String) : Option String → Receipt α
  | none => .again
  | some error => .failed code (buildZmqErrorMessage what error)

/-- `ReceiveMonitorEvent`: the event and its value, and the frames that are left. `error` is what a receive fails with
when no frame waits. -/
def receiveMonitorEvent (error : Option String) : List ZmqFrame → Receipt (UInt16 × UInt32) × List ZmqFrame
  | [] => (receiveNothing .monitorReceiveFailed "Failed to receive ZeroMQ monitor event" error, [])
  | frame :: rest =>
    if frame.more = false ∨ frame.data.length < 6 then
      (.failed .monitorReceiveFailed "ZeroMQ monitor emitted an unexpected event frame.", drainMultipartFrames rest)
    else
      match rest with
      | [] =>
        (.failed .monitorReceiveFailed
          (buildZmqErrorMessage "Failed to receive ZeroMQ monitor address frame" (error.getD tryAgain)), [])
      | address :: rest =>
        if address.more = true then
          (.failed .monitorReceiveFailed "ZeroMQ monitor emitted an unexpected multipart address frame.",
            drainMultipartFrames rest)
        else
          (.received (.ofNat (ofLittleEndian (frame.data.take 2)), .ofNat (ofLittleEndian ((frame.data.drop 2).take 4))),
            rest)

/-- The frames of one message are drained, whatever follows. -/
theorem drain_multipart {parts : List Bytes} (some : parts ≠ []) (rest : List ZmqFrame) :
    drainMultipartFrames (multipart parts ++ rest) = rest := by
  induction parts with
  | nil => exact absurd rfl some
  | cons part parts ih =>
    cases parts with
    | nil => rfl
    | cons next parts => exact ih (List.cons_ne_nil next parts)

theorem multipart_ne_nil {parts : List Bytes} (some : parts ≠ []) : multipart parts ≠ [] := by
  cases parts with
  | nil => exact absurd rfl some
  | cons part parts =>
    cases parts with
    | nil => exact List.cons_ne_nil _ _
    | cons next parts => exact List.cons_ne_nil _ _

/-! ## Monitor events -/

def eventConnected : UInt16 := 0x0001
def eventConnectDelayed : UInt16 := 0x0002
def eventConnectRetried : UInt16 := 0x0004
def eventAccepted : UInt16 := 0x0020
def eventClosed : UInt16 := 0x0080
def eventCloseFailed : UInt16 := 0x0100
def eventDisconnected : UInt16 := 0x0200
def eventHandshakeFailedNoDetail : UInt16 := 0x0800
def eventHandshakeSucceeded : UInt16 := 0x1000
def eventHandshakeFailedProtocol : UInt16 := 0x2000
def eventHandshakeFailedAuth : UInt16 := 0x4000

/-! ## Reading a socket -/

/-- A socket of which some messages were read: what was received is what is wanted of them, and the frames that wait are
those of the others. -/
structure Intake {α : Type} (wanted : List Bytes → Option α) (arrived : List (List Bytes)) (received : List α)
    (taken rest : List (List Bytes)) (frames : List ZmqFrame) : Prop where
  arrived : arrived = taken ++ rest
  whole : ∀ parts ∈ rest, parts ≠ []
  waiting : frames = rest.flatMap multipart
  received : received = taken.filterMap wanted

namespace Intake
variable {α : Type} {wanted : List Bytes → Option α} {arrived taken rest : List (List Bytes)} {received : List α}
  {frames : List ZmqFrame} {parts : List Bytes}

theorem empty (wanted : List Bytes → Option α) : Intake wanted [] [] [] [] [] :=
  ⟨rfl, fun _ none => absurd none List.not_mem_nil, rfl, rfl⟩

theorem arrive (intake : Intake wanted arrived received taken rest frames) (some : parts ≠ []) :
    Intake wanted (arrived ++ [parts]) received taken (rest ++ [parts]) (frames ++ multipart parts) where
  arrived := by rw [intake.arrived, List.append_assoc]
  whole other mem := by
    rcases List.mem_append.mp mem with old | new
    · exact intake.whole other old
    · rwa [List.mem_singleton.mp new]
  waiting := by rw [intake.waiting, List.flatMap_append, List.flatMap_singleton]
  received := intake.received

/-- No frames wait only when no message does. -/
theorem frames_nil (intake : Intake wanted arrived received taken rest frames) : frames = [] ↔ rest = [] := by
  constructor
  · intro none
    cases rest with
    | nil => rfl
    | cons parts rest =>
      have first := List.append_eq_nil_iff.mp (intake.waiting.symm.trans none)
      exact absurd first.1 (multipart_ne_nil (intake.whole parts List.mem_cons_self))
  · intro none
    rw [intake.waiting, none]
    rfl

/-- The next message is read. -/
theorem take (intake : Intake wanted arrived received taken (parts :: rest) frames) :
    Intake wanted arrived (received ++ (wanted parts).toList) (taken ++ [parts]) rest (rest.flatMap multipart) where
  arrived := by rw [intake.arrived, List.append_assoc, List.singleton_append]
  whole other mem := intake.whole other (List.mem_cons_of_mem parts mem)
  waiting := rfl
  received := by
    rw [intake.received, List.filterMap_append]
    rfl

theorem isPrefix (intake : Intake wanted arrived received taken rest frames) :
    received <+: arrived.filterMap wanted := by
  rw [intake.received, intake.arrived, List.filterMap_append]
  exact List.prefix_append _ _

theorem caughtUp (intake : Intake wanted arrived received taken rest frames) (none : frames = []) :
    received = arrived.filterMap wanted := by
  rw [intake.received, intake.arrived, intake.frames_nil.mp none, List.append_nil]

end Intake

/-! ## The timer of the pump -/

/-- A wait that the io context has not completed yet: its time has not come, or its handler is queued, with success or
with `operation_aborted`. -/
inductive PumpWait where
  | waiting
  | due
  | aborted
  deriving DecidableEq, Repr

/-- The waits whose time has not come are completed. -/
def completeWaits (outcome : PumpWait) (waits : List PumpWait) : List PumpWait :=
  waits.map fun wait => if wait = .waiting then outcome else wait

/-- `cancel` and `expires_after` -/
def cancelWaits (waits : List PumpWait) : List PumpWait := completeWaits .aborted waits

/-- What `SchedulePump` does to the timer. -/
def scheduleWait (waits : List PumpWait) : List PumpWait := cancelWaits waits ++ [.waiting]

/-- The time of the timer comes. -/
def expireWaits (waits : List PumpWait) : List PumpWait := completeWaits .due waits

/-- Where the handler of the pump is: not running, or in one of its two loops. -/
inductive PumpPhase where
  | idle
  | monitor
  | messages
  deriving DecidableEq, Repr

/-- One wait at most is not completed. -/
def Single (waits : List PumpWait) : Prop := waits.count .waiting ≤ 1

/-- A wait whose handler runs, or will run, without `operation_aborted`. -/
def Alive (waits : List PumpWait) : Prop := ∃ wait ∈ waits, wait ≠ .aborted

theorem completeWaits_count {outcome : PumpWait} (done : outcome ≠ .waiting) (waits : List PumpWait) :
    (completeWaits outcome waits).count .waiting = 0 := by
  refine List.count_eq_zero.mpr ?_
  intro mem
  obtain ⟨wait, -, same⟩ := List.mem_map.mp mem
  split at same
  · exact done same
  · rename_i other
    exact other same

theorem completeWaits_single {outcome : PumpWait} (done : outcome ≠ .waiting) (waits : List PumpWait) :
    Single (completeWaits outcome waits) := by
  rw [Single, completeWaits_count done]
  exact Nat.zero_le 1

theorem scheduleWait_single (waits : List PumpWait) : Single (scheduleWait waits) := by
  rw [Single, scheduleWait, List.count_append, cancelWaits, completeWaits_count PumpWait.noConfusion]
  decide

theorem scheduleWait_alive (waits : List PumpWait) : Alive (scheduleWait waits) :=
  ⟨.waiting, List.mem_append_right _ List.mem_cons_self, PumpWait.noConfusion⟩

theorem expireWaits_alive {waits : List PumpWait} (alive : Alive waits) : Alive (expireWaits waits) := by
  obtain ⟨wait, mem, live⟩ := alive
  refine ⟨_, List.mem_map_of_mem mem, ?_⟩
  split
  · exact PumpWait.noConfusion
  · exact live

theorem Alive.erase {waits : List PumpWait} (alive : Alive waits) {index : Nat}
    (gone : waits[index]? = some .aborted) : Alive (waits.eraseIdx index) := by
  obtain ⟨wait, mem, live⟩ := alive
  obtain ⟨place, found⟩ := List.mem_iff_getElem?.mp mem
  refine ⟨wait, List.mem_eraseIdx_iff_getElem?.mpr ⟨place, ?_, found⟩, live⟩
  rintro rfl
  exact live (Option.some_inj.mp (found.symm.trans gone))

theorem Single.erase {waits : List PumpWait} (single : Single waits) (index : Nat) : Single (waits.eraseIdx index) :=
  ((List.eraseIdx_sublist waits index).count_le .waiting).trans single

end XServer.Ipc
