import XServer.Lib.Machine
import XServer.Node.ClientNetwork

/-!
# The UDP receive loop

`Run`, `Stop`, `StartReceive` and `HandleReceive` of `node/ClientNetwork.cpp` over the sockets
they open. A receive is outstanding until the system fills the buffer, fails or is cut off by
the closing of its socket; its handler is then queued, and runs whenever the event loop comes
to it. A handler does not know its socket, so one that is left over from before a restart
starts a receive of its own.
-/

namespace XServer.Node
open XServer.Lib XServer.Lib.Wire XServer.Net

def kMaxUdpDatagramBytes : Nat := 65535

/-- An open socket with the receives it owes an end. -/
structure UdpSocket where
  receives : Nat := 0
  deriving DecidableEq, Repr

/-- How a receive has ended, its handler not having run yet. A handler is told the number of
bytes; whose they are it reads from the buffer and the remote endpoint. -/
inductive ReceiveCompletion where
  | received (source : Endpoint) (datagram : Bytes)
  | aborted
  | failed (error : Bytes)
  deriving DecidableEq, Repr

structure ClientReceiver where
  network : ClientNetwork
  socket : Option UdpSocket := none
  completions : List ReceiveCompletion := []
  receiveBuffer : Bytes := []
  receiveRemoteEndpoint : Endpoint := { host := [], port := 0 }
  lastErrorMessage : Bytes := []

/-- `HandleIncomingDatagram` with the endpoint and the bytes. -/
inductive ReceiveEvent where
  | handled (remoteEndpoint : Endpoint) (datagram : Bytes)
  deriving DecidableEq, Repr

namespace ClientReceiver

/-- The state after `Init`. -/
def start (ownerNodeId : Bytes) : ClientReceiver := { network := { ownerNodeId } }

/-- Outstanding calls of `async_receive_from`. -/
def outstanding (receiver : ClientReceiver) : Nat :=
  match receiver.socket with
  | none => 0
  | some socket => socket.receives

/-- Closing the socket ends its receives; their handlers are queued. -/
def closeSocket (receiver : ClientReceiver) : ClientReceiver :=
  { receiver with
    socket := none
    completions := receiver.completions ++ List.replicate receiver.outstanding .aborted }

def startReceive (receiver : ClientReceiver) : ClientReceiver :=
  match receiver.network.running, receiver.socket with
  | true, some socket => { receiver with socket := some { receives := socket.receives + 1 } }
  | _, _ => receiver

/-- `Run`; `listener` is the outcome of opening the listener and the timer. -/
def run (receiver : ClientReceiver) (listener : Except Bytes Unit) : ClientReceiver :=
  if !receiver.network.initialized then
    { receiver with lastErrorMessage := text "ClientNetwork must be initialized before Run()." }
  else if receiver.network.running then { receiver with lastErrorMessage := [] }
  else
    match listener with
    | .error message => { receiver.closeSocket with lastErrorMessage := message }
    | .ok () =>
      startReceive { receiver with
        network := { receiver.network with running := true }
        socket := some {}
        lastErrorMessage := [] }

/-- `Stop`; `closeError` is what the socket says when it closes. -/
def stop (receiver : ClientReceiver) (closeError : Option Bytes) : ClientReceiver :=
  if !receiver.network.initialized || !receiver.network.running then { receiver with lastErrorMessage := [] }
  else
    { receiver.closeSocket with
      network := receiver.network.stop
      lastErrorMessage :=
        match closeError with
        | none => []
        | some error => text "ClientNetwork failed to close UDP listener: " ++ error }

def handleReceive (receiver : ClientReceiver) (completion : ReceiveCompletion) : ClientReceiver × List ReceiveEvent :=
  if !receiver.network.running then (receiver, [])
  else
    match completion with
    | .aborted => (receiver.startReceive, [])
    | .failed error =>
      (startReceive { receiver with lastErrorMessage := text "ClientNetwork UDP receive failed: " ++ error }, [])
    | .received _ datagram =>
      let bytesTransferred := min datagram.length kMaxUdpDatagramBytes
      (receiver.startReceive,
        [.handled receiver.receiveRemoteEndpoint (receiver.receiveBuffer.take bytesTransferred)])

inductive Input where
  | run (listener : Except Bytes Unit)
  | stop (closeError : Option Bytes)
  /-- The system fills the buffer for an outstanding receive. -/
  | arrive (source : Endpoint) (datagram : Bytes)
  /-- An outstanding receive ends with an error. -/
  | fail (error : Bytes)
  /-- The event loop runs a queued handler. -/
  | deliver (index : Nat)

/-- The end of one outstanding receive. -/
def complete (receiver : ClientReceiver) (completion : ReceiveCompletion) : ClientReceiver :=
  { receiver with
    socket := receiver.socket.map fun socket => { receives := socket.receives - 1 }
    completions := receiver.completions ++ [completion] }

/-- The bytes over the beginning of what the buffer held. -/
def overwrite (buffer datagram : Bytes) : Bytes :=
  datagram.take kMaxUdpDatagramBytes ++ buffer.drop (min datagram.length kMaxUdpDatagramBytes)

def step (receiver : ClientReceiver) : Input → ClientReceiver × List ReceiveEvent
  | .run listener => (receiver.run listener, [])
  | .stop closeError => (receiver.stop closeError, [])
  | .arrive source datagram =>
    if receiver.outstanding = 0 then (receiver, [])
    else
      ({ receiver.complete (.received source datagram) with
          receiveBuffer := overwrite receiver.receiveBuffer datagram
          receiveRemoteEndpoint := source }, [])
  | .fail error =>
    if receiver.outstanding = 0 then (receiver, []) else (receiver.complete (.failed error), [])
  | .deliver index =>
    match receiver.completions[index]? with
    | none => (receiver, [])
    | some completion =>
      handleReceive { receiver with completions := receiver.completions.eraseIdx index } completion

def machine : Machine ClientReceiver Input ReceiveEvent := ⟨step⟩

/-! ## One receive at a time -/

/-- A `Run` that opens a socket finds every earlier handler delivered. -/
def Drained (receiver : ClientReceiver) : Input → Prop
  | .run (.ok ()) => receiver.network.initialized = true → receiver.network.running = false → receiver.completions = []
  | _ => True

/-- A received datagram is handled with its own bytes under its own endpoint. -/
def Attributed (receiver : ClientReceiver) : Input → Prop
  | .deliver index => ∀ source datagram, receiver.completions[index]? = some (.received source datagram) →
      ∀ event ∈ (receiver.step (.deliver index)).2, event = .handled source (datagram.take kMaxUdpDatagramBytes)
  | _ => True

/-- There is a receive outstanding or a handler queued, but not both and not two; and what the
queued handler will read is what came for it. -/
structure Single (receiver : ClientReceiver) : Prop where
  closed : receiver.network.running = false → receiver.socket = none
  one : receiver.outstanding + receiver.completions.length ≤ 1
  buffered : ∀ source datagram, .received source datagram ∈ receiver.completions →
    receiver.receiveRemoteEndpoint = source ∧
      receiver.receiveBuffer.take (min datagram.length kMaxUdpDatagramBytes) = datagram.take kMaxUdpDatagramBytes

variable {receiver : ClientReceiver}

theorem start_single (ownerNodeId : Bytes) : Single (start ownerNodeId) where
  closed := fun _ => rfl
  one := Nat.zero_le 1
  buffered := fun _ _ mem => absurd mem List.not_mem_nil

theorem take_overwrite (buffer datagram : Bytes) :
    (overwrite buffer datagram).take (min datagram.length kMaxUdpDatagramBytes) = datagram.take kMaxUdpDatagramBytes := by
  have length : (datagram.take kMaxUdpDatagramBytes).length = min datagram.length kMaxUdpDatagramBytes := by
    rw [List.length_take, Nat.min_comm]
  unfold overwrite
  rw [← length, List.take_left]

theorem closeSocket_single (single : Single receiver) : Single receiver.closeSocket where
  closed := fun _ => rfl
  one := by
    have one := single.one
    simp only [closeSocket, outstanding, List.length_append, List.length_replicate] at one ⊢
    omega
  buffered := by
    intro source datagram mem
    rcases List.mem_append.mp mem with mem | mem
    · exact single.buffered source datagram mem
    · exact absurd (List.eq_of_mem_replicate mem) (by simp)

/-- Where no handler is left and no receive is outstanding, one may be started. -/
theorem startReceive_single (closed : receiver.network.running = false → receiver.socket = none)
    (idle : receiver.outstanding = 0) (drained : receiver.completions = []) : Single receiver.startReceive := by
  have nothing : ∀ source datagram, ReceiveCompletion.received source datagram ∉ receiver.completions := by
    intro source datagram mem
    rw [drained] at mem
    cases mem
  unfold startReceive
  split
  · rename_i socket running opened
    have none : socket.receives = 0 := by
      rw [outstanding, opened] at idle
      exact idle
    refine ⟨fun stopped => ?_, ?_, fun source datagram mem => absurd mem (nothing source datagram)⟩
    · rw [running] at stopped
      cases stopped
    · simp only [outstanding, none, drained, List.length_nil]
      omega
  · refine ⟨closed, ?_, fun source datagram mem => absurd mem (nothing source datagram)⟩
    rw [idle, drained]
    decide

theorem run_single (single : Single receiver) (listener : Except Bytes Unit)
    (drained : Drained receiver (.run listener)) : Single (receiver.run listener) := by
  unfold run
  split
  · exact ⟨single.closed, single.one, single.buffered⟩
  · rename_i ready
    split
    · exact ⟨single.closed, single.one, single.buffered⟩
    · rename_i stopped
      cases listener with
      | error message =>
        have shut := closeSocket_single single
        exact ⟨shut.closed, shut.one, shut.buffered⟩
      | ok _ =>
        have empty := drained (by simpa using ready) (by simpa using stopped)
        apply startReceive_single
        · intro off
          cases off
        · rfl
        · exact empty

theorem stop_single (single : Single receiver) (closeError : Option Bytes) : Single (receiver.stop closeError) := by
  unfold stop
  split
  · exact ⟨single.closed, single.one, single.buffered⟩
  · have shut := closeSocket_single single
    exact ⟨fun _ => rfl, shut.one, shut.buffered⟩

/-- The end of a receive takes its place in the queue, which was empty. -/
theorem complete_single (single : Single receiver) (due : receiver.outstanding ≠ 0) (completion : ReceiveCompletion) :
    receiver.completions = [] ∧ (receiver.complete completion).outstanding = 0 ∧
      (receiver.network.running = false → (receiver.complete completion).socket = none) := by
  have one := single.one
  refine ⟨List.length_eq_zero_iff.mp (by omega), ?_, fun stopped => ?_⟩
  · unfold outstanding complete at *
    cases opened : receiver.socket with
    | none => rfl
    | some socket =>
      rw [opened] at one due
      simp only [Option.map_some] at one due ⊢
      omega
  · unfold complete
    rw [single.closed stopped]
    rfl

theorem deliver_single (single : Single receiver) {index : Nat} {completion : ReceiveCompletion}
    (queued : receiver.completions[index]? = some completion) :
    receiver.completions = [completion] ∧ index = 0 ∧ receiver.outstanding = 0 := by
  have one := single.one
  obtain ⟨within, is⟩ := List.getElem?_eq_some_iff.mp queued
  have zero : index = 0 := by omega
  subst zero
  match listed : receiver.completions with
  | [] =>
    rw [listed] at within
    exact absurd within (Nat.not_lt_zero 0)
  | [only] =>
    simp only [listed, List.getElem_cons_zero] at is
    rw [listed] at one
    refine ⟨by rw [is], rfl, ?_⟩
    simp only [List.length_singleton] at one
    omega
  | _ :: _ :: _ =>
    rw [listed] at one
    simp only [List.length_cons] at one
    omega

theorem handleReceive_single (closed : receiver.network.running = false → receiver.socket = none)
    (idle : receiver.outstanding = 0) (drained : receiver.completions = []) (completion : ReceiveCompletion) :
    Single (receiver.handleReceive completion).1 := by
  unfold handleReceive
  split
  · refine ⟨closed, ?_, fun source datagram mem => ?_⟩
    · rw [idle, drained]
      decide
    · rw [drained] at mem
      cases mem
  · cases completion with
    | aborted => exact startReceive_single closed idle drained
    | failed error => exact startReceive_single closed idle drained
    | received source datagram => exact startReceive_single closed idle drained

theorem step_single (single : Single receiver) (input : Input) (drained : Drained receiver input) :
    Single (machine.step receiver input).1 := by
  cases input with
  | run listener => exact run_single single listener drained
  | stop closeError => exact stop_single single closeError
  | arrive source datagram =>
    change Single (receiver.step (.arrive source datagram)).1
    simp only [step]
    split
    · exact single
    · rename_i due
      obtain ⟨empty, idle, closed⟩ := complete_single single due (.received source datagram)
      refine ⟨closed, ?_, fun other bytes mem => ?_⟩
      · change (receiver.complete (.received source datagram)).outstanding + (receiver.completions ++ [_]).length ≤ 1
        rw [idle, empty]
        exact Nat.le_refl 1
      · change _ ∈ receiver.completions ++ [_] at mem
        rw [empty, List.nil_append, List.mem_singleton] at mem
        cases mem
        exact ⟨rfl, take_overwrite receiver.receiveBuffer datagram⟩
  | fail error =>
    change Single (receiver.step (.fail error)).1
    simp only [step]
    split
    · exact single
    · rename_i due
      obtain ⟨empty, idle, closed⟩ := complete_single single due (.failed error)
      refine ⟨closed, ?_, fun other bytes mem => ?_⟩
      · change (receiver.complete (.failed error)).outstanding + (receiver.completions ++ [_]).length ≤ 1
        rw [idle, empty]
        exact Nat.le_refl 1
      · change _ ∈ receiver.completions ++ [_] at mem
        rw [empty, List.nil_append, List.mem_singleton] at mem
        cases mem
  | deliver index =>
    change Single (receiver.step (.deliver index)).1
    simp only [step]
    split
    · exact single
    · rename_i completion queued
      obtain ⟨only, rfl, idle⟩ := deliver_single single queued
      have left : receiver.completions.eraseIdx 0 = [] := by
        rw [only]
        rfl
      exact @handleReceive_single { receiver with completions := receiver.completions.eraseIdx 0 } single.closed idle
        left completion

theorem step_attributed (single : Single receiver) (input : Input) : Attributed receiver input := by
  cases input with
  | deliver index =>
    intro source datagram queued event mem
    simp only [step, queued, handleReceive] at mem
    split at mem
    · cases mem
    · rw [List.mem_singleton] at mem
      obtain ⟨endpoint, bytes⟩ := single.buffered source datagram (List.mem_of_getElem? queued)
      rw [mem, endpoint, bytes]
  | _ => trivial

/-- Where every handler is delivered before the next listener is opened, at most one receive is
outstanding, and every datagram is handled under its own endpoint. -/
theorem receives_single (ownerNodeId : Bytes) (inputs : List Input)
    (drained : machine.Along Drained (start ownerNodeId) inputs) :
    (machine.run (start ownerNodeId) inputs).1.outstanding ≤ 1 ∧
      machine.Along Attributed (start ownerNodeId) inputs := by
  constructor
  · have single := @Machine.run_invariant _ _ _ machine Drained Single
      (fun receiver input single drained => step_single single input drained) _ _ (start_single ownerNodeId) drained
    have one := single.one
    omega
  · exact Machine.Along.of_invariant (fun receiver input single drained => step_single single input drained)
      (fun receiver input single _ => step_attributed single input) (start_single ownerNodeId) drained

/-- A listener that is opened over a queued handler has two receives once the handler runs. -/
theorem outstanding_of_late (late : ¬ Drained receiver (.run (.ok ()))) :
    (machine.run receiver [.run (.ok ()), .deliver 0]).1.outstanding = 2 := by
  simp only [Drained, Classical.not_imp] at late
  obtain ⟨initialized, stopped, queued⟩ := late
  obtain ⟨completion, rest, listed⟩ := List.exists_cons_of_ne_nil queued
  have opened : receiver.run (.ok ()) = { receiver with
      network := { receiver.network with running := true }
      socket := some { receives := 1 }
      lastErrorMessage := [] } := by
    unfold run
    rw [initialized, stopped]
    rfl
  change (step (receiver.run (.ok ())) (.deliver 0)).1.outstanding = 2
  rw [opened]
  simp only [step, listed, List.getElem?_cons_zero, List.eraseIdx_zero]
  cases completion <;> rfl

/-- A run in which a handler is left over from before the second `Run`: the first receive is cut
off by `Stop`, and its handler starts a second one on the new socket. -/
def lateAbort : List Input := [.run (.ok ()), .stop none, .run (.ok ()), .deliver 0]

/-- The two receives are filled one after the other before a handler runs. -/
def twoArrivals : List Input :=
  [.arrive ⟨text "10.0.0.1", 4000⟩ [1], .arrive ⟨text "10.0.0.2", 4000⟩ [2], .deliver 0]

theorem receives_doubled :
    (machine.run (start (text "Gate0")) lateAbort).1.outstanding = 2 ∧
      (machine.run (start (text "Gate0")) (lateAbort ++ twoArrivals)).2 =
        [.handled ⟨text "10.0.0.2", 4000⟩ [2]] ∧
      ¬ ∀ (ownerNodeId : Bytes) (inputs : List Input), (machine.run (start ownerNodeId) inputs).1.outstanding ≤ 1 ∧
        machine.Along Attributed (start ownerNodeId) inputs := by
  have doubled : (machine.run (start (text "Gate0")) lateAbort).1.outstanding = 2 := by decide +kernel
  have mixed : (machine.run (start (text "Gate0")) (lateAbort ++ twoArrivals)).2 =
      [.handled ⟨text "10.0.0.2", 4000⟩ [2]] := by decide +kernel
  refine ⟨doubled, mixed, fun single => ?_⟩
  have one := (single (text "Gate0") lateAbort).1
  omega

theorem receives_single_sample :
    (machine.run (start (text "Gate0")) [.run (.ok ()), .stop none, .deliver 0, .run (.ok ())]).1.outstanding ≤ 1 ∧
      machine.Along Attributed (start (text "Gate0")) [.run (.ok ()), .stop none, .deliver 0, .run (.ok ())] := by
  apply receives_single
  have empty : (machine.run (start (text "Gate0")) [.run (.ok ()), .stop none, .deliver 0]).1.completions = [] := by
    decide +kernel
  exact ⟨fun _ _ => rfl, trivial, trivial, fun _ _ => empty, trivial⟩

end ClientReceiver

end XServer.Node
