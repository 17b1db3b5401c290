import Mathlib.Data.List.TakeWhile
import XServer.Client.KcpDatagram
import XServer.Lib.Machine
import XServer.Lib.Table

/-!
# The KCP session of a client

`MinimalKcpSession`: the client's half of a KCP conversation. A Push is acknowledged as
soon as it is seen; an unfragmented one at or above the next expected number goes to the
reorder buffer, and what has become contiguous is returned to the caller. Sequence
numbers are a `uint`, which wraps.
-/

namespace XServer.Client
open XServer.Lib XServer.Lib.Wire

/-- The transport options that a session reads. -/
structure KcpTransportOptions where
  mtu : Int
  sendWindow : Int
  receiveWindow : Int
  deriving DecidableEq, Repr

def KcpTransportOptions.maxDatagramPayloadBytes (options : KcpTransportOptions) : Int :=
  max 1 (options.mtu - kcpOverheadBytes)

def clampWindow (value : Int) : UInt16 :=
  if value ≤ 0 then 1 else if 65535 ≤ value then 65535 else .ofNat value.toNat

/-- The times in the table of unacknowledged pushes are ticks of the clock. -/
structure MinimalKcpSession where
  conversation : UInt32
  options : KcpTransportOptions
  nextSendSequence : UInt32 := 0
  nextReceiveSequence : UInt32 := 0
  remoteWindow : UInt16
  pendingOutbound : Table UInt32 Nat := ∅
  receivedSegments : Table UInt32 KcpSegment := ∅

/-- What a call returns: the segments it answers with the answers to them, and the segments whose payloads are
given to the caller. -/
structure MinimalKcpInboundResult where
  answers : List (KcpSegment × KcpSegment) := []
  received : List KcpSegment := []
  traceMessages : List String := []
  deriving DecidableEq, Repr

namespace MinimalKcpInboundResult

def outgoingDatagrams (result : MinimalKcpInboundResult) : List Bytes :=
  result.answers.map fun answer => encodeSegment answer.2

def receivedPayloads (result : MinimalKcpInboundResult) : List Bytes := result.received.map KcpSegment.payload

end MinimalKcpInboundResult

namespace MinimalKcpSession

/-- A new session. -/
def start (conversation : UInt32) (options : KcpTransportOptions) : MinimalKcpSession :=
  { conversation, options, remoteWindow := clampWindow options.sendWindow }

def tryQueuePayload (session : MinimalKcpSession) (payload : Bytes) (nowMilliseconds : UInt32) (utcNow : Nat) :
    MinimalKcpSession × Except String (List Bytes) :=
  if payload.isEmpty = true then (session, .error "KCP payload must not be empty.")
  else if session.options.maxDatagramPayloadBytes < payload.length then
    (session, .error ("KCP payload length " ++ toString payload.length ++ " exceeds the current simulator limit " ++
      toString session.options.maxDatagramPayloadBytes ++
      ". Fragmented client payloads are not implemented in M4-03."))
  else
    let sequenceNumber := session.nextSendSequence
    let segment : KcpSegment := {
      conversation := session.conversation, command := .push, fragment := 0
      window := clampWindow session.options.receiveWindow, timestamp := nowMilliseconds, sequenceNumber
      unacknowledgedSequenceNumber := session.nextReceiveSequence, payload }
    ({ session with
       nextSendSequence := sequenceNumber + 1
       pendingOutbound := session.pendingOutbound.insert sequenceNumber utcNow }, .ok [encodeSegment segment])

/-- The segment of `CreateAckDatagram`. -/
def createAck (session : MinimalKcpSession) (segment : KcpSegment) : KcpSegment where
  conversation := session.conversation
  command := .ack
  fragment := 0
  window := clampWindow session.options.receiveWindow
  timestamp := segment.timestamp
  sequenceNumber := segment.sequenceNumber
  unacknowledgedSequenceNumber := session.nextReceiveSequence
  payload := []

/-- The segment of `CreateWindowProbeTellDatagram`. -/
def createWindowProbeTell (session : MinimalKcpSession) (nowMilliseconds : UInt32) : KcpSegment where
  conversation := session.conversation
  command := .windowProbeTell
  fragment := 0
  window := clampWindow session.options.receiveWindow
  timestamp := nowMilliseconds
  sequenceNumber := 0
  unacknowledgedSequenceNumber := session.nextReceiveSequence
  payload := []

/-- The session without its next expected segment. -/
def advance (session : MinimalKcpSession) : MinimalKcpSession :=
  { session with
    receivedSegments := session.receivedSegments.erase session.nextReceiveSequence
    nextReceiveSequence := session.nextReceiveSequence + 1 }

/-- So many rounds of the loop of `DrainReceivedPayloads`. -/
def drain : Nat → MinimalKcpSession → MinimalKcpSession × List KcpSegment
  | 0, session => (session, [])
  | rounds + 1, session =>
    match session.receivedSegments[session.nextReceiveSequence]? with
    | none => (session, [])
    | some segment =>
      let rest := drain rounds session.advance
      (rest.1, segment :: rest.2)

/-- Every round removes a segment. -/
def drainReceivedPayloads (session : MinimalKcpSession) : MinimalKcpSession × List KcpSegment :=
  drain session.receivedSegments.size session

def deliveredMessage (segment : KcpSegment) : String :=
  "delivered push sn=" ++ toString segment.sequenceNumber ++ " bytes=" ++ toString segment.payload.length

/-- One round of the loop over the segments of a datagram. -/
def processSegment (session : MinimalKcpSession) (nowMilliseconds : UInt32) (segment : KcpSegment)
    (result : MinimalKcpInboundResult) : MinimalKcpSession × MinimalKcpInboundResult :=
  let session := { session with remoteWindow := segment.window }
  match segment.command with
  | .ack =>
    ({ session with pendingOutbound := session.pendingOutbound.erase segment.sequenceNumber },
      { result with traceMessages := result.traceMessages ++ ["ack sn=" ++ toString segment.sequenceNumber] })
  | .push =>
    let result := { result with answers := result.answers ++ [(segment, session.createAck segment)] }
    if segment.fragment ≠ 0 then
      (session, { result with
        traceMessages := result.traceMessages ++ ["ignored fragmented push sn=" ++ toString segment.sequenceNumber ++
          " frg=" ++ toString segment.fragment ++
          "; fragmented inbound KCP payloads are not implemented in M4-03."] })
    else if segment.sequenceNumber < session.nextReceiveSequence then
      (session, { result with
        traceMessages := result.traceMessages ++ ["ignored duplicate push sn=" ++ toString segment.sequenceNumber] })
    else
      let drained := drainReceivedPayloads
        { session with receivedSegments := session.receivedSegments.insert segment.sequenceNumber segment }
      (drained.1, { result with
        received := result.received ++ drained.2
        traceMessages := result.traceMessages ++ drained.2.map deliveredMessage })
  | .windowProbeAsk =>
    (session, { result with
      answers := result.answers ++ [(segment, session.createWindowProbeTell nowMilliseconds)]
      traceMessages := result.traceMessages ++ ["received remote window probe ask"] })
  | .windowProbeTell =>
    (session, { result with
      traceMessages := result.traceMessages ++
        ["received remote window probe tell wnd=" ++ toString segment.window] })

/-- The loop over the segments of a datagram. -/
def processSegments (session : MinimalKcpSession) (nowMilliseconds : UInt32) :
    List KcpSegment → MinimalKcpInboundResult → MinimalKcpSession × Except KcpFailure MinimalKcpInboundResult
  | [], result => (session, .ok result)
  | segment :: segments, result =>
    if segment.conversation ≠ session.conversation then
      (session, .error (.refused ("Received datagram for conversation " ++ toString segment.conversation ++
        ", expected " ++ toString session.conversation ++ ".")))
    else
      let processed := session.processSegment nowMilliseconds segment result
      processSegments processed.1 nowMilliseconds segments processed.2

def tryProcessInboundDatagram (session : MinimalKcpSession) (datagram : Bytes) (nowMilliseconds : UInt32) :
    MinimalKcpSession × Except KcpFailure MinimalKcpInboundResult :=
  match decodeDatagram datagram with
  | .error failure => (session, .error failure)
  | .ok segments => session.processSegments nowMilliseconds segments {}

end MinimalKcpSession

/-! ## A client -/

/-- A session with what its calls returned: all payloads so far, and the answers of the last datagram. -/
structure KcpClient where
  session : MinimalKcpSession
  returned : List KcpSegment := []
  answered : List (KcpSegment × KcpSegment) := []

inductive KcpInput where
  | queue (payload : Bytes) (nowMilliseconds : UInt32) (utcNow : Nat)
  | datagram (datagram : Bytes) (nowMilliseconds : UInt32)
  deriving DecidableEq, Repr

namespace KcpClient

def start (conversation : UInt32) (options : KcpTransportOptions) : KcpClient := { session := .start conversation options }

/-- One call; the payloads that it returns. -/
def step (client : KcpClient) : KcpInput → KcpClient × List Bytes
  | .queue payload nowMilliseconds utcNow =>
    ({ client with session := (client.session.tryQueuePayload payload nowMilliseconds utcNow).1 }, [])
  | .datagram datagram nowMilliseconds =>
    let outcome := client.session.tryProcessInboundDatagram datagram nowMilliseconds
    match outcome.2 with
    | .error _ => ({ client with session := outcome.1, answered := [] }, [])
    | .ok result =>
      ({ session := outcome.1, returned := client.returned ++ result.received, answered := result.answers },
        result.receivedPayloads)

def machine : Machine KcpClient KcpInput Bytes where
  step := step

end KcpClient

/-! ## What a segment does -/

namespace MinimalKcpSession
variable {session after : MinimalKcpSession} {segment : KcpSegment} {delivered : List KcpSegment}

/-- Draining ends where the next number is missing. -/
inductive Drained : MinimalKcpSession → List KcpSegment → MinimalKcpSession → Prop where
  | done {session : MinimalKcpSession} (missing : session.receivedSegments[session.nextReceiveSequence]? = none) :
      Drained session [] session
  | next {session after : MinimalKcpSession} {segment : KcpSegment} {delivered : List KcpSegment}
      (held : session.receivedSegments[session.nextReceiveSequence]? = some segment)
      (rest : Drained session.advance delivered after) : Drained session (segment :: delivered) after

theorem advance_size (held : session.receivedSegments[session.nextReceiveSequence]? = some segment) :
    session.advance.receivedSegments.size + 1 = session.receivedSegments.size := by
  have mem : session.nextReceiveSequence ∈ session.receivedSegments := by
    rw [← Std.ExtTreeMap.isSome_getElem?_iff_mem, held]
    rfl
  have positive : session.receivedSegments.size ≠ 0 := by
    intro zero
    rw [Std.ExtTreeMap.eq_empty_iff_size_eq_zero.mpr zero] at held
    cases held
  simp only [advance, Std.ExtTreeMap.size_erase, Std.ExtTreeMap.contains_iff_mem.mpr mem, if_true]
  omega

theorem drain_drained {rounds : Nat} (enough : session.receivedSegments.size ≤ rounds) :
    Drained session (drain rounds session).2 (drain rounds session).1 := by
  induction rounds generalizing session with
  | zero =>
    refine .done ?_
    rw [Std.ExtTreeMap.eq_empty_iff_size_eq_zero.mpr (Nat.le_zero.mp enough)]
    rfl
  | succ rounds ih =>
    rw [drain]
    split
    · rename_i missing
      exact .done missing
    · rename_i segment held
      have fewer := advance_size held
      exact .next held (ih (by omega))

/-- What one segment does to the session, and what it makes available to the caller. -/
inductive Applied (session : MinimalKcpSession) (segment : KcpSegment) : List KcpSegment → MinimalKcpSession → Prop where
  | acknowledged (ack : segment.command = .ack) : Applied session segment []
      { session with
        remoteWindow := segment.window
        pendingOutbound := session.pendingOutbound.erase segment.sequenceNumber }
  | fragmented (push : segment.command = .push) (fragment : segment.fragment ≠ 0) :
      Applied session segment [] { session with remoteWindow := segment.window }
  | old (push : segment.command = .push) (whole : segment.fragment = 0)
      (below : segment.sequenceNumber < session.nextReceiveSequence) :
      Applied session segment [] { session with remoteWindow := segment.window }
  | stored {delivered : List KcpSegment} {after : MinimalKcpSession} (push : segment.command = .push)
      (whole : segment.fragment = 0) (notBelow : ¬ segment.sequenceNumber < session.nextReceiveSequence)
      (drained : Drained
        { session with
          remoteWindow := segment.window
          receivedSegments := session.receivedSegments.insert segment.sequenceNumber segment } delivered after) :
      Applied session segment delivered after
  | probed (other : segment.command ≠ .push) (noAck : segment.command ≠ .ack) :
      Applied session segment [] { session with remoteWindow := segment.window }

/-- The answer to a segment. -/
def answer (session : MinimalKcpSession) (nowMilliseconds : UInt32) (segment : KcpSegment) :
    List (KcpSegment × KcpSegment) :=
  match segment.command with
  | .push => [(segment, session.createAck segment)]
  | .windowProbeAsk => [(segment, session.createWindowProbeTell nowMilliseconds)]
  | _ => []

theorem processSegment_applied (session : MinimalKcpSession) (nowMilliseconds : UInt32) (segment : KcpSegment)
    (result : MinimalKcpInboundResult) : ∃ delivered,
      Applied session segment delivered (session.processSegment nowMilliseconds segment result).1 ∧
      (session.processSegment nowMilliseconds segment result).2.received = result.received ++ delivered ∧
      (session.processSegment nowMilliseconds segment result).2.answers =
        result.answers ++ session.answer nowMilliseconds segment := by
  unfold processSegment answer
  cases command : segment.command with
  | ack => exact ⟨[], .acknowledged command, (List.append_nil _).symm, (List.append_nil _).symm⟩
  | push =>
    simp only
    split
    · rename_i fragment
      exact ⟨[], .fragmented command fragment, (List.append_nil _).symm, rfl⟩
    · rename_i whole
      split
      · rename_i below
        exact ⟨[], .old command (not_not.mp whole) below, (List.append_nil _).symm, rfl⟩
      · rename_i notBelow
        exact ⟨_, .stored command (not_not.mp whole) notBelow (drain_drained (Nat.le_refl _)), rfl, rfl⟩
  | windowProbeAsk =>
    exact ⟨[], .probed (by simp [command]) (by simp [command]), (List.append_nil _).symm, rfl⟩
  | windowProbeTell =>
    exact ⟨[], .probed (by simp [command]) (by simp [command]), (List.append_nil _).symm, (List.append_nil _).symm⟩

theorem Drained.conversation (h : Drained session delivered after) : after.conversation = session.conversation := by
  induction h with
  | done => rfl
  | next held rest ih => exact ih

theorem Applied.conversation (h : Applied session segment delivered after) : after.conversation = session.conversation := by
  cases h with
  | stored push whole notBelow drained => exact drained.conversation
  | _ => rfl

/-- What an accepted row of segments does. -/
inductive AppliedAll : MinimalKcpSession → List KcpSegment → List KcpSegment → MinimalKcpSession → Prop where
  | nil (session : MinimalKcpSession) : AppliedAll session [] [] session
  | cons {session middle after : MinimalKcpSession} {segment : KcpSegment} {segments first rest : List KcpSegment}
      (own : segment.conversation = session.conversation) (head : Applied session segment first middle)
      (tail : AppliedAll middle segments rest after) : AppliedAll session (segment :: segments) (first ++ rest) after

theorem AppliedAll.conversation {segments : List KcpSegment} (h : AppliedAll session segments delivered after) :
    after.conversation = session.conversation := by
  induction h with
  | nil session => rfl
  | cons own head tail ih => exact ih.trans head.conversation

/-- The segments before the first one of another conversation. -/
def ownSegments (session : MinimalKcpSession) (segments : List KcpSegment) : List KcpSegment :=
  segments.takeWhile fun segment => segment.conversation == session.conversation

/-- The segments before the first one of another conversation are applied, also if there is one. -/
theorem processSegments_applied (session : MinimalKcpSession) (nowMilliseconds : UInt32) (segments : List KcpSegment)
    (result : MinimalKcpInboundResult) : ∃ delivered,
      AppliedAll session (session.ownSegments segments) delivered
        (session.processSegments nowMilliseconds segments result).1 ∧
      ((∃ failure, (session.processSegments nowMilliseconds segments result).2 = .error failure) ∧
        session.ownSegments segments ≠ segments ∨
      ∃ final, (session.processSegments nowMilliseconds segments result).2 = .ok final ∧
        session.ownSegments segments = segments ∧ final.received = result.received ++ delivered) := by
  induction segments generalizing session result with
  | nil => exact ⟨[], .nil session, .inr ⟨result, rfl, rfl, (List.append_nil _).symm⟩⟩
  | cons segment segments ih =>
    rw [processSegments, ownSegments]
    by_cases own : segment.conversation = session.conversation
    · rw [if_neg (not_not.mpr own), List.takeWhile_cons_of_pos (by simpa using own)]
      obtain ⟨first, applied, received, -⟩ := session.processSegment_applied nowMilliseconds segment result
      obtain ⟨rest, all, outcome⟩ := ih (session.processSegment nowMilliseconds segment result).1
        (session.processSegment nowMilliseconds segment result).2
      rw [ownSegments, applied.conversation] at all outcome
      refine ⟨first ++ rest, .cons own applied all, ?_⟩
      rcases outcome with ⟨failed, some⟩ | ⟨final, done, none, total⟩
      · exact .inl ⟨failed, fun same => some (List.cons.inj same).2⟩
      · refine .inr ⟨final, done, congrArg _ none, ?_⟩
        rw [total, received, List.append_assoc]
    · rw [if_pos own, List.takeWhile_cons_of_neg (by simpa using own)]
      exact ⟨[], .nil session, .inl ⟨⟨_, rfl⟩, by simp⟩⟩

/-! ## Delivery in order -/

/-- A segment that the peer of this conversation may send: its pushes are whole, below the last number, and carry the
payload of their number. -/
def Regular (conversation : UInt32) (payloadOf : UInt32 → Bytes) (segment : KcpSegment) : Prop :=
  segment.conversation = conversation ∧ (segment.command = .push → segment.fragment = 0 ∧
    segment.sequenceNumber.toNat < 2 ^ 32 - 1 ∧ segment.payload = payloadOf segment.sequenceNumber)

def pushes (segments : List KcpSegment) : List KcpSegment := segments.filter fun segment => segment.command == .push

/-- The session after these payloads were returned and these pushes seen, while it drains. -/
structure Delivering (payloadOf : UInt32 → Bytes) (session : MinimalKcpSession) (payloads : List Bytes)
    (seen : List KcpSegment) : Prop where
  returned : payloads = (List.range session.nextReceiveSequence.toNat).map fun n => payloadOf (.ofNat n)
  below : ∀ n : UInt32, n.toNat < session.nextReceiveSequence.toNat → ∃ push ∈ seen, push.sequenceNumber = n
  held : ∀ (n : UInt32) segment, session.receivedSegments[n]? = some segment → segment.payload = payloadOf n ∧
    session.nextReceiveSequence.toNat ≤ n.toNat ∧ n.toNat < 2 ^ 32 - 1 ∧ ∃ push ∈ seen, push.sequenceNumber = n
  kept : ∀ push ∈ seen, session.nextReceiveSequence.toNat ≤ push.sequenceNumber.toNat →
    (session.receivedSegments[push.sequenceNumber]?).isSome = true

/-- And when it does not: the next number is missing. -/
structure Delivered (payloadOf : UInt32 → Bytes) (session : MinimalKcpSession) (payloads : List Bytes)
    (seen : List KcpSegment) : Prop extends Delivering payloadOf session payloads seen where
  missing : session.receivedSegments[session.nextReceiveSequence]? = none

variable {payloadOf : UInt32 → Bytes} {payloads : List Bytes} {seen : List KcpSegment}

namespace Delivering

theorem advance (h : Delivering payloadOf session payloads seen)
    (held : session.receivedSegments[session.nextReceiveSequence]? = some segment) :
    Delivering payloadOf session.advance (payloads ++ [segment.payload]) seen := by
  obtain ⟨payload, -, room, push, mem, number⟩ := h.held _ _ held
  have next : session.advance.nextReceiveSequence.toNat = session.nextReceiveSequence.toNat + 1 := by
    simp only [MinimalKcpSession.advance, UInt32.toNat_add, UInt32.toNat_one]
    omega
  constructor
  · rw [next, List.range_succ, List.map_append, ← h.returned, payload, List.map_singleton, UInt32.ofNat_toNat]
  · intro n lower
    rw [next] at lower
    by_cases last : n = session.nextReceiveSequence
    · exact ⟨push, mem, number.trans last.symm⟩
    · refine h.below n ?_
      have : n.toNat ≠ session.nextReceiveSequence.toNat := fun same => last (UInt32.toNat_inj.mp same)
      omega
  · intro n entry found
    obtain ⟨apart, found⟩ := Table.get_erase_some found
    obtain ⟨same, lower, upper, pushed⟩ := h.held n entry found
    have : n.toNat ≠ session.nextReceiveSequence.toNat := fun same => apart (UInt32.toNat_inj.mp same.symm)
    exact ⟨same, by omega, upper, pushed⟩
  · intro other mem lower
    rw [next] at lower
    have apart : session.nextReceiveSequence ≠ other.sequenceNumber := by
      intro same
      rw [← same] at lower
      omega
    simp only [MinimalKcpSession.advance]
    rw [Table.get_erase_of_ne _ apart]
    exact h.kept other mem (by omega)

theorem drained (h : Delivering payloadOf session payloads seen) (drained : Drained session delivered after) :
    Delivered payloadOf after (payloads ++ delivered.map KcpSegment.payload) seen := by
  induction drained generalizing payloads with
  | done missing =>
    rw [List.map_nil, List.append_nil]
    exact ⟨h, missing⟩
  | next held rest ih =>
    have rest := ih (h.advance held)
    rwa [List.append_assoc, List.singleton_append] at rest

/-- A push that the session has passed. -/
theorem passed (h : Delivering payloadOf session payloads seen)
    (below : segment.sequenceNumber.toNat < session.nextReceiveSequence.toNat) :
    Delivering payloadOf session payloads (seen ++ [segment]) where
  returned := h.returned
  below n lower := by
    obtain ⟨push, mem, number⟩ := h.below n lower
    exact ⟨push, List.mem_append_left _ mem, number⟩
  held n entry found := by
    obtain ⟨payload, lower, upper, push, mem, number⟩ := h.held n entry found
    exact ⟨payload, lower, upper, push, List.mem_append_left _ mem, number⟩
  kept push mem lower := by
    rcases List.mem_append.mp mem with old | new
    · exact h.kept push old lower
    · rw [List.mem_singleton.mp new] at lower
      omega

/-- A push that goes to the buffer. -/
theorem stored (h : Delivering payloadOf session payloads seen) (room : segment.sequenceNumber.toNat < 2 ^ 32 - 1)
    (payload : segment.payload = payloadOf segment.sequenceNumber)
    (notBelow : ¬ segment.sequenceNumber < session.nextReceiveSequence) (window : UInt16) :
    Delivering payloadOf
      { session with
        remoteWindow := window
        receivedSegments := session.receivedSegments.insert segment.sequenceNumber segment }
      payloads (seen ++ [segment]) := by
  rw [UInt32.lt_iff_toNat_lt] at notBelow
  constructor
  · exact h.returned
  · intro n lower
    obtain ⟨push, mem, number⟩ := h.below n lower
    exact ⟨push, List.mem_append_left _ mem, number⟩
  · intro n entry found
    simp only [Table.get_insert] at found
    split at found
    · rename_i same
      cases found
      subst same
      exact ⟨payload, by simp only; omega, room, segment, List.mem_append_right _ List.mem_cons_self, rfl⟩
    · obtain ⟨same, lower, upper, push, mem, number⟩ := h.held n entry found
      exact ⟨same, lower, upper, push, List.mem_append_left _ mem, number⟩
  · intro push mem lower
    simp only [Table.get_insert]
    split
    · rfl
    · rename_i apart
      rcases List.mem_append.mp mem with old | new
      · exact h.kept push old lower
      · rw [List.mem_singleton.mp new] at apart
        exact absurd rfl apart

end Delivering

namespace Delivered

theorem applied (h : Delivered payloadOf session payloads seen)
    (regular : Regular session.conversation payloadOf segment) (applied : Applied session segment delivered after) :
    Delivered payloadOf after (payloads ++ delivered.map KcpSegment.payload) (seen ++ pushes [segment]) := by
  cases applied with
  | acknowledged ack =>
    rw [pushes, List.filter_cons_of_neg (by simp [ack]), List.filter_nil, List.append_nil, List.map_nil, List.append_nil]
    exact ⟨⟨h.returned, h.below, h.held, h.kept⟩, h.missing⟩
  | fragmented push fragment => exact absurd (regular.2 push).1 fragment
  | old push whole below =>
    rw [pushes, List.filter_cons_of_pos (by simp [push]), List.filter_nil, List.map_nil, List.append_nil]
    have passed := h.toDelivering.passed (UInt32.lt_iff_toNat_lt.mp below)
    exact ⟨⟨passed.returned, passed.below, passed.held, passed.kept⟩, h.missing⟩
  | stored push whole notBelow drained =>
    rw [pushes, List.filter_cons_of_pos (by simp [push]), List.filter_nil]
    obtain ⟨-, room, payload⟩ := regular.2 push
    exact (h.toDelivering.stored room payload notBelow segment.window).drained drained
  | probed other noAck =>
    rw [pushes, List.filter_cons_of_neg (by simp [other]), List.filter_nil, List.append_nil, List.map_nil,
      List.append_nil]
    exact ⟨⟨h.returned, h.below, h.held, h.kept⟩, h.missing⟩

theorem appliedAll {segments : List KcpSegment} (h : Delivered payloadOf session payloads seen)
    (regular : ∀ segment ∈ segments, Regular session.conversation payloadOf segment)
    (applied : AppliedAll session segments delivered after) :
    Delivered payloadOf after (payloads ++ delivered.map KcpSegment.payload) (seen ++ pushes segments) := by
  induction applied generalizing payloads seen with
  | nil session => simpa [pushes] using h
  | @cons session middle after segment segments first rest own head tail ih =>
    have step := h.applied (regular segment List.mem_cons_self) head
    have rest := ih step fun other mem => head.conversation ▸ regular other (List.mem_cons_of_mem _ mem)
    have split : pushes (segment :: segments) = pushes [segment] ++ pushes segments := by
      rw [pushes, pushes, pushes, ← List.filter_append, List.singleton_append]
    rw [split, List.map_append, ← List.append_assoc, ← List.append_assoc]
    exact rest

end Delivered
end MinimalKcpSession

/-! ## Runs -/

/-- A call of the client, with the segments that a datagram was encoded from. -/
inductive KcpCall where
  | queue (payload : Bytes) (nowMilliseconds : UInt32) (utcNow : Nat)
  | datagram (segments : List KcpSegment) (nowMilliseconds : UInt32)
  deriving DecidableEq, Repr

namespace KcpCall

def input : KcpCall → KcpInput
  | .queue payload nowMilliseconds utcNow => .queue payload nowMilliseconds utcNow
  | .datagram segments nowMilliseconds => .datagram (segments.flatMap encodeSegment) nowMilliseconds

def segments : KcpCall → List KcpSegment
  | .queue .. => []
  | .datagram segments _ => segments

end KcpCall

namespace KcpClient
open MinimalKcpSession

theorem tryQueuePayload_delivered {payloadOf : UInt32 → Bytes} {session : MinimalKcpSession} {payloads : List Bytes}
    {seen : List KcpSegment} (h : Delivered payloadOf session payloads seen) (payload : Bytes) (now : UInt32)
    (utcNow : Nat) : Delivered payloadOf (session.tryQueuePayload payload now utcNow).1 payloads seen := by
  unfold tryQueuePayload
  split
  · exact h
  · split
    · exact h
    · exact ⟨⟨h.returned, h.below, h.held, h.kept⟩, h.missing⟩

theorem tryQueuePayload_conversation (session : MinimalKcpSession) (payload : Bytes) (now : UInt32) (utcNow : Nat) :
    (session.tryQueuePayload payload now utcNow).1.conversation = session.conversation := by
  unfold tryQueuePayload
  split
  · rfl
  · split <;> rfl

theorem step_delivered {payloadOf : UInt32 → Bytes} {client : KcpClient} {payloads : List Bytes} {seen : List KcpSegment}
    (h : Delivered payloadOf client.session payloads seen) {call : KcpCall}
    (size : (call.segments.flatMap encodeSegment).length < 2 ^ 31)
    (regular : ∀ segment ∈ call.segments, Regular client.session.conversation payloadOf segment) :
    Delivered payloadOf (client.step call.input).1.session (payloads ++ (client.step call.input).2)
      (seen ++ pushes call.segments) ∧
    (client.step call.input).1.session.conversation = client.session.conversation := by
  cases call with
  | queue payload now utcNow =>
    simp only [KcpCall.input, step, KcpCall.segments, pushes, List.filter_nil, List.append_nil]
    exact ⟨tryQueuePayload_delivered h payload now utcNow, tryQueuePayload_conversation _ payload now utcNow⟩
  | datagram segments now =>
    simp only [KcpCall.input, KcpCall.segments, step, tryProcessInboundDatagram] at size regular ⊢
    rw [decodeDatagram_encode segments (by simp only [maxInt]; omega)]
    have own : client.session.ownSegments segments = segments := by
      refine List.takeWhile_eq_self_iff.mpr fun segment mem => ?_
      exact beq_iff_eq.mpr (regular segment mem).1
    obtain ⟨delivered, applied, ⟨-, differs⟩ | ⟨final, accepted, -, received⟩⟩ :=
      client.session.processSegments_applied now segments {}
    · exact absurd own differs
    · rw [own] at applied
      simp only [accepted, MinimalKcpInboundResult.receivedPayloads, received, List.nil_append]
      exact ⟨h.appliedAll regular applied, applied.conversation⟩

theorem run_delivered {payloadOf : UInt32 → Bytes} (calls : List KcpCall) {client : KcpClient} {payloads : List Bytes}
    {seen : List KcpSegment} (h : Delivered payloadOf client.session payloads seen)
    (size : ∀ call ∈ calls, (call.segments.flatMap encodeSegment).length < 2 ^ 31)
    (regular : ∀ call ∈ calls, ∀ segment ∈ call.segments, Regular client.session.conversation payloadOf segment) :
    Delivered payloadOf (machine.run client (calls.map KcpCall.input)).1.session
      (payloads ++ (machine.run client (calls.map KcpCall.input)).2) (seen ++ calls.flatMap fun call => pushes call.segments) := by
  induction calls generalizing client payloads seen with
  | nil => simpa using h
  | cons call calls ih =>
    obtain ⟨next, same⟩ := step_delivered h (size call List.mem_cons_self) (regular call List.mem_cons_self)
    have rest := ih next (fun other mem => size other (List.mem_cons_of_mem _ mem))
      fun other mem => same.symm ▸ regular other (List.mem_cons_of_mem _ mem)
    rw [List.append_assoc, List.append_assoc] at rest
    exact rest

theorem start_delivered (payloadOf : UInt32 → Bytes) (conversation : UInt32) (options : KcpTransportOptions) :
    Delivered payloadOf (start conversation options).session [] [] where
  returned := rfl
  below n lower := absurd lower (Nat.not_lt_zero _)
  held n segment found := by simp [start, MinimalKcpSession.start] at found
  kept push mem := by cases mem
  missing := by simp [start, MinimalKcpSession.start]

/-- Every payload is returned once, in the order of the sequence numbers, as soon as those below it are there. -/
theorem run_delivers (conversation : UInt32) (options : KcpTransportOptions) (payloadOf : UInt32 → Bytes)
    (calls : List KcpCall) (size : ∀ call ∈ calls, (call.segments.flatMap encodeSegment).length < 2 ^ 31)
    (regular : ∀ call ∈ calls, ∀ segment ∈ call.segments, Regular conversation payloadOf segment) :
    let session := (machine.run (start conversation options) (calls.map KcpCall.input)).1.session
    let received (n : UInt32) : Prop := ∃ push ∈ calls.flatMap fun call => pushes call.segments, push.sequenceNumber = n
    (machine.run (start conversation options) (calls.map KcpCall.input)).2 =
      (List.range session.nextReceiveSequence.toNat).map (fun n => payloadOf (.ofNat n)) ∧
    (∀ n < session.nextReceiveSequence, received n) ∧ ¬ received session.nextReceiveSequence ∧
    ∀ n, (session.receivedSegments[n]?).isSome = true ↔ session.nextReceiveSequence < n ∧ received n := by
  have h := run_delivered calls (start_delivered payloadOf conversation options) size regular
  rw [List.nil_append, List.nil_append] at h
  refine ⟨h.returned, fun n lower => h.below n (UInt32.lt_iff_toNat_lt.mp lower), ?_, fun n => ⟨fun there => ?_, ?_⟩⟩
  · rintro ⟨push, mem, number⟩
    have kept := h.kept push mem (by rw [number])
    rw [number, h.missing] at kept
    cases kept
  · obtain ⟨segment, found⟩ := Option.isSome_iff_exists.mp there
    obtain ⟨-, lower, -, pushed⟩ := h.held n segment found
    have apart : (machine.run (start conversation options) (calls.map KcpCall.input)).1.session.nextReceiveSequence ≠ n := by
      intro same
      rw [← same, h.missing] at found
      cases found
    have distinct := fun same => apart (UInt32.toNat_inj.mp same)
    exact ⟨UInt32.lt_iff_toNat_lt.mpr (Nat.lt_of_le_of_ne lower distinct), pushed⟩
  · rintro ⟨above, push, mem, rfl⟩
    exact h.kept push mem (Nat.le_of_lt (UInt32.lt_iff_toNat_lt.mp above))

def sampleOptions : KcpTransportOptions where
  mtu := 1200
  sendWindow := 128
  receiveWindow := 128

/-- A push of the sample conversation. -/
def samplePush (sequenceNumber : UInt32) (payload : Bytes) : KcpSegment where
  conversation := 11
  command := .push
  fragment := 0
  window := 128
  timestamp := 0
  sequenceNumber := sequenceNumber
  unacknowledgedSequenceNumber := 0
  payload := payload

/-- Number 1 comes first, and again with number 0. -/
def sampleCalls : List KcpCall :=
  [.datagram [samplePush 1 [1]] 0, .queue [5] 0 0, .datagram [samplePush 0 [0], samplePush 1 [1]] 0]

def samplePayload (n : UInt32) : Bytes := [n.toUInt8]

theorem sampleCalls_size : ∀ call ∈ sampleCalls, (call.segments.flatMap encodeSegment).length < 2 ^ 31 := by
  decide +kernel

theorem sampleCalls_regular : ∀ call ∈ sampleCalls, ∀ segment ∈ call.segments, Regular 11 samplePayload segment := by
  simp [sampleCalls, KcpCall.segments, Regular, samplePush, samplePayload]

theorem run_delivers_sample :
    (machine.run (start 11 sampleOptions) (sampleCalls.map KcpCall.input)).2 = [[0], [1]] ∧
    (machine.run (start 11 sampleOptions) (sampleCalls.map KcpCall.input)).2 = (List.range
      (machine.run (start 11 sampleOptions) (sampleCalls.map KcpCall.input)).1.session.nextReceiveSequence.toNat).map
        fun n => samplePayload (.ofNat n) :=
  ⟨by decide +kernel, (run_delivers 11 sampleOptions samplePayload sampleCalls sampleCalls_size sampleCalls_regular).1⟩

end KcpClient
end XServer.Client
