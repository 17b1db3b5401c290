import XServer.Client.KcpInterop
import XServer.Client.KcpSession
import XServer.Net.IkcpStream

/-!
# A conversation between a client and the Gate

The client's KCP session and the Gate's KCP peer over UDP: whatever either side has ever
sent can arrive at any time, in any order, any number of times or never. The handlers of
`ClientNetwork` are rows of the Gate's steps. Upwards the Gate receives a beginning of what
the client queued; the client never sends a payload again, so a lost datagram is the end
of the uplink.
-/

namespace XServer.Client
open XServer.Lib XServer.Lib.Wire XServer.Net XServer.Core.Config

/-- Both ends, every datagram each has sent, the datagrams that came to the Gate, and the payloads handed over at
either end. -/
structure KcpLink where
  peer : KcpPeer
  session : MinimalKcpSession
  toGate : List Bytes := []
  toClient : List Bytes := []
  arrived : List Bytes := []
  queued : List Bytes := []
  sent : List Bytes := []
  gateReceived : List Bytes := []
  clientReceived : List Bytes := []

/-- A datagram arrives by its place among those sent. -/
inductive KcpEvent where
  | queue (payload : Bytes) (nowMilliseconds : UInt32) (utcNow : Nat)
  | send (payload : Bytes)
  | tick (nowMs : UInt32)
  | receive
  | gateArrival (index : Nat)
  | clientArrival (index : Nat) (nowMilliseconds : UInt32)
  deriving DecidableEq, Repr

namespace KcpLink

def start (conversation : UInt32) (config : KcpConfig) (options : KcpTransportOptions) : KcpLink where
  peer := .create conversation config
  session := .start conversation options

def step (link : KcpLink) : KcpEvent → KcpLink
  | .queue payload nowMilliseconds utcNow =>
    let queued := link.session.tryQueuePayload payload nowMilliseconds utcNow
    match queued.2 with
    | .error _ => { link with session := queued.1 }
    | .ok datagrams =>
      { link with session := queued.1, toGate := link.toGate ++ datagrams, queued := link.queued ++ [payload] }
  | .send payload =>
    let sent := link.peer.send payload
    { link with peer := sent.1, sent := if sent.2 = .none then link.sent ++ [payload] else link.sent }
  | .tick nowMs =>
    let outgoing := (link.peer.update nowMs).1.consumeOutgoingDatagrams
    { link with peer := outgoing.1, toClient := link.toClient ++ outgoing.2 }
  | .receive =>
    let received := link.peer.receive
    { link with
      peer := received.1
      gateReceived := if received.2.1 = .none then link.gateReceived ++ [received.2.2] else link.gateReceived }
  | .gateArrival index =>
    match link.toGate[index]? with
    | none => link
    | some datagram => { link with peer := (link.peer.input datagram).1, arrived := link.arrived ++ [datagram] }
  | .clientArrival index nowMilliseconds =>
    match link.toClient[index]? with
    | none => link
    | some datagram =>
      let outcome := link.session.tryProcessInboundDatagram datagram nowMilliseconds
      match outcome.2 with
      | .error _ => { link with session := outcome.1 }
      | .ok result =>
        { link with
          session := outcome.1, toGate := link.toGate ++ result.outgoingDatagrams
          clientReceived := link.clientReceived ++ result.receivedPayloads }

def machine : Machine KcpLink KcpEvent Unit where
  step link event := (link.step event, [])

end KcpLink

/-! ## What the client sends -/

namespace MinimalKcpSession
variable {session after : MinimalKcpSession} {segment : KcpSegment} {delivered : List KcpSegment}

theorem Drained.sending (h : Drained session delivered after) :
    after.nextSendSequence = session.nextSendSequence ∧ after.options = session.options := by
  induction h with
  | done => exact ⟨rfl, rfl⟩
  | next held rest ih => exact ih

theorem Applied.sending (h : Applied session segment delivered after) :
    after.nextSendSequence = session.nextSendSequence ∧ after.options = session.options := by
  cases h with
  | stored push whole notBelow drained => exact drained.sending
  | _ => exact ⟨rfl, rfl⟩

theorem AppliedAll.sending {segments : List KcpSegment} (h : AppliedAll session segments delivered after) :
    after.nextSendSequence = session.nextSendSequence ∧ after.options = session.options := by
  induction h with
  | nil session => exact ⟨rfl, rfl⟩
  | cons own head tail ih => exact ⟨ih.1.trans head.sending.1, ih.2.trans head.sending.2⟩

/-- An answer of the session: no push, of its conversation, without payload. -/
def Answers (session : MinimalKcpSession) (segment : KcpSegment) : Prop :=
  segment.command ≠ .push ∧ segment.conversation = session.conversation ∧ segment.payload = []

theorem processSegments_replies (session : MinimalKcpSession) (nowMilliseconds : UInt32) (segments : List KcpSegment)
    (result : MinimalKcpInboundResult) {final : MinimalKcpInboundResult}
    (done : (session.processSegments nowMilliseconds segments result).2 = .ok final)
    (before : ∀ answer ∈ result.answers, session.Answers answer.2) :
    ∀ answer ∈ final.answers, session.Answers answer.2 := by
  induction segments generalizing session result with
  | nil =>
    cases done
    exact before
  | cons segment segments ih =>
    rw [processSegments] at done
    split at done
    · cases done
    · obtain ⟨first, applied, -, answers⟩ := session.processSegment_applied nowMilliseconds segment result
      have conversation := applied.conversation
      have next := ih _ _ done ?_
      · intro answer mem
        obtain ⟨kind, own, empty⟩ := next answer mem
        exact ⟨kind, own.trans conversation, empty⟩
      · intro answer mem
        rw [answers] at mem
        rcases List.mem_append.mp mem with old | new
        · obtain ⟨kind, own, empty⟩ := before answer old
          exact ⟨kind, own.trans conversation.symm, empty⟩
        · rw [MinimalKcpSession.answer] at new
          split at new
          · rw [List.mem_singleton.mp new]
            exact ⟨KcpCommand.noConfusion, conversation.symm, rfl⟩
          · rw [List.mem_singleton.mp new]
            exact ⟨KcpCommand.noConfusion, conversation.symm, rfl⟩
          · cases new

/-- What a datagram that arrives at the client leaves as it was, and what is sent in answer. -/
theorem tryProcessInboundDatagram_sending (session : MinimalKcpSession) (datagram : Bytes) (nowMilliseconds : UInt32) :
    (session.tryProcessInboundDatagram datagram nowMilliseconds).1.nextSendSequence = session.nextSendSequence ∧
    (session.tryProcessInboundDatagram datagram nowMilliseconds).1.options = session.options ∧
    (session.tryProcessInboundDatagram datagram nowMilliseconds).1.conversation = session.conversation ∧
    ∀ result, (session.tryProcessInboundDatagram datagram nowMilliseconds).2 = .ok result →
      ∀ answer ∈ result.outgoingDatagrams, ∃ segment, answer = encodeSegment segment ∧ session.Answers segment := by
  rw [tryProcessInboundDatagram]
  split
  · refine ⟨rfl, rfl, rfl, ?_⟩
    intro result done
    cases done
  · rename_i segments decoded
    obtain ⟨delivered, all, -⟩ := session.processSegments_applied nowMilliseconds segments {}
    refine ⟨all.sending.1, all.sending.2, all.conversation, ?_⟩
    intro result done answer mem
    obtain ⟨pair, inside, rfl⟩ := List.mem_map.mp mem
    exact ⟨pair.2, rfl, session.processSegments_replies nowMilliseconds segments {} done
      (fun pair none => absurd none List.not_mem_nil) pair inside⟩

end MinimalKcpSession

end XServer.Client
