import XServer.Client.KcpLink

/-!
# The uplink of a conversation

Payload `n` of the client is the push numbered `n`, which is sent once. What the Gate reads
is a beginning of what the client queued, and ends before the first payload whose datagram
has not arrived.
-/

namespace XServer.Client
open XServer.Lib XServer.Lib.Wire XServer.Net XServer.Core.Config

namespace MinimalKcpSession

/-- Queueing a payload is refused, or sends it as the next push. -/
inductive Queued (session : MinimalKcpSession) (payload : Bytes) :
    MinimalKcpSession → Except String (List Bytes) → Prop where
  | refused (error : String) : Queued session payload session (.error error)
  | push {segment : KcpSegment} {after : MinimalKcpSession} (own : segment.conversation = session.conversation)
      (kind : segment.command = .push) (whole : segment.fragment = 0)
      (number : segment.sequenceNumber = session.nextSendSequence)
      (una : segment.unacknowledgedSequenceNumber = session.nextReceiveSequence)
      (carried : segment.payload = payload) (size : (payload.length : Int) ≤ session.options.maxDatagramPayloadBytes)
      (next : after.nextSendSequence = session.nextSendSequence + 1)
      (same : after.conversation = session.conversation ∧ after.options = session.options ∧
        after.nextReceiveSequence = session.nextReceiveSequence ∧ after.receivedSegments = session.receivedSegments) :
      Queued session payload after (.ok [encodeSegment segment])

theorem tryQueuePayload_queued (session : MinimalKcpSession) (payload : Bytes) (now : UInt32) (utcNow : Nat) :
    Queued session payload (session.tryQueuePayload payload now utcNow).1
      (session.tryQueuePayload payload now utcNow).2 := by
  rw [tryQueuePayload]
  split
  · exact .refused _
  · split
    · exact .refused _
    · rename_i fits
      exact .push rfl rfl rfl rfl rfl rfl (not_lt.mp fits) rfl ⟨rfl, rfl, rfl, rfl⟩

end MinimalKcpSession

namespace KcpLink

/-- A datagram with the push numbered `n`. -/
def CarriesPush (n : Nat) (datagram : Bytes) : Prop :=
  ∃ segment, datagram = encodeSegment segment ∧ segment.command = .push ∧ segment.sequenceNumber.toNat = n

/-- A segment that the client sends: within the size of a datagram, and if it is a push, with the payload of its
number. -/
structure FromClient (conversation : UInt32) (queued : List Bytes) (segment : KcpSegment) : Prop where
  own : segment.conversation = conversation
  size : segment.wireSize ≤ maxInt
  push : segment.command = .push →
    segment.fragment = 0 ∧ queued[segment.sequenceNumber.toNat]? = some segment.payload

/-- Whole payloads as a row of fragments. -/
def row (payloads : List Bytes) : List Ikcp.Fragment := payloads.map fun payload => (0, payload)

def seen (arrived : List Bytes) (n : Nat) : Prop := ∃ datagram ∈ arrived, CarriesPush n datagram

structure Uplink (conversation : UInt32) (config : KcpConfig) (link : KcpLink) : Prop where
  peer : KcpPeer.Keeps conversation config link.peer
  session : link.session.conversation = conversation
  mtu : link.session.options.mtu < 2 ^ 31
  numbered : link.session.nextSendSequence = .ofNat link.queued.length
  wire : ∀ datagram ∈ link.toGate, ∃ segment, datagram = encodeSegment segment ∧
    FromClient conversation link.queued segment
  once : link.toGate.Pairwise fun a b => ∀ n, CarriesPush n a → ¬ CarriesPush n b
  arrived : ∀ datagram ∈ link.arrived, datagram ∈ link.toGate
  follows : ∀ kcp ∈ link.peer.handle,
    Ikcp.Follows (row link.queued) (seen link.arrived) (row link.gateReceived) kcp.receiveSide
  idle : link.peer.handle = none → link.gateReceived = []

variable {conversation : UInt32} {config : KcpConfig} {link : KcpLink} {segment : KcpSegment}

theorem encodeSegment_inj {segment other : KcpSegment} (size : segment.wireSize ≤ maxInt)
    (size' : other.wireSize ≤ maxInt) (same : encodeSegment segment = encodeSegment other) : segment = other := by
  have read := readSegment_encodeSegment segment [] size
  have read' := readSegment_encodeSegment other [] size'
  rw [same, read'] at read
  exact (Except.ok.inj read).symm

theorem FromClient.grow {queued : List Bytes} (from_ : FromClient conversation queued segment) (more : List Bytes) :
    FromClient conversation (queued ++ more) segment where
  own := from_.own
  size := from_.size
  push kind := by
    obtain ⟨whole, found⟩ := from_.push kind
    obtain ⟨short, -⟩ := List.getElem?_eq_some_iff.mp found
    rw [List.getElem?_append_left short]
    exact ⟨whole, found⟩

/-- A push of the client has the number of a queued payload. -/
theorem Uplink.number_lt (uplink : Uplink conversation config link) {datagram : Bytes} {n : Nat}
    (mem : datagram ∈ link.toGate) (carries : CarriesPush n datagram) : n < link.queued.length := by
  obtain ⟨segment, rfl, from_⟩ := uplink.wire datagram mem
  obtain ⟨other, same, kind, rfl⟩ := carries
  have fits : other.wireSize ≤ maxInt := by
    rw [← encodeSegment_length, ← same, encodeSegment_length]
    exact from_.size
  obtain rfl := encodeSegment_inj from_.size fits same
  obtain ⟨short, -⟩ := List.getElem?_eq_some_iff.mp (from_.push kind).2
  exact short

/-- An answer carries no push. -/
theorem answer_carries {session : MinimalKcpSession} (answers : session.Answers segment) (n : Nat) :
    ¬ CarriesPush n (encodeSegment segment) := by
  rintro ⟨other, same, kind, -⟩
  have small : segment.wireSize ≤ maxInt := by
    rw [KcpSegment.wireSize, answers.2.2]
    decide
  have fits : other.wireSize ≤ maxInt := by
    rw [← encodeSegment_length, ← same, encodeSegment_length]
    exact small
  obtain rfl := encodeSegment_inj small fits same
  exact answers.1 kind

/-! ## The client's steps -/

theorem Uplink.queue (uplink : Uplink conversation config link) (payload : Bytes) (now : UInt32) (utcNow : Nat)
    (short : (link.step (.queue payload now utcNow)).queued.length < 2 ^ 32) :
    Uplink conversation config (link.step (.queue payload now utcNow)) := by
  have queued := link.session.tryQueuePayload_queued payload now utcNow
  simp only [step] at short ⊢
  generalize (link.session.tryQueuePayload payload now utcNow).1 = after,
    (link.session.tryQueuePayload payload now utcNow).2 = result at queued short ⊢
  cases queued with
  | refused error => exact ⟨uplink.peer, uplink.session, uplink.mtu, uplink.numbered, uplink.wire, uplink.once,
      uplink.arrived, uplink.follows, uplink.idle⟩
  | @push segment after own kind whole number una carried size next same =>
    simp only [List.length_append, List.length_singleton] at short
    have at_ : segment.sequenceNumber.toNat = link.queued.length := by
      rw [number, uplink.numbered, UInt32.toNat_ofNat']
      omega
    have fits : segment.wireSize ≤ maxInt := by
      have mtu := uplink.mtu
      rw [KcpTransportOptions.maxDatagramPayloadBytes, kcpOverheadBytes] at size
      rw [KcpSegment.wireSize, carried, kcpOverheadBytes, maxInt]
      omega
    have from_ : FromClient conversation (link.queued ++ [payload]) segment := by
      refine ⟨own.trans uplink.session, fits, fun _ => ⟨whole, ?_⟩⟩
      rw [at_, List.getElem?_concat_length, carried]
    refine ⟨uplink.peer, same.1.trans uplink.session, same.2.1 ▸ uplink.mtu, ?_, ?_, ?_, ?_, ?_, uplink.idle⟩
    · simp only [next, uplink.numbered, List.length_append, List.length_singleton, UInt32.ofNat_add]
      rfl
    · intro datagram mem
      rcases List.mem_append.mp mem with old | new
      · obtain ⟨other, same, before⟩ := uplink.wire datagram old
        exact ⟨other, same, before.grow [payload]⟩
      · exact ⟨segment, List.mem_singleton.mp new, from_⟩
    · refine List.pairwise_append.mpr ⟨uplink.once, List.pairwise_singleton _ _, ?_⟩
      intro a old b new n carries
      rw [List.mem_singleton.mp new]
      rintro ⟨other, same, -, rfl⟩
      have less := uplink.number_lt old carries
      have fits' : other.wireSize ≤ maxInt := by
        rw [← encodeSegment_length, ← same, encodeSegment_length]
        exact fits
      rw [← encodeSegment_inj fits fits' same, at_] at less
      exact Nat.lt_irrefl _ less
    · exact fun datagram mem => List.mem_append_left _ (uplink.arrived datagram mem)
    · intro kcp held
      have grown := (uplink.follows kcp held).grow (row [payload]) fun n saw => saw
      rwa [row, row, ← List.map_append] at grown

theorem Uplink.clientArrival (uplink : Uplink conversation config link) (index : Nat) (now : UInt32) :
    Uplink conversation config (link.step (.clientArrival index now)) := by
  simp only [step]
  split
  · exact uplink
  · rename_i datagram sent
    obtain ⟨number, options, own, answers⟩ := link.session.tryProcessInboundDatagram_sending datagram now
    split
    · exact ⟨uplink.peer, own.trans uplink.session, options ▸ uplink.mtu, number.trans uplink.numbered, uplink.wire,
        uplink.once, uplink.arrived, uplink.follows, uplink.idle⟩
    · rename_i result done
      have answers := answers result done
      refine ⟨uplink.peer, own.trans uplink.session, options ▸ uplink.mtu, number.trans uplink.numbered, ?_, ?_, ?_,
        uplink.follows, uplink.idle⟩
      · intro datagram mem
        rcases List.mem_append.mp mem with old | new
        · exact uplink.wire datagram old
        · obtain ⟨segment, same, kind, conv, empty⟩ := answers datagram new
          refine ⟨segment, same, conv.trans uplink.session, ?_, fun push => absurd push kind⟩
          rw [KcpSegment.wireSize, empty]
          decide
      · have none (b : Bytes) (new : b ∈ result.outgoingDatagrams) (n : Nat) : ¬ CarriesPush n b := by
          obtain ⟨segment, rfl, answer⟩ := answers b new
          exact answer_carries answer n
        refine List.pairwise_append.mpr ⟨uplink.once, ?_, fun a old b new n _ => none b new n⟩
        exact List.Pairwise.imp_of_mem (fun inA inB _ n _ => none _ inB n) (List.pairwise_of_forall fun _ _ => trivial)
      · exact fun datagram mem => List.mem_append_left _ (uplink.arrived datagram mem)

/-! ## The Gate's steps -/

/-- A call that changes neither the receive side nor what was read keeps the uplink. -/
theorem Uplink.called (uplink : Uplink conversation config link) {next : KcpLink}
    (keeps : KcpPeer.Keeps conversation config next.peer) (none : link.peer.handle = none → next.peer.handle = none)
    (same : ∀ kcp ∈ link.peer.handle, ∃ after, next.peer.handle = some after ∧ after.receiveSide = kcp.receiveSide)
    (rest : next.session = link.session ∧ next.toGate = link.toGate ∧ next.arrived = link.arrived ∧
      next.queued = link.queued ∧ next.gateReceived = link.gateReceived) : Uplink conversation config next := by
  obtain ⟨session, toGate, arrived, queued, gateReceived⟩ := rest
  have gate : (∀ after ∈ next.peer.handle, Ikcp.Follows (row link.queued) (seen link.arrived) (row link.gateReceived)
      after.receiveSide) ∧ (next.peer.handle = .none → link.gateReceived = []) := by
    cases before : link.peer.handle with
    | none =>
      refine ⟨?_, fun _ => uplink.idle before⟩
      intro after held
      rw [none before] at held
      cases held
    | some kcp =>
      obtain ⟨after, held, unchanged⟩ := same kcp before
      rw [held]
      refine ⟨?_, fun dead => by cases dead⟩
      intro other there
      cases there
      exact unchanged ▸ uplink.follows kcp before
  constructor
  · exact keeps
  · exact session ▸ uplink.session
  · exact session ▸ uplink.mtu
  · exact session ▸ queued ▸ uplink.numbered
  · exact toGate ▸ queued ▸ uplink.wire
  · exact toGate ▸ uplink.once
  · exact toGate ▸ arrived ▸ uplink.arrived
  · exact queued ▸ arrived ▸ gateReceived ▸ gate.1
  · exact gateReceived ▸ gate.2

theorem Uplink.send (uplink : Uplink conversation config link) (payload : Bytes) :
    Uplink conversation config (link.step (.send payload)) := by
  apply uplink.called (KcpPeer.call_keeps uplink.peer (.send payload)) (fun none => KcpPeer.call_none none (.send payload))
  · intro kcp held
    rcases KcpPeer.send_handle held payload with ⟨same, -⟩ | ⟨sent, -, -⟩
    · exact ⟨kcp, same, rfl⟩
    · exact ⟨_, sent, Ikcp.send_receiveSide kcp payload⟩
  · exact ⟨rfl, rfl, rfl, rfl, rfl⟩

theorem Uplink.tick (uplink : Uplink conversation config link) (nowMs : UInt32) :
    Uplink conversation config (link.step (.tick nowMs)) := by
  apply uplink.called (KcpPeer.call_keeps (KcpPeer.call_keeps uplink.peer (.update nowMs)) .consumeOutgoingDatagrams)
  · exact fun none => KcpPeer.call_none none (.update nowMs)
  · intro kcp held
    have updated := Ikcp.update_updated (uplink.peer kcp held).send nowMs
    exact ⟨_, KcpPeer.update_handle held nowMs, updated.receiveSide⟩
  · exact ⟨rfl, rfl, rfl, rfl, rfl⟩

theorem Uplink.receive (uplink : Uplink conversation config link) (short : link.queued.length < 2 ^ 32) :
    Uplink conversation config (link.step .receive) := by
  have keeps := KcpPeer.call_keeps uplink.peer .receive
  have narrow : (row link.queued).length < 2 ^ 32 := by rwa [row, List.length_map]
  cases handle : link.peer.handle with
  | none =>
    have failed : link.peer.receive.2.1 ≠ .none := by
      simp only [KcpPeer.receive, handle]
      exact KcpPeerErrorCode.noConfusion
    apply uplink.called keeps
    · exact fun none => KcpPeer.call_none none .receive
    · intro kcp held
      rw [handle] at held
      cases held
    · exact ⟨rfl, rfl, rfl, rfl, if_neg failed⟩
  | some kcp =>
    obtain ⟨after, result, received, next, outcome⟩ := KcpPeer.receive_handle handle
    have follows := uplink.follows kcp handle
    have step := follows.received narrow received
    rcases outcome with ⟨⟨code, failed⟩, error⟩ | ⟨payload, read, code⟩
    · rcases step with ⟨same, -⟩ | ⟨other, -⟩
      · apply uplink.called keeps
        · exact fun none => KcpPeer.call_none none .receive
        · intro other held
          rw [handle] at held
          cases held
          exact ⟨after, next, same⟩
        · exact ⟨rfl, rfl, rfl, rfl, if_neg error⟩
      · rw [failed] at other
        cases other
    · rcases step with ⟨-, code, other⟩ | ⟨data, some, step⟩
      · rw [read] at other
        cases other
      · -- Every fragment of the uplink is a whole message.
        cases queue : kcp.rcvQueue with
        | nil => exact absurd queue some
        | cons seg rest =>
          have listed : Ikcp.entry seg ∈ (row link.queued).take kcp.rcvNxt.toNat := by
            have passed : row link.gateReceived ++ kcp.rcvQueue.map Ikcp.entry = _ := follows.passed
            rw [queue] at passed
            exact passed ▸ List.mem_append_right _ List.mem_cons_self
          obtain ⟨whole, -, alone⟩ := List.mem_map.mp (List.mem_of_mem_take listed)
          have last : seg.frg = 0 := (congrArg Prod.fst alone).symm
          have taken : (Ikcp.takeMessage kcp.rcvQueue).1 = [seg] := by
            rw [queue, Ikcp.takeMessage, if_pos last]
          rw [taken] at data step
          have same : payload = seg.data := by
            rw [read] at data
            simpa [Ikcp.messageData] using data
          have grown : row (link.gateReceived ++ [payload]) = row link.gateReceived ++ [seg].map Ikcp.entry := by
            simp only [row, List.map_append, List.map_cons, List.map_nil, Ikcp.entry, last, same]
          simp only [KcpLink.step, code, if_true]
          refine ⟨keeps, uplink.session, uplink.mtu, uplink.numbered, uplink.wire, uplink.once, uplink.arrived, ?_, ?_⟩
          · intro other held
            rw [next] at held
            cases held
            rw [grown]
            exact step
          · intro dead
            rw [next] at dead
            cases dead

theorem Uplink.gateArrival (uplink : Uplink conversation config link) (short : link.queued.length < 2 ^ 32)
    (index : Nat) : Uplink conversation config (link.step (.gateArrival index)) := by
  have narrow : (row link.queued).length < 2 ^ 32 := by rwa [row, List.length_map]
  simp only [step]
  split
  · exact uplink
  · rename_i datagram sent
    have mem := List.mem_of_getElem? sent
    obtain ⟨segment, encoded, from_⟩ := uplink.wire datagram mem
    have filled : datagram ≠ [] := by
      rw [encoded]
      exact encodeSegment_ne_nil segment
    have sees (n : Nat) (saw : seen link.arrived n) : seen (link.arrived ++ [datagram]) n := by
      obtain ⟨other, inside, carries⟩ := saw
      exact ⟨other, List.mem_append_left _ inside, carries⟩
    refine ⟨KcpPeer.call_keeps uplink.peer (.input datagram), uplink.session, uplink.mtu, uplink.numbered, uplink.wire,
      uplink.once, ?_, ?_, ?_⟩
    · intro other inside
      rcases List.mem_append.mp inside with old | new
      · exact uplink.arrived other old
      · exact List.mem_singleton.mp new ▸ mem
    · intro after held
      cases handle : link.peer.handle with
      | none =>
        have dead := KcpPeer.call_none handle (.input datagram)
        simp only [KcpPeer.call] at dead
        rw [dead] at held
        cases held
      | some kcp =>
        rw [KcpPeer.input_handle handle filled] at held
        cases held
        have holds := uplink.peer kcp handle
        have entered := input_entered (from_.own.trans holds.conv.symm) from_.size
        rw [encoded, entered.receiveSide]
        have follows := (uplink.follows kcp handle).grow [] sees
        rw [List.append_nil, encoded] at follows
        refine follows.taken narrow ?_ (Ikcp.inputSegment_taken holds.receive none (gateSegment segment))
        intro push
        have kind : segment.command = .push := KcpCommand.cmd_inj push
        obtain ⟨whole, found⟩ := from_.push kind
        refine ⟨?_, encodeSegment segment, List.mem_append_right _ List.mem_cons_self, segment, rfl, kind, rfl⟩
        show (row link.queued)[segment.sequenceNumber.toNat]? = _
        rw [row, List.getElem?_map, found, Ikcp.entry, gateSegment, whole]
        rfl
    · intro dead
      cases handle : link.peer.handle with
      | none => exact uplink.idle handle
      | some kcp =>
        rw [KcpPeer.input_handle handle filled] at dead
        cases dead

/-! ## Runs -/

theorem queued_length (link : KcpLink) (event : KcpEvent) : link.queued.length ≤ (link.step event).queued.length := by
  cases event with
  | queue payload now utcNow =>
    simp only [step]
    split
    · exact Nat.le_refl _
    · simp only [List.length_append, List.length_singleton]
      omega
  | clientArrival index now =>
    simp only [step]
    split
    · exact Nat.le_refl _
    · split <;> exact Nat.le_refl _
  | gateArrival index =>
    simp only [step]
    split <;> exact Nat.le_refl _
  | send payload => exact Nat.le_refl _
  | tick nowMs => exact Nat.le_refl _
  | receive => exact Nat.le_refl _

theorem Uplink.step (uplink : Uplink conversation config link) (event : KcpEvent)
    (short : (link.step event).queued.length < 2 ^ 32) : Uplink conversation config (link.step event) := by
  have before := (link.queued_length event).trans_lt short
  cases event with
  | queue payload now utcNow => exact uplink.queue payload now utcNow short
  | send payload => exact uplink.send payload
  | tick nowMs => exact uplink.tick nowMs
  | receive => exact uplink.receive before
  | gateArrival index => exact uplink.gateArrival before index
  | clientArrival index now => exact uplink.clientArrival index now

theorem start_uplink (conversation : UInt32) (config : KcpConfig) {options : KcpTransportOptions}
    (mtu : options.mtu < 2 ^ 31) : Uplink conversation config (start conversation config options) := by
  refine ⟨KcpPeer.create_keeps conversation config, rfl, mtu, rfl, ?_, .nil, ?_, ?_, fun _ => rfl⟩
  · intro datagram mem
    cases mem
  · intro datagram mem
    cases mem
  · intro kcp held
    have fresh : kcp.receiveSide.rcvNxt = 0 ∧ kcp.receiveSide.rcvBuf = [] ∧ kcp.receiveSide.rcvQueue = [] := by
      simp only [start, KcpPeer.create] at held
      split at held
      · cases held
      · split at held
        · cases held
        · rename_i made applied
          cases held
          obtain ⟨sized, set, rfl⟩ := Option.map_eq_some_iff.mp applied
          rw [Ikcp.setmtu] at set
          split at set
          · cases set
          · cases set
            exact ⟨rfl, rfl, rfl⟩
    obtain ⟨next, buffer, queue⟩ := fresh
    constructor
    · rw [queue, next]
      rfl
    · rw [next]
      exact Nat.zero_le _
    · intro n lower
      rw [next] at lower
      exact absurd lower (Nat.not_lt_zero n)
    · intro seg mem
      rw [buffer] at mem
      cases mem

theorem run_uplink (conversation : UInt32) (config : KcpConfig) {options : KcpTransportOptions}
    (mtu : options.mtu < 2 ^ 31) (events : List KcpEvent)
    (short : (machine.run (start conversation config options) events).1.queued.length < 2 ^ 32) :
    Uplink conversation config (machine.run (start conversation config options) events).1 := by
  have keeps := @Machine.run_invariant _ _ _ machine (fun _ _ => True)
    (fun link => link.queued.length < 2 ^ 32 → Uplink conversation config link)
    (fun link event before _ small =>
      (before ((link.queued_length event).trans_lt small)).step event small) (start conversation config options) events
    (fun _ => start_uplink conversation config mtu) (Machine.along_true _ events)
  exact keeps short

/-- Whatever is lost, repeated or reordered, the Gate reads a beginning of what the client queued, and not the payload
whose datagram has not come. The client sends every payload once only, so that one that is lost stays lost. -/
theorem uplink_exact (conversation : UInt32) (config : KcpConfig) (options : KcpTransportOptions)
    (mtu : options.mtu < 2 ^ 31) (events : List KcpEvent)
    (short : (machine.run (start conversation config options) events).1.queued.length < 2 ^ 32) :
    let link := (machine.run (start conversation config options) events).1
    link.gateReceived <+: link.queued ∧
    (∀ n, (∀ datagram ∈ link.arrived, ¬ CarriesPush n datagram) → link.gateReceived.length ≤ n) ∧
    link.toGate.Pairwise fun a b => ∀ n, CarriesPush n a → ¬ CarriesPush n b := by
  have uplink := run_uplink conversation config mtu events short
  refine ⟨?_, ?_, uplink.once⟩
  · cases handle : (machine.run (start conversation config options) events).1.peer.handle with
    | none =>
      rw [uplink.idle handle]
      exact List.nil_prefix
    | some kcp =>
      have passed := (uplink.follows kcp handle).isPrefix.map Prod.snd
      have whole (payloads : List Bytes) : (row payloads).map Prod.snd = payloads := by
        rw [row, List.map_map]
        exact List.map_id payloads
      rwa [whole, whole] at passed
  · intro n lost
    cases handle : (machine.run (start conversation config options) events).1.peer.handle with
    | none =>
      rw [uplink.idle handle]
      exact Nat.zero_le n
    | some kcp =>
      have follows := uplink.follows kcp handle
      by_contra more
      have length := follows.length_le
      rw [row, List.length_map] at length
      obtain ⟨datagram, arrived, carries⟩ := follows.below n (show n < kcp.rcvNxt.toNat from by
        have passed : (machine.run (start conversation config options) events).1.gateReceived.length ≤
          kcp.rcvNxt.toNat := length
        omega)
      exact lost datagram arrived carries

/-- The second payload arrives, and the first does not. -/
def lossyEvents : List KcpEvent := [.queue [1] 0 0, .queue [2] 0 0, .gateArrival 1, .receive, .queue [3] 0 0]

theorem uplink_exact_lossy :
    (machine.run (start 7 {} KcpClient.sampleOptions) lossyEvents).1.gateReceived <+: [[1], [2], [3]] := by
  have queued : (machine.run (start 7 {} KcpClient.sampleOptions) lossyEvents).1.queued = [[1], [2], [3]] := by
    decide +kernel
  have exact_ := uplink_exact 7 {} KcpClient.sampleOptions (by decide) lossyEvents (by rw [queued]; decide)
  exact queued ▸ exact_.1

end KcpLink

end XServer.Client
