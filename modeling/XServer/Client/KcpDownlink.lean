import XServer.Client.KcpUplink

/-!
# The downlink of a conversation

What the Gate sends is cut into a row of fragments, each of which stays in its control
block until the client has acknowledged it. The client acknowledges every push, also a
fragment of a longer payload, which it then drops: it reads the payloads before the first
that does not fit a segment, and nothing behind it.
-/

namespace XServer.Client
open XServer.Lib XServer.Lib.Wire XServer.Net XServer.Core.Config

namespace MinimalKcpSession
variable {session after : MinimalKcpSession} {segment : KcpSegment} {delivered : List KcpSegment}
  {row : List Ikcp.Fragment} {payloads : List Bytes} {n : Nat}

/-- A whole payload as a fragment. -/
def whole (payload : Bytes) : Ikcp.Fragment := (0, payload)

/-- The session reads a row of fragments: what it has returned is the beginning of the row, of whole payloads, and what
it holds is from the row. -/
structure Reading (row : List Ikcp.Fragment) (session : MinimalKcpSession) (payloads : List Bytes) : Prop where
  returned : payloads.map whole = row.take session.nextReceiveSequence.toNat
  reached : session.nextReceiveSequence.toNat ≤ row.length
  held : ∀ (n : UInt32) segment, session.receivedSegments[n]? = some segment → row[n.toNat]? = some (whole segment.payload)

/-- And the next number is missing. -/
structure Reads (row : List Ikcp.Fragment) (session : MinimalKcpSession) (payloads : List Bytes) : Prop extends
    Reading row session payloads where
  missing : session.receivedSegments[session.nextReceiveSequence]? = none

/-- What the client has got of a row: what it has passed, what it holds, and what it drops. -/
def Got (row : List Ikcp.Fragment) (session : MinimalKcpSession) (n : Nat) : Prop :=
  n < session.nextReceiveSequence.toNat ∨ (∃ number : UInt32, number.toNat = n ∧
    (session.receivedSegments[number]?).isSome = true) ∨ ∃ fragment ∈ row[n]?, fragment.1 ≠ 0

/-- A segment that the Gate sends: its push is from the row. -/
def FromGate (conversation : UInt32) (row : List Ikcp.Fragment) (segment : KcpSegment) : Prop :=
  segment.conversation = conversation ∧ (segment.command = .push → ∃ frg,
    row[segment.sequenceNumber.toNat]? = some (frg, segment.payload) ∧ (frg = 0 ↔ segment.fragment = 0))

theorem getElem?_grow {fragment : Ikcp.Fragment} (more : List Ikcp.Fragment) (found : row[n]? = some fragment) :
    (row ++ more)[n]? = some fragment := by
  obtain ⟨short, -⟩ := List.getElem?_eq_some_iff.mp found
  rwa [List.getElem?_append_left short]

theorem FromGate.grow {conversation : UInt32} (from_ : FromGate conversation row segment) (more : List Ikcp.Fragment) :
    FromGate conversation (row ++ more) segment := by
  refine ⟨from_.1, fun push => ?_⟩
  obtain ⟨frg, found, same⟩ := from_.2 push
  exact ⟨frg, getElem?_grow more found, same⟩

theorem Reads.grow (reads : Reads row session payloads) (more : List Ikcp.Fragment) :
    Reads (row ++ more) session payloads where
  returned := by rw [reads.returned, List.take_append_of_le_length reads.reached]
  reached := by
    rw [List.length_append]
    exact reads.reached.trans (Nat.le_add_right _ _)
  held n segment found := getElem?_grow more (reads.held n segment found)
  missing := reads.missing

theorem Got.grow (got : Got row session n) (more : List Ikcp.Fragment) : Got (row ++ more) session n := by
  refine got.imp_right (Or.imp_right ?_)
  rintro ⟨fragment, found, part⟩
  exact ⟨fragment, getElem?_grow more found, part⟩

theorem Reading.advance (short : row.length < 2 ^ 32) (reading : Reading row session payloads)
    (held : session.receivedSegments[session.nextReceiveSequence]? = some segment) :
    Reading row session.advance (payloads ++ [segment.payload]) ∧
      session.advance.nextReceiveSequence.toNat = session.nextReceiveSequence.toNat + 1 := by
  have found := reading.held _ _ held
  obtain ⟨inside, -⟩ := List.getElem?_eq_some_iff.mp found
  have next : session.advance.nextReceiveSequence.toNat = session.nextReceiveSequence.toNat + 1 := by
    simp only [MinimalKcpSession.advance, UInt32.toNat_add, UInt32.toNat_one]
    omega
  refine ⟨⟨?_, ?_, ?_⟩, next⟩
  · rw [next, List.take_add_one, found, List.map_append, reading.returned]
    rfl
  · omega
  · intro number other there
    exact reading.held number other (Table.get_erase_some there).2

/-- Draining keeps what the client has got. -/
theorem Got.advance (got : Got row session n)
    (next : session.advance.nextReceiveSequence.toNat = session.nextReceiveSequence.toNat + 1) :
    Got row session.advance n := by
  rcases got with passed | ⟨number, rfl, held⟩ | part
  · exact .inl (by omega)
  · by_cases first : session.nextReceiveSequence = number
    · exact .inl (by rw [next, first]; exact Nat.lt_succ_self _)
    · refine .inr (.inl ⟨number, rfl, ?_⟩)
      simp only [MinimalKcpSession.advance]
      rwa [Table.get_erase_of_ne _ first]
  · exact .inr (.inr part)

/-- What a step of the session keeps. -/
structure Moves (row : List Ikcp.Fragment) (session after : MinimalKcpSession) : Prop where
  forward : session.nextReceiveSequence.toNat ≤ after.nextReceiveSequence.toNat
  got : ∀ n, Got row session n → Got row after n

/-- A step that changes neither the next number nor the buffer. -/
theorem Reads.same (reads : Reads row session payloads) (next : after.nextReceiveSequence = session.nextReceiveSequence)
    (held : after.receivedSegments = session.receivedSegments) :
    Reads row after payloads ∧ Moves row session after := by
  refine ⟨⟨⟨next ▸ reads.returned, next ▸ reads.reached, held ▸ reads.held⟩, ?_⟩, ⟨Nat.le_of_eq (by rw [next]), ?_⟩⟩
  · rw [next, held]
    exact reads.missing
  · intro n got
    rw [Got, next, held]
    exact got

theorem Moves.trans {middle : MinimalKcpSession} (first : Moves row session middle) (second : Moves row middle after) :
    Moves row session after :=
  ⟨first.forward.trans second.forward, fun n got => second.got n (first.got n got)⟩

theorem Reading.drained (short : row.length < 2 ^ 32) (reading : Reading row session payloads)
    (drained : Drained session delivered after) :
    Reads row after (payloads ++ delivered.map KcpSegment.payload) ∧ Moves row session after := by
  induction drained generalizing payloads with
  | @done session missing =>
    rw [List.map_nil, List.append_nil]
    exact Reads.same ⟨reading, missing⟩ rfl rfl
  | next held rest ih =>
    obtain ⟨advanced, next⟩ := reading.advance short held
    obtain ⟨reads, moves⟩ := ih advanced
    rw [List.append_assoc] at reads
    exact ⟨reads, Moves.trans ⟨by omega, fun n got => got.advance next⟩ moves⟩

/-- A segment of the Gate that the session applies: a push is got. -/
theorem Reads.applied {conversation : UInt32} (short : row.length < 2 ^ 32) (reads : Reads row session payloads)
    (from_ : FromGate conversation row segment) (applied : Applied session segment delivered after) :
    Reads row after (payloads ++ delivered.map KcpSegment.payload) ∧ Moves row session after ∧
      (segment.command = .push → Got row after segment.sequenceNumber.toNat) := by
  have unchanged (window : UInt16) (pending : Table UInt32 Nat) :=
    @Reads.same session { session with remoteWindow := window, pendingOutbound := pending } row payloads reads rfl rfl
  rw [← List.append_nil payloads] at unchanged
  cases applied with
  | acknowledged ack =>
    refine ⟨(unchanged _ _).1, (unchanged _ _).2, fun push => ?_⟩
    rw [ack] at push
    cases push
  | fragmented push fragment =>
    obtain ⟨frg, found, zero⟩ := from_.2 push
    refine ⟨(unchanged _ _).1, (unchanged _ _).2, fun _ => ?_⟩
    exact .inr (.inr ⟨_, found, fun none => fragment (zero.mp none)⟩)
  | old push whole below =>
    exact ⟨(unchanged _ _).1, (unchanged _ _).2, fun _ => .inl (UInt32.lt_iff_toNat_lt.mp below)⟩
  | probed other noAck => exact ⟨(unchanged _ _).1, (unchanged _ _).2, fun push => absurd push other⟩
  | stored push alone notBelow drained =>
    obtain ⟨frg, found, zero⟩ := from_.2 push
    rw [zero.mpr alone] at found
    generalize mid : ({ session with
      remoteWindow := segment.window
      receivedSegments := session.receivedSegments.insert segment.sequenceNumber segment } : MinimalKcpSession) = stored
      at drained
    have next : stored.nextReceiveSequence = session.nextReceiveSequence := mid ▸ rfl
    have table : stored.receivedSegments = session.receivedSegments.insert segment.sequenceNumber segment := mid ▸ rfl
    have reading : Reading row stored payloads := by
      refine ⟨next ▸ reads.returned, next ▸ reads.reached, ?_⟩
      intro number other there
      rw [table, Table.get_insert] at there
      split at there
      · rename_i number_
        cases there
        exact number_ ▸ found
      · exact reads.held number other there
    have moved : Moves row session stored := by
      refine ⟨by rw [next], ?_⟩
      intro n got
      rcases got with passed | ⟨number, rfl, held⟩ | part
      · exact .inl (next ▸ passed)
      · refine .inr (.inl ⟨number, rfl, ?_⟩)
        rw [table, Table.get_insert]
        split
        · rfl
        · exact held
      · exact .inr (.inr part)
    obtain ⟨reads, moves⟩ := reading.drained short drained
    refine ⟨reads, moved.trans moves, fun _ => moves.got _ (.inr (.inl ⟨segment.sequenceNumber, rfl, ?_⟩))⟩
    rw [table, Table.get_insert, if_pos rfl]
    rfl

/-- A segment of the client acknowledges only what the session has got. -/
def Truthful (row : List Ikcp.Fragment) (session : MinimalKcpSession) (segment : KcpSegment) : Prop :=
  segment.unacknowledgedSequenceNumber.toNat ≤ session.nextReceiveSequence.toNat ∧
    (segment.command = .ack → Got row session segment.sequenceNumber.toNat)

theorem Truthful.moves (truthful : Truthful row session segment) (moves : Moves row session after) :
    Truthful row after segment :=
  ⟨truthful.1.trans moves.forward, fun ack => moves.got _ (truthful.2 ack)⟩

/-- A row of segments of the Gate: all are accepted, every push is got, and the answers are truthful. -/
theorem Reads.processed {conversation : UInt32} (short : row.length < 2 ^ 32) (reads : Reads row session payloads)
    (own : session.conversation = conversation) {segments : List KcpSegment}
    (from_ : ∀ segment ∈ segments, FromGate conversation row segment) (now : UInt32) (result : MinimalKcpInboundResult)
    (truthful : ∀ answer ∈ result.answers, Truthful row session answer.2) : ∃ final delivered,
      (session.processSegments now segments result).2 = .ok final ∧ final.received = result.received ++ delivered ∧
      Reads row (session.processSegments now segments result).1 (payloads ++ delivered.map KcpSegment.payload) ∧
      Moves row session (session.processSegments now segments result).1 ∧
      (∀ segment ∈ segments, segment.command = .push →
        Got row (session.processSegments now segments result).1 segment.sequenceNumber.toNat) ∧
      ∀ answer ∈ final.answers, Truthful row (session.processSegments now segments result).1 answer.2 := by
  induction segments generalizing session payloads result with
  | nil =>
    refine ⟨result, [], rfl, (List.append_nil _).symm, ?_, (reads.same rfl rfl).2, ?_, truthful⟩
    · rw [List.map_nil, List.append_nil]
      exact reads
    · intro segment mem
      cases mem
  | cons segment segments ih =>
    have here := from_ segment List.mem_cons_self
    rw [processSegments, if_neg (not_not.mpr (here.1.trans own.symm))]
    obtain ⟨first, applied, received, answers⟩ := session.processSegment_applied now segment result
    obtain ⟨reads', moves, got⟩ := reads.applied short here applied
    have truthful : ∀ answer ∈ (session.processSegment now segment result).2.answers,
        Truthful row (session.processSegment now segment result).1 answer.2 := by
      intro answer mem
      rw [answers] at mem
      rcases List.mem_append.mp mem with old | new
      · exact (truthful answer old).moves moves
      · rw [MinimalKcpSession.answer] at new
        split at new
        · rename_i push
          rw [List.mem_singleton.mp new]
          exact ⟨moves.forward, fun _ => got push⟩
        · rw [List.mem_singleton.mp new]
          exact ⟨moves.forward, KcpCommand.noConfusion⟩
        · cases new
    obtain ⟨final, rest, done, total, readsAll, movesAll, gotAll, truthfulAll⟩ := ih reads'
      (applied.conversation.trans own) (fun other mem => from_ other (List.mem_cons_of_mem _ mem)) _ truthful
    refine ⟨final, first ++ rest, done, ?_, ?_, moves.trans movesAll, ?_, truthfulAll⟩
    · rw [total, received, List.append_assoc]
    · rw [List.map_append, ← List.append_assoc]
      exact readsAll
    · intro other mem push
      rcases List.mem_cons.mp mem with rfl | mem
      · exact movesAll.got _ (got push)
      · exact gotAll other mem push

end MinimalKcpSession

namespace KcpLink
open MinimalKcpSession

/-- What the payloads that the Gate has sent are cut into. -/
def offered (config : KcpConfig) (sent : List Bytes) : List Ikcp.Fragment :=
  sent.flatMap (Ikcp.pieces (config.mtu.toNat - Ikcp.overhead))

/-- A datagram of the client: its acknowledgements are of what it has got. -/
def Acknowledges (conversation : UInt32) (row : List Ikcp.Fragment) (session : MinimalKcpSession) (datagram : Bytes) :
    Prop :=
  ∃ segment, datagram = encodeSegment segment ∧ segment.conversation = conversation ∧ segment.wireSize ≤ maxInt ∧
    Truthful row session segment

/-- A datagram of the Gate. -/
def Offering (conversation : UInt32) (row : List Ikcp.Fragment) (datagram : Bytes) : Prop :=
  ∃ segments, decodeDatagram datagram = .ok segments ∧ ∀ segment ∈ segments, FromGate conversation row segment

structure Downlink (conversation : UInt32) (config : KcpConfig) (link : KcpLink) : Prop where
  peer : KcpPeer.Keeps conversation config link.peer
  idle : link.peer.pendingDatagrams = []
  session : link.session.conversation = conversation
  mtu : link.session.options.mtu < 2 ^ 31
  few : ∀ fragment ∈ offered config link.sent, fragment.1.toNat < 128
  offers : ∀ kcp ∈ link.peer.handle,
    Ikcp.Offers (offered config link.sent) (Got (offered config link.sent) link.session) kcp.sendSide
  toClient : ∀ datagram ∈ link.toClient, Offering conversation (offered config link.sent) datagram
  reads : Reads (offered config link.sent) link.session link.clientReceived
  toGate : ∀ datagram ∈ link.toGate, Acknowledges conversation (offered config link.sent) link.session datagram

variable {conversation : UInt32} {config : KcpConfig} {link : KcpLink} {segment : KcpSegment}

/-! ## The client's steps -/

/-- A step of the session that moves it on keeps what is on the wire and what the Gate holds. -/
theorem Downlink.moved (downlink : Downlink conversation config link) {session : MinimalKcpSession}
    {received : List Bytes} (own : session.conversation = conversation) (mtu : session.options.mtu < 2 ^ 31)
    (reads : Reads (offered config link.sent) session received) (moves : Moves (offered config link.sent) link.session session)
    {answers : List Bytes} (truthful : ∀ answer ∈ answers,
      Acknowledges conversation (offered config link.sent) session answer) {next : KcpLink}
    (step : next = { link with
      session, toGate := link.toGate ++ answers, queued := next.queued, clientReceived := received }) :
    Downlink conversation config next := by
  have peer : next.peer = link.peer := by rw [step]
  have sent : next.sent = link.sent := by rw [step]
  have toClient : next.toClient = link.toClient := by rw [step]
  have after : next.session = session := by rw [step]
  have toGate : next.toGate = link.toGate ++ answers := by rw [step]
  have clientReceived : next.clientReceived = received := by rw [step]
  constructor
  · exact peer ▸ downlink.peer
  · exact peer ▸ downlink.idle
  · exact after ▸ own
  · exact after ▸ mtu
  · exact sent ▸ downlink.few
  · rw [peer, sent, after]
    exact fun kcp held => (downlink.offers kcp held).mono fun n _ => moves.got n
  · rw [toClient, sent]
    exact downlink.toClient
  · rw [sent, after, clientReceived]
    exact reads
  · rw [toGate, sent, after]
    intro datagram mem
    rcases List.mem_append.mp mem with old | new
    · obtain ⟨segment, same, conv, size, before⟩ := downlink.toGate datagram old
      exact ⟨segment, same, conv, size, before.moves moves⟩
    · exact truthful datagram new

theorem Downlink.queue (downlink : Downlink conversation config link) (payload : Bytes) (now : UInt32) (utcNow : Nat) :
    Downlink conversation config (link.step (.queue payload now utcNow)) := by
  have queued := link.session.tryQueuePayload_queued payload now utcNow
  simp only [step]
  generalize (link.session.tryQueuePayload payload now utcNow).1 = after,
    (link.session.tryQueuePayload payload now utcNow).2 = result at queued ⊢
  cases queued with
  | refused error => exact { downlink with }
  | @push segment after own kind whole number una carried size next same =>
    obtain ⟨reads, moves⟩ := @Reads.same _ after _ _ downlink.reads same.2.2.1 same.2.2.2
    refine downlink.moved (same.1.trans downlink.session) (same.2.1 ▸ downlink.mtu) reads moves ?_ rfl
    intro datagram mem
    refine ⟨segment, List.mem_singleton.mp mem, own.trans downlink.session, ?_, ?_, ?_⟩
    · have mtu := downlink.mtu
      rw [KcpTransportOptions.maxDatagramPayloadBytes, kcpOverheadBytes] at size
      rw [KcpSegment.wireSize, carried, kcpOverheadBytes, maxInt]
      omega
    · rw [una, same.2.2.1]
    · intro ack
      rw [kind] at ack
      cases ack

theorem Downlink.clientArrival (downlink : Downlink conversation config link)
    (short : (offered config link.sent).length < 2 ^ 31) (index : Nat) (now : UInt32) :
    Downlink conversation config (link.step (.clientArrival index now)) ∧
    Moves (offered config link.sent) link.session (link.step (.clientArrival index now)).session ∧
    ∀ datagram segments, link.toClient[index]? = some datagram → decodeDatagram datagram = .ok segments →
      ∀ segment ∈ segments, segment.command = .push → Got (offered config link.sent)
        (link.step (.clientArrival index now)).session segment.sequenceNumber.toNat := by
  simp only [step]
  split
  · rename_i none
    refine ⟨downlink, (downlink.reads.same rfl rfl).2, ?_⟩
    intro datagram segments sent
    rw [none] at sent
    cases sent
  · rename_i datagram sent
    obtain ⟨segments, decoded, from_⟩ := downlink.toClient datagram (List.mem_of_getElem? sent)
    obtain ⟨final, delivered, done, received, reads, moves, got, truthful⟩ := downlink.reads.processed (by omega)
      downlink.session from_ now {} (fun answer mem => absurd mem List.not_mem_nil)
    obtain ⟨-, options, own, answers⟩ := link.session.tryProcessInboundDatagram_sending datagram now
    have outcome : link.session.tryProcessInboundDatagram datagram now = link.session.processSegments now segments {} := by
      rw [tryProcessInboundDatagram, decoded]
    rw [outcome] at options own answers ⊢
    simp only [done]
    refine ⟨downlink.moved (own.trans downlink.session) (options ▸ downlink.mtu) ?_ moves ?_ rfl, moves, ?_⟩
    · rw [MinimalKcpInboundResult.receivedPayloads, received]
      exact reads
    · intro answer mem
      obtain ⟨pair, inside, rfl⟩ := List.mem_map.mp mem
      obtain ⟨segment, same, -, conv, empty⟩ := answers final done _ mem
      have size : segment.wireSize ≤ maxInt := by
        rw [KcpSegment.wireSize, empty]
        decide
      have size' : pair.2.wireSize ≤ maxInt := by
        rw [← encodeSegment_length, same, encodeSegment_length]
        exact size
      refine ⟨pair.2, rfl, ?_, size', truthful pair inside⟩
      rw [encodeSegment_inj size' size same]
      exact conv.trans downlink.session
    · intro other others there decoded' segment mem
      obtain rfl : datagram = other := Option.some_inj.mp (sent.symm.trans there)
      obtain rfl : segments = others := Except.ok.inj (decoded.symm.trans decoded')
      exact got segment mem

/-! ## The Gate's steps -/

theorem offered_append (config : KcpConfig) (sent more : List Bytes) :
    offered config (sent ++ more) = offered config sent ++ offered config more := List.flatMap_append

theorem offered_singleton (config : KcpConfig) (payload : Bytes) :
    offered config [payload] = Ikcp.pieces (config.mtu.toNat - Ikcp.overhead) payload := List.flatMap_singleton _ _

/-- A step of the peer that keeps what is sent. -/
theorem Downlink.called (downlink : Downlink conversation config link) {next : KcpLink}
    (keeps : KcpPeer.Keeps conversation config next.peer) (idle : next.peer.pendingDatagrams = [])
    (none : link.peer.handle = none → next.peer.handle = none)
    (offers : ∀ kcp after, link.peer.handle = some kcp → next.peer.handle = some after →
      Ikcp.Offers (offered config link.sent) (Got (offered config link.sent) link.session) after.sendSide)
    (toClient : ∀ datagram ∈ next.toClient, Offering conversation (offered config link.sent) datagram)
    (rest : next.session = link.session ∧ next.sent = link.sent ∧ next.toGate = link.toGate ∧
      next.clientReceived = link.clientReceived) : Downlink conversation config next := by
  obtain ⟨session, sent, toGate, clientReceived⟩ := rest
  have after : ∀ after ∈ next.peer.handle,
      Ikcp.Offers (offered config link.sent) (Got (offered config link.sent) link.session) after.sendSide := by
    intro after held
    cases before : link.peer.handle with
    | none =>
      rw [none before] at held
      cases held
    | some kcp => exact offers kcp after before held
  constructor
  · exact keeps
  · exact idle
  · exact session ▸ downlink.session
  · exact session ▸ downlink.mtu
  · exact sent ▸ downlink.few
  · exact session ▸ sent ▸ after
  · exact sent ▸ toClient
  · exact session ▸ sent ▸ clientReceived ▸ downlink.reads
  · exact session ▸ sent ▸ toGate ▸ downlink.toGate

theorem Downlink.receive (downlink : Downlink conversation config link) :
    Downlink conversation config (link.step .receive) := by
  apply downlink.called (KcpPeer.call_keeps downlink.peer .receive)
  · exact (KcpPeer.receive_pending link.peer).trans downlink.idle
  · exact fun none => KcpPeer.call_none none .receive
  · intro kcp after before held
    obtain ⟨mid, result, received, next, -⟩ := KcpPeer.receive_handle before
    obtain rfl : mid = after := Option.some_inj.mp (next.symm.trans held)
    rw [received.sendSide]
    exact downlink.offers kcp before
  · exact downlink.toClient
  · exact ⟨rfl, rfl, rfl, rfl⟩

theorem Downlink.gateArrival (downlink : Downlink conversation config link)
    (short : (offered config link.sent).length < 2 ^ 31) (index : Nat) :
    Downlink conversation config (link.step (.gateArrival index)) := by
  simp only [step]
  split
  · exact downlink
  · rename_i datagram sent
    obtain ⟨segment, encoded, conv, size, truthful⟩ := downlink.toGate datagram (List.mem_of_getElem? sent)
    have filled : datagram ≠ [] := by
      rw [encoded]
      exact encodeSegment_ne_nil segment
    apply downlink.called (KcpPeer.call_keeps downlink.peer (.input datagram))
    · exact (KcpPeer.input_pending link.peer datagram).trans downlink.idle
    · exact fun none => KcpPeer.call_none none (.input datagram)
    · intro kcp after before held
      rw [KcpPeer.input_handle before filled] at held
      cases held
      have holds := downlink.peer kcp before
      have entered := input_entered (conv.trans holds.conv.symm) size
      rw [encoded, entered.sendSide]
      have offers := downlink.offers kcp before
      refine offers.acked (Ikcp.inputSegment_acked holds.receive none (gateSegment segment)) ?_
      intro n acknowledged lower
      have inside : n.toNat < (offered config link.sent).length := lower.trans_le offers.reached
      rcases acknowledged with cumulative | ⟨ack, same⟩
      · have una : (gateSegment segment).una.toNat ≤ link.session.nextReceiveSequence.toNat := truthful.1
        have reached := downlink.reads.reached
        rw [itimediff, Serial.distance_toNat (by omega) (by omega)] at cumulative
        exact .inl (by omega)
      · rw [same]
        exact truthful.2 (KcpCommand.cmd_inj ack)
    · exact downlink.toClient
    · exact ⟨rfl, rfl, rfl, rfl⟩

/-- What a datagram of an update carries. -/
theorem updated_offering {kcp after : Ikcp} {datagrams : List (List IkcpSegment)} {row : List Ikcp.Fragment}
    {got : Nat → Prop} {nowMs : UInt32} (short : row.length < 2 ^ 32) (holds : KcpPeer.Holds conversation config kcp)
    (few : ∀ fragment ∈ row, fragment.1.toNat < 128) (offers : Ikcp.Offers row got kcp.sendSide)
    (updated : Ikcp.Updated kcp nowMs after datagrams) : Ikcp.Offers row got after.sendSide ∧
      ∀ datagram ∈ datagrams, Offering conversation row (KcpPeer.datagramBytes datagram) := by
  cases updated with
  | quiet =>
    refine ⟨offers, ?_⟩
    intro datagram mem
    cases mem
  | flushed due flushed =>
    have numbered : Ikcp.Offers row got (kcp.ticked nowMs).numbered.sendSide :=
      offers.numbered short (@Ikcp.numbered_numbered (kcp.ticked nowMs) holds.send)
    refine ⟨flushed.sendSide ▸ numbered, ?_⟩
    intro datagram mem
    obtain ⟨-, segments, decoded, -, own, pairs⟩ := KcpPeer.flushed_decodes holds flushed mem
    refine ⟨segments, decoded, ?_⟩
    intro segment listed
    refine ⟨own segment listed, fun push => ?_⟩
    obtain ⟨seg, inside, command, named, rfl⟩ := forall₂_mem pairs listed
    have sent := List.mem_flatten_of_mem mem inside
    rw [flushed.segments] at sent
    obtain ⟨held, there, sn, same⟩ := Ikcp.pushed_content (named.trans (congrArg KcpCommand.cmd push)) sent
    obtain ⟨found, -⟩ := numbered.held (Ikcp.content held) (List.mem_map_of_mem there)
    have at_ : row[seg.sn.toNat]? = some (Ikcp.entry seg) := by
      rw [sn, same]
      exact found
    refine ⟨seg.frg, at_, ?_⟩
    -- A fragment's place in its message fits a byte.
    have narrow : seg.frg.toNat < 128 := few _ (List.mem_of_getElem? at_)
    show seg.frg = 0 ↔ seg.frg.toUInt8 = 0
    rw [← UInt32.toNat_inj, ← UInt8.toNat_inj, UInt32.toNat_toUInt8, Nat.mod_eq_of_lt (by omega)]
    rfl

theorem Downlink.tick (downlink : Downlink conversation config link)
    (short : (offered config link.sent).length < 2 ^ 31) (nowMs : UInt32) :
    Downlink conversation config (link.step (.tick nowMs)) := by
  apply downlink.called (KcpPeer.call_keeps (KcpPeer.call_keeps downlink.peer (.update nowMs)) .consumeOutgoingDatagrams)
  · rfl
  · exact fun none => KcpPeer.call_none none (.update nowMs)
  · intro kcp after before held
    have holds := downlink.peer kcp before
    have updated := Ikcp.update_updated holds.send nowMs
    have same : (kcp.update nowMs).1 = after :=
      Option.some_inj.mp ((KcpPeer.update_handle before nowMs).symm.trans held)
    rw [← same]
    exact (updated_offering (by omega) holds downlink.few (downlink.offers kcp before) updated).1
  · intro datagram mem
    rcases List.mem_append.mp mem with old | new
    · exact downlink.toClient datagram old
    · replace new : datagram ∈ (link.peer.update nowMs).1.pendingDatagrams := new
      cases before : link.peer.handle with
      | none =>
        rw [KcpPeer.update_none before, downlink.idle] at new
        cases new
      | some kcp =>
        have holds := downlink.peer kcp before
        have updated := Ikcp.update_updated holds.send nowMs
        rw [KcpPeer.update_pending before, downlink.idle, List.nil_append] at new
        obtain ⟨segments, output, rfl⟩ := List.mem_map.mp new
        exact (updated_offering (by omega) holds downlink.few (downlink.offers kcp before) updated).2 segments output
  · exact ⟨rfl, rfl, rfl, rfl⟩

/-- A payload that the Gate has accepted. -/
theorem Downlink.grow (downlink : Downlink conversation config link) {payload : Bytes} {peer : KcpPeer}
    (keeps : KcpPeer.Keeps conversation config peer) (idle : peer.pendingDatagrams = [])
    (few : Ikcp.fragmentCount (config.mtu.toNat - Ikcp.overhead) payload.length < 128)
    (offers : ∀ kcp ∈ peer.handle, Ikcp.Offers (offered config (link.sent ++ [payload]))
      (Got (offered config link.sent) link.session) kcp.sendSide) :
    Downlink conversation config { link with peer, sent := link.sent ++ [payload] } := by
  have row : offered config (link.sent ++ [payload]) = offered config link.sent ++ offered config [payload] :=
    offered_append config link.sent [payload]
  refine ⟨keeps, idle, downlink.session, downlink.mtu, ?_, ?_, ?_, ?_, ?_⟩
  · intro fragment mem
    rw [row] at mem
    rcases List.mem_append.mp mem with old | new
    · exact downlink.few fragment old
    · rw [offered_singleton, Ikcp.pieces] at new
      obtain ⟨seg, inside, rfl⟩ := List.mem_map.mp new
      exact (Ikcp.fragments_frg (by omega) inside).trans few
  · intro kcp held
    refine (offers kcp held).mono fun n _ got => ?_
    rw [row]
    exact got.grow _
  · intro datagram mem
    obtain ⟨segments, decoded, from_⟩ := downlink.toClient datagram mem
    refine ⟨segments, decoded, fun segment inside => ?_⟩
    rw [row]
    exact (from_ segment inside).grow _
  · rw [row]
    exact downlink.reads.grow _
  · intro datagram mem
    obtain ⟨segment, same, conv, size, una, ack⟩ := downlink.toGate datagram mem
    refine ⟨segment, same, conv, size, una, fun kind => ?_⟩
    rw [row]
    exact (ack kind).grow _

theorem Downlink.send (downlink : Downlink conversation config link) (off : config.streamMode = false) (payload : Bytes) :
    Downlink conversation config (link.step (.send payload)) := by
  have keeps := KcpPeer.call_keeps downlink.peer (.send payload)
  have idle := (KcpPeer.send_pending link.peer payload).trans downlink.idle
  have none (none : link.peer.handle = none) := KcpPeer.call_none none (.send payload)
  have refused (error : (link.peer.send payload).2 ≠ .none) (offers : ∀ kcp after, link.peer.handle = some kcp →
      (link.peer.send payload).1.handle = some after →
        Ikcp.Offers (offered config link.sent) (Got (offered config link.sent) link.session) after.sendSide) :
      Downlink conversation config (link.step (.send payload)) :=
    downlink.called keeps idle none offers downlink.toClient ⟨rfl, if_neg error, rfl, rfl⟩
  cases before : link.peer.handle with
  | none =>
    apply refused
    · simp only [KcpPeer.send, before]
      exact KcpPeerErrorCode.noConfusion
    · intro kcp after held
      rw [before] at held
      cases held
  | some kcp =>
    have holds := downlink.peer kcp before
    have offers := downlink.offers kcp before
    have fits : kcp.mss.toNat + Ikcp.overhead = kcp.mtu.toNat := holds.send.fits
    have mss : kcp.mss.toNat = config.mtu.toNat - Ikcp.overhead := by
      rw [holds.mtu] at fits
      omega
    have stream : kcp.stream = 0 := by
      rw [holds.stream, if_neg (by rw [off]; exact Bool.false_ne_true)]
    rcases KcpPeer.send_handle before payload with ⟨same, error⟩ | ⟨sent, -, code⟩
    · apply refused error
      intro other after held next
      obtain rfl : kcp = after := Option.some_inj.mp (same.symm.trans next)
      exact offers
    · rcases Ikcp.send_pieces stream payload with ⟨same, below⟩ | ⟨few, least, queued⟩
      · apply refused fun success => absurd (code.mp success) (not_le.mpr below)
        intro other after held next
        obtain rfl : (kcp.send payload).1 = after := Option.some_inj.mp (sent.symm.trans next)
        rw [same]
        exact offers
      · simp only [step, if_pos (code.mpr least)]
        rw [mss] at few queued
        refine downlink.grow keeps idle few ?_
        intro after held
        obtain rfl : (kcp.send payload).1 = after := Option.some_inj.mp (sent.symm.trans held)
        rw [queued, offered_append]
        have grown := @Ikcp.Offers.queue _ _ _ offers (Ikcp.fragments (config.mtu.toNat - Ikcp.overhead) false
          (Ikcp.fragmentCount (config.mtu.toNat - Ikcp.overhead) payload.length) payload)
          (kcp.nsndQue + .ofNat (Ikcp.fragmentCount (config.mtu.toNat - Ikcp.overhead) payload.length))
        rwa [offered_singleton, Ikcp.pieces]

/-! ## Runs -/

theorem sent_prefix (link : KcpLink) (event : KcpEvent) : link.sent <+: (link.step event).sent := by
  cases event with
  | send payload =>
    simp only [step]
    split
    · exact List.prefix_append _ _
    · exact List.prefix_rfl
  | queue payload now utcNow =>
    simp only [step]
    split <;> exact List.prefix_rfl
  | gateArrival index =>
    simp only [step]
    split <;> exact List.prefix_rfl
  | clientArrival index now =>
    simp only [step]
    split
    · exact List.prefix_rfl
    · split <;> exact List.prefix_rfl
  | tick nowMs => exact List.prefix_rfl
  | receive => exact List.prefix_rfl

theorem offered_length_le (config : KcpConfig) {sent more : List Bytes} (before : sent <+: more) :
    (offered config sent).length ≤ (offered config more).length := by
  obtain ⟨rest, rfl⟩ := before
  rw [offered_append, List.length_append]
  exact Nat.le_add_right _ _

theorem Downlink.step (downlink : Downlink conversation config link) (off : config.streamMode = false) (event : KcpEvent)
    (short : (offered config (link.step event).sent).length < 2 ^ 31) : Downlink conversation config (link.step event) := by
  have before := (offered_length_le config (link.sent_prefix event)).trans_lt short
  cases event with
  | queue payload now utcNow => exact downlink.queue payload now utcNow
  | send payload => exact downlink.send off payload
  | tick nowMs => exact downlink.tick before nowMs
  | receive => exact downlink.receive
  | gateArrival index => exact downlink.gateArrival before index
  | clientArrival index now => exact (downlink.clientArrival before index now).1

theorem start_downlink (conversation : UInt32) (config : KcpConfig) {options : KcpTransportOptions}
    (mtu : options.mtu < 2 ^ 31) : Downlink conversation config (start conversation config options) := by
  have fresh : (KcpPeer.create conversation config).pendingDatagrams = [] ∧
      ∀ kcp ∈ (KcpPeer.create conversation config).handle, kcp.sndNxt = 0 ∧ kcp.sndQueue = [] ∧ kcp.sndBuf = [] := by
    rw [KcpPeer.create]
    split
    · exact ⟨rfl, fun kcp held => by cases held⟩
    · split
      · exact ⟨rfl, fun kcp held => by cases held⟩
      · rename_i made applied
        refine ⟨rfl, fun kcp held => ?_⟩
        cases held
        obtain ⟨sized, set, rfl⟩ := Option.map_eq_some_iff.mp applied
        rw [Ikcp.setmtu] at set
        split at set
        · cases set
        · cases set
          exact ⟨rfl, rfl, rfl⟩
  refine ⟨KcpPeer.create_keeps conversation config, fresh.1, rfl, mtu, ?_, ?_, ?_, ?_, ?_⟩
  · intro fragment mem
    cases mem
  · intro kcp held
    obtain ⟨next, queue, buffer⟩ := fresh.2 kcp held
    constructor
    · exact Nat.le_of_eq (congrArg UInt32.toNat next)
    · show kcp.sndQueue.map Ikcp.entry = _
      rw [queue]
      exact List.drop_nil.symm
    · intro seg mem
      simp only [Ikcp.sendSide, buffer] at mem
      cases mem
    · intro n lower
      simp only [Ikcp.sendSide, next] at lower
      exact absurd lower (Nat.not_lt_zero n)
  · intro datagram mem
    cases mem
  · refine ⟨⟨rfl, Nat.zero_le _, ?_⟩, ?_⟩
    · intro number segment found
      simp [start, MinimalKcpSession.start] at found
    · simp [start, MinimalKcpSession.start]
  · intro datagram mem
    cases mem

theorem Downlink.run (downlink : Downlink conversation config link) (off : config.streamMode = false)
    (events : List KcpEvent) (short : (offered config (machine.run link events).1.sent).length < 2 ^ 31) :
    Downlink conversation config (machine.run link events).1 :=
  @Machine.run_invariant _ _ _ machine (fun _ _ => True)
    (fun link => (offered config link.sent).length < 2 ^ 31 → Downlink conversation config link)
    (fun link event before _ small =>
      (before ((offered_length_le config (link.sent_prefix event)).trans_lt small)).step off event small) link events
    (fun _ => downlink) (Machine.along_true _ events) short

/-- The largest payload that fits a segment. -/
def mss (config : KcpConfig) : Nat := config.mtu.toNat - Ikcp.overhead

theorem mss_pos {kcp : Ikcp} (holds : KcpPeer.Holds conversation config kcp) : 0 < mss config := by
  have fits : kcp.mss.toNat + Ikcp.overhead = kcp.mtu.toNat := holds.send.fits
  have positive : 0 < kcp.mss.toNat := holds.send.positive
  rw [holds.mtu] at fits
  rw [mss]
  omega

/-- Whole fragments at the beginning of a row are payloads that fit, before any that does not. -/
theorem offered_whole (positive : 0 < mss config) {sent payloads : List Bytes}
    (short : (offered config sent).length < 2 ^ 32) (front : payloads.map whole <+: offered config sent) :
    payloads <+: sent.takeWhile fun payload => payload.length ≤ mss config := by
  induction sent generalizing payloads with
  | nil =>
    rw [List.map_eq_nil_iff.mp (List.prefix_nil.mp front)]
    exact List.nil_prefix
  | cons payload rest ih =>
    cases payloads with
    | nil => exact List.nil_prefix
    | cons first more =>
      have row : offered config (payload :: rest) = Ikcp.pieces (mss config) payload ++ offered config rest := rfl
      rw [row] at front short
      by_cases small : payload.length ≤ mss config
      · rw [Ikcp.pieces_small small] at front short
        obtain ⟨same, tail⟩ := List.cons_prefix_cons.mp front
        obtain rfl : first = payload := congrArg Prod.snd same
        rw [List.takeWhile_cons_of_pos (by simpa using small)]
        rw [List.length_append, List.length_singleton] at short
        exact List.cons_prefix_cons.mpr ⟨rfl, ih (by omega) tail⟩
      · have count : (Ikcp.pieces (mss config) payload).length = Ikcp.fragmentCount (mss config) payload.length := by
          rw [Ikcp.pieces, List.length_map, Ikcp.fragments_length]
        rw [List.length_append, count] at short
        obtain ⟨frg, data, others, cut, part⟩ := Ikcp.pieces_large positive (not_le.mp small) (by omega)
        rw [cut] at front
        obtain ⟨same, -⟩ := List.cons_prefix_cons.mp front
        exact absurd (congrArg Prod.fst same).symm part

/-- Nothing is sent by a peer without a control block. -/
theorem run_dead (dead : link.peer.handle = none) (none : link.sent = []) (events : List KcpEvent) :
    (machine.run link events).1.peer.handle = .none ∧ (machine.run link events).1.sent = [] := by
  refine @Machine.run_invariant _ _ _ machine (fun _ _ => True) (fun link => link.peer.handle = .none ∧ link.sent = [])
    ?_ link events ⟨dead, none⟩ (Machine.along_true _ events)
  rintro link event ⟨dead, none⟩ -
  simp only [machine]
  cases event with
  | send payload =>
    refine ⟨KcpPeer.call_none dead (.send payload), ?_⟩
    have failed : (link.peer.send payload).2 ≠ .none := by
      simp only [KcpPeer.send, dead]
      exact KcpPeerErrorCode.noConfusion
    exact (if_neg failed).trans none
  | queue payload now utcNow =>
    simp only [KcpLink.step]
    split <;> exact ⟨dead, none⟩
  | gateArrival index =>
    simp only [KcpLink.step]
    split
    · exact ⟨dead, none⟩
    · exact ⟨KcpPeer.call_none dead (.input _), none⟩
  | clientArrival index now =>
    simp only [KcpLink.step]
    split
    · exact ⟨dead, none⟩
    · split <;> exact ⟨dead, none⟩
  | tick nowMs => exact ⟨KcpPeer.call_none dead (.update nowMs), none⟩
  | receive => exact ⟨KcpPeer.call_none dead .receive, none⟩

/-- Whatever is lost, repeated or reordered, the client receives a beginning of what the Gate sent, in which every
payload fits a segment: it receives nothing from the first longer one on. -/
theorem downlink_exact (conversation : UInt32) (config : KcpConfig) (options : KcpTransportOptions)
    (off : config.streamMode = false) (mtu : options.mtu < 2 ^ 31) (events : List KcpEvent)
    (short : (offered config (machine.run (start conversation config options) events).1.sent).length < 2 ^ 31) :
    (machine.run (start conversation config options) events).1.clientReceived <+:
      (machine.run (start conversation config options) events).1.sent.takeWhile
        fun payload => payload.length ≤ mss config := by
  have downlink := (start_downlink conversation config mtu).run off events short
  have front : (machine.run (start conversation config options) events).1.clientReceived.map whole <+:
      offered config (machine.run (start conversation config options) events).1.sent := by
    rw [downlink.reads.returned]
    exact List.take_prefix _ _
  cases first : (start conversation config options).peer.handle with
  | none =>
    rw [(run_dead first rfl events).2] at front
    rw [List.map_eq_nil_iff.mp (List.prefix_nil.mp front)]
    exact List.nil_prefix
  | some kcp => exact offered_whole (mss_pos (KcpPeer.create_keeps conversation config kcp first)) (by omega) front

/-- A configuration whose segments hold 26 bytes. -/
def narrowConfig : KcpConfig := { mtu := 50 }

/-- The second payload takes two segments. -/
def longEvents : List KcpEvent :=
  [.send [1], .send (List.replicate 27 7), .send [2], .tick 0, .tick 20, .clientArrival 0 0, .gateArrival 0, .tick 400,
    .clientArrival 1 0]

theorem downlink_exact_long :
    (machine.run (start 7 narrowConfig KcpClient.sampleOptions) longEvents).1.clientReceived <+: [[1]] := by
  have sent : (machine.run (start 7 narrowConfig KcpClient.sampleOptions) longEvents).1.sent =
      [[1], List.replicate 27 7, [2]] := by decide +kernel
  have exact_ := downlink_exact 7 narrowConfig KcpClient.sampleOptions rfl (by decide) longEvents
    (by rw [sent]; decide +kernel)
  rw [sent] at exact_
  exact exact_

end KcpLink

end XServer.Client
