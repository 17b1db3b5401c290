import XServer.Client.KcpDownlink

/-!
# Recovery of the downlink

The Gate keeps what the client has not acknowledged, and the client acknowledges what it
has got. So a flush after the retransmission times, whose datagrams arrive, brings the
client up to date, whatever was lost before.
-/

namespace XServer.Client
open XServer.Lib XServer.Lib.Wire XServer.Net XServer.Core.Config

namespace KcpLink
open MinimalKcpSession

variable {conversation : UInt32} {config : KcpConfig} {link : KcpLink} {segment : KcpSegment}

/-! ## What the client has got -/

theorem clientArrival_sent (link : KcpLink) (index : Nat) (now : UInt32) :
    (link.step (.clientArrival index now)).sent = link.sent := by
  simp only [step]
  split
  · rfl
  · split <;> rfl

theorem Downlink.step_got (downlink : Downlink conversation config link) {n : Nat}
    (got : Got (offered config link.sent) link.session n) (event : KcpEvent)
    (short : (offered config (link.step event).sent).length < 2 ^ 31) :
    Got (offered config (link.step event).sent) (link.step event).session n := by
  have before := (offered_length_le config (link.sent_prefix event)).trans_lt short
  cases event with
  | queue payload now utcNow =>
    have queued := link.session.tryQueuePayload_queued payload now utcNow
    simp only [KcpLink.step]
    generalize (link.session.tryQueuePayload payload now utcNow).1 = after,
      (link.session.tryQueuePayload payload now utcNow).2 = result at queued ⊢
    cases queued with
    | refused error => exact got
    | @push segment after own kind whole number una carried size next same =>
      exact (@Reads.same _ after _ _ downlink.reads same.2.2.1 same.2.2.2).2.got n got
  | send payload =>
    obtain ⟨more, same⟩ := link.sent_prefix (.send payload)
    rw [← same, offered_append]
    exact got.grow _
  | clientArrival index now =>
    rw [clientArrival_sent]
    exact (downlink.clientArrival before index now).2.1.got n got
  | gateArrival index =>
    simp only [KcpLink.step]
    split <;> exact got
  | tick nowMs => exact got
  | receive => exact got

theorem Downlink.run_got (downlink : Downlink conversation config link) (off : config.streamMode = false) {n : Nat}
    (got : Got (offered config link.sent) link.session n) (events : List KcpEvent)
    (short : (offered config (machine.run link events).1.sent).length < 2 ^ 31) :
    Got (offered config (machine.run link events).1.sent) (machine.run link events).1.session n := by
  have both := @Machine.run_invariant _ _ _ machine (fun _ _ => True)
    (fun link => (offered config link.sent).length < 2 ^ 31 →
      Downlink conversation config link ∧ Got (offered config link.sent) link.session n)
    (fun link event before _ small => by
      obtain ⟨downlink, got⟩ := before ((offered_length_le config (link.sent_prefix event)).trans_lt small)
      exact ⟨downlink.step off event small, downlink.step_got got event small⟩) link events
    (fun _ => ⟨downlink, got⟩) (Machine.along_true _ events)
  exact (both short).2

theorem toClient_prefix (link : KcpLink) (event : KcpEvent) : link.toClient <+: (link.step event).toClient := by
  cases event with
  | tick nowMs => exact List.prefix_append _ _
  | queue payload now utcNow =>
    simp only [step]
    split <;> exact List.prefix_rfl
  | gateArrival index =>
    simp only [step]
    split <;> exact List.prefix_rfl
  | clientArrival index now =>
    simp only [step]
    split
    · exact List.prefix_rfl
    · split <;> exact List.prefix_rfl
  | send payload => exact List.prefix_rfl
  | receive => exact List.prefix_rfl

theorem run_prefixes (link : KcpLink) (events : List KcpEvent) :
    link.toClient <+: (machine.run link events).1.toClient ∧ link.sent <+: (machine.run link events).1.sent := by
  have kept := @Machine.run_invariant _ _ _ machine (fun _ _ => True)
    (fun after => link.toClient <+: after.toClient ∧ link.sent <+: after.sent)
    (fun after event before _ => ⟨before.1.trans (after.toClient_prefix event), before.2.trans (after.sent_prefix event)⟩)
    link events ⟨List.prefix_rfl, List.prefix_rfl⟩ (Machine.along_true _ events)
  exact kept

/-- A datagram that arrives somewhere in a run: at its end the client has got the pushes in it. -/
theorem Downlink.arrived (downlink : Downlink conversation config link) (off : config.streamMode = false)
    {events : List KcpEvent} {index : Nat} {now : UInt32} (arrives : .clientArrival index now ∈ events)
    (short : (offered config (machine.run link events).1.sent).length < 2 ^ 31) {datagram : Bytes}
    (there : link.toClient[index]? = some datagram) {segments : List KcpSegment}
    (decoded : decodeDatagram datagram = .ok segments) (mem : segment ∈ segments) (push : segment.command = .push) :
    Got (offered config (machine.run link events).1.sent) (machine.run link events).1.session
      segment.sequenceNumber.toNat := by
  obtain ⟨front, back, rfl⟩ := List.mem_iff_append.mp arrives
  have run : (machine.run link (front ++ .clientArrival index now :: back)).1 =
      (machine.run ((machine.run link front).1.step (.clientArrival index now)) back).1 := Machine.run_append machine link _ _
  rw [run] at short ⊢
  generalize middle : (machine.run link front).1 = mid at short ⊢
  have shortNext := (offered_length_le config (run_prefixes (mid.step (.clientArrival index now)) back).2).trans_lt short
  have shortMid := (offered_length_le config (mid.sent_prefix (.clientArrival index now))).trans_lt shortNext
  have here : Downlink conversation config mid := middle ▸ downlink.run off front (middle ▸ shortMid)
  have still : mid.toClient[index]? = some datagram := by
    obtain ⟨more, same⟩ := (run_prefixes link front).1
    obtain ⟨inside, -⟩ := List.getElem?_eq_some_iff.mp there
    rw [← middle, ← same, List.getElem?_append_left inside, there]
  obtain ⟨next, -, got⟩ := here.clientArrival shortMid index now
  refine next.run_got off ?_ back short
  rw [clientArrival_sent]
  exact got datagram segments still decoded segment mem push

/-- Payloads that fit a segment are offered whole. -/
theorem offered_small {sent : List Bytes} (small : ∀ payload ∈ sent, payload.length ≤ mss config) :
    offered config sent = sent.map whole := by
  induction sent with
  | nil => rfl
  | cons payload rest ih =>
    have row : offered config (payload :: rest) = Ikcp.pieces (mss config) payload ++ offered config rest := rfl
    rw [row, Ikcp.pieces_small (small payload List.mem_cons_self),
      ih fun other mem => small other (List.mem_cons_of_mem _ mem)]
    rfl

/-- A client that has got the first so many payloads has returned them. -/
theorem got_returned {session : MinimalKcpSession} {sent payloads : List Bytes} {count : Nat}
    (reads : Reads (sent.map whole) session payloads) (got : ∀ n < count, Got (sent.map whole) session n) :
    sent.take count <+: payloads := by
  have reached : count ≤ session.nextReceiveSequence.toNat := by
    by_contra before
    rcases got _ (not_le.mp before) with passed | ⟨number, same, held⟩ | ⟨fragment, found, part⟩
    · exact Nat.lt_irrefl _ passed
    · rw [UInt32.toNat_inj.mp same, reads.missing] at held
      cases held
    · obtain ⟨payload, -, rfl⟩ := List.mem_map.mp (List.mem_of_getElem? found)
      exact part rfl
  have returned := reads.returned
  rw [← List.map_take] at returned
  have unwhole (payloads : List Bytes) : (payloads.map whole).map Prod.snd = payloads := by
    rw [List.map_map]
    exact List.map_id payloads
  have same := congrArg (List.map Prod.snd) returned
  rw [unwhole, unwhole] at same
  rw [same]
  exact List.take_prefix_take_left reached

/-- What is in the send buffer after a flush at which all its segments were due is in the flush's datagrams. -/
theorem flushed_resends {kcp after : Ikcp} {datagrams : List (List IkcpSegment)} {nowMs : UInt32}
    (holds : KcpPeer.Holds conversation config kcp) (flushed : Ikcp.Flushed (kcp.ticked nowMs) after datagrams)
    (expired : ∀ seg ∈ kcp.sndBuf, 0 ≤ itimediff nowMs seg.resendts) {seg : IkcpSegment}
    (mem : seg ∈ after.sendSide.sndBuf) : ∃ datagram ∈ datagrams, ∃ segments,
      decodeDatagram (KcpPeer.datagramBytes datagram) = .ok segments ∧ ∃ segment ∈ segments,
        segment.command = .push ∧ segment.sequenceNumber = seg.sn := by
  rw [flushed.sendSide] at mem
  obtain ⟨held, inside, rfl⟩ := List.mem_map.mp mem
  obtain ⟨sent, listed, same⟩ := @Ikcp.resends (kcp.ticked nowMs) held expired inside
  have written := List.mem_append_right ((kcp.ticked nowMs).ackSegments ++ (kcp.ticked nowMs).probeWindow.probeSegments)
    listed
  rw [← flushed.segments] at written
  obtain ⟨datagram, output, within⟩ := List.mem_flatten.mp written
  obtain ⟨-, segments, decoded, -, -, pairs⟩ := KcpPeer.flushed_decodes holds flushed output
  obtain ⟨segment, there, command, named, rfl⟩ := forall₂_mem pairs.flip within
  have numbered := @Ikcp.numbered_numbered (kcp.ticked nowMs) holds.send
  obtain ⟨-, push⟩ := (numbered.keeps holds.send).own (Ikcp.content held) (List.mem_map_of_mem inside)
  have cmd := congrArg IkcpSegment.cmd same
  have sn := congrArg IkcpSegment.sn same
  exact ⟨datagram, output, segments, decoded, _, there, KcpCommand.cmd_inj (named.symm.trans (cmd.trans push)), sn⟩

/-- Whatever happened before: if a tick comes when every buffered segment is due for sending, and its datagrams arrive
at some time in any order, then the client has received all payloads that are numbered at the tick, whatever else happens
meanwhile. -/
theorem downlink_recovers (conversation : UInt32) (config : KcpConfig) (options : KcpTransportOptions)
    (off : config.streamMode = false) (mtu : options.mtu < 2 ^ 31) (events more : List KcpEvent) (nowMs : UInt32)
    {kcp : Ikcp} (held : (machine.run (start conversation config options) events).1.peer.handle = some kcp)
    (due : 0 ≤ itimediff nowMs (kcp.clocked nowMs).tsFlush)
    (expired : ∀ seg ∈ kcp.sndBuf, 0 ≤ itimediff nowMs seg.resendts) {before ticked after : KcpLink}
    (ran : (machine.run (start conversation config options) events).1 = before)
    (tick : before.step (.tick nowMs) = ticked) (rest : (machine.run ticked more).1 = after)
    (arrive : ∀ index, before.toClient.length ≤ index → index < ticked.toClient.length →
      ∃ now, .clientArrival index now ∈ more)
    (short : after.sent.length < 2 ^ 31) (small : ∀ payload ∈ after.sent, payload.length ≤ mss config) :
    ∃ flushed, ticked.peer.handle = some flushed ∧ kcp.sndNxt ≤ flushed.sndNxt ∧
      after.sent.take flushed.sndNxt.toNat <+: after.clientReceived := by
  have row := offered_small small
  have shortAfter : (offered config after.sent).length < 2 ^ 31 := by rwa [row, List.length_map]
  have shortTicked : (offered config ticked.sent).length < 2 ^ 31 :=
    (offered_length_le config (rest ▸ (run_prefixes ticked more).2)).trans_lt shortAfter
  have shortBefore : (offered config before.sent).length < 2 ^ 31 :=
    (offered_length_le config (tick ▸ before.sent_prefix (.tick nowMs))).trans_lt shortTicked
  have atStart := (start_downlink conversation config mtu).run off events (ran ▸ shortBefore)
  rw [ran] at atStart held
  have atTick := atStart.step off (.tick nowMs) (tick ▸ shortTicked)
  rw [tick] at atTick
  have atEnd := atTick.run off more (rest ▸ shortAfter)
  have holds := atStart.peer kcp held
  have flushed := Ikcp.update_flushed holds.send due
  have handle : ticked.peer.handle = some (kcp.update nowMs).1 := by
    rw [← tick]
    exact KcpPeer.update_handle held nowMs
  have output : ticked.toClient = before.toClient ++ (kcp.update nowMs).2.map KcpPeer.datagramBytes := by
    have pending := KcpPeer.update_pending held nowMs
    rw [atStart.idle, List.nil_append] at pending
    rw [← tick, ← pending]
    rfl
  refine ⟨(kcp.update nowMs).1, handle, ?_, ?_⟩
  · have offers := atStart.offers kcp held
    have numbered := @Ikcp.numbered_numbered (kcp.ticked nowMs) holds.send
    rw [← flushed.sendSide] at numbered
    exact UInt32.le_iff_toNat_le.mpr (offers.forward (by omega) numbered)
  · rw [rest] at atEnd
    have reads := atEnd.reads
    rw [row] at reads
    apply got_returned reads
    intro n numbered
    rw [← row]
    -- The client has got the payload already, or it is in the buffer and the tick sends it again.
    rcases (atTick.offers _ handle).kept n numbered with got | ⟨seg, buffered, rfl⟩
    · exact rest ▸ atTick.run_got off got more (rest ▸ shortAfter)
    · obtain ⟨datagram, sent, segments, decoded, segment, mem, push, sn⟩ := flushed_resends holds flushed expired buffered
      obtain ⟨place, there⟩ := List.mem_iff_getElem?.mp (List.mem_map_of_mem (f := KcpPeer.datagramBytes) sent)
      have found : ticked.toClient[before.toClient.length + place]? = some (KcpPeer.datagramBytes datagram) := by
        rw [output, List.getElem?_append_right (Nat.le_add_right _ _), Nat.add_sub_cancel_left]
        exact there
      obtain ⟨inside, -⟩ := List.getElem?_eq_some_iff.mp found
      obtain ⟨now, arrives⟩ := arrive _ (Nat.le_add_right _ _) inside
      have got := atTick.arrived off arrives (rest ▸ shortAfter) found decoded mem push
      rw [sn, rest] at got
      exact got

/-- The datagram of the first flush does not arrive. -/
def lostLink : KcpLink :=
  (machine.run (start 7 {} KcpClient.sampleOptions) [.send [1], .send [2], .tick 0, .tick 20]).1

def lostKcp : Ikcp := lostLink.peer.handle.getD { conv := 0 }

theorem downlink_recovers_lost : ∃ flushed : Ikcp, [[1], [2]].take flushed.sndNxt.toNat <+:
    (machine.run (lostLink.step (.tick 900)) [.clientArrival 1 0]).1.clientReceived := by
  have held : lostLink.peer.handle = some lostKcp := by decide +kernel
  have due : 0 ≤ itimediff 900 (lostKcp.clocked 900).tsFlush := by decide +kernel
  have expired : ∀ seg ∈ lostKcp.sndBuf, 0 ≤ itimediff 900 seg.resendts := by decide +kernel
  have before : lostLink.toClient.length = 1 := by decide +kernel
  have ticked : (lostLink.step (.tick 900)).toClient.length = 2 := by decide +kernel
  have sent : (machine.run (lostLink.step (.tick 900)) [.clientArrival 1 0]).1.sent = [[1], [2]] := by decide +kernel
  have arrive : ∀ index, lostLink.toClient.length ≤ index → index < (lostLink.step (.tick 900)).toClient.length →
      ∃ now, KcpEvent.clientArrival index now ∈ [KcpEvent.clientArrival 1 0] := by
    intro index lower upper
    rw [before] at lower
    rw [ticked] at upper
    rw [show index = 1 by omega]
    exact ⟨0, List.mem_singleton.mpr rfl⟩
  have short : (machine.run (lostLink.step (.tick 900)) [.clientArrival 1 0]).1.sent.length < 2 ^ 31 := by
    rw [sent]
    decide
  have small : ∀ payload ∈ (machine.run (lostLink.step (.tick 900)) [.clientArrival 1 0]).1.sent,
      payload.length ≤ mss {} := by
    rw [sent]
    decide
  obtain ⟨flushed, -, -, received⟩ := downlink_recovers 7 {} KcpClient.sampleOptions rfl (by decide)
    [.send [1], .send [2], .tick 0, .tick 20] [.clientArrival 1 0] 900 held due expired rfl rfl rfl arrive
    short small
  exact ⟨flushed, sent ▸ received⟩

end KcpLink

end XServer.Client
