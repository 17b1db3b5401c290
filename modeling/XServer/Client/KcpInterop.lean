import XServer.Client.KcpDatagram
import XServer.Net.KcpPeer

/-!
# The two KCP implementations on the wire

The Gate's control block and the client's codec read each other's segments: `ikcp_encode_seg`
writes what `EncodeSegment` writes, and a datagram of the one is decoded by the other. What a
peer outputs is never longer than the configured datagram size.
-/

namespace XServer.Client
open XServer.Lib XServer.Lib.Wire XServer.Net XServer.Core.Config

/-- The number of a command in a control block. -/
def KcpCommand.cmd (command : KcpCommand) : UInt32 := .ofNat command.value

/-- A segment of a control block as the client sees it. -/
def clientSegment (seg : IkcpSegment) (command : KcpCommand) : KcpSegment where
  conversation := seg.conv
  command := command
  fragment := seg.frg.toUInt8
  window := seg.wnd.toUInt16
  timestamp := seg.ts
  sequenceNumber := seg.sn
  unacknowledgedSequenceNumber := seg.una
  payload := seg.data

/-- A segment of the client as a control block reads it. -/
def gateSegment (segment : KcpSegment) : IkcpSegment where
  conv := segment.conversation
  cmd := segment.command.cmd
  frg := .ofNat segment.fragment.toNat
  wnd := .ofNat segment.window.toNat
  ts := segment.timestamp
  sn := segment.sequenceNumber
  una := segment.unacknowledgedSequenceNumber
  data := segment.payload

theorem KcpCommand.cmd_toNat (command : KcpCommand) : command.cmd.toNat = command.value := by
  cases command <;> rfl

theorem KcpCommand.cmd_inj {command other : KcpCommand} (same : command.cmd = other.cmd) : command = other := by
  cases command <;> cases other <;> first | rfl | exact absurd same (by decide)

theorem encodeSeg_eq {seg : IkcpSegment} {command : KcpCommand} (named : seg.cmd = command.cmd) :
    Ikcp.encodeSeg seg = encodeSegment (clientSegment seg command) := by
  have value : seg.cmd.toNat % 256 = command.value := by
    rw [named, KcpCommand.cmd_toNat]
    exact Nat.mod_eq_of_lt (KcpCommand.value_lt command)
  have fragment : seg.frg.toNat % 256 = seg.frg.toUInt8.toNat := (UInt32.toNat_toUInt8 seg.frg).symm
  have window : seg.wnd.toNat % 65536 = seg.wnd.toUInt16.toNat := (UInt32.toNat_toUInt16 seg.wnd).symm
  simp only [Ikcp.encodeSeg, encodeSegment, encodeHeader, clientSegment, value, fragment, window, List.append_assoc]

theorem clientSegment_wireSize (seg : IkcpSegment) (command : KcpCommand) :
    (clientSegment seg command).wireSize = seg.wireSize := rfl

theorem encodeSegment_ne_nil (segment : KcpSegment) : encodeSegment segment ≠ [] := by
  intro none
  have length := encodeSegment_length segment
  rw [none, KcpSegment.wireSize, kcpOverheadBytes, List.length_nil] at length
  omega

/-- A control block reads what the client encodes, whatever follows. -/
theorem readSegment_encoded (segment : KcpSegment) (rest : Bytes) (bound : segment.wireSize ≤ maxInt) :
    Ikcp.readSegment segment.conversation (encodeSegment segment ++ rest) = .ok (gateSegment segment, rest) := by
  rw [KcpSegment.wireSize, kcpOverheadBytes, maxInt] at bound
  have size : (encodeSegment segment ++ rest).length = 24 + segment.payload.length + rest.length := by
    rw [List.length_append, encodeSegment_length, KcpSegment.wireSize, kcpOverheadBytes]
  have behind : (encodeSegment segment ++ rest).drop Ikcp.overhead = segment.payload ++ rest := by
    rw [encodeSegment, List.append_assoc]
    have header := encodeHeader_length segment
    rw [kcpOverheadBytes] at header
    rw [Ikcp.overhead, ← header, List.drop_left]
  have fields := field_encodeHeader segment (segment.payload ++ rest) (by omega)
  rw [← List.append_assoc, ← encodeSegment] at fields
  obtain ⟨conversation, command, fragment, window, timestamp, sequenceNumber, unacknowledged, length⟩ := fields
  have known : ¬ (UInt32.ofNat segment.command.value ≠ Ikcp.cmdPush ∧
      UInt32.ofNat segment.command.value ≠ Ikcp.cmdAck ∧ UInt32.ofNat segment.command.value ≠ Ikcp.cmdWask ∧
      UInt32.ofNat segment.command.value ≠ Ikcp.cmdWins) := by
    cases segment.command <;> decide
  unfold Ikcp.readSegment
  simp only [conversation, command, fragment, window, timestamp, sequenceNumber, unacknowledged, length, behind,
    UInt32.ofNat_toNat, List.take_left, List.drop_left]
  rw [if_neg (by simp), if_neg (by rw [size, Ikcp.overhead]; omega), if_neg known]
  rfl

/-- What a control block makes of a datagram with one segment of its conversation. -/
structure Entered (kcp : Ikcp) (segment : KcpSegment) (after : Ikcp) (code : Int) : Prop where
  accepted : code = 0
  receiveSide : after.receiveSide = (kcp.inputSegment none (gateSegment segment)).1.receiveSide
  sendSide : after.sendSide = (kcp.inputSegment none (gateSegment segment)).1.sendSide

theorem input_entered {kcp : Ikcp} {segment : KcpSegment} (own : segment.conversation = kcp.conv)
    (bound : segment.wireSize ≤ maxInt) :
    Entered kcp segment (kcp.input (encodeSegment segment)).1 (kcp.input (encodeSegment segment)).2 := by
  have length : (encodeSegment segment).length = 24 + segment.payload.length := by
    rw [encodeSegment_length, KcpSegment.wireSize, kcpOverheadBytes]
  have read := readSegment_encoded segment [] bound
  rw [List.append_nil, own] at read
  have looped : Ikcp.inputLoop (encodeSegment segment).length kcp none (encodeSegment segment) =
      ((kcp.inputSegment none (gateSegment segment)).1, (kcp.inputSegment none (gateSegment segment)).2, 0) := by
    obtain ⟨rounds, same⟩ : ∃ rounds, (encodeSegment segment).length = rounds + 2 :=
      ⟨22 + segment.payload.length, by omega⟩
    rw [same, Ikcp.inputLoop, if_neg (by rw [length, Ikcp.overhead]; omega)]
    simp only [read]
    rw [Ikcp.inputLoop, if_pos (by decide)]
  have long : ¬ (encodeSegment segment).length < Ikcp.overhead := by
    rw [length, Ikcp.overhead]
    omega
  rw [Ikcp.input, if_neg long]
  simp only [looped, ne_eq, not_true, if_false]
  exact ⟨rfl, Ikcp.finishInput_receiveSide _ _ _, Ikcp.finishInput_sendSide _ _ _⟩

/-! ## What a peer outputs -/

theorem forall₂_mem {α β : Type} {R : α → β → Prop} {as : List α} {bs : List β} (pairs : List.Forall₂ R as bs) {b : β}
    (mem : b ∈ bs) : ∃ a ∈ as, R a b := by
  induction pairs with
  | nil => cases mem
  | @cons a b' as bs related rest ih =>
    rcases List.mem_cons.mp mem with rfl | mem
    · exact ⟨a, List.mem_cons_self, related⟩
    · obtain ⟨other, inside, related⟩ := ih mem
      exact ⟨other, List.mem_cons_of_mem _ inside, related⟩

/-- The command of a segment that a flush sends. -/
theorem flushed_command {kcp : Ikcp} {seg : IkcpSegment} (ok : kcp.sendSide.Ok)
    (mem : seg ∈ kcp.ackSegments ++ kcp.probeWindow.probeSegments ++ kcp.numbered.dataSegments kcp.wndUnused) :
    ∃ command : KcpCommand, seg.cmd = command.cmd ∧ seg.conv = kcp.conv ∧ seg.una = kcp.rcvNxt := by
  rcases List.mem_append.mp mem with control | data
  · rcases List.mem_append.mp control with ack | probe
    · obtain ⟨entry, -, rfl⟩ := List.mem_map.mp ack
      exact ⟨.ack, rfl, rfl, rfl⟩
    · rw [Ikcp.probeSegments] at probe
      rcases List.mem_append.mp probe with ask | tell
      · split at ask
        · rw [List.mem_singleton.mp ask]
          exact ⟨.windowProbeAsk, rfl, rfl, rfl⟩
        · cases ask
      · split at tell
        · rw [List.mem_singleton.mp tell]
          exact ⟨.windowProbeTell, rfl, rfl, rfl⟩
        · cases tell
  · obtain ⟨held, inside, sent⟩ := List.mem_filterMap.mp data
    obtain ⟨reason, -, rfl⟩ := Option.map_eq_some_iff.mp sent
    have numbered := Ikcp.numbered_numbered ok
    obtain ⟨conv, push⟩ := (numbered.keeps ok).own (Ikcp.content held) (List.mem_map_of_mem inside)
    have same := Ikcp.sentAs_content kcp.numbered kcp.wndUnused held reason
    have cmd := congrArg IkcpSegment.cmd same
    have convs := congrArg IkcpSegment.conv same
    have nxt : kcp.numbered.rcvNxt = kcp.rcvNxt :=
      congrArg Ikcp.ReceiveSide.rcvNxt (Ikcp.number_receiveSide _ _ _ _)
    exact ⟨.push, cmd.trans push, convs.trans (conv.trans numbered.fixed.1), nxt⟩

/-- A datagram whose segments all have a command is one that the client decodes into them. -/
theorem decode_datagramBytes {conversation : UInt32} {datagram : List IkcpSegment}
    (commands : ∀ seg ∈ datagram, ∃ command : KcpCommand, seg.cmd = command.cmd ∧ seg.conv = conversation)
    (short : Ikcp.bufferSize datagram ≤ maxInt) : ∃ segments,
      decodeDatagram (KcpPeer.datagramBytes datagram) = .ok segments ∧
      List.Forall₂ (fun seg segment => ∃ command : KcpCommand, seg.cmd = command.cmd ∧
        segment = clientSegment seg command) datagram segments ∧
      (KcpPeer.datagramBytes datagram).length = Ikcp.bufferSize datagram ∧
      ∀ segment ∈ segments, segment.conversation = conversation := by
  have encoded : ∃ segments, KcpPeer.datagramBytes datagram = segments.flatMap encodeSegment ∧
      List.Forall₂ (fun seg segment => ∃ command : KcpCommand, seg.cmd = command.cmd ∧
        segment = clientSegment seg command) datagram segments ∧
      (segments.flatMap encodeSegment).length = Ikcp.bufferSize datagram ∧
      ∀ segment ∈ segments, segment.conversation = conversation := by
    clear short
    induction datagram with
    | nil => exact ⟨[], rfl, .nil, rfl, fun segment mem => absurd mem List.not_mem_nil⟩
    | cons seg rest ih =>
      obtain ⟨segments, same, pairs, length, own⟩ := ih fun other mem => commands other (List.mem_cons_of_mem _ mem)
      obtain ⟨command, named, conv⟩ := commands seg List.mem_cons_self
      refine ⟨clientSegment seg command :: segments, ?_, .cons ⟨command, named, rfl⟩ pairs, ?_, ?_⟩
      · rw [KcpPeer.datagramBytes, List.flatMap_cons, encodeSeg_eq named, List.flatMap_cons, ← same]
        rfl
      · rw [List.flatMap_cons, List.length_append, length, encodeSegment_length, clientSegment_wireSize]
        rfl
      · intro segment mem
        rcases List.mem_cons.mp mem with rfl | mem
        · exact conv
        · exact own segment mem
  obtain ⟨segments, same, pairs, length, own⟩ := encoded
  refine ⟨segments, ?_, pairs, same ▸ length, own⟩
  rw [same]
  apply decodeDatagram_encode
  rw [length]
  exact short

namespace KcpPeer
variable {conversation : UInt32} {config : KcpConfig}

/-- A datagram that the client accepts: not longer than the configured size, and a row of segments of the
conversation. -/
def Acceptable (conversation : UInt32) (config : KcpConfig) (datagram : Bytes) : Prop :=
  datagram.length ≤ config.mtu.toNat ∧ ∃ segments, decodeDatagram datagram = .ok segments ∧ segments ≠ [] ∧
    ∀ segment ∈ segments, segment.conversation = conversation

/-- A datagram of a flush is within the configured size, and the client decodes it into its segments. -/
theorem flushed_decodes {kcp after : Ikcp} {datagrams : List (List IkcpSegment)} {nowMs : UInt32}
    (holds : KcpPeer.Holds conversation config kcp) (flushed : Ikcp.Flushed (kcp.ticked nowMs) after datagrams)
    {datagram : List IkcpSegment} (mem : datagram ∈ datagrams) :
    (KcpPeer.datagramBytes datagram).length ≤ config.mtu.toNat ∧ ∃ segments,
      decodeDatagram (KcpPeer.datagramBytes datagram) = .ok segments ∧ segments ≠ [] ∧
      (∀ segment ∈ segments, segment.conversation = conversation) ∧
      List.Forall₂ (fun seg segment => ∃ command : KcpCommand, seg.cmd = command.cmd ∧
        segment = clientSegment seg command) datagram segments := by
  obtain ⟨filled, size⟩ := flushed.sized datagram mem
  have mtu : (kcp.ticked nowMs).mtu = config.mtu := holds.mtu
  rw [mtu] at size
  have narrow := holds.narrow
  have commands : ∀ seg ∈ datagram, ∃ command : KcpCommand, seg.cmd = command.cmd ∧ seg.conv = conversation := by
    intro seg inside
    have sent := List.mem_flatten_of_mem mem inside
    rw [flushed.segments] at sent
    obtain ⟨command, cmd, conv, -⟩ := @flushed_command (kcp.ticked nowMs) seg holds.send sent
    exact ⟨command, cmd, conv.trans holds.conv⟩
  obtain ⟨segments, decoded, pairs, length, own⟩ := decode_datagramBytes commands (by rw [maxInt]; omega)
  refine ⟨length ▸ size, segments, decoded, ?_, own, pairs⟩
  intro none
  rw [none] at pairs
  cases pairs
  exact filled rfl

/-- What an update outputs is acceptable. -/
theorem updated_acceptable {kcp : Ikcp} (holds : KcpPeer.Holds conversation config kcp) (nowMs : UInt32)
    {datagram : List IkcpSegment} (mem : datagram ∈ (kcp.update nowMs).2) :
    Acceptable conversation config (KcpPeer.datagramBytes datagram) := by
  have updated := Ikcp.update_updated holds.send nowMs
  generalize (kcp.update nowMs).1 = after, (kcp.update nowMs).2 = datagrams at updated mem
  cases updated with
  | quiet => cases mem
  | flushed due flushed =>
    obtain ⟨size, segments, decoded, some, own, -⟩ := flushed_decodes holds flushed mem
    exact ⟨size, segments, decoded, some, own⟩

/-- What holds of a peer and of the datagrams that have left it. -/
structure Sending (conversation : UInt32) (config : KcpConfig) (peer : KcpPeer) (left : List Bytes) : Prop where
  keeps : KcpPeer.Keeps conversation config peer
  pending : ∀ datagram ∈ peer.pendingDatagrams, Acceptable conversation config datagram
  left : ∀ datagram ∈ left, Acceptable conversation config datagram

theorem call_sending {peer : KcpPeer} {left : List Bytes} (sending : Sending conversation config peer left)
    (call : KcpPeer.Call) : Sending conversation config (peer.call call).1 (left ++ (peer.call call).2) := by
  have keeps := KcpPeer.call_keeps sending.keeps call
  have quiet (same : (peer.call call).1.pendingDatagrams = peer.pendingDatagrams) (none : (peer.call call).2 = []) :
      Sending conversation config (peer.call call).1 (left ++ (peer.call call).2) := by
    rw [none, List.append_nil]
    exact ⟨keeps, same ▸ sending.pending, sending.left⟩
  cases call with
  | send payload => exact quiet (peer.send_pending payload) rfl
  | input datagram => exact quiet (peer.input_pending datagram) rfl
  | receive => exact quiet peer.receive_pending rfl
  | update nowMs =>
    refine ⟨keeps, ?_, ?_⟩
    · intro datagram mem
      simp only [KcpPeer.call] at mem
      cases handle : peer.handle with
      | none =>
        rw [KcpPeer.update_none handle] at mem
        exact sending.pending datagram mem
      | some kcp =>
        rw [KcpPeer.update_pending handle] at mem
        rcases List.mem_append.mp mem with mem | mem
        · exact sending.pending datagram mem
        · obtain ⟨segments, output, rfl⟩ := List.mem_map.mp mem
          exact updated_acceptable (sending.keeps kcp handle) nowMs output
    · exact fun datagram mem => sending.left datagram (by simpa [KcpPeer.call] using mem)
  | consumeOutgoingDatagrams =>
    refine ⟨keeps, ?_, ?_⟩
    · intro datagram mem
      cases mem
    · intro datagram mem
      rcases List.mem_append.mp mem with mem | mem
      · exact sending.left datagram mem
      · exact sending.pending datagram mem

/-- Whatever is called on a peer, every datagram that leaves it is within the configured size, and the client decodes
it into segments of the conversation. -/
theorem outputs_acceptable (conversation : UInt32) (config : KcpConfig) (calls : List KcpPeer.Call) (datagram : Bytes)
    (left : datagram ∈ (KcpPeer.machine.run (KcpPeer.create conversation config) calls).2) :
    datagram.length ≤ config.mtu.toNat ∧ ∃ segments, decodeDatagram datagram = .ok segments ∧ segments ≠ [] ∧
      ∀ segment ∈ segments, segment.conversation = conversation := by
  have start : Sending conversation config (KcpPeer.create conversation config) [] := by
    refine ⟨KcpPeer.create_keeps conversation config, ?_, ?_⟩
    · intro datagram mem
      have none : (KcpPeer.create conversation config).pendingDatagrams = [] := by
        rw [KcpPeer.create]
        split
        · rfl
        · split <;> rfl
      rw [none] at mem
      cases mem
    · intro datagram mem
      cases mem
  have sending := @Machine.run_trace _ _ _ KcpPeer.machine (Sending conversation config)
    (fun _ _ call sending => call_sending sending call) _ _ start calls
  exact sending.left datagram left

theorem outputs_acceptable_hello : ∃ datagram ∈
    (KcpPeer.machine.run (KcpPeer.create 7 {}) [.send [104, 105], .update 0, .update 20, .consumeOutgoingDatagrams]).2,
    datagram.length ≤ 1200 := by
  obtain ⟨datagram, left⟩ := List.exists_mem_of_ne_nil
    (KcpPeer.machine.run (KcpPeer.create 7 {}) [.send [104, 105], .update 0, .update 20, .consumeOutgoingDatagrams]).2
    (by decide +kernel)
  exact ⟨datagram, left, (outputs_acceptable 7 {} _ datagram left).1⟩

end KcpPeer

end XServer.Client
