import XServer.Core.ConfigFile
import XServer.Lib.Machine
import XServer.Net.IkcpSend

/-!
# KCP peers

`KcpPeer`: a control block with the options of the cluster configuration, the datagrams it
has output and the text of the last error. Whatever is called in whatever order, and
whatever datagrams come in, what a peer keeps is bounded by its windows.
-/

namespace XServer.Net
open XServer.Lib XServer.Lib.Wire XServer.Core.Config

inductive KcpPeerErrorCode where
  | none
  | invalidArgument
  | invalidState
  | createFailed
  | configInvalid
  | lengthOverflow
  | sendFailed
  | inputFailed
  | receiveFailed
  | messageUnavailable
  deriving DecidableEq, Repr

def kcpPeerErrorMessage : KcpPeerErrorCode → String
  | .none => "Success."
  | .invalidArgument => "KCP peer argument is invalid."
  | .invalidState => "KCP peer is not initialized."
  | .createFailed => "Failed to create KCP control block."
  | .configInvalid => "KCP peer configuration is invalid."
  | .lengthOverflow => "KCP peer payload length exceeds the supported range."
  | .sendFailed => "Failed to queue data into the KCP peer send buffer."
  | .inputFailed => "Failed to feed an incoming datagram into the KCP peer."
  | .receiveFailed => "Failed to receive a decoded message from the KCP peer."
  | .messageUnavailable => "No completed KCP message is currently available."

/-- A peer; the control block is `handle_`. -/
structure KcpPeer where
  conversation : UInt32
  config : KcpConfig
  handle : Option Ikcp := none
  pendingDatagrams : List Bytes := []
  pendingDatagramBytes : Nat := 0
  lastErrorMessage : String := ""

namespace KcpPeer

def fitsInSignedInt (value : UInt32) : Bool := value.toNat < 2 ^ 31

/-- `ValidateOptions`: the message of the first check that fails. -/
def validateOptions (config : KcpConfig) : Option String :=
  let positive (name : String) : Option String := some ("KCP config." ++ name ++ " must be greater than zero.")
  if config.mtu = 0 then positive "mtu"
  else if config.sndwnd = 0 then positive "sndwnd"
  else if config.rcvwnd = 0 then positive "rcvwnd"
  else if config.intervalMs = 0 then positive "interval_ms"
  else if config.minRtoMs = 0 then positive "min_rto_ms"
  else if config.deadLinkCount = 0 then positive "dead_link_count"
  else if !fitsInSignedInt config.mtu || !fitsInSignedInt config.sndwnd || !fitsInSignedInt config.rcvwnd ||
      !fitsInSignedInt config.intervalMs || !fitsInSignedInt config.fastResend || !fitsInSignedInt config.minRtoMs then
    some "KCP config values must fit within the upstream signed integer limits."
  else none

/-- `ApplyConfig` after `ikcp_create`; a refused one is `none`. -/
def applyConfig (conversation : UInt32) (config : KcpConfig) : Option Ikcp :=
  (({ conv := conversation } : Ikcp).setmtu config.mtu).map fun kcp =>
    let kcp := (kcp.wndsize config.sndwnd config.rcvwnd).setNodelay (if config.nodelay = true then 1 else 0)
      config.intervalMs config.fastResend (if config.noCongestionWindow = true then 1 else 0)
    { kcp with
      rxMinrto := config.minRtoMs.toInt32, deadLink := config.deadLinkCount
      stream := if config.streamMode = true then 1 else 0 }

/-- A new peer. -/
def create (conversation : UInt32) (config : KcpConfig) : KcpPeer :=
  match validateOptions config with
  | some message => { conversation, config, lastErrorMessage := message }
  | none =>
    match applyConfig conversation config with
    | none => { conversation, config, lastErrorMessage := "Failed to apply KCP mtu." }
    | some kcp => { conversation, config, handle := some kcp }

def valid (peer : KcpPeer) : Bool := peer.handle.isSome && peer.lastErrorMessage == ""

def setError (peer : KcpPeer) (code : KcpPeerErrorCode) (message : String) : KcpPeer × KcpPeerErrorCode :=
  ({ peer with lastErrorMessage := if message = "" then kcpPeerErrorMessage code else message }, code)

def send (peer : KcpPeer) (payload : Bytes) : KcpPeer × KcpPeerErrorCode :=
  match peer.handle with
  | none => peer.setError .invalidState ""
  | some kcp =>
    if payload = [] then peer.setError .invalidArgument "KCP send payload must not be empty."
    else if 2 ^ 31 ≤ payload.length then peer.setError .lengthOverflow ""
    else
      let sent := kcp.send payload
      if sent.2 < 0 then { peer with handle := some sent.1 }.setError .sendFailed ""
      else ({ peer with handle := some sent.1, lastErrorMessage := "" }, .none)

/-- A length fits a `long` here: datagrams are shorter than 2^31 bytes. -/
def input (peer : KcpPeer) (datagram : Bytes) : KcpPeer × KcpPeerErrorCode :=
  match peer.handle with
  | none => peer.setError .invalidState ""
  | some kcp =>
    if datagram = [] then peer.setError .invalidArgument "KCP input datagram must not be empty."
    else
      let entered := kcp.input datagram
      if entered.2 < 0 then { peer with handle := some entered.1 }.setError .inputFailed ""
      else ({ peer with handle := some entered.1, lastErrorMessage := "" }, .none)

/-- The bytes of a datagram that `HandleOutput` is given. -/
def datagramBytes (datagram : List IkcpSegment) : Bytes := datagram.flatMap Ikcp.encodeSeg

/-- `Update`; `Flush` is the same. -/
def update (peer : KcpPeer) (nowMs : UInt32) : KcpPeer × KcpPeerErrorCode :=
  match peer.handle with
  | none => peer.setError .invalidState ""
  | some kcp =>
    let updated := kcp.update nowMs
    let datagrams := updated.2.map datagramBytes
    ({ peer with
       handle := some updated.1, pendingDatagrams := peer.pendingDatagrams ++ datagrams
       pendingDatagramBytes := peer.pendingDatagramBytes + (datagrams.map List.length).sum
       lastErrorMessage := "" }, .none)

/-- `Receive`, with the payload it returns. -/
def receive (peer : KcpPeer) : KcpPeer × KcpPeerErrorCode × Bytes :=
  match peer.handle with
  | none =>
    let failed := peer.setError .invalidState ""
    (failed.1, failed.2, [])
  | some kcp =>
    match kcp.peeksize with
    | none =>
      let failed := peer.setError .messageUnavailable ""
      (failed.1, failed.2, [])
    | some size =>
      match kcp.recv size with
      | (kcp, .error _) =>
        let failed := { peer with handle := some kcp }.setError .receiveFailed ""
        (failed.1, failed.2, [])
      | (kcp, .ok payload) => ({ peer with handle := some kcp, lastErrorMessage := "" }, .none, payload)

def consumeOutgoingDatagrams (peer : KcpPeer) : KcpPeer × List Bytes :=
  ({ peer with pendingDatagrams := [], pendingDatagramBytes := 0 }, peer.pendingDatagrams)

/-! ## Runs -/

inductive Call where
  | send (payload : Bytes)
  | input (datagram : Bytes)
  | update (nowMs : UInt32)
  | receive
  | consumeOutgoingDatagrams
  deriving DecidableEq, Repr

/-- One call; the datagrams that leave with it. -/
def call (peer : KcpPeer) : Call → KcpPeer × List Bytes
  | .send payload => ((peer.send payload).1, [])
  | .input datagram => ((peer.input datagram).1, [])
  | .update nowMs => ((peer.update nowMs).1, [])
  | .receive => (peer.receive.1, [])
  | .consumeOutgoingDatagrams => peer.consumeOutgoingDatagrams

def machine : Machine KcpPeer Call Bytes where
  step := call

/-! ## Bounds -/

/-- A control block with the options of a configuration whose two sides are well formed. -/
structure Holds (conversation : UInt32) (config : KcpConfig) (kcp : Ikcp) : Prop where
  send : kcp.sendSide.Ok
  receive : kcp.receiveSide.Ok
  settled : kcp.receiveSide.Settled
  conv : kcp.conv = conversation
  mtu : kcp.mtu = config.mtu
  sndWnd : kcp.sndWnd = config.sndwnd
  rcvWnd : kcp.rcvWnd = max config.rcvwnd Ikcp.wndRcv
  stream : kcp.stream = if config.streamMode = true then 1 else 0
  narrow : config.mtu.toNat < 2 ^ 31

variable {conversation : UInt32} {config : KcpConfig} {kcp after : Ikcp}

/-- The options stay as long as the send side and the receive side keep them. -/
theorem Holds.next (holds : Holds conversation config kcp) (send : after.sendSide.Ok)
    (receive : after.receiveSide.Ok ∧ after.receiveSide.Settled) (options : after.conv = kcp.conv ∧ after.mtu = kcp.mtu ∧
      after.sndWnd = kcp.sndWnd ∧ after.stream = kcp.stream) (width : after.rcvWnd = kcp.rcvWnd) :
    Holds conversation config after where
  send := send
  receive := receive.1
  settled := receive.2
  conv := options.1.trans holds.conv
  mtu := options.2.1.trans holds.mtu
  sndWnd := options.2.2.1.trans holds.sndWnd
  rcvWnd := width.trans holds.rcvWnd
  stream := options.2.2.2.trans holds.stream
  narrow := holds.narrow

theorem max_toNat (a b : UInt32) : (max a b).toNat = max a.toNat b.toNat := by
  show (if a ≤ b then b else a).toNat = max a.toNat b.toNat
  split
  · rename_i less
    have := UInt32.le_iff_toNat_le.mp less
    omega
  · rename_i more
    have := UInt32.lt_iff_toNat_lt.mp (UInt32.not_le.mp more)
    omega

theorem validateOptions_none (none : validateOptions config = none) :
    0 < config.sndwnd.toNat ∧ config.sndwnd.toNat < 2 ^ 31 ∧ config.rcvwnd.toNat < 2 ^ 31 ∧
      config.mtu.toNat < 2 ^ 31 := by
  unfold validateOptions at none
  simp only at none
  split at none
  · cases none
  · split at none
    · cases none
    · rename_i some
      split at none
      · cases none
      · split at none
        · cases none
        · split at none
          · cases none
          · split at none
            · cases none
            · split at none
              · cases none
              · rename_i fits
                have positive : config.sndwnd.toNat ≠ 0 := fun zero => some (UInt32.toNat_inj.mp zero)
                simp only [fitsInSignedInt, Bool.or_eq_true, Bool.not_eq_true', decide_eq_false_iff_not, not_or,
                  not_not] at fits
                omega

theorem applyConfig_holds (valid : validateOptions config = none) (applied : applyConfig conversation config = some kcp) :
    Holds conversation config kcp := by
  obtain ⟨positive, sndwnd, rcvwnd, mtu⟩ := validateOptions_none valid
  have width := max_toNat config.rcvwnd Ikcp.wndRcv
  have least : Ikcp.wndRcv.toNat = 128 := rfl
  obtain ⟨sized, set, rfl⟩ := Option.map_eq_some_iff.mp applied
  rw [Ikcp.setmtu] at set
  split at set
  · cases set
  · rename_i large
    cases set
    rw [UInt32.lt_iff_toNat_lt, not_lt] at large
    have fifty : (50 : UInt32).toNat = 50 := rfl
    have header : (UInt32.ofNat Ikcp.overhead).toNat = 24 := rfl
    have mss : (config.mtu - .ofNat Ikcp.overhead).toNat + 24 = config.mtu.toNat := by
      rw [UInt32.toNat_sub, header]
      omega
    refine ⟨?_, ?_, ?_, rfl, rfl, rfl, rfl, rfl, mtu⟩
    · refine ⟨mss, ?_, sndwnd, ?_, ?_, .nil, ?_, rfl, ?_, rfl, rfl⟩
      · show 0 < (config.mtu - .ofNat Ikcp.overhead).toNat
        omega
      · intro seg mem
        rcases mem with mem | mem <;> cases mem
      · intro seg mem
        cases mem
      · intro seg mem
        cases mem
      · show Serial.offset 0 0 ≤ config.sndwnd.toNat
        rw [Serial.offset_self]
        exact Nat.zero_le _
    · refine ⟨?_, ?_, ?_, .nil, rfl, rfl, Nat.zero_le _⟩
      · show 0 < (max config.rcvwnd Ikcp.wndRcv).toNat
        omega
      · show (max config.rcvwnd Ikcp.wndRcv).toNat < 2 ^ 31
        omega
      · intro seg mem
        cases mem
    · intro seg mem
      cases mem

/-- The options of a control block survive what receiving does. -/
theorem moveReady_rcvWnd (buf : List IkcpSegment) (kcp : Ikcp) : (Ikcp.moveReady buf kcp).rcvWnd = kcp.rcvWnd := by
  induction buf generalizing kcp with
  | nil => rfl
  | cons seg rest ih =>
    rw [Ikcp.moveReady]
    split
    · exact ih _
    · rfl

theorem parsed_rcvWnd {newseg : IkcpSegment} (parsed : Ikcp.Parsed kcp newseg after) : after.rcvWnd = kcp.rcvWnd := by
  cases parsed with
  | outside out => rfl
  | repeated mem same => exact moveReady_rcvWnd _ _
  | placed inside perm sorted => exact moveReady_rcvWnd _ _

theorem taken_rcvWnd {seg : IkcpSegment} (taken : Ikcp.Taken kcp seg after) : after.rcvWnd = kcp.rcvWnd := by
  cases taken with
  | nothing same => exact congrArg Ikcp.ReceiveSide.rcvWnd same
  | parsed push same parsed => exact (parsed_rcvWnd parsed).trans (congrArg Ikcp.ReceiveSide.rcvWnd same)

theorem Holds.inputSegment (holds : Holds conversation config kcp) (maxack : Ikcp.Maxack) (seg : IkcpSegment) :
    Holds conversation config (kcp.inputSegment maxack seg).1 := by
  have acked := Ikcp.inputSegment_acked holds.receive maxack seg
  have taken := Ikcp.inputSegment_taken holds.receive maxack seg
  refine holds.next (acked.keeps holds.send) (taken.keeps holds.receive holds.settled) ?_ (taken_rcvWnd taken)
  generalize side : (kcp.inputSegment maxack seg).1.sendSide = sides at acked
  have conv := congrArg Ikcp.SendSide.conv side
  have mtu := congrArg Ikcp.SendSide.mtu side
  have sndWnd := congrArg Ikcp.SendSide.sndWnd side
  have stream := congrArg Ikcp.SendSide.stream side
  cases acked with
  | leave sublist gone => exact ⟨conv, mtu, sndWnd, stream⟩

theorem Holds.input (holds : Holds conversation config kcp) (data : Bytes) :
    Holds conversation config (kcp.input data).1 := by
  have looped := @Ikcp.inputLoop_keeps kcp (Holds conversation config)
    (fun kcp maxack seg holds => holds.inputSegment maxack seg) data.length holds none data
  rw [Ikcp.input]
  split
  · exact holds
  · dsimp only
    split
    · exact looped
    · generalize (Ikcp.inputLoop data.length kcp none data).1 = mid at looped ⊢
      generalize (Ikcp.inputLoop data.length kcp none data).2.1 = maxack
      have send := Ikcp.finishInput_sendSide mid kcp.sndUna maxack
      have receive := Ikcp.finishInput_receiveSide mid kcp.sndUna maxack
      refine looped.next (send ▸ looped.send) (receive ▸ ⟨looped.receive, looped.settled⟩) ?_
        (congrArg Ikcp.ReceiveSide.rcvWnd receive)
      exact ⟨congrArg Ikcp.SendSide.conv send, congrArg Ikcp.SendSide.mtu send, congrArg Ikcp.SendSide.sndWnd send,
        congrArg Ikcp.SendSide.stream send⟩

theorem Holds.sent (holds : Holds conversation config kcp) (data : Bytes) :
    Holds conversation config (kcp.send data).1 := by
  have receive := Ikcp.send_receiveSide kcp data
  refine holds.next (Ikcp.send_keeps holds.send data) (receive ▸ ⟨holds.receive, holds.settled⟩) ?_
    (congrArg Ikcp.ReceiveSide.rcvWnd receive)
  rw [Ikcp.send]
  dsimp only
  split
  · exact ⟨rfl, rfl, rfl, rfl⟩
  · split <;> exact ⟨rfl, rfl, rfl, rfl⟩

theorem Holds.update (holds : Holds conversation config kcp) (nowMs : UInt32) :
    Holds conversation config (kcp.update nowMs).1 := by
  have updated := Ikcp.update_updated holds.send nowMs
  have receive := updated.receiveSide
  refine holds.next (updated.keeps holds.send) (receive ▸ ⟨holds.receive, holds.settled⟩) ?_
    (congrArg Ikcp.ReceiveSide.rcvWnd receive)
  generalize (kcp.update nowMs).1 = after, (kcp.update nowMs).2 = datagrams at updated
  cases updated with
  | quiet => exact ⟨rfl, rfl, rfl, rfl⟩
  | flushed due flushed =>
    obtain ⟨conv, mtu, -, stream, -, sndWnd⟩ := (@Ikcp.numbered_numbered (kcp.ticked nowMs) holds.send).fixed
    rw [← flushed.sendSide] at conv mtu stream sndWnd
    exact ⟨conv, mtu, sndWnd, stream⟩

/-- What holds of a peer's control block, if it has one. -/
def Keeps (conversation : UInt32) (config : KcpConfig) (peer : KcpPeer) : Prop :=
  ∀ kcp ∈ peer.handle, Holds conversation config kcp

theorem create_keeps (conversation : UInt32) (config : KcpConfig) :
    Keeps conversation config (create conversation config) := by
  intro kcp held
  rw [create] at held
  split at held
  · cases held
  · rename_i valid
    split at held
    · cases held
    · rename_i applied
      cases held
      exact applyConfig_holds valid applied

/-! What a call makes of the control block. -/

section
variable {peer : KcpPeer}

theorem call_none (handle : peer.handle = none) (call : Call) : (peer.call call).1.handle = none := by
  cases call <;> simp only [KcpPeer.call, send, input, update, receive, consumeOutgoingDatagrams, handle, setError]

theorem send_handle (handle : peer.handle = some kcp) (payload : Bytes) :
    ((peer.send payload).1.handle = some kcp ∧ (peer.send payload).2 ≠ .none) ∨
    ((peer.send payload).1.handle = some (kcp.send payload).1 ∧ payload ≠ [] ∧
      ((peer.send payload).2 = .none ↔ 0 ≤ (kcp.send payload).2)) := by
  simp only [send, handle]
  split
  · exact .inl ⟨handle, KcpPeerErrorCode.noConfusion⟩
  · rename_i some
    split
    · exact .inl ⟨handle, KcpPeerErrorCode.noConfusion⟩
    · split
      · rename_i below
        exact .inr ⟨rfl, some, KcpPeerErrorCode.noConfusion, fun least => absurd below (not_lt.mpr least)⟩
      · rename_i least
        exact .inr ⟨rfl, some, fun _ => not_lt.mp least, fun _ => rfl⟩

theorem input_handle (handle : peer.handle = some kcp) {datagram : Bytes} (some : datagram ≠ []) :
    (peer.input datagram).1.handle = .some (kcp.input datagram).1 := by
  simp only [input, handle, if_neg some]
  split <;> rfl

theorem update_handle (handle : peer.handle = some kcp) (nowMs : UInt32) :
    (peer.update nowMs).1.handle = some (kcp.update nowMs).1 := by
  simp only [update, handle]

/-- Receiving reads a message, or fails. -/
theorem receive_handle (handle : peer.handle = some kcp) : ∃ after result, Ikcp.Received kcp after result ∧
    peer.receive.1.handle = some after ∧
    ((∃ code, result = .error code) ∧ peer.receive.2.1 ≠ .none ∨ ∃ payload, result = .ok payload ∧
      peer.receive.2 = (.none, payload)) := by
  simp only [receive, handle]
  split
  · exact ⟨kcp, .error (-1), .failed _, handle, .inl ⟨⟨_, rfl⟩, KcpPeerErrorCode.noConfusion⟩⟩
  · rename_i size whole
    have received := Ikcp.recv_received kcp size
    split
    · rename_i mid code ended
      rw [ended] at received
      exact ⟨mid, .error code, received, rfl, .inl ⟨⟨_, rfl⟩, KcpPeerErrorCode.noConfusion⟩⟩
    · rename_i mid payload ended
      rw [ended] at received
      exact ⟨mid, .ok payload, received, rfl, .inr ⟨payload, rfl, rfl⟩⟩

theorem send_pending (peer : KcpPeer) (payload : Bytes) :
    (peer.send payload).1.pendingDatagrams = peer.pendingDatagrams := by
  rw [send]
  split
  · rfl
  · split
    · rfl
    · split
      · rfl
      · dsimp only
        split <;> rfl

theorem input_pending (peer : KcpPeer) (datagram : Bytes) :
    (peer.input datagram).1.pendingDatagrams = peer.pendingDatagrams := by
  rw [input]
  split
  · rfl
  · split
    · rfl
    · dsimp only
      split <;> rfl

theorem receive_pending (peer : KcpPeer) : peer.receive.1.pendingDatagrams = peer.pendingDatagrams := by
  rw [receive]
  split
  · rfl
  · split
    · rfl
    · split <;> rfl

/-- An update adds the datagrams that its control block outputs. -/
theorem update_pending (handle : peer.handle = some kcp) (nowMs : UInt32) :
    (peer.update nowMs).1.pendingDatagrams = peer.pendingDatagrams ++ (kcp.update nowMs).2.map datagramBytes := by
  simp only [update, handle]

theorem update_none (handle : peer.handle = none) (nowMs : UInt32) :
    (peer.update nowMs).1.pendingDatagrams = peer.pendingDatagrams := by
  simp only [update, handle]
  rfl

end

theorem Holds.received {result : Except Int Bytes} (holds : Holds conversation config kcp)
    (received : Ikcp.Received kcp after result) : Holds conversation config after := by
  have send := received.sendSide
  refine holds.next (send ▸ holds.send) (received.keeps holds.receive holds.settled) ?_ ?_
  · exact ⟨congrArg Ikcp.SendSide.conv send, congrArg Ikcp.SendSide.mtu send, congrArg Ikcp.SendSide.sndWnd send,
      congrArg Ikcp.SendSide.stream send⟩
  · cases received with
    | failed code => rfl
    | message some whole taken send receive =>
      have moved := congrArg Ikcp.ReceiveSide.rcvWnd receive
      rw [taken] at moved
      exact moved.trans (moveReady_rcvWnd _ _)

theorem call_keeps {peer : KcpPeer} (keeps : Keeps conversation config peer) (call : Call) :
    Keeps conversation config (peer.call call).1 := by
  cases handle : peer.handle with
  | none =>
    intro kcp held
    rw [call_none handle call] at held
    cases held
  | some kcp =>
    have holds := keeps kcp handle
    intro after held
    cases call with
    | send payload =>
      rcases send_handle handle payload with ⟨same, -⟩ | ⟨sent, -, -⟩
      · exact Option.some_inj.mp (same.symm.trans held) ▸ holds
      · exact Option.some_inj.mp (sent.symm.trans held) ▸ holds.sent payload
    | input datagram =>
      by_cases some : datagram = []
      · simp only [KcpPeer.call, input, handle, if_pos some] at held
        exact keeps after held
      · exact Option.some_inj.mp ((input_handle handle some).symm.trans held) ▸ holds.input datagram
    | update nowMs => exact Option.some_inj.mp ((update_handle handle nowMs).symm.trans held) ▸ holds.update nowMs
    | receive =>
      obtain ⟨mid, result, received, next, -⟩ := receive_handle handle
      exact Option.some_inj.mp (next.symm.trans held) ▸ holds.received received
    | consumeOutgoingDatagrams => exact keeps after held

theorem run_keeps (conversation : UInt32) (config : KcpConfig) (calls : List Call) :
    Keeps conversation config (machine.run (create conversation config) calls).1 :=
  @Machine.run_invariant _ _ _ machine (fun _ _ => True) (Keeps conversation config)
    (fun _ call keeps _ => call_keeps keeps call) _ calls (create_keeps conversation config) (Machine.along_true _ calls)

/-- Whatever is sent to a peer and called on it, its buffers are bounded by the configured windows, its counters
count them, and what waits in the receive buffer is inside the window, in order and without repetitions. -/
theorem buffers_bounded (conversation : UInt32) (config : KcpConfig) (calls : List Call)
    (held : (machine.run (create conversation config) calls).1.handle = some kcp) :
    (kcp.rcvQueue.length ≤ max config.rcvwnd.toNat 128 ∧ kcp.rcvBuf.length ≤ max config.rcvwnd.toNat 128 ∧
      kcp.sndBuf.length ≤ config.sndwnd.toNat) ∧
    (kcp.nrcvQue.toNat = kcp.rcvQueue.length ∧ kcp.nrcvBuf.toNat = kcp.rcvBuf.length ∧
      kcp.nsndBuf.toNat = kcp.sndBuf.length) ∧
    kcp.rcvBuf.Pairwise (Ikcp.Before kcp.rcvNxt) ∧
    (∀ seg ∈ kcp.rcvBuf, Serial.offset kcp.rcvNxt seg.sn < max config.rcvwnd.toNat 128) ∧
    Serial.offset kcp.sndUna kcp.sndNxt ≤ config.sndwnd.toNat := by
  have holds := run_keeps conversation config calls kcp held
  have receiveWidth : kcp.rcvWnd.toNat = max config.rcvwnd.toNat 128 := by
    rw [holds.rcvWnd, max_toNat]
    rfl
  have queue : kcp.rcvQueue.length ≤ kcp.rcvWnd.toNat := holds.receive.bounded
  have buffer : kcp.rcvBuf.length ≤ kcp.rcvWnd.toNat := holds.receive.buffered
  have sent : (kcp.sndBuf.map Ikcp.content).length ≤ kcp.sndWnd.toNat := holds.send.buffered
  have narrow : kcp.rcvWnd.toNat < 2 ^ 31 := holds.receive.narrow
  have sendNarrow : kcp.sndWnd.toNat < 2 ^ 31 := holds.send.narrow
  have counted : kcp.nrcvBuf = .ofNat kcp.rcvBuf.length := holds.receive.counted
  have sendCounted : kcp.nsndBuf = .ofNat (kcp.sndBuf.map Ikcp.content).length := holds.send.counted
  have inflight : Serial.offset kcp.sndUna kcp.sndNxt ≤ kcp.sndWnd.toNat := holds.send.inflight
  rw [List.length_map] at sent sendCounted
  rw [← receiveWidth, ← holds.sndWnd]
  refine ⟨⟨queue, buffer, sent⟩, ⟨holds.receive.queued, ?_, ?_⟩, holds.receive.sorted, holds.receive.within, inflight⟩
  · rw [counted, UInt32.toNat_ofNat']
    omega
  · rw [sendCounted, UInt32.toNat_ofNat']
    omega

/-- A datagram with the push numbered 3, while 0 is expected. -/
def earlyPush : Bytes := [7, 0, 0, 0, 81, 0, 128, 0, 0, 0, 0, 0, 3, 0, 0, 0, 0, 0, 0, 0, 1, 0, 0, 0, 5]

theorem buffers_bounded_push : ∃ kcp, (machine.run (create 7 {}) [.input earlyPush]).1.handle = some kcp ∧
    kcp.nrcvBuf.toNat = kcp.rcvBuf.length := by
  have alive : (machine.run (create 7 {}) [.input earlyPush]).1.handle.isSome = true := by decide +kernel
  refine ⟨_, (Option.some_get alive).symm, ?_⟩
  exact (buffers_bounded 7 {} [.input earlyPush] (Option.some_get alive).symm).2.1.2.1

end KcpPeer

end XServer.Net
