import XServer.Lib.Serial
import XServer.Lib.Wire

/-!
# The KCP control block

`ikcp.c`, which the Gate's KCP peers drive: a send queue and a send buffer, a receive
buffer and a receive queue, cumulative and selective acknowledgement, retransmission.
Queues are lists, head first; a segment's `len` is the length of its data. An
allocation never fails. A datagram is handed to `output` as the segments in it.
-/

namespace XServer.Net
open XServer.Lib XServer.Lib.Wire

/-- `_itimediff` -/
abbrev itimediff (later earlier : UInt32) : Int := Serial.distance later earlier

namespace Ikcp

def cmdPush : UInt32 := 81
def cmdAck : UInt32 := 82
def cmdWask : UInt32 := 83
def cmdWins : UInt32 := 84
def askSend : UInt32 := 1
def askTell : UInt32 := 2
def wndRcv : UInt32 := 128
def overhead : Nat := 24
def rtoMin : Int32 := 100
def rtoNdl : Int32 := 30
def rtoMax : UInt32 := 60000
def threshMin : UInt32 := 2
def probeInit : UInt32 := 7000
def probeLimit : UInt32 := 120000

end Ikcp

/-- `IKCPSEG` -/
structure IkcpSegment where
  conv : UInt32 := 0
  cmd : UInt32 := 0
  frg : UInt32 := 0
  wnd : UInt32 := 0
  ts : UInt32 := 0
  sn : UInt32 := 0
  una : UInt32 := 0
  resendts : UInt32 := 0
  rto : UInt32 := 0
  fastack : UInt32 := 0
  xmit : UInt32 := 0
  data : Bytes := []
  deriving DecidableEq, Repr

def IkcpSegment.wireSize (seg : IkcpSegment) : Nat := Ikcp.overhead + seg.data.length

/-- `IKCPCB` as `ikcp_create` leaves it; `acklist` holds a number and a time stamp for each acknowledgement. -/
structure Ikcp where
  conv : UInt32
  mtu : UInt32 := 1400
  mss : UInt32 := 1376
  state : UInt32 := 0
  sndUna : UInt32 := 0
  sndNxt : UInt32 := 0
  rcvNxt : UInt32 := 0
  ssthresh : UInt32 := 2
  rxRttval : Int32 := 0
  rxSrtt : Int32 := 0
  rxRto : Int32 := 200
  rxMinrto : Int32 := 100
  sndWnd : UInt32 := 32
  rcvWnd : UInt32 := 128
  rmtWnd : UInt32 := 128
  cwnd : UInt32 := 0
  probe : UInt32 := 0
  current : UInt32 := 0
  interval : UInt32 := 100
  tsFlush : UInt32 := 100
  xmit : UInt32 := 0
  nrcvBuf : UInt32 := 0
  nsndBuf : UInt32 := 0
  nrcvQue : UInt32 := 0
  nsndQue : UInt32 := 0
  nodelay : UInt32 := 0
  updated : UInt32 := 0
  tsProbe : UInt32 := 0
  probeWait : UInt32 := 0
  deadLink : UInt32 := 20
  incr : UInt32 := 0
  sndQueue : List IkcpSegment := []
  rcvQueue : List IkcpSegment := []
  sndBuf : List IkcpSegment := []
  rcvBuf : List IkcpSegment := []
  acklist : List (UInt32 × UInt32) := []
  fastresend : Int32 := 0
  fastlimit : Int32 := 5
  nocwnd : Int32 := 0
  stream : Int32 := 0
  deriving DecidableEq, Repr

namespace Ikcp

/-! ## Receiving -/

/-- The fragments up to the first one numbered 0, and what follows them. -/
def takeMessage : List IkcpSegment → List IkcpSegment × List IkcpSegment
  | [] => ([], [])
  | seg :: rest => if seg.frg = 0 then ([seg], rest) else (seg :: (takeMessage rest).1, (takeMessage rest).2)

def messageData (segs : List IkcpSegment) : Bytes := segs.flatMap IkcpSegment.data

/-- `ikcp_peeksize`; below zero is `none`. -/
def peeksize (kcp : Ikcp) : Option Nat :=
  match kcp.rcvQueue with
  | [] => none
  | seg :: _ =>
    if seg.frg = 0 then some seg.data.length
    else if kcp.nrcvQue < seg.frg + 1 then none
    else some (messageData (takeMessage kcp.rcvQueue).1).length

/-- The loop that moves what is next in the receive buffer, whose segments these are, to the receive queue. -/
def moveReady : List IkcpSegment → Ikcp → Ikcp
  | [], kcp => { kcp with rcvBuf := [] }
  | seg :: rest, kcp =>
    if seg.sn = kcp.rcvNxt ∧ kcp.nrcvQue < kcp.rcvWnd then
      moveReady rest { kcp with
        nrcvBuf := kcp.nrcvBuf - 1, rcvQueue := kcp.rcvQueue ++ [seg], nrcvQue := kcp.nrcvQue + 1
        rcvNxt := kcp.rcvNxt + 1 }
    else { kcp with rcvBuf := seg :: rest }

/-- `ikcp_recv` into a buffer of `len` bytes. -/
def recv (kcp : Ikcp) (len : Nat) : Ikcp × Except Int Bytes :=
  if kcp.rcvQueue = [] then (kcp, .error (-1))
  else
    match kcp.peeksize with
    | none => (kcp, .error (-2))
    | some size =>
      if len < size then (kcp, .error (-3))
      else
        let recover := kcp.rcvWnd ≤ kcp.nrcvQue
        let message := takeMessage kcp.rcvQueue
        let kcp := { kcp with rcvQueue := message.2, nrcvQue := kcp.nrcvQue - .ofNat message.1.length }
        let kcp := moveReady kcp.rcvBuf kcp
        (if kcp.nrcvQue < kcp.rcvWnd ∧ recover then { kcp with probe := kcp.probe ||| askTell } else kcp,
          .ok (messageData message.1))

/-! ## Sending -/

/-- The fragments of `data`, of `mss` bytes each but the last, numbered down to 0. -/
def fragments (mss : Nat) (stream : Bool) : Nat → Bytes → List IkcpSegment
  | 0, _ => []
  | count + 1, data =>
    { data := data.take mss, frg := if stream = true then 0 else .ofNat count } ::
      fragments mss stream count (data.drop mss)

/-- The queue whose last segment takes as many of the bytes as it has room for, and how many these are. -/
def extendLast (mss : Nat) (queue : List IkcpSegment) (data : Bytes) : List IkcpSegment × Nat :=
  match queue.getLast? with
  | none => (queue, 0)
  | some old =>
    if old.data.length < mss then
      let extend := min data.length (mss - old.data.length)
      (queue.dropLast ++ [{ data := old.data ++ data.take extend, frg := 0 }], extend)
    else (queue, 0)

/-- In stream mode the last segment of the queue is filled first. -/
def fillLast (kcp : Ikcp) (data : Bytes) : List IkcpSegment × Nat :=
  if kcp.stream ≠ 0 then extendLast kcp.mss.toNat kcp.sndQueue data else (kcp.sndQueue, 0)

/-- How many segments so many bytes take. -/
def fragmentCount (mss len : Nat) : Nat := if len ≤ mss then 1 else (len + mss - 1) / mss

/-- `ikcp_send`; the result is the number of bytes queued, or below zero. -/
def send (kcp : Ikcp) (data : Bytes) : Ikcp × Int :=
  let sent := (kcp.fillLast data).2
  let rest := data.drop sent
  let kcp := { kcp with sndQueue := (kcp.fillLast data).1 }
  if kcp.stream ≠ 0 ∧ rest.length = 0 then (kcp, sent)
  else
    let count := fragmentCount kcp.mss.toNat rest.length
    if wndRcv.toNat ≤ count then (kcp, if kcp.stream ≠ 0 ∧ 0 < sent then sent else -2)
    else
      ({ kcp with
         sndQueue := kcp.sndQueue ++ fragments kcp.mss.toNat (kcp.stream ≠ 0) count rest
         nsndQue := kcp.nsndQue + .ofNat count }, data.length)

/-! ## Acknowledgements -/

/-- `ikcp_update_ack` -/
def updateAck (kcp : Ikcp) (rtt : Int32) : Ikcp :=
  let smoothed : Int32 × Int32 :=
    if kcp.rxSrtt = 0 then (rtt, rtt / 2)
    else
      let delta := if rtt - kcp.rxSrtt < 0 then -(rtt - kcp.rxSrtt) else rtt - kcp.rxSrtt
      let srtt := (7 * kcp.rxSrtt + rtt) / 8
      (if srtt < 1 then 1 else srtt, (3 * kcp.rxRttval + delta) / 4)
  let rto := smoothed.1.toUInt32 + max kcp.interval (4 * smoothed.2).toUInt32
  { kcp with
    rxSrtt := smoothed.1, rxRttval := smoothed.2
    rxRto := (min (max kcp.rxMinrto.toUInt32 rto) rtoMax).toInt32 }

/-- `ikcp_shrink_buf` -/
def shrinkBuf (kcp : Ikcp) : Ikcp :=
  match kcp.sndBuf with
  | [] => { kcp with sndUna := kcp.sndNxt }
  | seg :: _ => { kcp with sndUna := seg.sn }

/-- The loop of `ikcp_parse_ack`. -/
def removeAcked (sn : UInt32) : List IkcpSegment → List IkcpSegment
  | [] => []
  | seg :: rest =>
    if sn = seg.sn then rest else if itimediff sn seg.sn < 0 then seg :: rest else seg :: removeAcked sn rest

/-- `ikcp_parse_ack` -/
def parseAck (kcp : Ikcp) (sn : UInt32) : Ikcp :=
  if itimediff sn kcp.sndUna < 0 ∨ 0 ≤ itimediff sn kcp.sndNxt then kcp
  else
    let left := removeAcked sn kcp.sndBuf
    { kcp with sndBuf := left, nsndBuf := kcp.nsndBuf - .ofNat (kcp.sndBuf.length - left.length) }

/-- `ikcp_parse_una` -/
def parseUna (kcp : Ikcp) (una : UInt32) : Ikcp :=
  let left := kcp.sndBuf.dropWhile fun seg => 0 < itimediff una seg.sn
  { kcp with sndBuf := left, nsndBuf := kcp.nsndBuf - .ofNat (kcp.sndBuf.length - left.length) }

/-- The loop of `ikcp_parse_fastack`. -/
def countSkipped (sn ts : UInt32) : List IkcpSegment → List IkcpSegment
  | [] => []
  | seg :: rest =>
    if itimediff sn seg.sn < 0 then seg :: rest
    else if sn ≠ seg.sn ∧ 0 ≤ itimediff ts seg.ts then { seg with fastack := seg.fastack + 1 } :: countSkipped sn ts rest
    else seg :: countSkipped sn ts rest

/-- `ikcp_parse_fastack` -/
def parseFastack (kcp : Ikcp) (sn ts : UInt32) : Ikcp :=
  if itimediff sn kcp.sndUna < 0 ∨ 0 ≤ itimediff sn kcp.sndNxt then kcp
  else { kcp with sndBuf := countSkipped sn ts kcp.sndBuf }

/-! ## Input -/

/-- The search for the place of a new segment, from the tail of the receive buffer: the buffer with it, or
`none` for a repetition. -/
def placeFromTail (newseg : IkcpSegment) : List IkcpSegment → Option (List IkcpSegment)
  | [] => some [newseg]
  | seg :: before =>
    if seg.sn = newseg.sn then none
    else if 0 < itimediff newseg.sn seg.sn then some (newseg :: seg :: before)
    else (placeFromTail newseg before).map (seg :: ·)

/-- `ikcp_parse_data` -/
def parseData (kcp : Ikcp) (newseg : IkcpSegment) : Ikcp :=
  if 0 ≤ itimediff newseg.sn (kcp.rcvNxt + kcp.rcvWnd) ∨ itimediff newseg.sn kcp.rcvNxt < 0 then kcp
  else
    match placeFromTail newseg kcp.rcvBuf.reverse with
    | none => moveReady kcp.rcvBuf kcp
    | some placed => moveReady placed.reverse { kcp with nrcvBuf := kcp.nrcvBuf + 1 }

/-- The next segment of a datagram and what follows it; an error is the result of `ikcp_input`. -/
def readSegment (conv : UInt32) (data : Bytes) : Except Int (IkcpSegment × Bytes) :=
  let field (offset size : Nat) : Nat := ofLittleEndian ((data.drop offset).take size)
  let len := field 20 4
  let cmd : UInt32 := .ofNat (field 4 1)
  if UInt32.ofNat (field 0 4) ≠ conv then .error (-1)
  else if data.length - overhead < len ∨ 2 ^ 31 ≤ len then .error (-2)
  else if cmd ≠ cmdPush ∧ cmd ≠ cmdAck ∧ cmd ≠ cmdWask ∧ cmd ≠ cmdWins then .error (-3)
  else
    .ok ({ conv, cmd, frg := .ofNat (field 5 1), wnd := .ofNat (field 6 2), ts := .ofNat (field 8 4)
           sn := .ofNat (field 12 4), una := .ofNat (field 16 4), data := (data.drop overhead).take len },
      (data.drop overhead).drop len)

/-- The latest acknowledgement of a datagram that counts for fast retransmission: `maxack` and `latest_ts`. -/
abbrev Maxack : Type := Option (UInt32 × UInt32)

def Maxack.note (maxack : Maxack) (sn ts : UInt32) : Maxack :=
  match maxack with
  | none => some (sn, ts)
  | some (highest, latest) =>
    if 0 < itimediff sn highest ∧ 0 < itimediff ts latest then some (sn, ts) else some (highest, latest)

/-- What every segment of a datagram does: the peer's window and its cumulative acknowledgement. -/
def inputUna (kcp : Ikcp) (seg : IkcpSegment) : Ikcp :=
  (({ kcp with rmtWnd := seg.wnd } : Ikcp).parseUna seg.una).shrinkBuf

/-- What a round of the loop of `ikcp_input` does with the segment it has read. -/
def inputSegment (kcp : Ikcp) (maxack : Maxack) (seg : IkcpSegment) : Ikcp × Maxack :=
  let kcp := kcp.inputUna seg
  if seg.cmd = cmdAck then
    let kcp := if 0 ≤ itimediff kcp.current seg.ts then kcp.updateAck (kcp.current - seg.ts).toInt32 else kcp
    ((kcp.parseAck seg.sn).shrinkBuf, maxack.note seg.sn seg.ts)
  else if seg.cmd = cmdPush then
    if itimediff seg.sn (kcp.rcvNxt + kcp.rcvWnd) < 0 then
      let kcp := { kcp with acklist := kcp.acklist ++ [(seg.sn, seg.ts)] }
      if 0 ≤ itimediff seg.sn kcp.rcvNxt then (kcp.parseData seg, maxack) else (kcp, maxack)
    else (kcp, maxack)
  else if seg.cmd = cmdWask then ({ kcp with probe := kcp.probe ||| askTell }, maxack)
  else (kcp, maxack)

/-- The loop of `ikcp_input`, of so many rounds at most. -/
def inputLoop : Nat → Ikcp → Maxack → Bytes → Ikcp × Maxack × Int
  | 0, kcp, maxack, _ => (kcp, maxack, 0)
  | rounds + 1, kcp, maxack, data =>
    if data.length < overhead then (kcp, maxack, 0)
    else
      match readSegment kcp.conv data with
      | .error code => (kcp, maxack, code)
      | .ok (seg, rest) =>
        let next := kcp.inputSegment maxack seg
        inputLoop rounds next.1 next.2 rest

/-- `cwnd` and `incr` after an acknowledgement that moved `snd_una`. -/
def grownCwnd (kcp : Ikcp) : UInt32 × UInt32 :=
  if kcp.cwnd < kcp.rmtWnd then
    let grown : UInt32 × UInt32 :=
      if kcp.cwnd < kcp.ssthresh then (kcp.cwnd + 1, kcp.incr + kcp.mss)
      else
        let incr := if kcp.incr < kcp.mss then kcp.mss else kcp.incr
        let incr := incr + (kcp.mss * kcp.mss / incr + kcp.mss / 16)
        if (kcp.cwnd + 1) * kcp.mss ≤ incr then
          ((incr + kcp.mss - 1) / (if 0 < kcp.mss then kcp.mss else 1), incr)
        else (kcp.cwnd, incr)
    if kcp.rmtWnd < grown.1 then (kcp.rmtWnd, kcp.rmtWnd * kcp.mss) else grown
  else (kcp.cwnd, kcp.incr)

def growCwnd (kcp : Ikcp) : Ikcp := { kcp with cwnd := kcp.grownCwnd.1, incr := kcp.grownCwnd.2 }

/-- The acknowledgement that counts for fast retransmission is counted, if there is one. -/
def noteFastack (kcp : Ikcp) : Maxack → Ikcp
  | none => kcp
  | some (sn, ts) => kcp.parseFastack sn ts

/-- What `ikcp_input` does after its loop. -/
def finishInput (kcp : Ikcp) (prevUna : UInt32) (maxack : Maxack) : Ikcp :=
  let kcp := kcp.noteFastack maxack
  if 0 < itimediff kcp.sndUna prevUna then kcp.growCwnd else kcp

/-- `ikcp_input` of a datagram shorter than 2^31 bytes. Every round of its loop takes 24 bytes at least. -/
def input (kcp : Ikcp) (data : Bytes) : Ikcp × Int :=
  if data.length < overhead then (kcp, -1)
  else
    let looped := inputLoop data.length kcp none data
    if looped.2.2 ≠ 0 then (looped.1, looped.2.2) else (looped.1.finishInput kcp.sndUna looped.2.1, 0)

/-! ## Flushing -/

/-- `ikcp_encode_seg` and the data behind it. -/
def encodeSeg (seg : IkcpSegment) : Bytes :=
  littleEndian 4 seg.conv.toNat ++ (littleEndian 1 (seg.cmd.toNat % 256) ++ (littleEndian 1 (seg.frg.toNat % 256) ++
    (littleEndian 2 (seg.wnd.toNat % 65536) ++ (littleEndian 4 seg.ts.toNat ++ (littleEndian 4 seg.sn.toNat ++
    (littleEndian 4 seg.una.toNat ++ (littleEndian 4 seg.data.length ++ seg.data)))))))

/-- The segments written to the buffer since `ptr` was last reset to its start, and the datagrams before them. -/
structure Outbox where
  buffer : List IkcpSegment := []
  datagrams : List (List IkcpSegment) := []
  deriving DecidableEq, Repr

/-- How much of the buffer is written. -/
def bufferSize (buffer : List IkcpSegment) : Nat := (buffer.map IkcpSegment.wireSize).sum

/-- `ikcp_output` of the buffer; an empty one is not handed on. -/
def Outbox.output (outbox : Outbox) : Outbox :=
  if bufferSize outbox.buffer = 0 then { outbox with buffer := [] }
  else { buffer := [], datagrams := outbox.datagrams ++ [outbox.buffer] }

/-- A segment goes to the buffer, which is handed on before if the segment does not fit. -/
def Outbox.put (mtu : UInt32) (seg : IkcpSegment) (outbox : Outbox) : Outbox :=
  let outbox := if mtu.toNat < bufferSize outbox.buffer + seg.wireSize then outbox.output else outbox
  { outbox with buffer := outbox.buffer ++ [seg] }

/-- `ikcp_wnd_unused` -/
def wndUnused (kcp : Ikcp) : UInt32 := if kcp.nrcvQue < kcp.rcvWnd then kcp.rcvWnd - kcp.nrcvQue else 0

/-- The segment without data that carries an acknowledgement or a command. -/
def control (kcp : Ikcp) (cmd sn ts : UInt32) : IkcpSegment :=
  { conv := kcp.conv, cmd, wnd := kcp.wndUnused, una := kcp.rcvNxt, sn, ts }

def flushAcks (kcp : Ikcp) : Outbox :=
  kcp.acklist.foldl (fun outbox ack => outbox.put kcp.mtu (kcp.control cmdAck ack.1 ack.2)) {}

/-- The interval of the next probe of a closed window. -/
def nextProbeWait (kcp : Ikcp) : UInt32 :=
  let wait := if kcp.probeWait < probeInit then probeInit else kcp.probeWait
  let wait := wait + wait / 2
  if probeLimit < wait then probeLimit else wait

/-- `ts_probe`, `probe_wait` and `probe` after the window of the peer was looked at. -/
def probing (kcp : Ikcp) : UInt32 × UInt32 × UInt32 :=
  if kcp.rmtWnd = 0 then
    if kcp.probeWait = 0 then (kcp.current + probeInit, probeInit, kcp.probe)
    else if 0 ≤ itimediff kcp.current kcp.tsProbe then
      (kcp.current + kcp.nextProbeWait, kcp.nextProbeWait, kcp.probe ||| askSend)
    else (kcp.tsProbe, kcp.probeWait, kcp.probe)
  else (0, 0, kcp.probe)

def probeWindow (kcp : Ikcp) : Ikcp :=
  { kcp with tsProbe := kcp.probing.1, probeWait := kcp.probing.2.1, probe := kcp.probing.2.2 }

/-- The commands that `probe` asks for. They keep the number and time stamp of the last acknowledgement. -/
def flushProbes (kcp : Ikcp) (outbox : Outbox) : Outbox :=
  let last := kcp.acklist.getLast?.getD (0, 0)
  let outbox := if kcp.probe &&& askSend ≠ 0 then outbox.put kcp.mtu (kcp.control cmdWask last.1 last.2) else outbox
  if kcp.probe &&& askTell ≠ 0 then outbox.put kcp.mtu (kcp.control cmdWins last.1 last.2) else outbox

/-- The loop that numbers segments of the send queue, which these are, and moves them to the send buffer. -/
def number (wnd cwnd : UInt32) : List IkcpSegment → Ikcp → Ikcp
  | [], kcp => { kcp with sndQueue := [] }
  | seg :: rest, kcp =>
    if itimediff kcp.sndNxt (kcp.sndUna + cwnd) < 0 then
      let newseg := { seg with
        conv := kcp.conv, cmd := cmdPush, wnd, ts := kcp.current, sn := kcp.sndNxt, una := kcp.rcvNxt
        resendts := kcp.current, rto := kcp.rxRto.toUInt32, fastack := 0, xmit := 0 }
      number wnd cwnd rest { kcp with
        sndBuf := kcp.sndBuf ++ [newseg], nsndQue := kcp.nsndQue - 1, nsndBuf := kcp.nsndBuf + 1
        sndNxt := kcp.sndNxt + 1 }
    else { kcp with sndQueue := seg :: rest }

/-- The number of newer acknowledgements after which a segment is sent again. -/
def resent (kcp : Ikcp) : UInt32 := if 0 < kcp.fastresend then kcp.fastresend.toUInt32 else 0xffffffff

def rtomin (kcp : Ikcp) : UInt32 := if kcp.nodelay = 0 then (kcp.rxRto >>> 3).toUInt32 else 0

/-- Why a segment of the send buffer is sent. -/
inductive Needsend where
  | first
  | timeout
  | fastack
  deriving DecidableEq, Repr

def needsend (kcp : Ikcp) (seg : IkcpSegment) : Option Needsend :=
  if seg.xmit = 0 then some .first
  else if 0 ≤ itimediff kcp.current seg.resendts then some .timeout
  else if kcp.resent ≤ seg.fastack ∧ (seg.xmit.toInt32 ≤ kcp.fastlimit ∨ kcp.fastlimit ≤ 0) then some .fastack
  else none

/-- The counters of a segment that is sent. -/
def retimed (kcp : Ikcp) (seg : IkcpSegment) : Needsend → IkcpSegment
  | .first =>
    { seg with
      xmit := seg.xmit + 1, rto := kcp.rxRto.toUInt32, resendts := kcp.current + kcp.rxRto.toUInt32 + kcp.rtomin }
  | .timeout =>
    let rto :=
      if kcp.nodelay = 0 then seg.rto + max seg.rto kcp.rxRto.toUInt32
      else seg.rto + ((if kcp.nodelay.toInt32 < 2 then seg.rto.toInt32 else kcp.rxRto) / 2).toUInt32
    { seg with xmit := seg.xmit + 1, rto, resendts := kcp.current + rto }
  | .fastack => { seg with xmit := seg.xmit + 1, fastack := 0, resendts := kcp.current + seg.rto }

/-- A segment as it is sent. -/
def sentAs (kcp : Ikcp) (wnd : UInt32) (seg : IkcpSegment) (reason : Needsend) : IkcpSegment :=
  { kcp.retimed seg reason with ts := kcp.current, wnd, una := kcp.rcvNxt }

/-- What the loop over the send buffer has written and counted. -/
structure Flushing where
  outbox : Outbox
  xmit : UInt32
  state : UInt32
  change : Nat := 0
  lost : Bool := false

/-- The loop over the send buffer; its segments afterwards. -/
def flushData (kcp : Ikcp) (wnd : UInt32) : List IkcpSegment → Flushing → List IkcpSegment × Flushing
  | [], flushing => ([], flushing)
  | seg :: rest, flushing =>
    match kcp.needsend seg with
    | none =>
      let tail := flushData kcp wnd rest flushing
      (seg :: tail.1, tail.2)
    | some reason =>
      let seg := kcp.sentAs wnd seg reason
      let tail := flushData kcp wnd rest {
        outbox := flushing.outbox.put kcp.mtu seg
        xmit := if reason = .timeout then flushing.xmit + 1 else flushing.xmit
        state := if kcp.deadLink ≤ seg.xmit then 0xffffffff else flushing.state
        change := if reason = .fastack then flushing.change + 1 else flushing.change
        lost := flushing.lost || reason == .timeout }
      (seg :: tail.1, tail.2)

/-- `ssthresh` raised to its minimum. -/
def clampThresh (ssthresh : UInt32) : UInt32 := if ssthresh < threshMin then threshMin else ssthresh

/-- `ssthresh`, `cwnd` and `incr` after a flush that used the window `cwnd`. -/
def settledCwnd (kcp : Ikcp) (resent cwnd : UInt32) (change : Nat) (lost : Bool) : UInt32 × UInt32 × UInt32 :=
  let (ssthresh, window, incr) :=
    if change ≠ 0 then
      let ssthresh := clampThresh ((kcp.sndNxt - kcp.sndUna) / 2)
      (ssthresh, ssthresh + resent, (ssthresh + resent) * kcp.mss)
    else (kcp.ssthresh, kcp.cwnd, kcp.incr)
  let (ssthresh, window, incr) := if lost = true then (clampThresh (cwnd / 2), 1, kcp.mss) else (ssthresh, window, incr)
  if window < 1 then (ssthresh, 1, kcp.mss) else (ssthresh, window, incr)

/-- The congestion window after a flush. -/
def settleCwnd (kcp : Ikcp) (resent cwnd : UInt32) (change : Nat) (lost : Bool) : Ikcp :=
  let settled := kcp.settledCwnd resent cwnd change lost
  { kcp with ssthresh := settled.1, cwnd := settled.2.1, incr := settled.2.2 }

/-- The window that a flush sends within. -/
def flushCwnd (kcp : Ikcp) : UInt32 :=
  let cwnd := min kcp.sndWnd kcp.rmtWnd
  if kcp.nocwnd = 0 then min kcp.cwnd cwnd else cwnd

/-- `ikcp_flush`, with the datagrams it hands to `output`. -/
def flush (kcp : Ikcp) : Ikcp × List (List IkcpSegment) :=
  if kcp.updated = 0 then (kcp, [])
  else
    let wnd := kcp.wndUnused
    let acks := kcp.flushAcks
    let kcp := kcp.probeWindow
    let outbox := kcp.flushProbes acks
    let cwnd := kcp.flushCwnd
    let kcp := number wnd cwnd kcp.sndQueue { kcp with acklist := [], probe := 0 }
    let flushed := flushData kcp wnd kcp.sndBuf { outbox, xmit := kcp.xmit, state := kcp.state }
    let kcp := { kcp with sndBuf := flushed.1, xmit := flushed.2.xmit, state := flushed.2.state }
    (kcp.settleCwnd kcp.resent cwnd flushed.2.change flushed.2.lost, flushed.2.outbox.output.datagrams)

/-- The clock at the start of `ikcp_update`. A flush time that is far away is set to now. -/
def clocked (kcp : Ikcp) (current : UInt32) : Ikcp :=
  let tsFlush := if kcp.updated = 0 then current else kcp.tsFlush
  let far := 10000 ≤ itimediff current tsFlush ∨ itimediff current tsFlush < -10000
  { kcp with
    current, updated := if kcp.updated = 0 then 1 else kcp.updated, tsFlush := if far then current else tsFlush }

/-- The time of the flush after this one. -/
def nextFlush (kcp : Ikcp) : UInt32 :=
  let tsFlush := kcp.tsFlush + kcp.interval
  if 0 ≤ itimediff kcp.current tsFlush then kcp.current + kcp.interval else tsFlush

/-- `ikcp_update` -/
def update (kcp : Ikcp) (current : UInt32) : Ikcp × List (List IkcpSegment) :=
  let kcp := kcp.clocked current
  if 0 ≤ itimediff kcp.current kcp.tsFlush then flush { kcp with tsFlush := kcp.nextFlush } else (kcp, [])

/-! ## Options -/

/-- `ikcp_setmtu` of a value that fits an `int`; a refused one is `none`. -/
def setmtu (kcp : Ikcp) (mtu : UInt32) : Option Ikcp :=
  if mtu < 50 then none else some { kcp with mtu, mss := mtu - .ofNat overhead }

/-- `ikcp_wndsize` of two positive values. -/
def wndsize (kcp : Ikcp) (sndwnd rcvwnd : UInt32) : Ikcp :=
  { kcp with sndWnd := sndwnd, rcvWnd := max rcvwnd wndRcv }

/-- `ikcp_nodelay` of values that are not negative. -/
def setNodelay (kcp : Ikcp) (nodelay interval resend nc : UInt32) : Ikcp :=
  { kcp with
    nodelay, rxMinrto := if nodelay ≠ 0 then rtoNdl else rtoMin
    interval := if 5000 < interval then 5000 else if interval < 10 then 10 else interval
    fastresend := resend.toInt32, nocwnd := nc.toInt32 }

end Ikcp

end XServer.Net
