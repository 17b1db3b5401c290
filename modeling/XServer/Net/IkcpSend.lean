import Mathlib.Data.List.TakeWhile
import XServer.Net.IkcpReceive

/-!
# The send side of a KCP control block

The send buffer holds segments of this conversation in the order of their numbers, from
`snd_una` to `snd_nxt`, and these are at most the send window apart. A flush hands on
datagrams of at most `mtu` bytes, made of the segments of the buffer and of control
segments.
-/

namespace XServer.Net
open XServer.Lib XServer.Lib.Wire

namespace Ikcp

/-- The send side is well formed. -/
structure SendSide.Ok (side : SendSide) : Prop where
  fits : side.mss.toNat + overhead = side.mtu.toNat
  positive : 0 < side.mss.toNat
  narrow : side.sndWnd.toNat < 2 ^ 31
  small : ∀ seg, seg ∈ side.sndQueue ∨ seg ∈ side.sndBuf → seg.data.length ≤ side.mss.toNat
  own : ∀ seg ∈ side.sndBuf, seg.conv = side.conv ∧ seg.cmd = cmdPush
  sorted : side.sndBuf.Pairwise (Before side.sndUna)
  within : ∀ seg ∈ side.sndBuf, Serial.offset side.sndUna seg.sn < Serial.offset side.sndUna side.sndNxt
  first : side.sndUna = (side.sndBuf.head?.map IkcpSegment.sn).getD side.sndNxt
  inflight : Serial.offset side.sndUna side.sndNxt ≤ side.sndWnd.toNat
  queued : side.nsndQue = .ofNat side.sndQueue.length
  counted : side.nsndBuf = .ofNat side.sndBuf.length

variable {kcp : Ikcp}

/-- The send buffer holds no more than the send window. -/
theorem SendSide.Ok.buffered {side : SendSide} (ok : side.Ok) : side.sndBuf.length ≤ side.sndWnd.toNat := by
  have apart : (side.sndBuf.map fun seg => Serial.offset side.sndUna seg.sn).Nodup := by
    refine List.pairwise_map.mpr (ok.sorted.imp fun {a b} before => ?_)
    exact Nat.ne_of_lt before
  have inside : (side.sndBuf.map fun seg => Serial.offset side.sndUna seg.sn) ⊆ List.range side.sndWnd.toNat := by
    intro offset listed
    obtain ⟨seg, mem, rfl⟩ := List.mem_map.mp listed
    exact List.mem_range.mpr ((ok.within seg mem).trans_le ok.inflight)
  have short := (List.subperm_of_subset apart inside).length_le
  rwa [List.length_map, List.length_range] at short

/-! ## Acknowledged segments leave -/

/-- The send side with these segments left in its buffer. -/
def SendSide.leave (side : SendSide) (left : List IkcpSegment) : SendSide :=
  { side with
    sndUna := (left.head?.map IkcpSegment.sn).getD side.sndNxt, sndBuf := left
    nsndBuf := side.nsndBuf - .ofNat (side.sndBuf.length - left.length) }

theorem SendSide.leave_ok {side : SendSide} {left : List IkcpSegment} (ok : side.Ok)
    (sublist : left.Sublist side.sndBuf) : (side.leave left).Ok := by
  -- The new first number is not before the old one and not after any that is left.
  have start : Serial.offset side.sndUna (side.leave left).sndUna ≤ Serial.offset side.sndUna side.sndNxt ∧
      ∀ seg ∈ left, Serial.offset side.sndUna (side.leave left).sndUna ≤ Serial.offset side.sndUna seg.sn := by
    cases left with
    | nil =>
      refine ⟨Nat.le_refl _, ?_⟩
      intro seg mem
      cases mem
    | cons head rest =>
      have sorted := ok.sorted.sublist sublist
      refine ⟨Nat.le_of_lt (ok.within head (sublist.subset List.mem_cons_self)), ?_⟩
      intro seg mem
      rcases List.mem_cons.mp mem with rfl | mem
      · exact Nat.le_refl _
      · exact Nat.le_of_lt ((List.pairwise_cons.mp sorted).1 seg mem)
  have last := Serial.offset_rebase start.1
  refine ⟨ok.fits, ok.positive, ok.narrow, ?_, ?_, ?_, ?_, rfl, ?_, ok.queued, ?_⟩
  · intro seg mem
    exact ok.small seg (mem.imp_right fun inside => sublist.subset inside)
  · exact fun seg mem => ok.own seg (sublist.subset mem)
  · refine (ok.sorted.sublist sublist).imp_of_mem fun {a b} inA inB before => ?_
    have fromA := Serial.offset_rebase (start.2 a inA)
    have fromB := Serial.offset_rebase (start.2 b inB)
    have atA := start.2 a inA
    rw [Before] at before ⊢
    omega
  · intro seg mem
    have here := Serial.offset_rebase (start.2 seg mem)
    have atSeg := start.2 seg mem
    have before := ok.within seg (sublist.subset mem)
    show Serial.offset (side.leave left).sndUna seg.sn < Serial.offset (side.leave left).sndUna side.sndNxt
    omega
  · have inflight := ok.inflight
    show Serial.offset (side.leave left).sndUna side.sndNxt ≤ side.sndWnd.toNat
    omega
  · have fewer := sublist.length_le
    have counted : side.nsndBuf = .ofNat (left.length + (side.sndBuf.length - left.length)) := by
      rw [ok.counted]
      congr 1
      omega
    simp only [SendSide.leave, counted, UInt32.ofNat_add]
    exact UInt32.add_sub_cancel _ _

theorem removeAcked_sublist (sn : UInt32) (buf : List IkcpSegment) : (removeAcked sn buf).Sublist buf := by
  induction buf with
  | nil => exact .slnil
  | cons seg rest ih =>
    rw [removeAcked]
    split
    · exact List.sublist_cons_self seg rest
    · split
      · exact .refl _
      · exact ih.cons_cons seg

theorem shrinkBuf_sendSide (kcp : Ikcp) : kcp.shrinkBuf.sendSide = { kcp.sendSide with
    sndUna := ((kcp.sndBuf.map content).head?.map IkcpSegment.sn).getD kcp.sndNxt } := by
  rw [shrinkBuf]
  split
  · rename_i empty
    simp only [sendSide, empty]
    rfl
  · rename_i seg rest filled
    simp only [sendSide, filled]
    rfl

/-- A buffer that loses segments, after which `snd_una` is set. -/
theorem leave_sendSide {left : List IkcpSegment} :
    (shrinkBuf { kcp with
      sndBuf := left, nsndBuf := kcp.nsndBuf - .ofNat (kcp.sndBuf.length - left.length) }).sendSide =
        kcp.sendSide.leave (left.map content) := by
  rw [shrinkBuf_sendSide]
  simp only [sendSide, SendSide.leave, List.length_map]

/-- Segments leave the buffer, all of them with numbers that are acknowledged. -/
inductive Acked (side : SendSide) (acknowledged : UInt32 → Prop) : SendSide → Prop where
  | leave {left : List IkcpSegment} (sublist : left.Sublist side.sndBuf)
      (gone : ∀ seg ∈ side.sndBuf, seg ∉ left → acknowledged seg.sn) : Acked side acknowledged (side.leave left)

theorem Acked.of_content {acknowledged : UInt32 → Prop} {left : List IkcpSegment} (sublist : left.Sublist kcp.sndBuf)
    (gone : ∀ seg ∈ kcp.sndBuf, seg ∉ left → acknowledged seg.sn) :
    Acked kcp.sendSide acknowledged (kcp.sendSide.leave (left.map content)) := by
  refine .leave (sublist.map content) ?_
  intro seg mem out
  obtain ⟨original, inside, rfl⟩ := List.mem_map.mp mem
  exact gone original inside fun stays => out (List.mem_map_of_mem stays)

theorem parseUna_acked (kcp : Ikcp) (una : UInt32) :
    Acked kcp.sendSide (fun n => 0 < itimediff una n) (kcp.parseUna una).shrinkBuf.sendSide := by
  rw [parseUna, leave_sendSide]
  refine .of_content (List.dropWhile_sublist _) ?_
  intro seg mem out
  rw [← List.takeWhile_append_dropWhile (p := fun seg : IkcpSegment => 0 < itimediff una seg.sn) (l := kcp.sndBuf)] at mem
  rcases List.mem_append.mp mem with taken | stays
  · have acknowledged := List.mem_takeWhile_imp taken
    exact of_decide_eq_true acknowledged
  · exact absurd stays out

theorem removeAcked_gone {sn : UInt32} {buf : List IkcpSegment} {seg : IkcpSegment} (mem : seg ∈ buf)
    (out : seg ∉ removeAcked sn buf) : seg.sn = sn := by
  induction buf with
  | nil => cases mem
  | cons head rest ih =>
    rw [removeAcked] at out
    split at out
    · rename_i same
      rcases List.mem_cons.mp mem with rfl | mem
      · exact same.symm
      · exact absurd mem out
    · split at out
      · exact absurd mem out
      · rw [List.mem_cons, not_or] at out
        rcases List.mem_cons.mp mem with same | mem
        · exact absurd same out.1
        · exact ih mem out.2

theorem parseAck_acked (kcp : Ikcp) (sn : UInt32) :
    Acked kcp.sendSide (fun n => n = sn) (kcp.parseAck sn).shrinkBuf.sendSide := by
  rw [parseAck]
  split
  · have same : kcp.shrinkBuf.sendSide = kcp.sendSide.leave (kcp.sndBuf.map content) := by
      have none : UInt32.ofNat 0 = 0 := rfl
      rw [shrinkBuf_sendSide]
      simp only [sendSide, SendSide.leave, Nat.sub_self, none, UInt32.sub_zero]
    rw [same]
    exact .of_content (.refl _) fun seg mem out => absurd mem out
  · rw [leave_sendSide]
    exact .of_content (removeAcked_sublist sn kcp.sndBuf) fun seg mem out => removeAcked_gone mem out

theorem Acked.keeps {side after : SendSide} {acknowledged : UInt32 → Prop} (ok : side.Ok)
    (acked : Acked side acknowledged after) : after.Ok := by
  cases acked with
  | leave sublist gone => exact side.leave_ok ok sublist

theorem Acked.mono {side after : SendSide} {acknowledged more : UInt32 → Prop} (acked : Acked side acknowledged after)
    (includes : ∀ n, acknowledged n → more n) : Acked side more after := by
  cases acked with
  | leave sublist gone => exact .leave sublist fun seg mem out => includes _ (gone seg mem out)

theorem Acked.trans {side mid after : SendSide} {first second : UInt32 → Prop} (acked : Acked side first mid)
    (more : Acked mid second after) : Acked side (fun n => first n ∨ second n) after := by
  cases acked with
  | @leave left sublist gone =>
    cases more with
    | @leave least fewer out =>
      have sublist' : least.Sublist side.sndBuf := List.Sublist.trans fewer sublist
      have same : (side.leave left).leave least = side.leave least := by
        have shorter := sublist.length_le
        have shortest := List.Sublist.length_le fewer
        simp only [SendSide.leave] at shortest
        have total : side.sndBuf.length - least.length =
            (side.sndBuf.length - left.length) + (left.length - least.length) := by omega
        simp only [SendSide.leave, total, UInt32.ofNat_add]
        congr 1
        grind
      rw [same]
      refine .leave sublist' ?_
      intro seg mem missing
      by_cases stays : seg ∈ left
      · exact .inr (out seg stays missing)
      · exact .inl (gone seg mem stays)

theorem countSkipped_content (sn ts : UInt32) (buf : List IkcpSegment) :
    (countSkipped sn ts buf).map content = buf.map content := by
  induction buf with
  | nil => rfl
  | cons seg rest ih =>
    rw [countSkipped]
    split
    · rfl
    · split
      · rw [List.map_cons, List.map_cons, ih]
        rfl
      · rw [List.map_cons, List.map_cons, ih]

@[simp] theorem parseFastack_sendSide (kcp : Ikcp) (sn ts : UInt32) : (kcp.parseFastack sn ts).sendSide = kcp.sendSide := by
  rw [parseFastack]
  split
  · rfl
  · simp only [sendSide, countSkipped_content]

@[simp] theorem finishInput_sendSide (kcp : Ikcp) (prevUna : UInt32) (maxack : Maxack) :
    (kcp.finishInput prevUna maxack).sendSide = kcp.sendSide := by
  have noted : (kcp.noteFastack maxack).sendSide = kcp.sendSide := by
    cases maxack with
    | none => rfl
    | some pair => exact parseFastack_sendSide _ _ _
  rw [finishInput]
  split
  · exact noted
  · exact noted

theorem Parsed.sendSide {newseg : IkcpSegment} {after : Ikcp} (parsed : Parsed kcp newseg after) :
    after.sendSide = kcp.sendSide := by
  cases parsed with
  | outside out => rfl
  | repeated mem same => exact moveReady_sendSide _ _
  | placed inside perm sorted => exact moveReady_sendSide _ _

/-- The numbers that a segment from the peer acknowledges. -/
def acknowledges (seg : IkcpSegment) (n : UInt32) : Prop := 0 < itimediff seg.una n ∨ seg.cmd = cmdAck ∧ n = seg.sn

theorem inputUna_acked (kcp : Ikcp) (seg : IkcpSegment) :
    Acked kcp.sendSide (fun n => 0 < itimediff seg.una n) (kcp.inputUna seg).sendSide :=
  parseUna_acked { kcp with rmtWnd := seg.wnd } seg.una

theorem inputSegment_acked (ok : kcp.receiveSide.Ok) (maxack : Maxack) (seg : IkcpSegment) :
    Acked kcp.sendSide (acknowledges seg) (kcp.inputSegment maxack seg).1.sendSide := by
  have start := inputUna_acked kcp seg
  have cumulative : Acked kcp.sendSide (acknowledges seg) (kcp.inputUna seg).sendSide := start.mono fun _ => .inl
  rw [inputSegment]
  dsimp only
  split
  · rename_i ack
    have both (n : UInt32) (acknowledged : 0 < itimediff seg.una n ∨ n = seg.sn) : acknowledges seg n :=
      acknowledged.imp_right fun same => ⟨ack, same⟩
    split
    · exact (start.trans (parseAck_acked ((kcp.inputUna seg).updateAck _) seg.sn)).mono both
    · exact (start.trans (parseAck_acked (kcp.inputUna seg) seg.sn)).mono both
  · split
    · split
      · split
        · rw [← inputUna_receiveSide kcp seg] at ok
          have same := (@parseData_parsed
            { kcp.inputUna seg with acklist := (kcp.inputUna seg).acklist ++ [(seg.sn, seg.ts)] } ok seg).sendSide
          rw [same]
          exact cumulative
        · exact cumulative
      · exact cumulative
    · split
      · exact cumulative
      · exact cumulative

/-! ## Queueing -/

theorem fragments_length (mss : Nat) (stream : Bool) (count : Nat) (data : Bytes) :
    (fragments mss stream count data).length = count := by
  induction count generalizing data with
  | zero => rfl
  | succ count ih => rw [fragments, List.length_cons, ih]

theorem fragments_small {mss : Nat} {stream : Bool} {count : Nat} {data : Bytes} {seg : IkcpSegment}
    (mem : seg ∈ fragments mss stream count data) : seg.data.length ≤ mss := by
  induction count generalizing data with
  | zero => cases mem
  | succ count ih =>
    rw [fragments] at mem
    rcases List.mem_cons.mp mem with rfl | mem
    · exact List.length_take_le _ _
    · exact ih mem

theorem extendLast_small {mss : Nat} {queue : List IkcpSegment} (small : ∀ seg ∈ queue, seg.data.length ≤ mss)
    (data : Bytes) : (extendLast mss queue data).1.length = queue.length ∧
      ∀ seg ∈ (extendLast mss queue data).1, seg.data.length ≤ mss := by
  rw [extendLast]
  split
  · exact ⟨rfl, small⟩
  · rename_i old last
    split
    · obtain ⟨front, rfl⟩ := List.getLast?_eq_some_iff.mp last
      rw [List.dropLast_concat]
      refine ⟨by rw [List.length_append, List.length_append]; rfl, ?_⟩
      intro seg mem
      rcases List.mem_append.mp mem with mem | mem
      · exact small seg (List.mem_append_left _ mem)
      · rw [List.mem_singleton.mp mem, List.length_append, List.length_take]
        omega
    · exact ⟨rfl, small⟩

theorem fillLast_small (small : ∀ seg ∈ kcp.sndQueue, seg.data.length ≤ kcp.mss.toNat) (data : Bytes) :
    (kcp.fillLast data).1.length = kcp.sndQueue.length ∧
      ∀ seg ∈ (kcp.fillLast data).1, seg.data.length ≤ kcp.mss.toNat := by
  rw [fillLast]
  split
  · exact extendLast_small small data
  · exact ⟨rfl, small⟩

@[simp] theorem send_receiveSide (kcp : Ikcp) (data : Bytes) : (kcp.send data).1.receiveSide = kcp.receiveSide := by
  rw [send]
  dsimp only
  split
  · rfl
  · split <;> rfl

/-- The send side with another queue. -/
theorem SendSide.Ok.requeue {side : SendSide} {queue : List IkcpSegment} {count : UInt32} (ok : side.Ok)
    (small : ∀ seg ∈ queue, seg.data.length ≤ side.mss.toNat) (counted : count = .ofNat queue.length) :
    { side with sndQueue := queue, nsndQue := count }.Ok where
  fits := ok.fits
  positive := ok.positive
  narrow := ok.narrow
  small seg mem := by
    rcases mem with mem | mem
    · exact small seg mem
    · exact ok.small seg (.inr mem)
  own := ok.own
  sorted := ok.sorted
  within := ok.within
  first := ok.first
  inflight := ok.inflight
  queued := counted
  counted := ok.counted

theorem send_keeps (ok : kcp.sendSide.Ok) (data : Bytes) : (kcp.send data).1.sendSide.Ok := by
  obtain ⟨length, shorts⟩ := fillLast_small (fun seg mem => ok.small seg (.inl mem)) data
  have counted : kcp.nsndQue = .ofNat kcp.sndQueue.length := ok.queued
  rw [← length] at counted
  rw [send]
  dsimp only
  split
  · exact ok.requeue shorts counted
  · split
    · exact ok.requeue shorts counted
    · refine ok.requeue ?_ ?_
      · intro seg mem
        rcases List.mem_append.mp mem with mem | mem
        · exact shorts seg mem
        · exact fragments_small mem
      · rw [List.length_append, fragments_length, counted, UInt32.ofNat_add]

/-! ## Numbering -/

/-- A segment of the queue as it goes to the buffer. -/
def SendSide.numbered (side : SendSide) (seg : IkcpSegment) : IkcpSegment :=
  { conv := side.conv, cmd := cmdPush, frg := seg.frg, sn := side.sndNxt, data := seg.data }

/-- The send side after the head of its queue was numbered. -/
def SendSide.number (side : SendSide) (seg : IkcpSegment) (rest : List IkcpSegment) : SendSide :=
  { side with
    sndQueue := rest, sndBuf := side.sndBuf ++ [side.numbered seg], nsndQue := side.nsndQue - 1
    nsndBuf := side.nsndBuf + 1, sndNxt := side.sndNxt + 1 }

/-- Segments of the queue are numbered as long as the send window has room. -/
inductive Numbered : SendSide → SendSide → Prop where
  | done (side : SendSide) : Numbered side side
  | next {side after : SendSide} {seg : IkcpSegment} {rest : List IkcpSegment} (queue : side.sndQueue = seg :: rest)
      (room : Serial.offset side.sndUna side.sndNxt < side.sndWnd.toNat) (more : Numbered (side.number seg rest) after) :
      Numbered side after

theorem SendSide.Ok.number {side : SendSide} {seg : IkcpSegment} {rest : List IkcpSegment} (ok : side.Ok)
    (queue : side.sndQueue = seg :: rest) (room : Serial.offset side.sndUna side.sndNxt < side.sndWnd.toNat) :
    (side.number seg rest).Ok := by
  have narrow := ok.narrow
  have next : Serial.offset side.sndUna (side.sndNxt + 1) = Serial.offset side.sndUna side.sndNxt + 1 :=
    Serial.offset_next (by omega)
  refine ⟨ok.fits, ok.positive, ok.narrow, ?_, ?_, ?_, ?_, ?_, ?_, ?_, ?_⟩
  · intro other mem
    rcases mem with mem | mem
    · exact ok.small other (.inl (queue ▸ List.mem_cons_of_mem seg mem))
    · rcases List.mem_append.mp mem with mem | mem
      · exact ok.small other (.inr mem)
      · rw [List.mem_singleton.mp mem]
        exact ok.small seg (.inl (queue ▸ List.mem_cons_self))
  · intro other mem
    rcases List.mem_append.mp mem with mem | mem
    · exact ok.own other mem
    · rw [List.mem_singleton.mp mem]
      exact ⟨rfl, rfl⟩
  · refine List.pairwise_append.mpr ⟨ok.sorted, List.pairwise_singleton _ _, ?_⟩
    intro a inA b inB
    rw [List.mem_singleton.mp inB]
    exact ok.within a inA
  · intro other mem
    show Serial.offset side.sndUna other.sn < Serial.offset side.sndUna (side.sndNxt + 1)
    rcases List.mem_append.mp mem with mem | mem
    · have before := ok.within other mem
      omega
    · rw [List.mem_singleton.mp mem, next]
      exact Nat.lt_succ_self _
  · have first := ok.first
    simp only [SendSide.number]
    cases buffered : side.sndBuf with
    | nil =>
      rw [buffered] at first
      exact first
    | cons head more =>
      rw [buffered] at first
      exact first
  · show Serial.offset side.sndUna (side.sndNxt + 1) ≤ side.sndWnd.toNat
    omega
  · have queued := ok.queued
    rw [queue, List.length_cons, UInt32.ofNat_add] at queued
    simp only [SendSide.number, queued]
    exact UInt32.add_sub_cancel _ _
  · have counted := ok.counted
    simp only [SendSide.number, counted, List.length_append, List.length_singleton, UInt32.ofNat_add]
    rfl

theorem Numbered.keeps {side after : SendSide} (ok : side.Ok) (numbered : Numbered side after) : after.Ok := by
  induction numbered with
  | done side => exact ok
  | next queue room more ih => exact ih (ok.number queue room)

theorem number_receiveSide (wnd cwnd : UInt32) (queue : List IkcpSegment) (kcp : Ikcp) :
    (number wnd cwnd queue kcp).receiveSide = kcp.receiveSide := by
  induction queue generalizing kcp with
  | nil => rfl
  | cons seg rest ih =>
    rw [number]
    split
    · exact ih _
    · rfl

theorem number_acklist (wnd cwnd : UInt32) (queue : List IkcpSegment) (kcp : Ikcp) :
    (number wnd cwnd queue kcp).acklist = kcp.acklist := by
  induction queue generalizing kcp with
  | nil => rfl
  | cons seg rest ih =>
    rw [number]
    split
    · exact ih _
    · rfl

theorem number_numbered {queue : List IkcpSegment} {wnd cwnd : UInt32} (ok : { kcp.sendSide with sndQueue := queue }.Ok)
    (narrow : cwnd ≤ kcp.sndWnd) :
    Numbered { kcp.sendSide with sndQueue := queue } (number wnd cwnd queue kcp).sendSide := by
  induction queue generalizing kcp with
  | nil => exact .done _
  | cons seg rest ih =>
    rw [number]
    split
    · rename_i open_
      have wide : kcp.sndWnd.toNat < 2 ^ 31 := ok.narrow
      have inflight : Serial.offset kcp.sndUna kcp.sndNxt ≤ kcp.sndWnd.toNat := ok.inflight
      have less := UInt32.le_iff_toNat_le.mp narrow
      have room := (Serial.distance_add_neg (by omega) (by omega)).mp open_
      refine .next rfl (show Serial.offset kcp.sndUna kcp.sndNxt < kcp.sndWnd.toNat by omega) ?_
      have step := ok.number rfl (show Serial.offset kcp.sndUna kcp.sndNxt < kcp.sndWnd.toNat by omega)
      have same : SendSide.number { kcp.sendSide with sndQueue := seg :: rest } seg rest =
          { (sendSide { kcp with
            sndBuf := kcp.sndBuf ++ [{ seg with
              conv := kcp.conv, cmd := cmdPush, wnd, ts := kcp.current, sn := kcp.sndNxt, una := kcp.rcvNxt
              resendts := kcp.current, rto := kcp.rxRto.toUInt32, fastack := 0, xmit := 0 }]
            nsndQue := kcp.nsndQue - 1, nsndBuf := kcp.nsndBuf + 1, sndNxt := kcp.sndNxt + 1 }) with
            sndQueue := rest } := by
        simp only [SendSide.number, sendSide, SendSide.numbered, List.map_append, List.map_singleton, content]
      rw [same] at step ⊢
      exact ih step narrow
    · exact .done _

/-! ## Flushing -/

/-- All segments written to an outbox, in order. -/
def Outbox.segments (outbox : Outbox) : List IkcpSegment := outbox.datagrams.flatten ++ outbox.buffer

/-- A datagram that is handed on. -/
def Sized (mtu : UInt32) (datagram : List IkcpSegment) : Prop := datagram ≠ [] ∧ bufferSize datagram ≤ mtu.toNat

/-- Nothing handed on is empty or longer than `mtu`, and the buffer is not longer either. -/
def Outbox.Within (mtu : UInt32) (outbox : Outbox) : Prop :=
  bufferSize outbox.buffer ≤ mtu.toNat ∧ ∀ datagram ∈ outbox.datagrams, Sized mtu datagram

theorem bufferSize_zero {buffer : List IkcpSegment} (none : bufferSize buffer = 0) : buffer = [] := by
  cases buffer with
  | nil => rfl
  | cons seg rest =>
    rw [bufferSize, List.map_cons, List.sum_cons, IkcpSegment.wireSize, overhead] at none
    omega

theorem bufferSize_append (buffer more : List IkcpSegment) :
    bufferSize (buffer ++ more) = bufferSize buffer + bufferSize more := by
  rw [bufferSize, List.map_append, List.sum_append]
  rfl

namespace Outbox
variable {mtu : UInt32} {outbox : Outbox} {seg : IkcpSegment}

theorem output_buffer (outbox : Outbox) : outbox.output.buffer = [] := by
  rw [output]
  split <;> rfl

theorem output_segments (outbox : Outbox) : outbox.output.segments = outbox.segments := by
  rw [output]
  split
  · rename_i none
    simp only [segments, bufferSize_zero none]
  · simp only [segments, List.flatten_append, List.flatten_singleton, List.append_nil]

theorem output_within (within : outbox.Within mtu) : outbox.output.Within mtu := by
  rw [output]
  split
  · exact ⟨Nat.zero_le _, within.2⟩
  · rename_i some
    refine ⟨Nat.zero_le _, ?_⟩
    intro datagram mem
    rcases List.mem_append.mp mem with mem | mem
    · exact within.2 datagram mem
    · rw [List.mem_singleton.mp mem]
      refine ⟨?_, within.1⟩
      intro empty
      rw [empty] at some
      exact some rfl

theorem put_segments (mtu : UInt32) (seg : IkcpSegment) (outbox : Outbox) :
    (outbox.put mtu seg).segments = outbox.segments ++ [seg] := by
  rw [put]
  split
  · rw [← output_segments outbox, segments, segments, List.append_assoc]
  · rw [segments, segments, List.append_assoc]

theorem put_within (within : outbox.Within mtu) (small : seg.wireSize ≤ mtu.toNat) : (outbox.put mtu seg).Within mtu := by
  have single : bufferSize [seg] = seg.wireSize := Nat.add_zero _
  rw [put]
  split
  · refine ⟨?_, (output_within within).2⟩
    rw [output_buffer, List.nil_append, single]
    exact small
  · rename_i room
    refine ⟨?_, within.2⟩
    rw [bufferSize_append, single]
    exact not_lt.mp room

end Outbox

/-- The acknowledgements that are waiting, as segments. -/
def ackSegments (kcp : Ikcp) : List IkcpSegment := kcp.acklist.map fun ack => kcp.control cmdAck ack.1 ack.2

theorem flushAcks_spec (wide : overhead ≤ kcp.mtu.toNat) :
    kcp.flushAcks.segments = kcp.ackSegments ∧ kcp.flushAcks.Within kcp.mtu := by
  have fold (acks : List (UInt32 × UInt32)) (outbox : Outbox) (within : outbox.Within kcp.mtu) :
      let written := acks.foldl (fun outbox ack => outbox.put kcp.mtu (kcp.control cmdAck ack.1 ack.2)) outbox
      written.segments = outbox.segments ++ acks.map (fun ack => kcp.control cmdAck ack.1 ack.2) ∧
        written.Within kcp.mtu := by
    induction acks generalizing outbox with
    | nil => exact ⟨(List.append_nil _).symm, within⟩
    | cons ack acks ih =>
      have step := ih (outbox.put kcp.mtu (kcp.control cmdAck ack.1 ack.2)) (Outbox.put_within within wide)
      rw [Outbox.put_segments] at step
      simpa using step
  refine fold kcp.acklist {} ⟨Nat.zero_le _, ?_⟩
  intro datagram mem
  cases mem

/-- The probes that a flush writes, as segments. -/
def probeSegments (kcp : Ikcp) : List IkcpSegment :=
  let last := kcp.acklist.getLast?.getD (0, 0)
  (if kcp.probe &&& askSend ≠ 0 then [kcp.control cmdWask last.1 last.2] else []) ++
    (if kcp.probe &&& askTell ≠ 0 then [kcp.control cmdWins last.1 last.2] else [])

theorem flushProbes_spec {outbox : Outbox} (wide : overhead ≤ kcp.mtu.toNat) (within : outbox.Within kcp.mtu) :
    (kcp.flushProbes outbox).segments = outbox.segments ++ kcp.probeSegments ∧
      (kcp.flushProbes outbox).Within kcp.mtu := by
  rw [flushProbes, probeSegments]
  split <;> split
  · rw [Outbox.put_segments, Outbox.put_segments, List.append_assoc]
    exact ⟨rfl, Outbox.put_within (Outbox.put_within within wide) wide⟩
  · rw [Outbox.put_segments, List.nil_append]
    exact ⟨rfl, Outbox.put_within within wide⟩
  · rw [Outbox.put_segments, List.append_nil]
    exact ⟨rfl, Outbox.put_within within wide⟩
  · exact ⟨(List.append_nil _).symm, within⟩

/-- The segments of the send buffer that a flush sends. -/
def dataSegments (kcp : Ikcp) (wnd : UInt32) : List IkcpSegment :=
  kcp.sndBuf.filterMap fun seg => (kcp.needsend seg).map (kcp.sentAs wnd seg)

theorem sentAs_content (kcp : Ikcp) (wnd : UInt32) (seg : IkcpSegment) (reason : Needsend) :
    content (kcp.sentAs wnd seg reason) = content seg := by
  cases reason <;> rfl

theorem flushData_spec {buf : List IkcpSegment} {wnd : UInt32} {flushing : Flushing}
    (small : ∀ seg ∈ buf, seg.wireSize ≤ kcp.mtu.toNat) (within : flushing.outbox.Within kcp.mtu) :
    let flushed := flushData kcp wnd buf flushing
    flushed.1.map content = buf.map content ∧
    flushed.2.outbox.segments = flushing.outbox.segments ++
      buf.filterMap (fun seg => (kcp.needsend seg).map (kcp.sentAs wnd seg)) ∧
    flushed.2.outbox.Within kcp.mtu := by
  induction buf generalizing flushing with
  | nil => exact ⟨rfl, (List.append_nil _).symm, within⟩
  | cons seg rest ih =>
    have smaller : ∀ other ∈ rest, other.wireSize ≤ kcp.mtu.toNat := fun other mem =>
      small other (List.mem_cons_of_mem _ mem)
    dsimp only
    rw [flushData]
    cases needed : kcp.needsend seg with
    | none =>
      obtain ⟨same, segments, sized⟩ := ih smaller within
      refine ⟨congrArg (content seg :: ·) same, ?_, sized⟩
      rw [List.filterMap_cons_none (by rw [needed]; rfl)]
      exact segments
    | some reason =>
      have wire : (kcp.sentAs wnd seg reason).wireSize = seg.wireSize := by cases reason <;> rfl
      have first := small seg List.mem_cons_self
      rw [← wire] at first
      obtain ⟨same, segments, sized⟩ := @ih { flushing with
        outbox := flushing.outbox.put kcp.mtu (kcp.sentAs wnd seg reason)
        xmit := if reason = .timeout then flushing.xmit + 1 else flushing.xmit
        state := if kcp.deadLink ≤ (kcp.sentAs wnd seg reason).xmit then 0xffffffff else flushing.state
        change := if reason = .fastack then flushing.change + 1 else flushing.change
        lost := flushing.lost || reason == .timeout } smaller (Outbox.put_within within first)
      refine ⟨?_, ?_, sized⟩
      · rw [List.map_cons, List.map_cons, sentAs_content]
        exact congrArg (content seg :: ·) same
      · rw [List.filterMap_cons_some (by rw [needed]; rfl)]
        rw [Outbox.put_segments, List.append_assoc] at segments
        exact segments

@[simp] theorem probeWindow_sendSide (kcp : Ikcp) : kcp.probeWindow.sendSide = kcp.sendSide := rfl

@[simp] theorem probeWindow_receiveSide (kcp : Ikcp) : kcp.probeWindow.receiveSide = kcp.receiveSide := rfl

theorem Numbered.fixed {side after : SendSide} (numbered : Numbered side after) :
    after.conv = side.conv ∧ after.mtu = side.mtu ∧ after.mss = side.mss ∧ after.stream = side.stream ∧
      after.sndUna = side.sndUna ∧ after.sndWnd = side.sndWnd := by
  induction numbered with
  | done side => exact ⟨rfl, rfl, rfl, rfl, rfl, rfl⟩
  | next queue room more ih => exact ih

/-- The control block after the queue was numbered, with which the loop over the send buffer starts. -/
def numbered (kcp : Ikcp) : Ikcp :=
  number kcp.wndUnused kcp.probeWindow.flushCwnd kcp.sndQueue { kcp.probeWindow with acklist := [], probe := 0 }

theorem imin_le (a b : UInt32) : min a b ≤ a ∧ min a b ≤ b := by
  show (if a ≤ b then a else b) ≤ a ∧ (if a ≤ b then a else b) ≤ b
  split
  · rename_i less
    exact ⟨UInt32.le_refl a, less⟩
  · rename_i more
    exact ⟨UInt32.le_of_lt (UInt32.not_le.mp more), UInt32.le_refl b⟩

theorem flushCwnd_le (kcp : Ikcp) : kcp.flushCwnd ≤ kcp.sndWnd := by
  rw [flushCwnd]
  split
  · exact UInt32.le_trans (imin_le _ _).2 (imin_le _ _).1
  · exact (imin_le _ _).1

theorem numbered_numbered (ok : kcp.sendSide.Ok) : Numbered kcp.sendSide kcp.numbered.sendSide :=
  @number_numbered { kcp.probeWindow with acklist := [], probe := 0 } kcp.sndQueue kcp.wndUnused
    kcp.probeWindow.flushCwnd ok (flushCwnd_le kcp.probeWindow)

/-- What a flush does: it numbers segments of the queue and sends the acknowledgements, the probes and the data
segments that need sending, in datagrams. -/
structure Flushed (kcp after : Ikcp) (datagrams : List (List IkcpSegment)) : Prop where
  sendSide : after.sendSide = kcp.numbered.sendSide
  receiveSide : after.receiveSide = kcp.receiveSide
  acklist : after.acklist = []
  segments : datagrams.flatten =
    kcp.ackSegments ++ kcp.probeWindow.probeSegments ++ kcp.numbered.dataSegments kcp.wndUnused
  sized : ∀ datagram ∈ datagrams, Sized kcp.mtu datagram

theorem flush_flushed (ok : kcp.sendSide.Ok) (updated : kcp.updated ≠ 0) : Flushed kcp kcp.flush.1 kcp.flush.2 := by
  have fits : kcp.mss.toNat + overhead = kcp.mtu.toNat := ok.fits
  have wide : overhead ≤ kcp.mtu.toNat := by omega
  have numbered := numbered_numbered ok
  have mtu : kcp.numbered.mtu = kcp.mtu := numbered.fixed.2.1
  have mss : kcp.numbered.mss = kcp.mss := numbered.fixed.2.2.1
  have small : ∀ seg ∈ kcp.numbered.sndBuf, seg.wireSize ≤ kcp.numbered.mtu.toNat := by
    intro seg mem
    have bound := (numbered.keeps ok).small (content seg) (.inr (List.mem_map_of_mem mem))
    have short : seg.data.length ≤ kcp.numbered.mss.toNat := bound
    rw [mss] at short
    rw [mtu, IkcpSegment.wireSize]
    omega
  obtain ⟨acks, acksWithin⟩ := flushAcks_spec wide
  obtain ⟨probes, probesWithin⟩ := @flushProbes_spec kcp.probeWindow kcp.flushAcks wide acksWithin
  have within : (kcp.probeWindow.flushProbes kcp.flushAcks).Within kcp.numbered.mtu := by
    rw [mtu]
    exact probesWithin
  obtain ⟨same, segments, sized⟩ := @flushData_spec kcp.numbered kcp.numbered.sndBuf kcp.wndUnused
    { outbox := kcp.probeWindow.flushProbes kcp.flushAcks, xmit := kcp.numbered.xmit, state := kcp.numbered.state }
    small within
  have flushed : kcp.flush.2 = (flushData kcp.numbered kcp.wndUnused kcp.numbered.sndBuf
      { outbox := kcp.probeWindow.flushProbes kcp.flushAcks, xmit := kcp.numbered.xmit
        state := kcp.numbered.state }).2.outbox.output.datagrams := by
    rw [flush, if_neg updated]
    rfl
  refine ⟨?_, ?_, ?_, ?_, ?_⟩
  · rw [flush, if_neg updated]
    simp only [settleCwnd, Ikcp.sendSide]
    exact congrArg (fun buf => SendSide.mk kcp.numbered.conv kcp.numbered.mtu kcp.numbered.mss kcp.numbered.stream
      kcp.numbered.sndWnd kcp.numbered.sndUna kcp.numbered.sndNxt kcp.numbered.sndQueue buf kcp.numbered.nsndQue
      kcp.numbered.nsndBuf) same
  · rw [flush, if_neg updated]
    exact number_receiveSide _ _ _ _
  · rw [flush, if_neg updated]
    exact number_acklist _ _ _ _
  · have all := Outbox.output_segments (flushData kcp.numbered kcp.wndUnused kcp.numbered.sndBuf
      { outbox := kcp.probeWindow.flushProbes kcp.flushAcks, xmit := kcp.numbered.xmit
        state := kcp.numbered.state }).2.outbox
    rw [segments, probes, acks, Outbox.segments, Outbox.output_buffer, List.append_nil] at all
    rw [flushed, all]
    rfl
  · rw [flushed, ← mtu]
    exact (Outbox.output_within sized).2

/-- The control block that `ikcp_update` flushes. -/
def ticked (kcp : Ikcp) (current : UInt32) : Ikcp :=
  { kcp.clocked current with tsFlush := (kcp.clocked current).nextFlush }

/-- An update sets the clock, and flushes when it is time. -/
inductive Updated (kcp : Ikcp) (current : UInt32) : Ikcp → List (List IkcpSegment) → Prop where
  | quiet : Updated kcp current (kcp.clocked current) []
  | flushed {after : Ikcp} {datagrams : List (List IkcpSegment)} (due : 0 ≤ itimediff current (kcp.clocked current).tsFlush)
      (flushed : Flushed (kcp.ticked current) after datagrams) : Updated kcp current after datagrams

theorem update_flushed (ok : kcp.sendSide.Ok) {current : UInt32}
    (due : 0 ≤ itimediff current (kcp.clocked current).tsFlush) :
    Flushed (kcp.ticked current) (kcp.update current).1 (kcp.update current).2 := by
  have updated : (kcp.ticked current).updated ≠ 0 := by
    simp only [ticked, clocked]
    split
    · decide
    · assumption
  have flushed := @flush_flushed (kcp.ticked current) ok updated
  have same : kcp.update current = (kcp.ticked current).flush := by
    rw [update]
    exact if_pos due
  rw [same]
  exact flushed

theorem update_updated (ok : kcp.sendSide.Ok) (current : UInt32) :
    Updated kcp current (kcp.update current).1 (kcp.update current).2 := by
  by_cases due : 0 ≤ itimediff current (kcp.clocked current).tsFlush
  · exact .flushed due (update_flushed ok due)
  · have same : kcp.update current = (kcp.clocked current, []) := by
      rw [update]
      exact if_neg due
    rw [same]
    exact .quiet

theorem Updated.keeps {current : UInt32} {after : Ikcp} {datagrams : List (List IkcpSegment)} (ok : kcp.sendSide.Ok)
    (updated : Updated kcp current after datagrams) : after.sendSide.Ok := by
  cases updated with
  | quiet => exact ok
  | flushed due flushed =>
    rw [flushed.sendSide]
    exact (@numbered_numbered (kcp.ticked current) ok).keeps ok

theorem Updated.receiveSide {current : UInt32} {after : Ikcp} {datagrams : List (List IkcpSegment)}
    (updated : Updated kcp current after datagrams) : after.receiveSide = kcp.receiveSide := by
  cases updated with
  | quiet => rfl
  | flushed due flushed => exact flushed.receiveSide

end Ikcp

end XServer.Net
