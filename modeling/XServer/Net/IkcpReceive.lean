import Mathlib.Data.List.Perm.Subperm
import XServer.Net.Ikcp

/-!
# The receive side of a KCP control block

What stands in the receive buffer is inside the receive window, in the order of its
numbers and without repetitions; the queue behind it is at most as long as the window;
the counters count. Every datagram keeps this, also one that is refused half way.
-/

namespace XServer.Net
open XServer.Lib XServer.Lib.Wire

namespace Ikcp

/-- What receiving reads and changes. -/
structure ReceiveSide where
  rcvNxt : UInt32
  rcvWnd : UInt32
  rcvBuf : List IkcpSegment
  rcvQueue : List IkcpSegment
  nrcvBuf : UInt32
  nrcvQue : UInt32

def receiveSide (kcp : Ikcp) : ReceiveSide :=
  ⟨kcp.rcvNxt, kcp.rcvWnd, kcp.rcvBuf, kcp.rcvQueue, kcp.nrcvBuf, kcp.nrcvQue⟩

/-- A segment without what a retransmission changes. -/
def content (seg : IkcpSegment) : IkcpSegment :=
  { conv := seg.conv, cmd := seg.cmd, frg := seg.frg, sn := seg.sn, data := seg.data }

/-- What sending reads and changes, but for clocks and windows. -/
structure SendSide where
  conv : UInt32
  mtu : UInt32
  mss : UInt32
  stream : Int32
  sndWnd : UInt32
  sndUna : UInt32
  sndNxt : UInt32
  sndQueue : List IkcpSegment
  sndBuf : List IkcpSegment
  nsndQue : UInt32
  nsndBuf : UInt32

def sendSide (kcp : Ikcp) : SendSide :=
  ⟨kcp.conv, kcp.mtu, kcp.mss, kcp.stream, kcp.sndWnd, kcp.sndUna, kcp.sndNxt, kcp.sndQueue, kcp.sndBuf.map content,
    kcp.nsndQue, kcp.nsndBuf⟩

/-- Two segments in the order of their numbers, counted from `nxt`. -/
def Before (nxt : UInt32) (a b : IkcpSegment) : Prop := Serial.offset nxt a.sn < Serial.offset nxt b.sn

/-- The receive side is well formed. -/
structure ReceiveSide.Ok (side : ReceiveSide) : Prop where
  positive : 0 < side.rcvWnd.toNat
  narrow : side.rcvWnd.toNat < 2 ^ 31
  within : ∀ seg ∈ side.rcvBuf, Serial.offset side.rcvNxt seg.sn < side.rcvWnd.toNat
  sorted : side.rcvBuf.Pairwise (Before side.rcvNxt)
  counted : side.nrcvBuf = .ofNat side.rcvBuf.length
  queued : side.nrcvQue.toNat = side.rcvQueue.length
  bounded : side.rcvQueue.length ≤ side.rcvWnd.toNat

/-- The next number is not in the buffer, or the queue is full. -/
def ReceiveSide.Settled (side : ReceiveSide) : Prop :=
  ∀ seg ∈ side.rcvBuf.head?, seg.sn = side.rcvNxt → side.rcvWnd ≤ side.nrcvQue

variable {kcp : Ikcp}

/-- The receive buffer holds no more than the window. -/
theorem ReceiveSide.Ok.buffered {side : ReceiveSide} (ok : side.Ok) : side.rcvBuf.length ≤ side.rcvWnd.toNat := by
  have apart : (side.rcvBuf.map fun seg => Serial.offset side.rcvNxt seg.sn).Nodup := by
    refine List.pairwise_map.mpr (ok.sorted.imp fun {a b} before => ?_)
    exact Nat.ne_of_lt before
  have inside : (side.rcvBuf.map fun seg => Serial.offset side.rcvNxt seg.sn) ⊆ List.range side.rcvWnd.toNat := by
    intro offset listed
    obtain ⟨seg, mem, rfl⟩ := List.mem_map.mp listed
    exact List.mem_range.mpr (ok.within seg mem)
  have short := (List.subperm_of_subset apart inside).length_le
  rwa [List.length_map, List.length_range] at short

/-! ## Moving to the queue -/

theorem moveReady_sendSide (buf : List IkcpSegment) (kcp : Ikcp) : (moveReady buf kcp).sendSide = kcp.sendSide := by
  induction buf generalizing kcp with
  | nil => rfl
  | cons seg rest ih =>
    rw [moveReady]
    split
    · exact ih _
    · rfl

/-- The receive side while the segments `buf` of the buffer are being looked at. -/
def looking (kcp : Ikcp) (buf : List IkcpSegment) : ReceiveSide := { kcp.receiveSide with rcvBuf := buf }

theorem moveReady_keeps {buf : List IkcpSegment} (ok : (kcp.looking buf).Ok) :
    (moveReady buf kcp).receiveSide.Ok ∧ (moveReady buf kcp).receiveSide.Settled := by
  induction buf generalizing kcp with
  | nil =>
    refine ⟨ok, ?_⟩
    intro seg first
    cases first
  | cons seg rest ih =>
    rw [moveReady]
    split
    · rename_i due
      apply ih
      obtain ⟨positive, narrow, within, sorted, counted, queued, bounded⟩ := ok
      simp only [looking, receiveSide] at positive narrow within sorted counted queued bounded ⊢
      obtain ⟨first, sorted⟩ := List.pairwise_cons.mp sorted
      have room := UInt32.lt_iff_toNat_lt.mp due.2
      -- The segment that leaves is the next one, so every other is one step nearer.
      have nearer (other : IkcpSegment) (mem : other ∈ rest) :
          Serial.offset (kcp.rcvNxt + 1) other.sn + 1 = Serial.offset kcp.rcvNxt other.sn := by
        apply Serial.offset_succ
        intro same
        have later := first other mem
        rw [Before, due.1, same] at later
        exact Nat.lt_irrefl _ later
      refine ⟨positive, narrow, ?_, ?_, ?_, ?_, ?_⟩
      · intro other mem
        have above := within other (List.mem_cons_of_mem _ mem)
        have near := nearer other mem
        simp only
        omega
      · refine sorted.imp_of_mem fun {a b} inA inB later => ?_
        have nearA := nearer a inA
        have nearB := nearer b inB
        rw [Before] at later ⊢
        simp only
        omega
      · simp only [counted, List.length_cons, UInt32.ofNat_add]
        exact UInt32.add_sub_cancel _ _
      · have width := kcp.rcvWnd.toNat_lt
        simp only [List.length_append, List.length_singleton, UInt32.toNat_add, UInt32.toNat_one]
        omega
      · simp only [List.length_append, List.length_singleton]
        omega
    · rename_i blocked
      refine ⟨ok, ?_⟩
      intro head first due
      obtain rfl : seg = head := by simpa [receiveSide] using first
      rw [not_and] at blocked
      exact UInt32.not_lt.mp (blocked due)

/-! ## Placing a segment -/

/-- A new segment goes among those that are there, whose order it keeps. -/
theorem placeFromTail_some {newseg : IkcpSegment} {tail placed : List IkcpSegment} {nxt : UInt32}
    (near : Serial.offset nxt newseg.sn < 2 ^ 31) (nears : ∀ seg ∈ tail, Serial.offset nxt seg.sn < 2 ^ 31)
    (sorted : tail.Pairwise fun a b => Before nxt b a) (some : placeFromTail newseg tail = some placed) :
    placed.Perm (newseg :: tail) ∧ placed.Pairwise fun a b => Before nxt b a := by
  induction tail generalizing placed with
  | nil =>
    cases some
    exact ⟨.refl _, List.pairwise_singleton _ _⟩
  | cons seg before ih =>
    obtain ⟨earlier, rest⟩ := List.pairwise_cons.mp sorted
    have distance : itimediff newseg.sn seg.sn = Serial.offset nxt newseg.sn - Serial.offset nxt seg.sn :=
      Serial.distance_eq near (nears seg List.mem_cons_self)
    rw [placeFromTail] at some
    split at some
    · cases some
    · rename_i apart
      split at some
      · rename_i ahead
        cases some
        refine ⟨.refl _, List.pairwise_cons.mpr ⟨?_, sorted⟩⟩
        intro other mem
        have later : Before nxt seg newseg := by
          rw [Before]
          omega
        rcases List.mem_cons.mp mem with rfl | mem
        · exact later
        · exact (earlier other mem).trans later
      · rename_i behind
        obtain ⟨inner, found, rfl⟩ := Option.map_eq_some_iff.mp some
        obtain ⟨perm, kept⟩ := ih (fun other mem => nears other (List.mem_cons_of_mem _ mem)) rest found
        refine ⟨(perm.cons seg).trans (.swap _ _ _), List.pairwise_cons.mpr ⟨?_, kept⟩⟩
        intro other mem
        rcases List.mem_cons.mp (perm.mem_iff.mp mem) with rfl | mem
        · have different : Serial.offset nxt seg.sn ≠ Serial.offset nxt other.sn :=
            fun same => apart (Serial.offset_inj same)
          rw [Before]
          omega
        · exact earlier other mem

/-- A segment that is not placed repeats one. -/
theorem placeFromTail_none {newseg : IkcpSegment} {tail : List IkcpSegment} (none : placeFromTail newseg tail = none) :
    ∃ seg ∈ tail, seg.sn = newseg.sn := by
  induction tail with
  | nil => cases none
  | cons seg before ih =>
    rw [placeFromTail] at none
    split at none
    · rename_i same
      exact ⟨seg, List.mem_cons_self, same⟩
    · split at none
      · cases none
      · obtain ⟨other, mem, same⟩ := ih (Option.map_eq_none_iff.mp none)
        exact ⟨other, List.mem_cons_of_mem _ mem, same⟩

/-- What `parseData` does: the segment is outside the window or repeats one, or it is placed in the order of the
buffer; then what is due moves on. -/
inductive Parsed (kcp : Ikcp) (newseg : IkcpSegment) : Ikcp → Prop where
  | outside (out : kcp.rcvWnd.toNat ≤ Serial.offset kcp.rcvNxt newseg.sn) : Parsed kcp newseg kcp
  | repeated {seg : IkcpSegment} (mem : seg ∈ kcp.rcvBuf) (same : seg.sn = newseg.sn) :
      Parsed kcp newseg (moveReady kcp.rcvBuf kcp)
  | placed {buf : List IkcpSegment} (inside : Serial.offset kcp.rcvNxt newseg.sn < kcp.rcvWnd.toNat)
      (perm : buf.Perm (newseg :: kcp.rcvBuf)) (sorted : buf.Pairwise (Before kcp.rcvNxt)) :
      Parsed kcp newseg (moveReady buf { kcp with nrcvBuf := kcp.nrcvBuf + 1 })

theorem parseData_parsed (ok : kcp.receiveSide.Ok) (newseg : IkcpSegment) : Parsed kcp newseg (kcp.parseData newseg) := by
  have narrow : kcp.rcvWnd.toNat < 2 ^ 31 := ok.narrow
  rw [parseData]
  split
  · rename_i out
    refine .outside ?_
    by_contra inside
    have low : Serial.offset kcp.rcvNxt newseg.sn < 2 ^ 31 := by omega
    rcases out with far | behind
    · have near := (Serial.distance_add_neg narrow low).mpr (not_le.mp inside)
      rw [itimediff] at far
      omega
    · have far := Serial.distance_neg.mp behind
      omega
  · rename_i inside
    rw [not_or, not_le, not_lt] at inside
    have low : Serial.offset kcp.rcvNxt newseg.sn < 2 ^ 31 := by
      by_contra far
      have behind := Serial.distance_neg.mpr (not_lt.mp far)
      exact absurd inside.2 (not_le.mpr behind)
    have room := (Serial.distance_add_neg narrow low).mp inside.1
    split
    · rename_i found
      obtain ⟨seg, mem, same⟩ := placeFromTail_none found
      exact .repeated (List.mem_reverse.mp mem) same
    · rename_i reversed found
      have nears : ∀ seg ∈ kcp.rcvBuf.reverse, Serial.offset kcp.rcvNxt seg.sn < 2 ^ 31 := by
        intro seg mem
        exact (ok.within seg (List.mem_reverse.mp mem)).trans narrow
      obtain ⟨perm, sorted⟩ := placeFromTail_some low nears (List.pairwise_reverse.mpr ok.sorted) found
      refine .placed room ?_ (List.pairwise_reverse.mpr sorted)
      exact (List.reverse_perm _).trans (perm.trans ((List.reverse_perm _).cons _))

/-- The receive side with a segment placed in its buffer. -/
theorem placed_ok {newseg : IkcpSegment} {buf : List IkcpSegment} (ok : kcp.receiveSide.Ok)
    (inside : Serial.offset kcp.rcvNxt newseg.sn < kcp.rcvWnd.toNat) (perm : buf.Perm (newseg :: kcp.rcvBuf))
    (sorted : buf.Pairwise (Before kcp.rcvNxt)) : (looking { kcp with nrcvBuf := kcp.nrcvBuf + 1 } buf).Ok := by
  refine ⟨ok.positive, ok.narrow, ?_, sorted, ?_, ok.queued, ok.bounded⟩
  · intro seg mem
    rcases List.mem_cons.mp (perm.mem_iff.mp mem) with rfl | mem
    · exact inside
    · exact ok.within seg mem
  · have counted : kcp.nrcvBuf = .ofNat kcp.rcvBuf.length := ok.counted
    simp only [looking, receiveSide, perm.length_eq, List.length_cons, counted, UInt32.ofNat_add]
    rfl

theorem Parsed.keeps {newseg : IkcpSegment} {after : Ikcp} (ok : kcp.receiveSide.Ok)
    (settled : kcp.receiveSide.Settled) (parsed : Parsed kcp newseg after) :
    after.receiveSide.Ok ∧ after.receiveSide.Settled := by
  cases parsed with
  | outside out => exact ⟨ok, settled⟩
  | repeated mem same => exact moveReady_keeps ok
  | placed inside perm sorted => exact moveReady_keeps (placed_ok ok inside perm sorted)

/-! ## Reading a message -/

theorem takeMessage_append (queue : List IkcpSegment) : (takeMessage queue).1 ++ (takeMessage queue).2 = queue := by
  induction queue with
  | nil => rfl
  | cons seg rest ih =>
    rw [takeMessage]
    split
    · rfl
    · rw [List.cons_append, ih]

/-- Reading fails and changes nothing, or takes the first message of the queue and moves up what is due. -/
inductive Received (kcp : Ikcp) : Ikcp → Except Int Bytes → Prop where
  | failed (code : Int) : Received kcp kcp (.error code)
  | message {mid after : Ikcp} (some : kcp.rcvQueue ≠ []) (whole : kcp.peeksize.isSome = true)
      (taken : mid = moveReady kcp.rcvBuf { kcp with
        rcvQueue := (takeMessage kcp.rcvQueue).2
        nrcvQue := kcp.nrcvQue - .ofNat (takeMessage kcp.rcvQueue).1.length })
      (send : after.sendSide = mid.sendSide) (receive : after.receiveSide = mid.receiveSide) :
      Received kcp after (.ok (messageData (takeMessage kcp.rcvQueue).1))

theorem recv_received (kcp : Ikcp) (len : Nat) : Received kcp (kcp.recv len).1 (kcp.recv len).2 := by
  rw [recv]
  split
  · exact .failed _
  · rename_i some
    split
    · exact .failed _
    · rename_i size whole
      split
      · exact .failed _
      · refine .message some (by rw [whole]; rfl) rfl ?_ ?_
        · dsimp only
          split <;> rfl
        · dsimp only
          split <;> rfl

theorem read_ok (ok : kcp.receiveSide.Ok) : (looking { kcp with
    rcvQueue := (takeMessage kcp.rcvQueue).2
    nrcvQue := kcp.nrcvQue - .ofNat (takeMessage kcp.rcvQueue).1.length } kcp.rcvBuf).Ok := by
  have parts := congrArg List.length (takeMessage_append kcp.rcvQueue)
  have queued : kcp.nrcvQue.toNat = kcp.rcvQueue.length := ok.queued
  have bounded : kcp.rcvQueue.length ≤ kcp.rcvWnd.toNat := ok.bounded
  have width := kcp.nrcvQue.toNat_lt
  rw [List.length_append] at parts
  refine ⟨ok.positive, ok.narrow, ok.within, ok.sorted, ok.counted, ?_, ?_⟩
  · simp only [looking, receiveSide, UInt32.toNat_sub, UInt32.toNat_ofNat']
    omega
  · simp only [looking, receiveSide]
    omega

theorem Received.keeps {after : Ikcp} {result : Except Int Bytes} (ok : kcp.receiveSide.Ok)
    (settled : kcp.receiveSide.Settled) (received : Received kcp after result) :
    after.receiveSide.Ok ∧ after.receiveSide.Settled := by
  cases received with
  | failed code => exact ⟨ok, settled⟩
  | message some whole taken send receive =>
    rw [receive, taken]
    exact moveReady_keeps (read_ok ok)

theorem Received.sendSide {after : Ikcp} {result : Except Int Bytes} (received : Received kcp after result) :
    after.sendSide = kcp.sendSide := by
  cases received with
  | failed code => rfl
  | message some whole taken send receive =>
    rw [send, taken]
    exact moveReady_sendSide _ _

/-! ## A segment of a datagram -/

@[simp] theorem parseUna_receiveSide (kcp : Ikcp) (una : UInt32) : (kcp.parseUna una).receiveSide = kcp.receiveSide := rfl

@[simp] theorem shrinkBuf_receiveSide (kcp : Ikcp) : kcp.shrinkBuf.receiveSide = kcp.receiveSide := by
  rw [shrinkBuf]
  split <;> rfl

@[simp] theorem updateAck_receiveSide (kcp : Ikcp) (rtt : Int32) : (kcp.updateAck rtt).receiveSide = kcp.receiveSide := rfl

@[simp] theorem parseAck_receiveSide (kcp : Ikcp) (sn : UInt32) : (kcp.parseAck sn).receiveSide = kcp.receiveSide := by
  rw [parseAck]
  split <;> rfl

@[simp] theorem parseFastack_receiveSide (kcp : Ikcp) (sn ts : UInt32) :
    (kcp.parseFastack sn ts).receiveSide = kcp.receiveSide := by
  rw [parseFastack]
  split <;> rfl

@[simp] theorem growCwnd_receiveSide (kcp : Ikcp) : kcp.growCwnd.receiveSide = kcp.receiveSide := rfl

/-- What one segment does to the receive side: nothing, or it is a push that `parseData` looks at. -/
inductive Taken (kcp : Ikcp) (seg : IkcpSegment) (after : Ikcp) : Prop where
  | nothing (same : after.receiveSide = kcp.receiveSide)
  | parsed {before : Ikcp} (push : seg.cmd = cmdPush) (same : before.receiveSide = kcp.receiveSide)
      (parsed : Parsed before seg after)

@[simp] theorem inputUna_receiveSide (kcp : Ikcp) (seg : IkcpSegment) :
    (kcp.inputUna seg).receiveSide = kcp.receiveSide := by
  rw [inputUna, shrinkBuf_receiveSide, parseUna_receiveSide]
  rfl

theorem inputSegment_taken (ok : kcp.receiveSide.Ok) (maxack : Maxack) (seg : IkcpSegment) :
    Taken kcp seg (kcp.inputSegment maxack seg).1 := by
  have same := inputUna_receiveSide kcp seg
  rw [inputSegment]
  dsimp only
  split
  · refine .nothing ?_
    rw [shrinkBuf_receiveSide, parseAck_receiveSide]
    split
    · rw [updateAck_receiveSide, same]
    · exact same
  · split
    · rename_i push
      split
      · split
        · rw [← same] at ok
          refine .parsed push ?_ (parseData_parsed ?_ seg)
          · exact same
          · exact ok
        · exact .nothing same
      · exact .nothing same
    · split
      · exact .nothing same
      · exact .nothing same

theorem Taken.keeps {seg : IkcpSegment} {after : Ikcp} (ok : kcp.receiveSide.Ok) (settled : kcp.receiveSide.Settled)
    (taken : Taken kcp seg after) : after.receiveSide.Ok ∧ after.receiveSide.Settled := by
  cases taken with
  | nothing same =>
    rw [same]
    exact ⟨ok, settled⟩
  | parsed push same parsed =>
    rw [← same] at ok settled
    exact parsed.keeps ok settled

/-- What every segment of a datagram keeps, the loop over them keeps. -/
theorem inputLoop_keeps {Inv : Ikcp → Prop} (step : ∀ kcp maxack seg, Inv kcp → Inv (inputSegment kcp maxack seg).1)
    (rounds : Nat) (start : Inv kcp) (maxack : Maxack) (data : Bytes) : Inv (inputLoop rounds kcp maxack data).1 := by
  induction rounds generalizing kcp maxack data with
  | zero => exact start
  | succ rounds ih =>
    rw [inputLoop]
    split
    · exact start
    · split
      · exact start
      · exact ih (step _ _ _ start) _ _

@[simp] theorem finishInput_receiveSide (kcp : Ikcp) (prevUna : UInt32) (maxack : Maxack) :
    (kcp.finishInput prevUna maxack).receiveSide = kcp.receiveSide := by
  have noted : (kcp.noteFastack maxack).receiveSide = kcp.receiveSide := by
    cases maxack with
    | none => rfl
    | some pair => exact parseFastack_receiveSide _ _ _
  rw [finishInput]
  split
  · exact noted
  · exact noted

end Ikcp

end XServer.Net
