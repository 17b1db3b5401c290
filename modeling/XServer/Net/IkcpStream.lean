import XServer.Net.IkcpSend

/-!
# A stream of numbered fragments

What one side of a conversation has numbered is a row of fragments, each with its place in
its message and its data. The receive side of a control block passes a beginning of that
row on, whatever order the fragments arrive in; the send side keeps each until it is
acknowledged.
-/

namespace XServer.Net
open XServer.Lib XServer.Lib.Wire

namespace Ikcp

/-- What a numbered segment carries. -/
abbrev Fragment := UInt32 × Bytes

def entry (seg : IkcpSegment) : Fragment := (seg.frg, seg.data)

/-- The receive side follows a row of fragments of which these were passed on: they and its queue are the beginning
of the row, and what it holds beyond is from the row. All of it has been seen. -/
structure Follows (row : List Fragment) (seen : Nat → Prop) (passed : List Fragment) (side : ReceiveSide) : Prop where
  passed : passed ++ side.rcvQueue.map entry = row.take side.rcvNxt.toNat
  reached : side.rcvNxt.toNat ≤ row.length
  below : ∀ n < side.rcvNxt.toNat, seen n
  held : ∀ seg ∈ side.rcvBuf, row[seg.sn.toNat]? = some (entry seg) ∧ seen seg.sn.toNat

variable {kcp after : Ikcp} {row more passed : List Fragment} {seen : Nat → Prop} {side : ReceiveSide}

namespace Follows

/-- The row grows at its end, and more is seen. -/
theorem grow (h : Follows row seen passed side) {seen' : Nat → Prop} (more : List Fragment)
    (sees : ∀ n, seen n → seen' n) : Follows (row ++ more) seen' passed side where
  passed := by rw [h.passed, List.take_append_of_le_length h.reached]
  reached := by
    rw [List.length_append]
    exact h.reached.trans (Nat.le_add_right _ _)
  below n lower := sees n (h.below n lower)
  held seg mem := by
    obtain ⟨found, saw⟩ := h.held seg mem
    obtain ⟨short, -⟩ := List.getElem?_eq_some_iff.mp found
    rw [List.getElem?_append_left short]
    exact ⟨found, sees _ saw⟩

theorem moveReady {buf : List IkcpSegment} (short : row.length < 2 ^ 32) (h : Follows row seen passed (kcp.looking buf)) :
    Follows row seen passed (moveReady buf kcp).receiveSide := by
  induction buf generalizing kcp with
  | nil => exact h
  | cons seg rest ih =>
    rw [Ikcp.moveReady]
    split
    · rename_i due
      apply ih
      obtain ⟨passed_, reached, below, held⟩ := h
      simp only [looking, receiveSide] at passed_ reached below held ⊢
      obtain ⟨found, saw⟩ := held seg List.mem_cons_self
      rw [due.1] at found saw
      obtain ⟨inside, -⟩ := List.getElem?_eq_some_iff.mp found
      have next : (kcp.rcvNxt + 1).toNat = kcp.rcvNxt.toNat + 1 := by
        rw [UInt32.toNat_add, UInt32.toNat_one]
        omega
      refine ⟨?_, ?_, ?_, fun other mem => held other (List.mem_cons_of_mem _ mem)⟩
      · rw [next, List.take_add_one, found, List.map_append, ← List.append_assoc, passed_]
        rfl
      · show (kcp.rcvNxt + 1).toNat ≤ row.length
        omega
      · intro n (lower : n < (kcp.rcvNxt + 1).toNat)
        rcases Nat.lt_or_ge n kcp.rcvNxt.toNat with old | new
        · exact below n old
        · rwa [show n = kcp.rcvNxt.toNat by omega]
    · exact h

/-- A segment of the row that arrives. -/
theorem parsed {newseg : IkcpSegment} (short : row.length < 2 ^ 32) (h : Follows row seen passed kcp.receiveSide)
    (found : row[newseg.sn.toNat]? = some (entry newseg)) (saw : seen newseg.sn.toNat)
    (parsed : Parsed kcp newseg after) : Follows row seen passed after.receiveSide := by
  cases parsed with
  | outside out => exact h
  | repeated mem same => exact moveReady short h
  | placed inside perm sorted =>
    refine moveReady short ⟨h.passed, h.reached, h.below, ?_⟩
    intro seg mem
    rcases List.mem_cons.mp (perm.mem_iff.mp mem) with rfl | mem
    · exact ⟨found, saw⟩
    · exact h.held seg mem

theorem taken {seg : IkcpSegment} (short : row.length < 2 ^ 32) (h : Follows row seen passed kcp.receiveSide)
    (found : seg.cmd = cmdPush → row[seg.sn.toNat]? = some (entry seg) ∧ seen seg.sn.toNat)
    (taken : Taken kcp seg after) : Follows row seen passed after.receiveSide := by
  cases taken with
  | nothing same => exact same ▸ h
  | parsed push same parsed_ =>
    rw [← same] at h
    exact parsed short h (found push).1 (found push).2 parsed_

/-- Reading passes the first message of the queue on. -/
theorem received {result : Except Int Bytes} (short : row.length < 2 ^ 32) (h : Follows row seen passed kcp.receiveSide)
    (received : Received kcp after result) :
    (after.receiveSide = kcp.receiveSide ∧ ∃ code, result = .error code) ∨
    (result = .ok (messageData (takeMessage kcp.rcvQueue).1) ∧ kcp.rcvQueue ≠ [] ∧
      Follows row seen (passed ++ (takeMessage kcp.rcvQueue).1.map entry) after.receiveSide) := by
  cases received with
  | failed code => exact .inl ⟨rfl, code, rfl⟩
  | message some whole taken send receive =>
    refine .inr ⟨rfl, some, ?_⟩
    rw [receive, taken]
    refine moveReady short ⟨?_, h.reached, h.below, h.held⟩
    have queue := congrArg (List.map entry) (takeMessage_append kcp.rcvQueue)
    rw [List.map_append] at queue
    have before : passed ++ kcp.rcvQueue.map entry = row.take kcp.rcvNxt.toNat := h.passed
    rw [← queue] at before
    rw [List.append_assoc]
    exact before

/-- What was passed on is a beginning of the row. -/
theorem isPrefix (h : Follows row seen passed side) : passed <+: row := by
  have part : passed <+: row.take side.rcvNxt.toNat := ⟨_, h.passed⟩
  exact part.trans (List.take_prefix _ _)

theorem length_le (h : Follows row seen passed side) : passed.length ≤ side.rcvNxt.toNat := by
  have lengths := congrArg List.length h.passed
  rw [List.length_append, List.length_take] at lengths
  omega

end Follows

/-- The send side offers a row of fragments: what waits is the end of the row, what it holds is from the row, and of what
it has numbered the other side has got what it does not hold. -/
structure Offers (row : List Fragment) (got : Nat → Prop) (side : SendSide) : Prop where
  reached : side.sndNxt.toNat ≤ row.length
  waiting : side.sndQueue.map entry = row.drop side.sndNxt.toNat
  held : ∀ seg ∈ side.sndBuf, row[seg.sn.toNat]? = some (entry seg) ∧ seg.sn.toNat < side.sndNxt.toNat
  kept : ∀ n < side.sndNxt.toNat, got n ∨ ∃ seg ∈ side.sndBuf, seg.sn.toNat = n

namespace Offers
variable {got : Nat → Prop} {side after : SendSide}

theorem mono (h : Offers row got side) {got' : Nat → Prop} (more : ∀ n < row.length, got n → got' n) :
    Offers row got' side where
  reached := h.reached
  waiting := h.waiting
  held := h.held
  kept n lower := (h.kept n lower).imp_left (more n (lower.trans_le h.reached))

/-- More fragments are queued. -/
theorem queue (h : Offers row got side) {queue : List IkcpSegment} {count : UInt32} :
    Offers (row ++ queue.map entry) got
      { side with sndQueue := side.sndQueue ++ queue, nsndQue := count } where
  reached := by
    rw [List.length_append]
    exact h.reached.trans (Nat.le_add_right _ _)
  waiting := by rw [List.map_append, h.waiting, List.drop_append_of_le_length h.reached]
  held seg mem := by
    obtain ⟨found, lower⟩ := h.held seg mem
    obtain ⟨short, -⟩ := List.getElem?_eq_some_iff.mp found
    rw [List.getElem?_append_left short]
    exact ⟨found, lower⟩
  kept := h.kept

theorem number {seg : IkcpSegment} {rest : List IkcpSegment} (short : row.length < 2 ^ 32) (h : Offers row got side)
    (queue : side.sndQueue = seg :: rest) : Offers row got (side.number seg rest) := by
  have waiting := h.waiting
  rw [queue, List.map_cons] at waiting
  have first : row[side.sndNxt.toNat]? = some (entry seg) := by
    rw [← List.head?_drop, ← waiting]
    rfl
  obtain ⟨inside, -⟩ := List.getElem?_eq_some_iff.mp first
  have next : (side.sndNxt + 1).toNat = side.sndNxt.toNat + 1 := by
    rw [UInt32.toNat_add, UInt32.toNat_one]
    omega
  constructor
  · show (side.sndNxt + 1).toNat ≤ row.length
    omega
  · show rest.map entry = row.drop (side.sndNxt + 1).toNat
    rw [next, ← List.tail_drop, ← waiting]
    rfl
  · intro other mem
    show _ ∧ other.sn.toNat < (side.sndNxt + 1).toNat
    rcases List.mem_append.mp mem with old | new
    · obtain ⟨found, lower⟩ := h.held other old
      exact ⟨found, by omega⟩
    · rw [List.mem_singleton.mp new]
      exact ⟨first, by rw [next]; exact Nat.lt_succ_self _⟩
  · intro n (lower : n < (side.sndNxt + 1).toNat)
    rcases Nat.lt_or_ge n side.sndNxt.toNat with old | new
    · rcases h.kept n old with done | ⟨other, mem, same⟩
      · exact .inl done
      · exact .inr ⟨other, List.mem_append_left _ mem, same⟩
    · have last : side.sndNxt.toNat = n := by omega
      exact .inr ⟨side.numbered seg, List.mem_append_right _ List.mem_cons_self, last⟩

theorem numbered (short : row.length < 2 ^ 32) (h : Offers row got side) (numbered : Numbered side after) :
    Offers row got after := by
  induction numbered with
  | done side => exact h
  | next queue room more ih => exact ih (h.number short queue)

theorem forward (short : row.length < 2 ^ 32) (h : Offers row got side) (numbered : Numbered side after) :
    side.sndNxt.toNat ≤ after.sndNxt.toNat := by
  induction numbered with
  | done side => exact Nat.le_refl _
  | @next side after seg rest queue room more ih =>
    have inside := h.waiting
    rw [queue] at inside
    have positive := congrArg List.length inside
    rw [List.length_drop, List.map_cons, List.length_cons] at positive
    have next : (side.sndNxt + 1).toNat = side.sndNxt.toNat + 1 := by
      rw [UInt32.toNat_add, UInt32.toNat_one]
      omega
    have further : (side.sndNxt + 1).toNat ≤ after.sndNxt.toNat := ih (h.number short queue)
    omega

/-- Segments leave the buffer that the other side has got. -/
theorem acked {acknowledged : UInt32 → Prop} (h : Offers row got side) (acked : Acked side acknowledged after)
    (right : ∀ n : UInt32, acknowledged n → n.toNat < side.sndNxt.toNat → got n.toNat) : Offers row got after := by
  cases acked with
  | @leave left sublist gone =>
    refine ⟨h.reached, h.waiting, fun seg mem => h.held seg (sublist.subset mem), ?_⟩
    intro n lower
    rcases h.kept n lower with done | ⟨seg, mem, rfl⟩
    · exact .inl done
    · by_cases stays : seg ∈ left
      · exact .inr ⟨seg, stays, rfl⟩
      · exact .inl (right seg.sn (gone seg mem stays) lower)

end Offers

/-! ## Fragments of a payload -/

/-- The fragments of a payload that is queued whole. -/
def pieces (mss : Nat) (payload : Bytes) : List Fragment :=
  (fragments mss false (fragmentCount mss payload.length) payload).map entry

theorem fragments_frg {mss count : Nat} {data : Bytes} {seg : IkcpSegment} (few : count ≤ 2 ^ 32)
    (mem : seg ∈ fragments mss false count data) : seg.frg.toNat < count := by
  induction count generalizing data with
  | zero => cases mem
  | succ count ih =>
    rw [fragments] at mem
    rcases List.mem_cons.mp mem with rfl | mem
    · show (UInt32.ofNat count).toNat < count + 1
      rw [UInt32.toNat_ofNat']
      omega
    · exact (ih (Nat.le_of_succ_le few) mem).trans (Nat.lt_succ_self count)

/-- A payload that fits a segment is one fragment, and the first fragment of any other is not its last. -/
theorem pieces_small {mss : Nat} {payload : Bytes} (small : payload.length ≤ mss) :
    pieces mss payload = [(0, payload)] := by
  rw [pieces, fragmentCount, if_pos small, fragments, fragments, List.map_singleton, entry, List.take_of_length_le small]
  rfl

theorem pieces_large {mss : Nat} {payload : Bytes} (positive : 0 < mss) (large : mss < payload.length)
    (few : fragmentCount mss payload.length < 2 ^ 32) :
    ∃ frg data rest, pieces mss payload = (frg, data) :: rest ∧ frg ≠ 0 := by
  have count : 1 < fragmentCount mss payload.length := by
    rw [fragmentCount, if_neg (not_le.mpr large)]
    rw [Nat.lt_iff_add_one_le, Nat.le_div_iff_mul_le positive]
    omega
  obtain ⟨less, same⟩ : ∃ less, fragmentCount mss payload.length = less + 2 := ⟨_, (Nat.sub_add_cancel count).symm⟩
  rw [pieces, same, fragments]
  refine ⟨.ofNat (less + 1), payload.take mss, _, rfl, ?_⟩
  intro none
  have zero := congrArg UInt32.toNat none
  rw [UInt32.toNat_ofNat', UInt32.toNat_zero] at zero
  omega

/-- Without stream mode, a payload is refused or its fragments go to the queue. -/
theorem send_pieces (off : kcp.stream = 0) (data : Bytes) :
    ((kcp.send data).1.sendSide = kcp.sendSide ∧ (kcp.send data).2 < 0) ∨
    (fragmentCount kcp.mss.toNat data.length < wndRcv.toNat ∧ 0 ≤ (kcp.send data).2 ∧
      (kcp.send data).1.sendSide = { kcp.sendSide with
        sndQueue := kcp.sndQueue ++ fragments kcp.mss.toNat false (fragmentCount kcp.mss.toNat data.length) data
        nsndQue := kcp.nsndQue + .ofNat (fragmentCount kcp.mss.toNat data.length) }) := by
  have kept : kcp.fillLast data = (kcp.sndQueue, 0) := by rw [fillLast, if_neg (not_not.mpr off)]
  have stream : decide (kcp.stream ≠ 0) = false := decide_eq_false (not_not.mpr off)
  simp only [send, kept, stream, List.drop_zero]
  rw [if_neg fun both => both.1 off]
  split
  · refine .inl ⟨rfl, ?_⟩
    rw [if_neg fun both => both.1 off]
    show (-2 : Int) < 0
    decide
  · rename_i few
    exact .inr ⟨not_le.mp few, Int.natCast_nonneg _, rfl⟩

/-- A push that a flush sends is a segment of the send buffer. -/
theorem pushed_content {seg : IkcpSegment} (push : seg.cmd = cmdPush)
    (mem : seg ∈ kcp.ackSegments ++ kcp.probeWindow.probeSegments ++ kcp.numbered.dataSegments kcp.wndUnused) :
    ∃ held ∈ kcp.numbered.sndBuf, seg.sn = held.sn ∧ entry seg = entry held := by
  rcases List.mem_append.mp mem with control | data
  · rcases List.mem_append.mp control with ack | probe
    · obtain ⟨pair, -, rfl⟩ := List.mem_map.mp ack
      cases push
    · rw [probeSegments] at probe
      rcases List.mem_append.mp probe with ask | tell
      · split at ask
        · rw [List.mem_singleton.mp ask] at push
          cases push
        · cases ask
      · split at tell
        · rw [List.mem_singleton.mp tell] at push
          cases push
        · cases tell
  · obtain ⟨held, inside, sent⟩ := List.mem_filterMap.mp data
    obtain ⟨reason, -, rfl⟩ := Option.map_eq_some_iff.mp sent
    have same := sentAs_content kcp.numbered kcp.wndUnused held reason
    have sn := congrArg IkcpSegment.sn same
    have fragment := congrArg entry same
    exact ⟨held, inside, sn, fragment⟩

/-! ## Sending again -/

/-- Numbering leaves the buffer as it is and appends segments that were not sent yet. -/
theorem number_sndBuf (wnd cwnd : UInt32) (queue : List IkcpSegment) (kcp : Ikcp) :
    (number wnd cwnd queue kcp).current = kcp.current ∧ ∃ fresh, (number wnd cwnd queue kcp).sndBuf = kcp.sndBuf ++ fresh ∧
      ∀ seg ∈ fresh, seg.xmit = 0 := by
  induction queue generalizing kcp with
  | nil => exact ⟨rfl, [], (List.append_nil _).symm, fun seg mem => absurd mem List.not_mem_nil⟩
  | cons seg rest ih =>
    rw [number]
    split
    · dsimp only
      obtain ⟨current, fresh, buffer, unsent⟩ := ih { kcp with
        sndBuf := kcp.sndBuf ++ [{ seg with
          conv := kcp.conv, cmd := cmdPush, wnd, ts := kcp.current, sn := kcp.sndNxt, una := kcp.rcvNxt
          resendts := kcp.current, rto := kcp.rxRto.toUInt32, fastack := 0, xmit := 0 }]
        nsndQue := kcp.nsndQue - 1, nsndBuf := kcp.nsndBuf + 1, sndNxt := kcp.sndNxt + 1 }
      rw [List.append_assoc] at buffer
      refine ⟨current, _, buffer, ?_⟩
      intro other mem
      rcases List.mem_cons.mp mem with rfl | mem
      · rfl
      · exact unsent other mem
    · exact ⟨rfl, [], (List.append_nil _).symm, fun seg mem => absurd mem List.not_mem_nil⟩

/-- A flush after the times of all buffered segments sends the whole buffer. -/
theorem resends {seg : IkcpSegment} (expired : ∀ seg ∈ kcp.sndBuf, 0 ≤ itimediff kcp.current seg.resendts)
    (mem : seg ∈ kcp.numbered.sndBuf) : ∃ sent ∈ kcp.numbered.dataSegments kcp.wndUnused, content sent = content seg := by
  obtain ⟨current, fresh, buffer, unsent⟩ := number_sndBuf kcp.wndUnused kcp.probeWindow.flushCwnd kcp.sndQueue
    { kcp.probeWindow with acklist := [], probe := 0 }
  have needed : ∃ reason, kcp.numbered.needsend seg = some reason := by
    rw [needsend]
    split
    · exact ⟨_, rfl⟩
    · rename_i again
      rw [numbered, buffer] at mem
      rcases List.mem_append.mp mem with old | new
      · have due := expired seg old
        rw [numbered, if_pos (by rw [current]; exact due)]
        exact ⟨_, rfl⟩
      · exact absurd (unsent seg new) again
  obtain ⟨reason, needed⟩ := needed
  refine ⟨kcp.numbered.sentAs kcp.wndUnused seg reason, ?_, sentAs_content _ _ _ _⟩
  refine List.mem_filterMap.mpr ⟨seg, mem, ?_⟩
  rw [needed]
  rfl

end Ikcp

end XServer.Net
