import Mathlib.Data.List.Induction
import XServer.Client.KcpSession

/-!
# What a KCP session loses

Segments of a datagram are applied one after another, and the check of the conversation
stands in between: a datagram that is refused may have changed the session, and removed
payloads that nobody gets. And a push is acknowledged before it is looked at.
-/

namespace XServer.Client
open XServer.Lib XServer.Lib.Wire

namespace MinimalKcpSession
variable {session after : MinimalKcpSession} {segment : KcpSegment} {segments delivered : List KcpSegment}

/-! ## Refused datagrams -/

/-- The state that a call may change, apart from what sending changes. -/
structure Untouched (session after : MinimalKcpSession) : Prop where
  nextReceiveSequence : after.nextReceiveSequence = session.nextReceiveSequence
  receivedSegments : after.receivedSegments = session.receivedSegments
  pendingOutbound : after.pendingOutbound = session.pendingOutbound
  remoteWindow : after.remoteWindow = session.remoteWindow

/-- A push for the buffer. -/
def Accepted (session : MinimalKcpSession) (segment : KcpSegment) : Prop :=
  segment.command = .push ∧ segment.fragment = 0 ∧ ¬ segment.sequenceNumber < session.nextReceiveSequence

instance decidableAccepted (session : MinimalKcpSession) (segment : KcpSegment) : Decidable (session.Accepted segment) :=
  inferInstanceAs (Decidable (_ ∧ _ ∧ _))

/-- The last push for the buffer with this number. -/
def lastAccepted (session : MinimalKcpSession) (segments : List KcpSegment) (n : UInt32) : Option KcpSegment :=
  segments.reverse.find? fun segment => decide (session.Accepted segment ∧ segment.sequenceNumber = n)

/-- Segments that leave a session as it is: the last one has the window that is known, no acknowledged number is
pending, and the pushes for the buffer are there already, which does not drain. -/
structure NoEffect (session : MinimalKcpSession) (segments : List KcpSegment) : Prop where
  window : ∀ last, segments.getLast? = some last → last.window = session.remoteWindow
  pending : ∀ segment ∈ segments, segment.command = .ack →
    session.pendingOutbound[segment.sequenceNumber]? = none
  missing : (∃ segment ∈ segments, session.Accepted segment) →
    session.receivedSegments[session.nextReceiveSequence]? = none
  buffered : ∀ n segment, session.lastAccepted segments n = some segment →
    session.receivedSegments[n]? = some segment

/-- What a segment does when nothing is drained. -/
def settle (session : MinimalKcpSession) (segment : KcpSegment) : MinimalKcpSession :=
  { session with
    remoteWindow := segment.window
    pendingOutbound := if segment.command = .ack then session.pendingOutbound.erase segment.sequenceNumber
      else session.pendingOutbound
    receivedSegments := if session.Accepted segment then session.receivedSegments.insert segment.sequenceNumber segment
      else session.receivedSegments }

theorem settle_received (session : MinimalKcpSession) (segment : KcpSegment) :
    (session.settle segment).receivedSegments = if session.Accepted segment
      then session.receivedSegments.insert segment.sequenceNumber segment else session.receivedSegments := rfl

theorem settle_next (session : MinimalKcpSession) (segment : KcpSegment) :
    (session.settle segment).nextReceiveSequence = session.nextReceiveSequence := rfl

theorem settle_of_not_accepted (noAck : segment.command ≠ .ack) (refused : ¬ session.Accepted segment) :
    session.settle segment = { session with remoteWindow := segment.window } := by
  unfold settle
  rw [if_neg noAck, if_neg refused]

theorem settle_of_accepted (accepted : session.Accepted segment) :
    session.settle segment = { session with
      remoteWindow := segment.window
      receivedSegments := session.receivedSegments.insert segment.sequenceNumber segment } := by
  have noAck : segment.command ≠ .ack := by simp [accepted.1]
  unfold settle
  rw [if_neg noAck, if_pos accepted]

/-- A segment settles, and then the session drains if it goes to the buffer. -/
theorem Applied.settled (h : Applied session segment delivered after) :
    (session.Accepted segment ∧ Drained (session.settle segment) delivered after) ∨
    (¬ session.Accepted segment ∧ delivered = [] ∧ after = session.settle segment) := by
  cases h with
  | acknowledged ack =>
    have refused : ¬ session.Accepted segment := fun accepted => by
      have push := accepted.1
      rw [ack] at push
      cases push
    refine .inr ⟨refused, rfl, ?_⟩
    unfold settle
    rw [if_pos ack, if_neg refused]
  | fragmented push fragment =>
    have refused : ¬ session.Accepted segment := fun accepted => fragment accepted.2.1
    exact .inr ⟨refused, rfl, (settle_of_not_accepted (by simp [push]) refused).symm⟩
  | old push whole below =>
    have refused : ¬ session.Accepted segment := fun accepted => accepted.2.2 below
    exact .inr ⟨refused, rfl, (settle_of_not_accepted (by simp [push]) refused).symm⟩
  | stored push whole notBelow drained =>
    have accepted : session.Accepted segment := ⟨push, whole, notBelow⟩
    rw [settle_of_accepted accepted]
    exact .inl ⟨accepted, drained⟩
  | probed other noAck =>
    have refused : ¬ session.Accepted segment := fun accepted => other accepted.1
    exact .inr ⟨refused, rfl, (settle_of_not_accepted noAck refused).symm⟩

def settleAll (session : MinimalKcpSession) (segments : List KcpSegment) : MinimalKcpSession := segments.foldl settle session

theorem settleAll_snoc (session : MinimalKcpSession) (segments : List KcpSegment) (segment : KcpSegment) :
    session.settleAll (segments ++ [segment]) = (session.settleAll segments).settle segment := by
  unfold settleAll
  rw [List.foldl_append]
  rfl

theorem settleAll_next (session : MinimalKcpSession) (segments : List KcpSegment) :
    (session.settleAll segments).nextReceiveSequence = session.nextReceiveSequence := by
  induction segments using List.reverseRecOn with
  | nil => rfl
  | append_singleton segments segment ih =>
    rw [settleAll_snoc]
    exact ih

theorem settleAll_accepted (session : MinimalKcpSession) (segments : List KcpSegment) (segment : KcpSegment) :
    (session.settleAll segments).Accepted segment ↔ session.Accepted segment := by
  rw [Accepted, Accepted, settleAll_next]

theorem settleAll_window (session : MinimalKcpSession) (segments : List KcpSegment) :
    (session.settleAll segments).remoteWindow = (segments.getLast?.map KcpSegment.window).getD session.remoteWindow := by
  induction segments using List.reverseRecOn with
  | nil => rfl
  | append_singleton segments segment ih =>
    rw [settleAll_snoc, List.getLast?_concat]
    rfl

theorem settleAll_pending_self {segments : List KcpSegment} (none : ∀ segment ∈ segments, segment.command = .ack →
    session.pendingOutbound[segment.sequenceNumber]? = none) :
    (session.settleAll segments).pendingOutbound = session.pendingOutbound := by
  induction segments using List.reverseRecOn with
  | nil => rfl
  | append_singleton segments segment ih =>
    have same := ih fun other mem => none other (List.mem_append_left _ mem)
    rw [settleAll_snoc, settle]
    simp only [same]
    split
    · rename_i ack
      refine Std.ExtTreeMap.ext_getElem? fun {n} => ?_
      rw [Std.ExtTreeMap.getElem?_erase]
      split
      · rename_i is
        rw [← Std.compare_eq_iff_eq.mp is]
        exact (none segment (List.mem_append_right _ List.mem_cons_self) ack).symm
      · rfl
    · rfl

theorem settleAll_pending_none {segments : List KcpSegment} (mem : segment ∈ segments) (ack : segment.command = .ack) :
    (session.settleAll segments).pendingOutbound[segment.sequenceNumber]? = none := by
  induction segments using List.reverseRecOn with
  | nil => cases mem
  | append_singleton segments last ih =>
    rw [settleAll_snoc, settle]
    rcases List.mem_append.mp mem with old | new
    · split
      · simp only [Std.ExtTreeMap.getElem?_erase, ih old, ite_self]
      · exact ih old
    · rw [List.mem_singleton.mp new] at ack
      simp only [ack, if_true, List.mem_singleton.mp new, Table.get_erase_self]

theorem lastAccepted_snoc (session : MinimalKcpSession) (segments : List KcpSegment) (segment : KcpSegment) (n : UInt32) :
    session.lastAccepted (segments ++ [segment]) n = if session.Accepted segment ∧ segment.sequenceNumber = n
      then some segment else session.lastAccepted segments n := by
  rw [lastAccepted, List.reverse_append, List.reverse_singleton, List.singleton_append, List.find?_cons]
  by_cases last : session.Accepted segment ∧ segment.sequenceNumber = n
  · rw [if_pos last, decide_eq_true last]
  · rw [if_neg last, decide_eq_false last]
    rfl

theorem settleAll_received (session : MinimalKcpSession) (segments : List KcpSegment) (n : UInt32) :
    (session.settleAll segments).receivedSegments[n]? =
      (session.lastAccepted segments n).or session.receivedSegments[n]? := by
  induction segments using List.reverseRecOn with
  | nil => rfl
  | append_singleton segments segment ih =>
    rw [settleAll_snoc, settle_received, lastAccepted_snoc]
    by_cases accepted : session.Accepted segment
    · rw [if_pos ((settleAll_accepted session segments segment).mpr accepted)]
      simp only [Table.get_insert, accepted, true_and]
      split
      · rfl
      · exact ih
    · rw [if_neg fun other => accepted ((settleAll_accepted session segments segment).mp other),
        if_neg fun both => accepted both.1]
      exact ih

theorem lastAccepted_isSome (mem : segment ∈ segments) (accepted : session.Accepted segment) :
    ∃ last, session.lastAccepted segments segment.sequenceNumber = some last := by
  rw [← Option.isSome_iff_exists, lastAccepted, List.find?_isSome]
  exact ⟨segment, List.mem_reverse.mpr mem, by simpa using accepted⟩

/-! ### Rows of segments that drain nothing -/

theorem AppliedAll.settled (h : AppliedAll session segments [] after) : after = session.settleAll segments := by
  generalize none : ([] : List KcpSegment) = delivered at h
  induction h with
  | nil session => rfl
  | cons own head tail ih =>
    obtain ⟨first, rest⟩ := List.nil_eq_append_iff.mp none
    subst first rest
    rw [settleAll, List.foldl_cons, ← settleAll]
    rcases head.settled with ⟨-, drained⟩ | ⟨-, -, same⟩
    · cases drained
      exact ih rfl
    · rw [← same]
      exact ih rfl

/-- Draining ends where a number is missing. -/
theorem Drained.missing (h : Drained session delivered after) : after.receivedSegments[after.nextReceiveSequence]? = none := by
  induction h with
  | done missing => exact missing
  | next held rest ih => exact ih

/-- When the next number is missing, the next one after the segments is. -/
theorem AppliedAll.missing (h : AppliedAll session segments delivered after)
    (missing : session.receivedSegments[session.nextReceiveSequence]? = none) :
    after.receivedSegments[after.nextReceiveSequence]? = none := by
  induction h with
  | nil session => exact missing
  | cons own head tail ih =>
    refine ih ?_
    rcases head.settled with ⟨-, drained⟩ | ⟨refused, -, rfl⟩
    · exact drained.missing
    · rw [settle_next, settle_received, if_neg refused]
      exact missing

theorem AppliedAll.missing_of_accepted (h : AppliedAll session segments [] after)
    (some : ∃ segment ∈ segments, session.Accepted segment) :
    after.receivedSegments[after.nextReceiveSequence]? = none := by
  generalize none : ([] : List KcpSegment) = delivered at h
  induction h with
  | nil session =>
    obtain ⟨segment, mem, -⟩ := some
    cases mem
  | @cons session middle after segment segments first rest own head tail ih =>
    obtain ⟨first, rest⟩ := List.nil_eq_append_iff.mp none
    subst first rest
    rcases head.settled with ⟨-, drained⟩ | ⟨refused, -, rfl⟩
    · cases drained
      exact tail.missing (by assumption)
    · obtain ⟨other, mem, accepted⟩ := some
      rcases List.mem_cons.mp mem with rfl | later
      · exact absurd accepted refused
      · exact ih ⟨other, later, accepted⟩ rfl

/-- Nothing is drained as long as the next number is missing and no segment brings it. -/
theorem AppliedAll.calm (h : AppliedAll session segments delivered after)
    (missing : (∃ segment ∈ segments, session.Accepted segment) →
      session.receivedSegments[session.nextReceiveSequence]? = none)
    (others : ∀ segment ∈ segments, session.Accepted segment → segment.sequenceNumber ≠ session.nextReceiveSequence) :
    delivered = [] := by
  induction h with
  | nil session => rfl
  | @cons session middle after segment segments first rest own head tail ih =>
    have gap (accepted : ∃ other ∈ segment :: segments, session.Accepted other)
        (apart : session.Accepted segment → segment.sequenceNumber ≠ session.nextReceiveSequence) :
        (session.settle segment).receivedSegments[session.nextReceiveSequence]? = none := by
      rw [settle_received]
      split
      · rename_i here
        exact (Table.get_insert_of_ne _ _ (apart here)).trans (missing accepted)
      · exact missing accepted
    have apart := others segment List.mem_cons_self
    have none : first = [] ∧ middle = session.settle segment := by
      rcases head.settled with ⟨accepted, drained⟩ | ⟨-, none, same⟩
      · cases drained with
        | done => exact ⟨rfl, rfl⟩
        | next held =>
          rw [settle_next, gap ⟨segment, List.mem_cons_self, accepted⟩ apart] at held
          cases held
      · exact ⟨none, same⟩
    obtain ⟨rfl, rfl⟩ := none
    refine ih ?_ fun other mem => others other (List.mem_cons_of_mem _ mem)
    rintro ⟨other, mem, accepted⟩
    exact gap ⟨other, List.mem_cons_of_mem _ mem, accepted⟩ apart

/-! ### Counting -/

theorem Drained.count (h : Drained session delivered after) :
    after.nextReceiveSequence.toNat = (session.nextReceiveSequence.toNat + delivered.length) % 2 ^ 32 ∧
    after.receivedSegments.size + delivered.length = session.receivedSegments.size := by
  induction h with
  | @done session missing =>
    have bound := session.nextReceiveSequence.toNat_lt
    rw [List.length_nil, Nat.add_zero, Nat.add_zero, Nat.mod_eq_of_lt bound]
    exact ⟨rfl, rfl⟩
  | @next session after segment delivered held rest ih =>
    obtain ⟨number, size⟩ := ih
    have one := advance_size held
    have next : session.advance.nextReceiveSequence.toNat = (session.nextReceiveSequence.toNat + 1) % 2 ^ 32 := by
      simp only [advance, UInt32.toNat_add, UInt32.toNat_one]
    rw [List.length_cons]
    exact ⟨by omega, by omega⟩

theorem settle_size (session : MinimalKcpSession) (segment : KcpSegment) :
    (session.settle segment).receivedSegments.size ≤ session.receivedSegments.size + 1 := by
  rw [settle_received]
  split
  · exact Std.ExtTreeMap.size_insert_le
  · exact Nat.le_succ _

/-- A row of segments delivers what it brings and what the buffer loses. -/
theorem AppliedAll.count (h : AppliedAll session segments delivered after) :
    after.nextReceiveSequence.toNat = (session.nextReceiveSequence.toNat + delivered.length) % 2 ^ 32 ∧
    after.receivedSegments.size + delivered.length ≤ session.receivedSegments.size + segments.length := by
  induction h with
  | nil session =>
    have bound := session.nextReceiveSequence.toNat_lt
    simp only [List.length_nil, Nat.add_zero, Nat.mod_eq_of_lt bound, Nat.le_refl, and_self]
  | @cons session middle after segment segments first rest own head tail ih =>
    obtain ⟨number, size⟩ := ih
    have fits := settle_size session segment
    rw [List.length_append, List.length_cons]
    rcases head.settled with ⟨-, drained⟩ | ⟨-, rfl, rfl⟩
    · obtain ⟨first_number, first_size⟩ := drained.count
      rw [settle_next] at first_number
      exact ⟨by omega, by omega⟩
    · rw [settle_next] at number
      rw [List.length_nil]
      exact ⟨by omega, by omega⟩

/-! ### When a refused datagram has no effect -/

theorem AppliedAll.untouched_iff (h : AppliedAll session segments delivered after) (few : segments.length < 2 ^ 32) :
    Untouched session after ↔ NoEffect session segments := by
  constructor
  · intro same
    -- what is delivered would have to come back, and all numbers with it
    have none : delivered = [] := by
      obtain ⟨number, size⟩ := h.count
      have bound := session.nextReceiveSequence.toNat_lt
      rw [same.nextReceiveSequence] at number
      rw [same.receivedSegments] at size
      exact List.length_eq_zero_iff.mp (by omega)
    subst none
    have settled := h.settled
    constructor
    · intro last final
      have window := same.remoteWindow
      rw [settled, settleAll_window, final] at window
      exact window
    · intro segment mem ack
      rw [← same.pendingOutbound, settled]
      exact settleAll_pending_none mem ack
    · intro some
      rw [← same.receivedSegments, ← same.nextReceiveSequence]
      exact h.missing_of_accepted some
    · intro n segment last
      rw [← same.receivedSegments, settled, settleAll_received, last]
      rfl
  · intro still
    have others : ∀ segment ∈ segments, session.Accepted segment → segment.sequenceNumber ≠ session.nextReceiveSequence := by
      intro segment mem accepted is
      obtain ⟨last, found⟩ := lastAccepted_isSome mem accepted
      have held := still.buffered _ last found
      rw [is, still.missing ⟨segment, mem, accepted⟩] at held
      cases held
    have none := h.calm still.missing others
    subst none
    rw [h.settled]
    constructor
    · exact settleAll_next session segments
    · refine Std.ExtTreeMap.ext_getElem? fun {n} => ?_
      rw [settleAll_received]
      cases last : session.lastAccepted segments n with
      | none => rfl
      | some segment => exact (still.buffered n segment last).symm
    · exact settleAll_pending_self still.pending
    · rw [settleAll_window]
      cases last : segments.getLast? with
      | none => rfl
      | some segment => exact still.window segment last

/-- A datagram that is refused leaves the session as it was exactly if it does not decode or the segments before the
first one of another conversation have no effect. -/
theorem refused_untouched_iff (session : MinimalKcpSession) (datagram : Bytes) (nowMilliseconds : UInt32) {error : String}
    (size : datagram.length < 2 ^ 31)
    (_ : (session.tryProcessInboundDatagram datagram nowMilliseconds).2 = .error (.refused error)) :
    Untouched session (session.tryProcessInboundDatagram datagram nowMilliseconds).1 ↔
      ∀ segments, decodeDatagram datagram = .ok segments → NoEffect session (session.ownSegments segments) := by
  unfold tryProcessInboundDatagram
  cases decoded : decodeDatagram datagram with
  | error failure => exact iff_of_true ⟨rfl, rfl, rfl, rfl⟩ fun segments other => by cases other
  | ok segments =>
    obtain ⟨delivered, applied, -⟩ := session.processSegments_applied nowMilliseconds segments {}
    have few : (session.ownSegments segments).length < 2 ^ 32 := by
      have own : (session.ownSegments segments).length ≤ segments.length := (List.takeWhile_sublist _).length_le
      have all := decodeFrom_length decoded
      simp only [kcpOverheadBytes] at all
      omega
    simp only [Except.ok.injEq, forall_eq']
    exact applied.untouched_iff few

/-- A push of another conversation. -/
def foreignPush : KcpSegment := { KcpClient.samplePush 1 [9] with conversation := 12 }

theorem refused_untouched_sample :
    (tryProcessInboundDatagram (.start 11 KcpClient.sampleOptions) (encodeSegment foreignPush) 0).2 =
      .error (.refused "Received datagram for conversation 12, expected 11.") ∧
    (Untouched (.start 11 KcpClient.sampleOptions)
      (tryProcessInboundDatagram (.start 11 KcpClient.sampleOptions) (encodeSegment foreignPush) 0).1 ↔
      ∀ segments, decodeDatagram (encodeSegment foreignPush) = .ok segments →
        NoEffect (.start 11 KcpClient.sampleOptions) (ownSegments (.start 11 KcpClient.sampleOptions) segments)) := by
  have refused : (tryProcessInboundDatagram (.start 11 KcpClient.sampleOptions) (encodeSegment foreignPush) 0).2 =
      .error (.refused "Received datagram for conversation 12, expected 11.") := by decide +kernel
  exact ⟨refused, refused_untouched_iff _ _ _ (by decide +kernel) refused⟩

/-- A push of the own conversation before it is taken from the sequence, and its payload is given to nobody. -/
theorem refused_loses :
    (tryProcessInboundDatagram (.start 11 KcpClient.sampleOptions)
      (encodeSegment (KcpClient.samplePush 0 [7]) ++ encodeSegment foreignPush) 0).2 =
      .error (.refused "Received datagram for conversation 12, expected 11.") ∧
    ¬ Untouched (.start 11 KcpClient.sampleOptions) (tryProcessInboundDatagram (.start 11 KcpClient.sampleOptions)
      (encodeSegment (KcpClient.samplePush 0 [7]) ++ encodeSegment foreignPush) 0).1 := by
  refine ⟨by decide +kernel, fun same => ?_⟩
  have next := same.nextReceiveSequence
  revert next
  decide +kernel

/-! ## Acknowledged data -/

/-- The payload of a push was returned under its number, or is held. -/
def Available (session : MinimalKcpSession) (returned : List KcpSegment) (push : KcpSegment) : Prop :=
  (∃ other ∈ returned, other.sequenceNumber = push.sequenceNumber ∧ other.payload = push.payload) ∨
    ∃ other, session.receivedSegments[push.sequenceNumber]? = some other ∧ other.payload = push.payload

/-- Segments whose pushes lose no data. One payload goes by a number, once and for all; where the datagram is accepted
its pushes are whole, and where it is refused no whole push before the foreign segment brings the next number. -/
structure KeepsSegments (payloadOf : UInt32 → Bytes) (session : MinimalKcpSession) (segments : List KcpSegment) : Prop where
  payload : ∀ push ∈ session.ownSegments segments, push.command = .push → push.fragment = 0 →
    push.payload = payloadOf push.sequenceNumber
  whole : session.ownSegments segments = segments → ∀ push ∈ segments, push.command = .push → push.fragment = 0
  calm : session.ownSegments segments ≠ segments → ∀ push ∈ session.ownSegments segments, push.command = .push →
    push.fragment = 0 → push.sequenceNumber ≠ session.nextReceiveSequence

/-- The buffer has the segments under their numbers. -/
def Keyed (session : MinimalKcpSession) : Prop :=
  ∀ (n : UInt32) segment, session.receivedSegments[n]? = some segment → segment.sequenceNumber = n

variable {payloadOf : UInt32 → Bytes} {returned : List KcpSegment}

theorem Keyed.advance (h : Keyed session) : Keyed session.advance := fun n segment found =>
  h n segment (Table.get_erase_some found).2

theorem Keyed.settle (h : Keyed session) (segment : KcpSegment) : Keyed (session.settle segment) := by
  intro n other found
  rw [settle_received] at found
  split at found
  · rw [Table.get_insert] at found
    split at found
    · rename_i same
      cases found
      exact same
    · exact h n other found
  · exact h n other found

/-- What goes by a number is its payload: in the buffer, and below the next number among what was returned. -/
structure Kept (payloadOf : UInt32 → Bytes) (session : MinimalKcpSession) (returned : List KcpSegment) : Prop where
  keyed : Keyed session
  held : ∀ (n : UInt32) segment, session.receivedSegments[n]? = some segment → segment.payload = payloadOf n
  below : ∀ n < session.nextReceiveSequence,
    ∃ other ∈ returned, other.sequenceNumber = n ∧ other.payload = payloadOf n

namespace Kept

/-- The number that is passed is that of the segment; after the last number none is below. -/
theorem advance (h : Kept payloadOf session returned)
    (held : session.receivedSegments[session.nextReceiveSequence]? = some segment) :
    Kept payloadOf session.advance (returned ++ [segment]) := by
  refine ⟨h.keyed.advance, fun n other found => h.held n other (Table.get_erase_some found).2, fun n below => ?_⟩
  by_cases last : n = session.nextReceiveSequence
  · subst last
    exact ⟨segment, List.mem_append_right _ List.mem_cons_self, h.keyed _ _ held, h.held _ _ held⟩
  · have earlier : n < session.nextReceiveSequence := by
      have apart : n.toNat ≠ session.nextReceiveSequence.toNat := fun same => last (UInt32.toNat_inj.mp same)
      simp only [UInt32.lt_iff_toNat_lt, MinimalKcpSession.advance, UInt32.toNat_add, UInt32.toNat_one] at below ⊢
      omega
    obtain ⟨other, mem, same⟩ := h.below n earlier
    exact ⟨other, List.mem_append_left _ mem, same⟩

theorem available_advance (h : Kept payloadOf session returned) {push : KcpSegment}
    (held : session.receivedSegments[session.nextReceiveSequence]? = some segment)
    (available : Available session returned push) : Available session.advance (returned ++ [segment]) push := by
  rcases available with ⟨other, mem, same⟩ | ⟨other, found, payload⟩
  · exact .inl ⟨other, List.mem_append_left _ mem, same⟩
  · by_cases last : push.sequenceNumber = session.nextReceiveSequence
    · rw [last, held, Option.some.injEq] at found
      subst found
      exact .inl ⟨segment, List.mem_append_right _ List.mem_cons_self, (h.keyed _ _ held).trans last.symm, payload⟩
    · refine .inr ⟨other, ?_, payload⟩
      rw [MinimalKcpSession.advance, Table.get_erase_of_ne _ (Ne.symm last)]
      exact found

theorem drained (h : Kept payloadOf session returned) (drained : Drained session delivered after) :
    Kept payloadOf after (returned ++ delivered) ∧
    ∀ push, Available session returned push → Available after (returned ++ delivered) push := by
  induction drained generalizing returned with
  | done missing =>
    rw [List.append_nil]
    exact ⟨h, fun push available => available⟩
  | next held rest ih =>
    obtain ⟨kept, still⟩ := ih (h.advance held)
    rw [List.append_assoc, List.singleton_append] at kept still
    exact ⟨kept, fun push available => still push (h.available_advance held available)⟩

/-- A segment in the buffer gives way to one with the same payload. -/
theorem settle (h : Kept payloadOf session returned)
    (payload : session.Accepted segment → segment.payload = payloadOf segment.sequenceNumber) :
    Kept payloadOf (session.settle segment) returned ∧
    ∀ push, Available session returned push → Available (session.settle segment) returned push := by
  refine ⟨⟨h.keyed.settle segment, fun n other found => ?_, h.below⟩, fun push available => ?_⟩
  · rw [settle_received] at found
    split at found
    · rename_i accepted
      rw [Table.get_insert] at found
      split at found
      · rename_i same
        cases found
        exact same ▸ payload accepted
      · exact h.held n other found
    · exact h.held n other found
  · rcases available with returned | ⟨other, found, same⟩
    · exact .inl returned
    · rw [Available, settle_received]
      split
      · rename_i accepted
        by_cases number : segment.sequenceNumber = push.sequenceNumber
        · have payloads : segment.payload = push.payload := by
            rw [payload accepted, number, ← h.held _ _ found, same]
          rw [number, Table.get_insert_self]
          exact .inr ⟨segment, rfl, payloads⟩
        · rw [Table.get_insert_of_ne _ _ number]
          exact .inr ⟨other, found, same⟩
      · exact .inr ⟨other, found, same⟩

/-- A push is kept: it was returned, or goes to the buffer. -/
theorem settled_available (h : Kept payloadOf session returned) (push : segment.command = .push)
    (whole : segment.fragment = 0) (payload : segment.payload = payloadOf segment.sequenceNumber) :
    Available (session.settle segment) returned segment := by
  by_cases below : segment.sequenceNumber < session.nextReceiveSequence
  · obtain ⟨other, mem, number, same⟩ := h.below _ below
    exact .inl ⟨other, mem, number, same.trans payload.symm⟩
  · have accepted : session.Accepted segment := ⟨push, whole, below⟩
    refine .inr ⟨segment, ?_, rfl⟩
    rw [settle_received, if_pos accepted, Table.get_insert_self]

theorem applied (h : Kept payloadOf session returned)
    (payload : segment.command = .push → segment.fragment = 0 → segment.payload = payloadOf segment.sequenceNumber)
    (applied : Applied session segment delivered after) :
    Kept payloadOf after (returned ++ delivered) ∧
    (segment.command = .push → segment.fragment = 0 → Available after (returned ++ delivered) segment) ∧
    ∀ push, Available session returned push → Available after (returned ++ delivered) push := by
  obtain ⟨settled, still⟩ := h.settle fun accepted => payload accepted.1 accepted.2.1
  have here := fun push whole => h.settled_available push whole (payload push whole)
  rcases applied.settled with ⟨-, drained⟩ | ⟨-, rfl, rfl⟩
  · obtain ⟨kept, moved⟩ := settled.drained drained
    exact ⟨kept, fun push whole => moved _ (here push whole), fun push available => moved _ (still push available)⟩
  · rw [List.append_nil]
    exact ⟨settled, here, still⟩

theorem appliedAll (h : Kept payloadOf session returned)
    (payload : ∀ segment ∈ segments, segment.command = .push → segment.fragment = 0 →
      segment.payload = payloadOf segment.sequenceNumber)
    (applied : AppliedAll session segments delivered after) :
    Kept payloadOf after (returned ++ delivered) ∧
    (∀ push ∈ segments, push.command = .push → push.fragment = 0 → Available after (returned ++ delivered) push) ∧
    ∀ push, Available session returned push → Available after (returned ++ delivered) push := by
  induction applied generalizing returned with
  | nil session =>
    rw [List.append_nil]
    exact ⟨h, fun push mem => (List.not_mem_nil mem).elim, fun push available => available⟩
  | @cons session middle after segment segments first rest own head tail ih =>
    obtain ⟨kept, here, before⟩ := h.applied (payload segment List.mem_cons_self) head
    obtain ⟨final, later, still⟩ := ih kept fun other mem => payload other (List.mem_cons_of_mem _ mem)
    rw [List.append_assoc] at final later still
    refine ⟨final, fun push mem is whole => ?_, fun push available => still push (before push available)⟩
    rcases List.mem_cons.mp mem with rfl | mem
    · exact still push (here is whole)
    · exact later push mem is whole

end Kept

theorem answer_ack {nowMilliseconds : UInt32} {answer : KcpSegment × KcpSegment}
    (mem : answer ∈ session.answer nowMilliseconds segment) : answer.1 = segment ∧
      (answer.2.command = .ack → segment.command = .push ∧ answer.2.sequenceNumber = segment.sequenceNumber) := by
  unfold MinimalKcpSession.answer at mem
  split at mem
  · rename_i push
    rw [List.mem_singleton.mp mem]
    exact ⟨rfl, fun _ => ⟨push, rfl⟩⟩
  · rw [List.mem_singleton.mp mem]
    exact ⟨rfl, fun ack => by cases ack⟩
  · cases mem

/-- Every answer is to a segment of the datagram, and an acknowledgement to a push with its number. -/
theorem processSegments_answers {nowMilliseconds : UInt32} {result final : MinimalKcpInboundResult}
    (done : (session.processSegments nowMilliseconds segments result).2 = .ok final) :
    ∀ answer ∈ final.answers, answer ∈ result.answers ∨ answer.1 ∈ segments ∧ (answer.2.command = .ack →
      answer.1.command = .push ∧ answer.2.sequenceNumber = answer.1.sequenceNumber) := by
  induction segments generalizing session result with
  | nil =>
    cases done
    exact fun answer mem => .inl mem
  | cons segment segments ih =>
    rw [processSegments] at done
    split at done
    · cases done
    · intro answer mem
      obtain ⟨-, -, -, answers⟩ := session.processSegment_applied nowMilliseconds segment result
      rcases ih done answer mem with old | ⟨here, ack⟩
      · rw [answers] at old
        rcases List.mem_append.mp old with before | new
        · exact .inl before
        · obtain ⟨rfl, ack⟩ := answer_ack new
          exact .inr ⟨List.mem_cons_self, ack⟩
      · exact .inr ⟨List.mem_cons_of_mem _ here, ack⟩

end MinimalKcpSession

namespace KcpClient
open MinimalKcpSession

/-- The datagram loses no data. -/
def KeepsData (payloadOf : UInt32 → Bytes) (client : KcpClient) : KcpInput → Prop
  | .queue .. => True
  | .datagram datagram _ => ∀ segments, decodeDatagram datagram = .ok segments →
      KeepsSegments payloadOf client.session segments

/-- Between two calls the next number is missing, and what the last datagram was answered with an acknowledgement for is
there. -/
structure Acknowledged (payloadOf : UInt32 → Bytes) (client : KcpClient) : Prop where
  kept : Kept payloadOf client.session client.returned
  missing : client.session.receivedSegments[client.session.nextReceiveSequence]? = none
  available : ∀ answer ∈ client.answered, answer.2.command = .ack → answer.1.command = .push ∧
    answer.2.sequenceNumber = answer.1.sequenceNumber ∧ Available client.session client.returned answer.1

theorem start_acknowledged (payloadOf : UInt32 → Bytes) (conversation : UInt32) (options : KcpTransportOptions) :
    Acknowledged payloadOf (start conversation options) where
  kept := by
    refine ⟨fun n segment found => ?_, fun n segment found => ?_, fun n below => ?_⟩
    · simp [start, MinimalKcpSession.start] at found
    · simp [start, MinimalKcpSession.start] at found
    · exact absurd (UInt32.lt_iff_toNat_lt.mp below) (Nat.not_lt_zero _)
  missing := by simp [start, MinimalKcpSession.start]
  available answer mem := by cases mem

theorem tryQueuePayload_received (session : MinimalKcpSession) (payload : Bytes) (now : UInt32) (utcNow : Nat) :
    (session.tryQueuePayload payload now utcNow).1.receivedSegments = session.receivedSegments ∧
      (session.tryQueuePayload payload now utcNow).1.nextReceiveSequence = session.nextReceiveSequence := by
  unfold tryQueuePayload
  split
  · exact ⟨rfl, rfl⟩
  · split
    · exact ⟨rfl, rfl⟩
    · exact ⟨rfl, rfl⟩

variable {payloadOf : UInt32 → Bytes} {client : KcpClient}

theorem queue_acknowledged (h : Acknowledged payloadOf client) (payload : Bytes) (now : UInt32) (utcNow : Nat) :
    Acknowledged payloadOf (client.step (.queue payload now utcNow)).1 := by
  obtain ⟨received, next⟩ := tryQueuePayload_received client.session payload now utcNow
  have holds : ∀ push, Available client.session client.returned push →
      Available (client.session.tryQueuePayload payload now utcNow).1 client.returned push := by
    intro push available
    rw [Available, received]
    exact available
  obtain ⟨⟨keyed, held, below⟩, missing, available⟩ := h
  refine ⟨⟨?_, ?_, ?_⟩, ?_, fun answer mem ack => ?_⟩
  · rw [step, Keyed, received]
    exact keyed
  · rw [step, received]
    exact held
  · rw [step, next]
    exact below
  · rw [step, received, next]
    exact missing
  · obtain ⟨push, number, there⟩ := available answer mem ack
    exact ⟨push, number, holds answer.1 there⟩

/-- **One datagram.** A refused one drains nothing. -/
theorem datagram_acknowledged (h : Acknowledged payloadOf client) {datagram : Bytes} {now : UInt32}
    (keeps : KeepsData payloadOf client (.datagram datagram now)) :
    Acknowledged payloadOf (client.step (.datagram datagram now)).1 := by
  simp only [step, tryProcessInboundDatagram]
  cases decoded : decodeDatagram datagram with
  | error failure => exact ⟨h.kept, h.missing, fun answer mem => by cases mem⟩
  | ok segments =>
    simp only
    obtain ⟨payload, whole, calm⟩ := keeps segments decoded
    obtain ⟨delivered, applied, outcome⟩ := client.session.processSegments_applied now segments {}
    obtain ⟨kept, available, -⟩ := h.kept.appliedAll payload applied
    have missing := applied.missing h.missing
    rcases outcome with ⟨⟨failure, failed⟩, foreign⟩ | ⟨final, done, own, received⟩
    · have none := applied.calm (fun _ => h.missing) fun push mem accepted =>
        calm foreign push mem accepted.1 accepted.2.1
      rw [none, List.append_nil] at kept
      rw [failed]
      exact ⟨kept, missing, fun answer mem => by cases mem⟩
    · rw [done]
      simp only [received, List.nil_append]
      refine ⟨kept, missing, fun answer mem ack => ?_⟩
      rcases processSegments_answers done answer mem with old | ⟨here, is⟩
      · cases old
      · obtain ⟨push, number⟩ := is ack
        exact ⟨push, number, available answer.1 (own.symm ▸ here) push (whole own answer.1 here push)⟩

theorem step_acknowledged (h : Acknowledged payloadOf client) {input : KcpInput} (keeps : KeepsData payloadOf client input) :
    Acknowledged payloadOf (client.step input).1 := by
  cases input with
  | queue payload now utcNow => exact queue_acknowledged h payload now utcNow
  | datagram datagram now => exact datagram_acknowledged h keeps

/-- **What is acknowledged is kept**, in every run in which one payload goes by a number, accepted pushes are whole, and
a refused datagram does not bring the next number. -/
theorem run_acknowledged (conversation : UInt32) (options : KcpTransportOptions) (payloadOf : UInt32 → Bytes)
    (inputs : List KcpInput) (keeps : machine.Along (KeepsData payloadOf) (start conversation options) inputs) :
    ∀ answer ∈ (machine.run (start conversation options) inputs).1.answered, answer.2.command = .ack →
      answer.1.command = .push ∧ answer.2.sequenceNumber = answer.1.sequenceNumber ∧
      Available (machine.run (start conversation options) inputs).1.session
        (machine.run (start conversation options) inputs).1.returned answer.1 :=
  (@Machine.run_invariant _ _ _ machine (KeepsData payloadOf) (Acknowledged payloadOf)
    (fun _ _ h keeps => step_acknowledged h keeps) _ _ (start_acknowledged payloadOf conversation options) keeps).available

/-- One whole push. -/
def sampleInputs : List KcpInput := [.datagram ([samplePush 0 [7]].flatMap encodeSegment) 0]

theorem sampleInputs_keep : machine.Along (KeepsData fun _ => [7]) (start 11 sampleOptions) sampleInputs := by
  refine ⟨fun segments decoded => ?_, trivial⟩
  rw [decodeDatagram_encode _ (by decide +kernel), Except.ok.injEq] at decoded
  subst decoded
  have own : (start 11 sampleOptions).session.ownSegments [samplePush 0 [7]] = [samplePush 0 [7]] := by decide +kernel
  refine ⟨fun push mem _ _ => ?_, fun _ push mem _ => ?_, fun foreign => absurd own foreign⟩
  · rw [own] at mem
    rw [List.mem_singleton.mp mem]
    rfl
  · rw [List.mem_singleton.mp mem]
    rfl

/-- Its push and the answer to it. -/
def sampleAnswer : KcpSegment × KcpSegment :=
  (samplePush 0 [7], (start 11 sampleOptions).session.createAck (samplePush 0 [7]))

theorem run_acknowledged_sample :
    sampleAnswer.1.command = .push ∧ sampleAnswer.2.sequenceNumber = sampleAnswer.1.sequenceNumber ∧
      Available (machine.run (start 11 sampleOptions) sampleInputs).1.session
        (machine.run (start 11 sampleOptions) sampleInputs).1.returned sampleAnswer.1 :=
  run_acknowledged 11 sampleOptions (fun _ => [7]) sampleInputs sampleInputs_keep sampleAnswer (by decide +kernel) rfl

/-- The first fragment of a message in two. -/
def fragmentedPush : KcpSegment := { samplePush 0 [7] with fragment := 1 }

def fragmentedInputs : List KcpInput := [.datagram (encodeSegment fragmentedPush) 0]

/-- It is acknowledged, and dropped. -/
theorem fragmented_lost :
    (fragmentedPush, (start 11 sampleOptions).session.createAck fragmentedPush) ∈
      (machine.run (start 11 sampleOptions) fragmentedInputs).1.answered ∧
    ¬ Available (machine.run (start 11 sampleOptions) fragmentedInputs).1.session
      (machine.run (start 11 sampleOptions) fragmentedInputs).1.returned fragmentedPush := by
  refine ⟨by decide +kernel, ?_⟩
  rintro (⟨other, mem, -⟩ | ⟨other, found, -⟩)
  · have none : (machine.run (start 11 sampleOptions) fragmentedInputs).1.returned = [] := by decide +kernel
    rw [none] at mem
    cases mem
  · have none : (machine.run (start 11 sampleOptions) fragmentedInputs).1.session.receivedSegments[
        fragmentedPush.sequenceNumber]? = none := by decide +kernel
    rw [none] at found
    cases found

end KcpClient
end XServer.Client
