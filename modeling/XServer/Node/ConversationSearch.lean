import XServer.Lib.Cycle
import XServer.Node.GateAdmission

/-!
# The search for a conversation id

The loop of `GateNode::ConsumeNextClientConversation`, whose 32-bit candidate wraps and
skips zero. It comes back to where it began after 2^32 - 1 turns and not before
(`iterate_toNat`), so it ends, and it has then tried every id.
-/

namespace XServer.Node
open XServer.Lib

/-- What the search reads of its Gate; without a client network no conversation is live. -/
structure ConversationBook where
  nextClientConversation : UInt32
  clientConversationReservations : Table UInt32 ClientConversationReservation
  clientNetwork : Option ClientNetwork

namespace ConversationBook

variable (book : ConversationBook)

/-- The condition of the loop. -/
def passesOver (candidate : UInt32) : Bool :=
  candidate == 0 || book.clientConversationReservations.contains candidate ||
    book.clientNetwork.any fun network => network.hasConversation candidate

/-- Where the search starts. -/
def start : UInt32 := if book.nextClientConversation = 0 then 1 else book.nextClientConversation

/-- `ConsumeNextClientConversation` if its loop ends within so many turns. -/
def consumeNextClientConversation (turns : Nat) : Option (UInt32 × ConversationBook) :=
  match scanCycle GateClients.succConversation book.passesOver book.start turns book.start with
  | none => none
  | some none => some (0, book)
  | some (some candidate) =>
    some (candidate, { book with nextClientConversation := GateClients.succConversation candidate })

def Reserved (conversation : UInt32) : Prop :=
  ∃ reservation, book.clientConversationReservations[conversation]? = some reservation

/-- Some session of the client network has the conversation. -/
def Live (conversation : UInt32) : Prop :=
  ∃ network, book.clientNetwork = some network ∧ ∃ (id : UInt64) (session : ClientSession),
    network.sessions[id]? = some session ∧ session.conversation = conversation

end ConversationBook

/-! ## Going around -/

theorem succConversation_toNat (conversation : UInt32) :
    (GateClients.succConversation conversation).toNat = conversation.toNat % 4294967295 + 1 := by
  have bound := conversation.toNat_lt
  have next : (conversation + 1).toNat = (conversation.toNat + 1) % 4294967296 := by
    rw [UInt32.toNat_add]
    rfl
  unfold GateClients.succConversation
  split
  · rename_i wrapped
    rw [wrapped] at next
    have zero : (0 : UInt32).toNat = 0 := rfl
    have one : (1 : UInt32).toNat = 1 := rfl
    omega
  · rename_i kept
    have nonzero : (conversation + 1).toNat ≠ 0 := fun zero => kept (UInt32.toNat_inj.mp zero)
    omega

/-- The id that is so many places on. -/
theorem iterate_toNat {start : UInt32} (nonzero : start ≠ 0) (k : Nat) :
    (GateClients.succConversation^[k] start).toNat = (start.toNat - 1 + k) % 4294967295 + 1 := by
  have positive : start.toNat ≠ 0 := fun zero => nonzero (UInt32.toNat_inj.mp zero)
  have bound := start.toNat_lt
  induction k with
  | zero =>
    rw [Function.iterate_zero_apply]
    omega
  | succ k ih =>
    rw [Function.iterate_succ_apply', succConversation_toNat, ih]
    omega

section Around
variable {start : UInt32} (nonzero : start ≠ 0)
include nonzero

theorem iterate_back : GateClients.succConversation^[4294967295] start = start := by
  have positive : start.toNat ≠ 0 := fun zero => nonzero (UInt32.toNat_inj.mp zero)
  have bound := start.toNat_lt
  apply UInt32.toNat_inj.mp
  rw [iterate_toNat nonzero]
  omega

theorem iterate_first {k : Nat} (positive : 0 < k) (below : k < 4294967295) :
    GateClients.succConversation^[k] start ≠ start := by
  intro same
  have value := iterate_toNat nonzero k
  have bound := start.toNat_lt
  rw [same] at value
  omega

/-- Every id is on the way. -/
theorem iterate_reaches {conversation : UInt32} (other : conversation ≠ 0) :
    ∃ k < 4294967295, GateClients.succConversation^[k] start = conversation := by
  have positive : start.toNat ≠ 0 := fun zero => nonzero (UInt32.toNat_inj.mp zero)
  have positive' : conversation.toNat ≠ 0 := fun zero => other (UInt32.toNat_inj.mp zero)
  have bound := start.toNat_lt
  have bound' := conversation.toNat_lt
  refine ⟨(conversation.toNat + 4294967295 - start.toNat) % 4294967295, Nat.mod_lt _ (by decide), ?_⟩
  apply UInt32.toNat_inj.mp
  rw [iterate_toNat nonzero]
  omega

theorem iterate_ne_zero (k : Nat) : GateClients.succConversation^[k] start ≠ 0 := by
  intro zero
  have value := iterate_toNat nonzero k
  have none : (0 : UInt32).toNat = 0 := rfl
  rw [zero] at value
  omega

end Around

/-! ## What the search gives -/

namespace ConversationBook

variable (book : ConversationBook)

theorem passesOver_iff {conversation : UInt32} (nonzero : conversation ≠ 0) :
    book.passesOver conversation = true ↔ book.Reserved conversation ∨ book.Live conversation := by
  have other : (conversation == 0) = false := beq_eq_false_iff_ne.mpr nonzero
  unfold passesOver Reserved Live
  rw [other, Bool.false_or, Bool.or_eq_true]
  refine or_congr ?_ ?_
  · rw [← Std.ExtTreeMap.isSome_getElem?_eq_contains, Option.isSome_iff_exists]
  · cases book.clientNetwork with
    | none => simp
    | some network => simp [ClientNetwork.hasConversation_iff]

theorem start_ne_zero : book.start ≠ 0 := by
  unfold start
  split
  · decide
  · rename_i nonzero
    exact nonzero

theorem consume_eq {turns : Nat} (enough : 4294967295 ≤ turns) :
    book.consumeNextClientConversation turns =
      some ((scan GateClients.succConversation book.passesOver 4294967295 book.start).elim (0, book) fun candidate =>
        (candidate, { book with nextClientConversation := GateClients.succConversation candidate })) := by
  have ends := @scanCycle_eq _ GateClients.succConversation book.passesOver _ book.start 4294967295 (by decide)
    (iterate_back book.start_ne_zero) (fun k => iterate_first book.start_ne_zero) turns enough
  unfold consumeNextClientConversation
  rw [ends]
  cases scan GateClients.succConversation book.passesOver 4294967295 book.start with
  | none => rfl
  | some candidate => rfl

theorem succConversation_ne_zero (conversation : UInt32) : GateClients.succConversation conversation ≠ 0 := by
  intro zero
  have value := succConversation_toNat conversation
  have none : (0 : UInt32).toNat = 0 := rfl
  rw [zero] at value
  omega

/-- **The search ends**, gives zero exactly if every id is in use, and else an id that is not. -/
theorem consume_ends :
    ∃ conversation after, (∀ turns ≥ 4294967295, book.consumeNextClientConversation turns = some (conversation, after)) ∧
      (conversation = 0 ↔ ∀ id : UInt32, id ≠ 0 → book.Reserved id ∨ book.Live id) ∧
      (conversation ≠ 0 → ¬ book.Reserved conversation ∧ ¬ book.Live conversation ∧ after.nextClientConversation ≠ 0) := by
  refine ⟨_, _, fun turns enough => book.consume_eq enough, ?_, ?_⟩
  · cases found : scan GateClients.succConversation book.passesOver 4294967295 book.start with
    | none =>
      refine iff_of_true rfl fun id nonzero => ?_
      obtain ⟨k, below, rfl⟩ := iterate_reaches book.start_ne_zero nonzero
      exact (book.passesOver_iff nonzero).mp (scan_none.mp found k below)
    | some candidate =>
      obtain ⟨free, k, rfl⟩ := scan_some found
      have nonzero := iterate_ne_zero book.start_ne_zero k
      refine iff_of_false nonzero fun all => ?_
      rw [(book.passesOver_iff nonzero).mpr (all _ nonzero)] at free
      cases free
  · cases found : scan GateClients.succConversation book.passesOver 4294967295 book.start with
    | none => exact fun nonzero => absurd rfl nonzero
    | some candidate =>
      intro nonzero
      have free : ¬ (book.Reserved candidate ∨ book.Live candidate) := by
        rw [← book.passesOver_iff nonzero, (scan_some found).1]
        decide
      exact ⟨fun reserved => free (.inl reserved), fun live => free (.inr live), succConversation_ne_zero candidate⟩

end ConversationBook

/-! ## The search of a Gate -/

/-- A Gate whose client network is there. -/
def GateClients.book (clients : GateClients) : ConversationBook where
  nextClientConversation := clients.nextClientConversation
  clientConversationReservations := clients.clientConversationReservations
  clientNetwork := some clients.clientNetwork

theorem GateClients.consume_scan (clients : GateClients) :
    clients.consumeNextClientConversation =
      (scan succConversation clients.conversationTaken 4294967295 clients.book.start).map fun conversation =>
        (conversation, { clients with nextClientConversation := succConversation conversation }) := by
  unfold consumeNextClientConversation
  simp only
  split
  · rename_i nothing
    rw [show scan _ _ _ clients.book.start = none from nothing, Option.map_none]
  · rename_i found
    rw [show scan _ _ _ clients.book.start = some _ from found, Option.map_some]

/-- The loop gives what the Gate's handlers take. -/
theorem GateClients.consume_book (clients : GateClients) {turns : Nat} (enough : 4294967295 ≤ turns) :
    clients.book.consumeNextClientConversation turns =
      some (clients.consumeNextClientConversation.elim (0, clients.book) fun taken => (taken.1, taken.2.book)) := by
  have same : scan succConversation clients.book.passesOver 4294967295 clients.book.start =
      scan succConversation clients.conversationTaken 4294967295 clients.book.start := by
    refine scan_congr fun k _ => ?_
    have nonzero := iterate_ne_zero clients.book.start_ne_zero k
    have other : (succConversation^[k] clients.book.start == 0) = false := beq_eq_false_iff_ne.mpr nonzero
    simp only [ConversationBook.passesOver, other, Bool.false_or]
    rfl
  rw [clients.book.consume_eq enough, same, consume_scan]
  cases scan succConversation clients.conversationTaken 4294967295 clients.book.start with
  | none => rfl
  | some candidate => rfl

end XServer.Node
