import Mathlib.Data.List.Basic
import Mathlib.Data.List.Infix

/-!
# A text read in pieces

A reader keeps what it has read and asks, after each read, whether it can answer; the first
answer ends its reading. Where the answers to the beginnings of a text are known by their
length, the answer of every way of reading the text is.
-/

namespace XServer.Lib

section Reads
variable {α β : Type}

/-- One way of reading a text, in pieces of at least one and at most `limit` places. -/
structure CutInto (limit : Nat) (text : List α) (reads : List (List α)) : Prop where
  sized : ∀ read ∈ reads, 0 < read.length ∧ read.length ≤ limit
  whole : reads.flatten = text

/-- The first answer on the way from `buffer` through the reads. -/
def firstAnswer (answer : List α → Option β) : List α → List (List α) → Option β
  | _, [] => none
  | buffer, read :: reads => (answer (buffer ++ read)).or (firstAnswer answer (buffer ++ read) reads)

variable {answer : List α → Option β} {limit : Nat} {text buffer : List α} {reads : List (List α)}

/-- What holds of no answer and of every answer ahead holds of the first. -/
theorem firstAnswer_all {P : Option β → Prop} (waiting : P none)
    (ahead : ∀ p, p <+: buffer ++ reads.flatten → buffer.length ≤ p.length → P (answer p)) :
    P (firstAnswer answer buffer reads) := by
  induction reads generalizing buffer with
  | nil => exact waiting
  | cons read reads ih =>
    rw [List.flatten_cons, ← List.append_assoc] at ahead
    have here : P (answer (buffer ++ read)) := by
      refine ahead _ (List.prefix_append _ _) ?_
      rw [List.length_append]
      omega
    unfold firstAnswer
    cases found : answer (buffer ++ read) with
    | some b =>
      rw [found] at here
      exact here
    | none =>
      refine ih fun p start long => ahead p start ?_
      rw [List.length_append] at long
      omega

theorem firstAnswer_append (quiet : ∀ p, p <+: buffer ++ reads.flatten → answer p = none)
    (more : List (List α)) :
    firstAnswer answer buffer (reads ++ more) = firstAnswer answer (buffer ++ reads.flatten) more := by
  induction reads generalizing buffer with
  | nil => rw [List.flatten_nil, List.append_nil, List.nil_append]
  | cons read reads ih =>
    rw [List.flatten_cons, ← List.append_assoc] at quiet ⊢
    rw [List.cons_append, firstAnswer, quiet _ (List.prefix_append _ _), Option.none_or]
    exact ih quiet

/-- No read passes over `limit` places that all have the same answer. -/
theorem firstAnswer_reaches {a : Nat} {b : β} (sized : ∀ read ∈ reads, 0 < read.length ∧ read.length ≤ limit)
    (short : buffer.length < a) (reach : a ≤ (buffer ++ reads.flatten).length)
    (quiet : ∀ p, p <+: buffer ++ reads.flatten → p.length < a → answer p = none)
    (decided : ∀ p, p <+: buffer ++ reads.flatten → a ≤ p.length → p.length < a + limit → answer p = some b) :
    firstAnswer answer buffer reads = some b := by
  induction reads generalizing buffer with
  | nil =>
    rw [List.flatten_nil, List.append_nil] at reach
    omega
  | cons read reads ih =>
    obtain ⟨-, small⟩ := sized read List.mem_cons_self
    rw [List.flatten_cons, ← List.append_assoc] at reach quiet decided
    have length : (buffer ++ read).length = buffer.length + read.length := List.length_append
    unfold firstAnswer
    by_cases here : (buffer ++ read).length < a
    · rw [quiet _ (List.prefix_append _ _) here, Option.none_or]
      exact ih (fun r mem => sized r (List.mem_cons_of_mem read mem)) here reach quiet decided
    · rw [decided _ (List.prefix_append _ _) (by omega) (by omega)]
      rfl

/-! ## Reading place by place, but for one read -/

def singles (text : List α) : List (List α) := text.map fun a => [a]

theorem flatten_singles (text : List α) : (singles text).flatten = text := by
  induction text with
  | nil => rfl
  | cons a text ih =>
    change [a] ++ (singles text).flatten = a :: text
    rw [ih]
    rfl

/-- From `a` to `c` in one read. -/
def readsThrough (text : List α) (a c : Nat) : List (List α) :=
  singles (text.take a) ++ ((text.take c).drop a :: singles (text.drop c))

theorem take_append_piece {a c : Nat} (before : a ≤ c) : text.take a ++ (text.take c).drop a = text.take c := by
  have cut : (text.take c).take a = text.take a := by
    rw [List.take_take, Nat.min_eq_left before]
  rw [← cut, List.take_append_drop]

theorem reads_readsThrough {a c : Nat} (before : a < c) (within : c ≤ text.length) (near : c ≤ a + limit) :
    CutInto limit text (readsThrough text a c) := by
  have single : ∀ part : List α, ∀ read ∈ singles part, 0 < read.length ∧ read.length ≤ limit := by
    intro part read mem
    obtain ⟨place, -, rfl⟩ := List.mem_map.mp mem
    rw [List.length_singleton]
    omega
  constructor
  · intro read mem
    unfold readsThrough at mem
    rw [List.mem_append, List.mem_cons] at mem
    obtain mem | rfl | mem := mem
    · exact single _ read mem
    · rw [List.length_drop, List.length_take]
      omega
    · exact single _ read mem
  · unfold readsThrough
    rw [List.flatten_append, List.flatten_cons, flatten_singles, flatten_singles, ← List.append_assoc,
      take_append_piece (Nat.le_of_lt before), List.take_append_drop]

/-- Where nothing is answered through `a`, the answer is the one at `c` or one behind it. -/
theorem firstAnswer_readsThrough {a c : Nat} (before : a ≤ c)
    (quiet : ∀ p, p <+: text → p.length ≤ a → answer p = none) :
    firstAnswer answer [] (readsThrough text a c) =
      (answer (text.take c)).or (firstAnswer answer (text.take c) (singles (text.drop c))) := by
  have quiet : ∀ p, p <+: [] ++ (singles (text.take a)).flatten → answer p = none := by
    intro p start
    rw [flatten_singles, List.nil_append] at start
    refine quiet p (start.trans (List.take_prefix a text)) ?_
    have length := start.length_le
    rw [List.length_take] at length
    omega
  unfold readsThrough
  rw [firstAnswer_append quiet, flatten_singles, List.nil_append, firstAnswer, take_append_piece before]

end Reads

end XServer.Lib
