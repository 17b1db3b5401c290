import XServer.Lib.Scan

/-!
# Searching once around

A loop that looks for a free value from a start on, and ends when it is back at the
start. If `next` first comes back after `p` steps, the loop ends within `p` turns, with
what `scan` finds among the first `p` values.
-/

namespace XServer.Lib

variable {α : Type} {next : α → α} {taken : α → Bool}

theorem scan_none {fuel : Nat} {a : α} : scan next taken fuel a = none ↔ ∀ k < fuel, taken (next^[k] a) = true := by
  induction fuel generalizing a with
  | zero => exact iff_of_true rfl fun k below => absurd below (Nat.not_lt_zero k)
  | succ fuel ih =>
    unfold scan
    cases here : taken a with
    | true =>
      rw [if_pos rfl, ih]
      constructor
      · intro rest k below
        cases k with
        | zero => exact here
        | succ k => exact rest k (by omega)
      · intro all k below
        exact all (k + 1) (by omega)
    | false =>
      rw [if_neg (by decide)]
      refine iff_of_false ?_ fun all => ?_
      · intro nothing
        cases nothing
      · have first := all 0 (Nat.succ_pos fuel)
        rw [Function.iterate_zero_apply, here] at first
        cases first

theorem scan_congr {taken' : α → Bool} {fuel : Nat} {a : α}
    (same : ∀ k < fuel, taken (next^[k] a) = taken' (next^[k] a)) : scan next taken fuel a = scan next taken' fuel a := by
  induction fuel generalizing a with
  | zero => rfl
  | succ fuel ih =>
    have here : taken a = taken' a := same 0 (Nat.succ_pos fuel)
    have rest : scan next taken fuel (next a) = scan next taken' fuel (next a) :=
      ih fun k below => same (k + 1) (Nat.succ_lt_succ below)
    unfold scan
    rw [here, rest]

variable [DecidableEq α]

/-- So many turns of the loop at a value; when it ends, what it has found, if anything. -/
def scanCycle (next : α → α) (taken : α → Bool) (start : α) : Nat → α → Option (Option α)
  | 0, _ => none
  | turns + 1, a =>
    if taken a then
      if next a = start then some none else scanCycle next taken start turns (next a)
    else some (some a)

theorem scanCycle_iterate {start : α} {p : Nat} (back : next^[p] start = start)
    (first : ∀ k, 0 < k → k < p → next^[k] start ≠ start) {left k turns : Nat} (ahead : k + (left + 1) = p)
    (enough : left < turns) :
    scanCycle next taken start turns (next^[k] start) = some (scan next taken (left + 1) (next^[k] start)) := by
  induction left generalizing k turns with
  | zero =>
    obtain ⟨turns, rfl⟩ := Nat.exists_eq_succ_of_ne_zero (Nat.ne_zero_of_lt enough)
    have last : next (next^[k] start) = start := by
      rw [← Function.iterate_succ_apply' next k start, show k.succ = p from ahead, back]
    unfold scanCycle scan
    rw [if_pos last]
    split <;> rfl
  | succ left ih =>
    obtain ⟨turns, rfl⟩ := Nat.exists_eq_succ_of_ne_zero (Nat.ne_zero_of_lt enough)
    have apart : next (next^[k] start) ≠ start := by
      rw [← Function.iterate_succ_apply' next k start]
      exact first (k + 1) (Nat.succ_pos k) (by omega)
    have rest := @ih (k + 1) turns (by omega) (by omega)
    rw [Function.iterate_succ_apply'] at rest
    have here : scan next taken (left + 1 + 1) (next^[k] start) =
        if taken (next^[k] start) then scan next taken (left + 1) (next (next^[k] start)) else some (next^[k] start) := rfl
    unfold scanCycle
    rw [if_neg apart, rest, here]
    split <;> rfl

/-- **The loop ends**, with what is found once around. -/
theorem scanCycle_eq {start : α} {p : Nat} (positive : 0 < p) (back : next^[p] start = start)
    (first : ∀ k, 0 < k → k < p → next^[k] start ≠ start) {turns : Nat} (enough : p ≤ turns) :
    scanCycle next taken start turns start = some (scan next taken p start) := by
  obtain ⟨left, rfl⟩ := Nat.exists_eq_succ_of_ne_zero (Nat.ne_of_gt positive)
  exact @scanCycle_iterate _ next taken _ start _ back first left 0 turns (Nat.zero_add _) enough

end XServer.Lib
