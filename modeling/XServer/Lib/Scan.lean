import Mathlib.Logic.Function.Iterate

/-!
# Looking for a free value

A counter that skips values in use: from a start value, the first one along
`next` that is not taken, within a number of attempts.
-/

namespace XServer.Lib

variable {α : Type}

/-- The first of `a`, `next a`, … that is not taken, among the first `fuel`. -/
def scan (next : α → α) (taken : α → Bool) : Nat → α → Option α
  | 0, _ => none
  | fuel + 1, a => if taken a then scan next taken fuel (next a) else some a

/-- What is found is free, and reached along `next`. -/
theorem scan_some {next : α → α} {taken : α → Bool} {fuel : Nat} {a b : α}
    (h : scan next taken fuel a = some b) : taken b = false ∧ ∃ k, b = next^[k] a := by
  induction fuel generalizing a with
  | zero => cases h
  | succ fuel ih =>
    unfold scan at h
    split at h
    · obtain ⟨free, k, rfl⟩ := ih h
      exact ⟨free, k + 1, rfl⟩
    · rename_i free
      cases h
      exact ⟨Bool.eq_false_iff.mpr free, 0, rfl⟩

end XServer.Lib
