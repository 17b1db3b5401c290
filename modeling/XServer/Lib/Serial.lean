import Mathlib.Algebra.Group.Int.Defs
import Mathlib.Algebra.Group.Nat.Defs

/-!
# Serial numbers

Numbers of 32 bits that wrap, compared by the sign of their difference: sequence
numbers and millisecond clocks. `offset base n` counts the steps from `base` to `n`;
within half of the circle the comparison is the one of the offsets.
-/

namespace XServer.Lib.Serial

/-- How far `later` is after `earlier`, as a signed number of 32 bits. -/
def distance (later earlier : UInt32) : Int :=
  if (later - earlier).toNat < 2 ^ 31 then (later - earlier).toNat else (later - earlier).toNat - 2 ^ 32

/-- The steps from `base` to `n`. -/
def offset (base n : UInt32) : Nat := (n - base).toNat

variable {base a b : UInt32}

theorem offset_lt (base n : UInt32) : offset base n < 2 ^ 32 := UInt32.toNat_lt _

theorem offset_eq (base n : UInt32) : offset base n = (2 ^ 32 - base.toNat + n.toNat) % 2 ^ 32 :=
  UInt32.toNat_sub n base

@[simp] theorem offset_zero (n : UInt32) : offset 0 n = n.toNat := by
  rw [offset, UInt32.sub_zero]

@[simp] theorem offset_self (n : UInt32) : offset n n = 0 := by
  rw [offset, UInt32.sub_self, UInt32.toNat_zero]

theorem offset_inj (same : offset base a = offset base b) : a = b := by
  have numbers := UInt32.toNat_inj.mp same
  calc a = a - base + base := (UInt32.sub_add_cancel a base).symm
    _ = b - base + base := by rw [numbers]
    _ = b := UInt32.sub_add_cancel b base

theorem offset_eq_zero : offset base a = 0 ↔ a = base := by
  constructor
  · intro none
    exact offset_inj (none.trans (offset_self base).symm)
  · intro same
    rw [same, offset_self]

/-- The offset from the next number is one less. -/
theorem offset_succ (apart : a ≠ base) : offset (base + 1) a + 1 = offset base a := by
  have positive : offset base a ≠ 0 := fun none => apart (offset_eq_zero.mp none)
  have at_base := base.toNat_lt
  have at_a := a.toNat_lt
  rw [offset_eq] at positive ⊢
  rw [offset_eq, UInt32.toNat_add, UInt32.toNat_one]
  omega

/-- The offset of the next number is one more, short of a full turn. -/
theorem offset_next (room : offset base a + 1 < 2 ^ 32) : offset base (a + 1) = offset base a + 1 := by
  have at_base := base.toNat_lt
  have at_a := a.toNat_lt
  rw [offset_eq] at room ⊢
  rw [offset_eq, UInt32.toNat_add, UInt32.toNat_one]
  omega

/-- Offsets from a number further on. -/
theorem offset_rebase (before : offset base a ≤ offset base b) : offset a b = offset base b - offset base a := by
  have at_base := base.toNat_lt
  have at_a := a.toNat_lt
  have at_b := b.toNat_lt
  rw [offset_eq, offset_eq] at before
  rw [offset_eq, offset_eq, offset_eq]
  omega

/-- Within half of the circle, numbers are as far apart as their offsets. -/
theorem distance_eq (low : offset base a < 2 ^ 31) (low' : offset base b < 2 ^ 31) :
    distance a b = (offset base a : Int) - offset base b := by
  have at_base := base.toNat_lt
  have at_a := a.toNat_lt
  have at_b := b.toNat_lt
  rw [offset_eq] at low low'
  rw [distance, offset_eq, offset_eq, UInt32.toNat_sub]
  split <;> omega

theorem distance_neg : distance a base < 0 ↔ 2 ^ 31 ≤ offset base a := by
  have small := offset_lt base a
  rw [offset] at small ⊢
  rw [distance]
  split <;> omega

/-- A number ahead of `base` and before `base + width` is at an offset below the width. -/
theorem distance_add_neg {width : UInt32} (narrow : width.toNat < 2 ^ 31) (low : offset base a < 2 ^ 31) :
    distance a (base + width) < 0 ↔ offset base a < width.toNat := by
  have at_width : offset base (base + width) = width.toNat := by
    have at_base := base.toNat_lt
    rw [offset_eq, UInt32.toNat_add]
    omega
  rw [distance_eq low (by omega), at_width]
  omega

/-- Numbers below 2^31 are compared as they are. -/
theorem distance_toNat (low : a.toNat < 2 ^ 31) (low' : b.toNat < 2 ^ 31) : distance a b = (a.toNat : Int) - b.toNat := by
  have at_zero := @distance_eq 0 a b (by rwa [offset_zero]) (by rwa [offset_zero])
  rwa [offset_zero, offset_zero] at at_zero

end XServer.Lib.Serial
