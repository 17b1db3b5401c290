import XServer.Core.Timer
import XServer.Lib.Binary64

/-!
# The delay of a managed timer

A `TimeSpan` on its way into the timer manager: `TotalMilliseconds` is a double, the scheduler
makes whole milliseconds of it, `CreateManagedOnceTimer` bounds these by the largest signed
number, and the conversion to the clock's nanoseconds multiplies what is left by a million. The
bound stands before the multiplication, where the largest delay that survives it is a
millionth of what is let through.
-/

namespace XServer.Managed
open XServer.Lib XServer.Core

/-! ## Managed code -/

def ticksPerMillisecond : Int := 10000

/-- `long.MaxValue / TicksPerMillisecond` and its counterpart. -/
def maxMilliseconds : Int := 922337203685477
def minMilliseconds : Int := -922337203685477

/-- `TimeSpan.TotalMilliseconds`, a double; `ticks` is a `long`. -/
def totalMilliseconds (ticks : Int) : ℚ :=
  let temp := toDouble (toDouble ticks / toDouble ticksPerMillisecond)
  if (maxMilliseconds : ℚ) < temp then maxMilliseconds
  else if temp < minMilliseconds then minMilliseconds
  else temp

/-- The cast of a double to `long`. -/
def truncate (x : ℚ) : Int := if 0 ≤ x then ⌊x⌋ else ⌈x⌉

/-- The milliseconds that `ManagedNativeTimerScheduler.CreateOnce` hands to native code. -/
def delayMilliseconds (ticks : Int) : Int := max 0 (truncate (totalMilliseconds ticks))

def delayMs (delay : Int64) : UInt64 := UInt64.ofNat (delayMilliseconds delay.toInt).toNat

/-! ## Native code -/

def clampedDelayMs (delayMs : UInt64) : Int64 :=
  if delayMs > UInt64.ofNat 9223372036854775807 then Int64.ofNat 9223372036854775807 else delayMs.toInt64

/-- The conversion of `std::chrono::milliseconds` to a count of nanoseconds. Its product is taken
in 64 bits; where it overflows, which the language leaves undefined, it is taken as it wraps. -/
def toSteadyDuration (milliseconds : Int64) : Int64 := milliseconds * 1000000

/-- The duration `CreateManagedOnceTimer` hands to the timer manager. -/
def handedDuration (delayMs : UInt64) : Int := (toSteadyDuration (clampedDelayMs delayMs)).toInt

/-- How long the wait is that the timer manager starts for it. -/
def waitDuration (delayMs : UInt64) : Int := clampNonNegativeDuration (handedDuration delayMs)

/-- A timer that is accepted waits so long. -/
theorem createOnce_waits {C : Type} (manager : TimerManager C) (delayMs : UInt64) (callback : C) :
    (manager.step (.createOnce (handedDuration delayMs) (some callback))).1.waits = manager.waits ∨
      ∃ wait, (manager.step (.createOnce (handedDuration delayMs) (some callback))).1.waits = manager.waits ++ [wait] ∧
        wait.delay = waitDuration delayMs := by
  have twice : clampNonNegativeDuration (clampNonNegativeDuration (handedDuration delayMs)) = waitDuration delayMs := by
    have idempotent : ∀ duration, clampNonNegativeDuration (clampNonNegativeDuration duration) =
        clampNonNegativeDuration duration := by
      intro duration
      unfold clampNonNegativeDuration
      split
      · rfl
      · rfl
    exact idempotent _
  simp only [TimerManager.step, TimerManager.createTimer]
  split
  · exact Or.inl rfl
  · exact Or.inr ⟨_, rfl, twice⟩

/-! ## What a delay is owed -/

def maxSteadyDuration : Int := 9223372036854775807

/-- The timer waits for so many milliseconds, or for as long as a duration can be. -/
def Waits (milliseconds duration : Int) : Prop := milliseconds * 1000000 ≤ duration ∨ duration = maxSteadyDuration

/-- A delay is kept by the wait for it: neither the whole milliseconds of the `TimeSpan` nor the
milliseconds that came out of the double are cut short. -/
structure Kept (delay : Int64) : Prop where
  requested : Waits (delay.toInt / ticksPerMillisecond) (waitDuration (delayMs delay))
  handed : Waits (delayMs delay).toNat (waitDuration (delayMs delay))

/-! ## Milliseconds to nanoseconds -/

/-- The most milliseconds that are a duration. -/
def maxDelayMs : Nat := 9223372036854

theorem clampedDelayMs_toInt (delayMs : UInt64) :
    (clampedDelayMs delayMs).toInt = min (delayMs.toNat : Int) maxSteadyDuration := by
  have bound := delayMs.toNat_lt
  have limit : (UInt64.ofNat 9223372036854775807).toNat = 9223372036854775807 := by decide
  unfold clampedDelayMs maxSteadyDuration
  split
  · rename_i large
    have large : 9223372036854775807 < delayMs.toNat := by
      rw [gt_iff_lt, UInt64.lt_iff_toNat_lt, limit] at large
      exact large
    have top : (Int64.ofNat 9223372036854775807).toInt = 9223372036854775807 := by decide
    rw [top]
    omega
  · rename_i small
    have small : delayMs.toNat ≤ 9223372036854775807 := by
      rw [gt_iff_lt, UInt64.lt_iff_toNat_lt, limit] at small
      omega
    have same : delayMs.toInt64.toInt = (delayMs.toNat : Int).bmod (2 ^ 64) :=
      BitVec.toInt_eq_toNat_bmod delayMs.toBitVec
    rw [same, Int.bmod]
    omega

theorem handedDuration_eq (delayMs : UInt64) :
    handedDuration delayMs = (min (delayMs.toNat : Int) maxSteadyDuration * 1000000).bmod (2 ^ 64) := by
  have million : (1000000 : Int64).toInt = 1000000 := by decide
  unfold handedDuration toSteadyDuration
  rw [Int64.toInt_mul, clampedDelayMs_toInt, million]

theorem waitDuration_exact {delayMs : UInt64} (small : delayMs.toNat ≤ maxDelayMs) :
    waitDuration delayMs = delayMs.toNat * 1000000 := by
  unfold maxDelayMs at small
  have unclamped : min (delayMs.toNat : Int) maxSteadyDuration = delayMs.toNat := by
    unfold maxSteadyDuration
    omega
  have unwrapped : ((delayMs.toNat : Int) * 1000000).bmod (2 ^ 64) = delayMs.toNat * 1000000 := by
    rw [Int.bmod]
    omega
  unfold waitDuration clampNonNegativeDuration
  rw [handedDuration_eq, unclamped, unwrapped, if_neg]
  omega

/-- A product that is too large is even, below the milliseconds asked for, and no largest duration. -/
theorem waitDuration_wraps {delayMs : UInt64} (large : maxDelayMs < delayMs.toNat) :
    ¬ Waits delayMs.toNat (waitDuration delayMs) := by
  unfold maxDelayMs at large
  obtain ⟨clamped, is⟩ : ∃ clamped, clamped = min (delayMs.toNat : Int) maxSteadyDuration := ⟨_, rfl⟩
  have bounds : 9223372036854 < clamped ∧ clamped ≤ 9223372036854775807 := by
    unfold maxSteadyDuration at is
    omega
  have range : (clamped * 1000000).bmod (2 ^ 64) ≤ 9223372036854775807 ∧
      (clamped * 1000000).bmod (2 ^ 64) ≠ 9223372036854775807 := by
    rw [Int.bmod]
    omega
  unfold Waits waitDuration clampNonNegativeDuration
  rw [handedDuration_eq, ← is, maxSteadyDuration]
  split
  · omega
  · omega

/-- Every number of milliseconds, as native code receives it. -/
theorem waits_iff (delayMs : UInt64) : Waits delayMs.toNat (waitDuration delayMs) ↔ delayMs.toNat ≤ maxDelayMs := by
  constructor
  · intro waits
    by_contra large
    exact waitDuration_wraps (Nat.lt_of_not_le large) waits
  · intro small
    rw [waitDuration_exact small]
    exact Or.inl (Int.le_refl _)

/-! ## Ticks to milliseconds -/

/-- The double that `TotalMilliseconds` bounds. -/
def quotient (ticks : Int) : ℚ := toDouble (toDouble ticks / toDouble ticksPerMillisecond)

theorem toDouble_ticksPerMillisecond : toDouble (ticksPerMillisecond : ℚ) = 10000 := by
  have exact := @toDouble_exact 10000 0 (by norm_num)
  unfold ticksPerMillisecond
  norm_num at exact ⊢
  exact exact

theorem quotient_nonpos {ticks : Int} (le : ticks ≤ 0) : quotient ticks ≤ 0 := by
  unfold quotient
  rw [toDouble_ticksPerMillisecond]
  apply toDouble_nonpos
  exact div_nonpos_of_nonpos_of_nonneg (toDouble_nonpos (by exact_mod_cast le)) (by norm_num)

theorem quotient_nonneg {ticks : Int} (le : 0 ≤ ticks) : 0 ≤ quotient ticks := by
  unfold quotient
  rw [toDouble_ticksPerMillisecond]
  apply toDouble_nonneg
  exact div_nonneg (toDouble_nonneg (by exact_mod_cast le)) (by norm_num)

theorem quotient_mono {s t : Int} (nonneg : 0 ≤ s) (le : s ≤ t) : quotient s ≤ quotient t := by
  unfold quotient
  rw [toDouble_ticksPerMillisecond]
  have start : (0 : ℚ) ≤ s := by exact_mod_cast nonneg
  have ticks : toDouble (s : ℚ) ≤ toDouble t := toDouble_mono start (by exact_mod_cast le)
  apply toDouble_mono
  · exact div_nonneg (toDouble_nonneg start) (by norm_num)
  · exact div_le_div_of_nonneg_right ticks (by norm_num)

theorem delayMilliseconds_nonpos {ticks : Int} (le : ticks ≤ 0) : delayMilliseconds ticks = 0 := by
  have total : totalMilliseconds ticks ≤ 0 := by
    have below := quotient_nonpos le
    unfold totalMilliseconds
    change (if (maxMilliseconds : ℚ) < quotient ticks then _ else if quotient ticks < minMilliseconds then _ else
      quotient ticks) ≤ 0
    have positive : (0 : ℚ) ≤ maxMilliseconds := by norm_num [maxMilliseconds]
    rw [if_neg (by linarith)]
    split
    · norm_num [minMilliseconds]
    · exact below
  have truncated : truncate (totalMilliseconds ticks) ≤ 0 := by
    unfold truncate
    split
    · exact_mod_cast (Int.floor_le _).trans total
    · exact Int.ceil_le.mpr (by exact_mod_cast total)
  unfold delayMilliseconds
  omega

theorem delayMilliseconds_nonneg {ticks : Int} (le : 0 ≤ ticks) :
    delayMilliseconds ticks = min ⌊quotient ticks⌋ maxMilliseconds := by
  have above := quotient_nonneg le
  have floor : 0 ≤ ⌊quotient ticks⌋ := Int.floor_nonneg.mpr above
  have positive : 0 ≤ maxMilliseconds := by decide
  unfold delayMilliseconds totalMilliseconds
  change max 0 (truncate (if (maxMilliseconds : ℚ) < quotient ticks then _ else
    if quotient ticks < minMilliseconds then _ else quotient ticks)) = _
  split
  · rename_i exceeds
    have reached : maxMilliseconds ≤ ⌊quotient ticks⌋ := Int.le_floor.mpr exceeds.le
    have whole : truncate (maxMilliseconds : ℚ) = maxMilliseconds := by
      unfold truncate
      rw [if_pos (by exact_mod_cast positive), Int.floor_intCast]
    rw [whole]
    omega
  · rename_i within
    have below : ⌊quotient ticks⌋ ≤ maxMilliseconds := by
      exact_mod_cast (Int.floor_le _).trans (not_lt.mp within)
    have negative : ¬ quotient ticks < minMilliseconds := by
      have sign : (minMilliseconds : ℚ) ≤ 0 := by norm_num [minMilliseconds]
      linarith
    rw [if_neg negative]
    unfold truncate
    rw [if_pos above]
    omega

/-- A multiple of a millisecond that is a duration goes through the doubles as it is. -/
theorem quotient_exact {k : ℕ} (small : k ≤ maxDelayMs) : quotient (k * ticksPerMillisecond) = k := by
  unfold maxDelayMs at small
  have ticks : toDouble (((k * ticksPerMillisecond : ℤ)) : ℚ) = k * 10000 := by
    have exact := @toDouble_exact (k * 625) 4 (by omega)
    have value : (((k * 625 : ℕ)) : ℚ) * 2 ^ (4 : ℤ) = k * 10000 := by
      push_cast
      ring
    rw [value] at exact
    unfold ticksPerMillisecond
    push_cast
    exact exact
  have whole := @toDouble_exact k 0 (by omega)
  rw [zpow_zero, mul_one] at whole
  unfold quotient
  rw [ticks, toDouble_ticksPerMillisecond, mul_div_cancel_right₀ _ (by norm_num), whole]

/-- The most ticks whose milliseconds are a duration. -/
def maxDelayTicks : Int := 92233720368549992

theorem floor_quotient_max : ⌊quotient maxDelayTicks⌋ = maxDelayMs := by
  have ticks : toDouble (maxDelayTicks : ℚ) = 92233720368549984 := by
    have floor : ⌊(92233720368549992 : ℚ) / 2 ^ ((56 : ℤ) - 52)⌋ = 5764607523034374 := by
      rw [Int.floor_eq_iff]
      norm_num
    have value : (maxDelayTicks : ℚ) = 92233720368549992 := by norm_num [maxDelayTicks]
    rw [value, @toDouble_eq _ 56 (by norm_num) (by norm_num), roundHalfEven, floor]
    norm_num
  have milliseconds : toDouble (92233720368549984 / 10000 : ℚ) = 4722366482869759 / 512 := by
    have floor : ⌊(92233720368549984 / 10000 : ℚ) / 2 ^ ((43 : ℤ) - 52)⌋ = 4722366482869759 := by
      rw [Int.floor_eq_iff]
      norm_num
    rw [@toDouble_eq _ 43 (by norm_num) (by norm_num), roundHalfEven, floor]
    norm_num
  unfold quotient maxDelayMs
  rw [ticks, toDouble_ticksPerMillisecond, milliseconds, Int.floor_eq_iff]
  norm_num

theorem floor_quotient_succ : ⌊quotient (maxDelayTicks + 1)⌋ = maxDelayMs + 1 := by
  have ticks : toDouble ((maxDelayTicks + 1 : ℤ) : ℚ) = 92233720368550000 := by
    have floor : ⌊(92233720368549993 : ℚ) / 2 ^ ((56 : ℤ) - 52)⌋ = 5764607523034374 := by
      rw [Int.floor_eq_iff]
      norm_num
    have value : ((maxDelayTicks + 1 : ℤ) : ℚ) = 92233720368549993 := by
      norm_num [maxDelayTicks]
    rw [value, @toDouble_eq _ 56 (by norm_num) (by norm_num), roundHalfEven, floor]
    norm_num
  have milliseconds : toDouble (92233720368550000 / 10000 : ℚ) = 9223372036855 := by
    have exact := @toDouble_exact 9223372036855 0 (by norm_num)
    norm_num at exact ⊢
    exact exact
  unfold quotient maxDelayMs
  rw [ticks, toDouble_ticksPerMillisecond, milliseconds, Int.floor_eq_iff]
  norm_num

/-! ## The whole way -/

theorem delayMs_toNat (delay : Int64) : ((delayMs delay).toNat : Int) = delayMilliseconds delay.toInt := by
  have bounds : 0 ≤ delayMilliseconds delay.toInt ∧ delayMilliseconds delay.toInt ≤ 922337203685477 := by
    rcases le_total delay.toInt 0 with negative | positive
    · rw [delayMilliseconds_nonpos negative]
      decide
    · have floor : 0 ≤ ⌊quotient delay.toInt⌋ := Int.floor_nonneg.mpr (quotient_nonneg positive)
      rw [delayMilliseconds_nonneg positive, maxMilliseconds]
      omega
  unfold delayMs
  rw [UInt64.toNat_ofNat_of_lt' (by unfold UInt64.size; omega)]
  omega

/-- The doubles let a delay through exactly up to the largest one that is a duration. -/
theorem delayMs_le_iff (delay : Int64) : (delayMs delay).toNat ≤ maxDelayMs ↔ delay.toInt ≤ maxDelayTicks := by
  have value := delayMs_toNat delay
  rcases le_total delay.toInt 0 with negative | positive
  · rw [delayMilliseconds_nonpos negative] at value
    have start : 0 ≤ maxDelayTicks := by decide
    refine iff_of_true ?_ (negative.trans start)
    omega
  · rw [delayMilliseconds_nonneg positive, maxMilliseconds] at value
    constructor
    · intro small
      by_contra large
      have start : 0 ≤ maxDelayTicks + 1 := by decide
      have floors := Int.floor_mono (quotient_mono start (Int.add_one_le_of_lt (not_le.mp large)))
      rw [floor_quotient_succ] at floors
      unfold maxDelayMs at small floors
      omega
    · intro small
      have floors := Int.floor_mono (quotient_mono positive small)
      rw [floor_quotient_max] at floors
      omega

/-- The whole milliseconds of a delay survive the doubles. -/
theorem requested_le {delay : Int64} (positive : 0 ≤ delay.toInt) (small : delay.toInt ≤ maxDelayTicks) :
    delay.toInt / ticksPerMillisecond ≤ (delayMs delay).toNat := by
  have scale : ticksPerMillisecond = 10000 := rfl
  obtain ⟨k, is⟩ := Int.eq_ofNat_of_zero_le (show 0 ≤ delay.toInt / ticksPerMillisecond by rw [scale]; omega)
  have bound : k ≤ maxDelayMs := by
    unfold maxDelayTicks at small
    unfold maxDelayMs
    rw [scale] at is
    omega
  have below : (k : Int) * ticksPerMillisecond ≤ delay.toInt := by
    rw [scale] at is ⊢
    omega
  have start : 0 ≤ (k : Int) * ticksPerMillisecond := by
    rw [scale]
    omega
  have floors := Int.floor_mono (quotient_mono start below)
  rw [quotient_exact bound, Int.floor_natCast] at floors
  have value := delayMs_toNat delay
  rw [delayMilliseconds_nonneg positive, maxMilliseconds] at value
  unfold maxDelayMs at bound
  rw [is]
  omega

/-- A delay is kept exactly up to the largest one whose milliseconds are a duration. -/
theorem kept_iff (delay : Int64) : Kept delay ↔ delay.toInt ≤ maxDelayTicks := by
  constructor
  · intro kept
    exact (delayMs_le_iff delay).mp ((waits_iff _).mp kept.handed)
  · intro small
    have exact := waitDuration_exact ((delayMs_le_iff delay).mpr small)
    refine ⟨Or.inl ?_, Or.inl ?_⟩
    · rw [exact]
      rcases le_total delay.toInt 0 with negative | positive
      · have scale : ticksPerMillisecond = 10000 := rfl
        rw [scale]
        omega
      · have requested := requested_le positive small
        omega
    · rw [exact]

/-- The longest `TimeSpan` fires at once: its product wraps to a negative duration. -/
theorem maxValue_not_kept : waitDuration (delayMs Int64.maxValue) = 0 ∧ ¬ Kept Int64.maxValue := by
  have value : Int64.maxValue.toInt = 9223372036854775807 := by decide
  have ticks : toDouble ((9223372036854775807 : ℤ) : ℚ) = 9223372036854775808 := by
    have floor : ⌊(9223372036854775807 : ℚ) / 2 ^ ((62 : ℤ) - 52)⌋ = 9007199254740991 := by
      rw [Int.floor_eq_iff]
      norm_num
    rw [Int.cast_ofNat, @toDouble_eq _ 62 (by norm_num) (by norm_num), roundHalfEven, floor]
    norm_num
  have milliseconds : toDouble (9223372036854775808 / 10000 : ℚ) = 7378697629483821 / 8 := by
    have floor : ⌊(9223372036854775808 / 10000 : ℚ) / 2 ^ ((49 : ℤ) - 52)⌋ = 7378697629483820 := by
      rw [Int.floor_eq_iff]
      norm_num
    rw [@toDouble_eq _ 49 (by norm_num) (by norm_num), roundHalfEven, floor]
    norm_num
  have floor : ⌊quotient 9223372036854775807⌋ = 922337203685477 := by
    unfold quotient
    rw [ticks, toDouble_ticksPerMillisecond, milliseconds, Int.floor_eq_iff]
    norm_num
  have handed : (delayMs Int64.maxValue).toNat = 922337203685477 := by
    have whole := delayMs_toNat Int64.maxValue
    rw [value, delayMilliseconds_nonneg (by decide), floor, maxMilliseconds] at whole
    omega
  constructor
  · unfold waitDuration clampNonNegativeDuration
    rw [handedDuration_eq, handed]
    decide
  · intro kept
    have small := (waits_iff _).mp kept.handed
    rw [handed] at small
    exact absurd small (by decide)

end XServer.Managed
