import Mathlib.Algebra.Group.Int.Defs
import Mathlib.Algebra.Group.Nat.Defs
import Mathlib.Data.List.Induction
import Mathlib.Data.List.Perm.Basic
import Mathlib.Data.List.Perm.Subperm
import XServer.Lib.History
import XServer.Lib.Machine
import XServer.Lib.Table

/-!
# Timers

`core/Timer.cpp`: a table of timers by id, and the waits that the io context has not
completed yet. A wait completes in any order and with any error code, whatever was
done to its timer since, so `HandleWait` asks twice, before and after the callback,
whether the wait is still the current one of its timer. A callback is taken to
return; the calls it makes are steps of their own between its start and its return.
A `TimerID` is an `int64_t`.
-/

namespace XServer.Core
open XServer.Lib

/-! ## What a timer manager does, seen from outside -/

inductive TimerErrorCode where
  | invalidTimerID
  | timerNotFound
  | callbackEmpty
  | intervalMustBePositive
  | timerIdExhausted
  | unknown
  deriving DecidableEq, Repr

/-- Its number, a `TimerCreateResult` like the timer ids. -/
def TimerErrorCode.value : TimerErrorCode → Int
  | .invalidTimerID => -1
  | .timerNotFound => -2
  | .callbackEmpty => -3
  | .intervalMustBePositive => -4
  | .timerIdExhausted => -5
  | .unknown => -6

theorem TimerErrorCode.value_neg (code : TimerErrorCode) : code.value < 0 := by
  cases code <;> decide

inductive TimerEvent (C : Type) where
  | created (timerId : Int) (callback : C) (repeating : Bool)
  | reset (timerId : Int) (callback : C) (repeating : Bool)
  | cancelled (timerId : Int)
  | cancelledAll
  | started (timerId : Int) (callback : C)
  | removed (timerId : Int)
  | refused (code : TimerErrorCode)
  deriving DecidableEq, Repr

/-- What a timer was last created or reset to, and whether its callback was started since. -/
structure Arming (C : Type) where
  callback : C
  repeating : Bool
  started : Bool
  deriving DecidableEq, Repr

section Lawful
variable {C : Type}

/-- How an event changes what is known of one timer. -/
def armingAfter (timerId : Int) (arming : Option (Arming C)) : TimerEvent C → Option (Arming C)
  | .created id callback repeating => if id = timerId then some ⟨callback, repeating, false⟩ else arming
  | .reset id callback repeating => if id = timerId then arming.map fun _ => ⟨callback, repeating, false⟩ else arming
  | .cancelled id | .removed id => if id = timerId then none else arming
  | .cancelledAll => none
  | .started id _ => if id = timerId then arming.map fun a => { a with started := true } else arming
  | .refused _ => arming

/-- The arming of a live timer after these events. -/
def arming (timerId : Int) (trace : List (TimerEvent C)) : Option (Arming C) :=
  trace.foldl (armingAfter timerId) none

/-- What may come next: ids are positive and new, only a live timer is reset or cancelled, and a callback is started
for a live timer, the one it was last armed with, and a second time only if it repeats. -/
def Allowed (before : List (TimerEvent C)) : TimerEvent C → Prop
  | .created id .. => 0 < id ∧ ∀ callback repeating, .created id callback repeating ∉ before
  | .reset id .. | .cancelled id | .removed id => arming id before ≠ none
  | .started id callback => ∃ a, arming id before = some a ∧ a.callback = callback ∧
      (a.repeating = false → a.started = false)
  | .cancelledAll | .refused _ => True

/-- A history of a timer manager. -/
def Lawful (trace : List (TimerEvent C)) : Prop := History Allowed trace

theorem arming_snoc (timerId : Int) (trace : List (TimerEvent C)) (event : TimerEvent C) :
    arming timerId (trace ++ [event]) = armingAfter timerId (arming timerId trace) event := by
  unfold arming
  rw [List.foldl_append]
  rfl

theorem lawful_nil : Lawful ([] : List (TimerEvent C)) := history_nil

theorem Lawful.snoc {trace : List (TimerEvent C)} {event : TimerEvent C} (h : Lawful trace) (allowed : Allowed trace event) :
    Lawful (trace ++ [event]) := History.snoc h allowed

/-- A live timer was created. -/
theorem created_of_arming {timerId : Int} {trace : List (TimerEvent C)} {a : Arming C}
    (h : arming timerId trace = some a) : ∃ callback repeating, .created timerId callback repeating ∈ trace := by
  induction trace using List.reverseRecOn generalizing a with
  | nil => cases h
  | append_singleton trace event ih =>
    rw [arming_snoc] at h
    have earlier {b : Arming C} (live : arming timerId trace = some b) :
        ∃ callback repeating, .created timerId callback repeating ∈ trace ++ [event] := by
      obtain ⟨callback, repeating, mem⟩ := ih live
      exact ⟨callback, repeating, List.mem_append_left _ mem⟩
    cases event with
    | created id callback repeating =>
      by_cases same : id = timerId
      · exact ⟨callback, repeating, by simp [same]⟩
      · rw [armingAfter, if_neg same] at h
        exact earlier h
    | reset id callback repeating =>
      cases live : arming timerId trace with
      | none => simp [armingAfter, live] at h
      | some b => exact earlier live
    | started id callback =>
      cases live : arming timerId trace with
      | none => simp [armingAfter, live] at h
      | some b => exact earlier live
    | cancelled id =>
      by_cases same : id = timerId
      · simp [armingAfter, same] at h
      · exact earlier (by simpa [armingAfter, same] using h)
    | removed id =>
      by_cases same : id = timerId
      · simp [armingAfter, same] at h
      · exact earlier (by simpa [armingAfter, same] using h)
    | cancelledAll => cases h
    | refused code => exact earlier h

/-- A timer that is not live stays so until an event creates it. -/
theorem created_after {timerId : Int} {before after : List (TimerEvent C)} {a : Arming C}
    (dead : arming timerId before = none) (live : arming timerId (before ++ after) = some a) :
    ∃ callback repeating, .created timerId callback repeating ∈ after := by
  have alone : arming timerId (before ++ after) = arming timerId after := by
    unfold arming at dead ⊢
    rw [List.foldl_append, dead]
  rw [alone] at live
  exact created_of_arming live

namespace Lawful
variable {trace before after : List (TimerEvent C)} {timerId : Int} {callback : C}

/-- No callback of a cancelled timer starts. -/
theorem cancelled (h : Lawful trace) (split : trace = before ++ .cancelled timerId :: after) :
    .started timerId callback ∉ after := by
  intro mem
  obtain ⟨middle, last, rfl⟩ := List.append_of_mem mem
  have live := h before _ _ split
  have whole : trace = (before ++ (.cancelled timerId :: middle)) ++ .started timerId callback :: last := by
    rw [split, List.append_assoc]
    rfl
  obtain ⟨a, armed, -⟩ := h _ _ _ whole
  have dead : arming timerId (before ++ [.cancelled timerId]) = none := by
    rw [arming_snoc, armingAfter, if_pos rfl]
  rw [← List.singleton_append, ← List.append_assoc] at armed
  obtain ⟨callback', repeating, created⟩ := created_after dead armed
  -- a second creation of the id is not allowed
  obtain ⟨front, back, rfl⟩ := List.append_of_mem created
  obtain ⟨first, arms⟩ := Option.ne_none_iff_exists'.mp live
  obtain ⟨callback₀, repeating₀, earlier⟩ := created_of_arming arms
  have second : trace = (before ++ .cancelled timerId :: front) ++ .created timerId callback' repeating ::
      (back ++ .started timerId callback :: last) := by
    rw [split]
    simp
  exact (h _ _ _ second).2 callback₀ repeating₀ (List.mem_append_left _ earlier)

/-- After all timers were cancelled only new ones start callbacks. -/
theorem cancelledAll (h : Lawful trace) (split : trace = before ++ .cancelledAll :: after)
    (mem : .started timerId callback ∈ after) : ∃ callback repeating, .created timerId callback repeating ∈ after := by
  obtain ⟨middle, last, rfl⟩ := List.append_of_mem mem
  have whole : trace = (before ++ (.cancelledAll :: middle)) ++ .started timerId callback :: last := by
    rw [split, List.append_assoc]
    rfl
  obtain ⟨a, armed, -⟩ := h _ _ _ whole
  have dead : arming timerId (before ++ [.cancelledAll]) = none := by
    rw [arming_snoc, armingAfter]
  rw [← List.singleton_append, ← List.append_assoc] at armed
  obtain ⟨callback', repeating, created⟩ := created_after dead armed
  exact ⟨callback', repeating, List.mem_append_left _ created⟩

end Lawful
end Lawful

/-! ## The table and the waits -/

/-- `TimerEntry`, the object at an address. The generation is a `uint64_t`: it is counted here, and compared as
the code would. -/
structure TimerEntry (C : Type) where
  address : Nat
  callback : Option C
  interval : Int
  repeating : Bool
  generation : Nat
  deriving DecidableEq, Repr

/-- A wait that `ArmTimer` started: the timer, the object it holds on to, and the generation at that time. -/
structure Wait where
  timerId : Int
  address : Nat
  delay : Int
  generation : Nat
  deriving DecidableEq, Repr

/-- The error code that a wait completes with. -/
inductive WaitError where
  | none
  | operationAborted
  | other
  deriving DecidableEq, Repr

structure TimerManager (C : Type) where
  timers : Table Int (TimerEntry C) := ∅
  nextTimerId : Int := 1
  nextAddress : Nat := 0
  waits : List Wait := []
  running : Option Wait := none

/-- A call from the program, also one made inside a callback, or a step of the io context: a wait completes, a
callback returns. An empty `std::function` is `none`. -/
inductive TimerInput (C : Type) where
  | createOnce (delay : Int) (callback : Option C)
  | createRepeating (interval : Int) (callback : Option C)
  | resetOnce (timerId : Int) (delay : Int) (callback : Option C)
  | resetRepeating (timerId : Int) (interval : Int) (callback : Option C)
  | cancel (timerId : Int)
  | cancelAll
  | complete (index : Nat) (error : WaitError)
  | callbackReturned
  deriving Repr

/-- The largest `int64_t`. -/
def maxTimerId : Int := 2 ^ 63 - 1

def clampNonNegativeDuration (duration : Int) : Int := if duration < 0 then 0 else duration

/-- Equality of two generations, as 64-bit numbers. -/
def sameGeneration (a b : Nat) : Bool := a % 2 ^ 64 == b % 2 ^ 64

namespace TimerManager
variable {C : Type}

abbrev Outcome (C : Type) := TimerManager C × List (TimerEvent C)

def armTimer (manager : TimerManager C) (timerId : Int) (timer : TimerEntry C) (delay : Int)
    (generationSnapshot : Nat) : TimerManager C :=
  { manager with
    waits := manager.waits ++ [⟨timerId, timer.address, clampNonNegativeDuration delay, generationSnapshot⟩] }

def createTimer (manager : TimerManager C) (firstDelay interval : Int) (repeating : Bool) (callback : Option C) :
    Outcome C :=
  match callback with
  | none => (manager, [.refused .callbackEmpty])
  | some callback =>
    if manager.nextTimerId ≤ 0 ∨ manager.nextTimerId = maxTimerId then (manager, [.refused .timerIdExhausted])
    else
      let timer : TimerEntry C := ⟨manager.nextAddress, some callback, interval, repeating, 1⟩
      (armTimer
        { manager with
          timers := manager.timers.insert manager.nextTimerId timer, nextTimerId := manager.nextTimerId + 1
          nextAddress := manager.nextAddress + 1 }
        manager.nextTimerId timer firstDelay timer.generation,
        [.created manager.nextTimerId callback repeating])

def resetTimer (manager : TimerManager C) (timerId : Int) (firstDelay interval : Int) (repeating : Bool)
    (callback : Option C) : Outcome C :=
  if timerId ≤ 0 then (manager, [.refused .invalidTimerID])
  else
    match manager.timers[timerId]? with
    | none => (manager, [.refused .timerNotFound])
    | some timer =>
      match callback with
      | none => (manager, [.refused .callbackEmpty])
      | some callback =>
        let timer : TimerEntry C := ⟨timer.address, some callback, interval, repeating, timer.generation + 1⟩
        (armTimer { manager with timers := manager.timers.insert timerId timer } timerId timer firstDelay timer.generation,
          [.reset timerId callback repeating])

/-- What `StopTimer` changes in an entry is not seen again: its waits look for the entry in the table first. -/
def cancel (manager : TimerManager C) (timerId : Int) : Outcome C :=
  if timerId ≤ 0 then (manager, [.refused .invalidTimerID])
  else
    match manager.timers[timerId]? with
    | none => (manager, [.refused .timerNotFound])
    | some _ => ({ manager with timers := manager.timers.erase timerId }, [.cancelled timerId])

def cancelAll (manager : TimerManager C) : Outcome C := ({ manager with timers := ∅ }, [.cancelledAll])

/-- The entry that a wait is the current wait of. -/
def currentEntry (manager : TimerManager C) (wait : Wait) : Option (TimerEntry C) :=
  match manager.timers[wait.timerId]? with
  | none => none
  | some timer =>
    if timer.address = wait.address ∧ sameGeneration timer.generation wait.generation = true then some timer else none

/-- `HandleWait`, as far as the callback. -/
def handleWait (manager : TimerManager C) (wait : Wait) (error : WaitError) : Outcome C :=
  if error = .operationAborted then (manager, [])
  else
    match manager.currentEntry wait with
    | none => (manager, [])
    | some timer =>
      match error, timer.callback with
      | .none, some callback => ({ manager with running := some wait }, [.started wait.timerId callback])
      | _, _ => ({ manager with timers := manager.timers.erase wait.timerId }, [.removed wait.timerId])

/-- `HandleWait` from the callback on. -/
def finishWait (manager : TimerManager C) (wait : Wait) : Outcome C :=
  match manager.currentEntry wait with
  | none => (manager, [])
  | some timer =>
    if timer.repeating = true then (manager.armTimer wait.timerId timer timer.interval wait.generation, [])
    else ({ manager with timers := manager.timers.erase wait.timerId }, [.removed wait.timerId])

/-- One step. The io context runs no second handler inside a callback. -/
def step (manager : TimerManager C) : TimerInput C → Outcome C
  | .createOnce delay callback => manager.createTimer (clampNonNegativeDuration delay) 0 false callback
  | .createRepeating interval callback =>
    if interval ≤ 0 then (manager, [.refused .intervalMustBePositive])
    else manager.createTimer interval interval true callback
  | .resetOnce timerId delay callback => manager.resetTimer timerId (clampNonNegativeDuration delay) 0 false callback
  | .resetRepeating timerId interval callback =>
    if interval ≤ 0 then (manager, [.refused .intervalMustBePositive])
    else manager.resetTimer timerId interval interval true callback
  | .cancel timerId => manager.cancel timerId
  | .cancelAll => manager.cancelAll
  | .complete index error =>
    match manager.running, manager.waits[index]? with
    | none, some wait => handleWait { manager with waits := manager.waits.eraseIdx index } wait error
    | _, _ => (manager, [])
  | .callbackReturned =>
    match manager.running with
    | none => (manager, [])
    | some wait => finishWait { manager with running := none } wait

def machine : Machine (TimerManager C) (TimerInput C) (TimerEvent C) where
  step := step

/-! ## What a step does -/

/-- The alternatives of a step, with what it was decided on. -/
inductive Changes (manager : TimerManager C) : Outcome C → Prop where
  | silent : Changes manager (manager, [])
  | refused (code : TimerErrorCode) : Changes manager (manager, [.refused code])
  | created (callback : C) (repeating : Bool) (interval delay : Int) (positive : 0 < manager.nextTimerId) :
      Changes manager (armTimer
        { manager with
          timers := manager.timers.insert manager.nextTimerId ⟨manager.nextAddress, some callback, interval, repeating, 1⟩
          nextTimerId := manager.nextTimerId + 1, nextAddress := manager.nextAddress + 1 }
        manager.nextTimerId ⟨manager.nextAddress, some callback, interval, repeating, 1⟩ delay 1,
        [.created manager.nextTimerId callback repeating])
  | reset {timerId : Int} {timer : TimerEntry C} (callback : C) (repeating : Bool) (interval delay : Int)
      (live : manager.timers[timerId]? = some timer) :
      Changes manager (armTimer
        { manager with
          timers := manager.timers.insert timerId
            ⟨timer.address, some callback, interval, repeating, timer.generation + 1⟩ }
        timerId ⟨timer.address, some callback, interval, repeating, timer.generation + 1⟩ delay (timer.generation + 1),
        [.reset timerId callback repeating])
  | cancelled {timerId : Int} {timer : TimerEntry C} (live : manager.timers[timerId]? = some timer) :
      Changes manager ({ manager with timers := manager.timers.erase timerId }, [.cancelled timerId])
  | cancelledAll : Changes manager ({ manager with timers := ∅ }, [.cancelledAll])
  | dropped (index : Nat) (idle : manager.running = none) :
      Changes manager ({ manager with waits := manager.waits.eraseIdx index }, [])
  | started {index : Nat} {wait : Wait} {timer : TimerEntry C} {callback : C} (idle : manager.running = none)
      (taken : manager.waits[index]? = some wait) (current : manager.currentEntry wait = some timer)
      (callable : timer.callback = some callback) :
      Changes manager ({ manager with waits := manager.waits.eraseIdx index, running := some wait },
        [.started wait.timerId callback])
  | failed {index : Nat} {wait : Wait} {timer : TimerEntry C} (idle : manager.running = none)
      (current : manager.currentEntry wait = some timer) :
      Changes manager (
        { manager with waits := manager.waits.eraseIdx index, timers := manager.timers.erase wait.timerId },
        [.removed wait.timerId])
  | stale {wait : Wait} (running : manager.running = some wait) (gone : manager.currentEntry wait = none) :
      Changes manager ({ manager with running := none }, [])
  | rearmed {wait : Wait} {timer : TimerEntry C} (running : manager.running = some wait)
      (current : manager.currentEntry wait = some timer) (repeating : timer.repeating = true) :
      Changes manager (armTimer { manager with running := none } wait.timerId timer timer.interval wait.generation, [])
  | finished {wait : Wait} {timer : TimerEntry C} (running : manager.running = some wait)
      (current : manager.currentEntry wait = some timer) (once : timer.repeating = false) :
      Changes manager ({ manager with running := none, timers := manager.timers.erase wait.timerId },
        [.removed wait.timerId])

variable {manager : TimerManager C} {trace : List (TimerEvent C)}

theorem createTimer_outcome (manager : TimerManager C) (firstDelay interval : Int) (repeating : Bool)
    (callback : Option C) :
    (∃ code, manager.createTimer firstDelay interval repeating callback = (manager, [.refused code])) ∨
    ∃ called, callback = some called ∧ 0 < manager.nextTimerId ∧
      manager.createTimer firstDelay interval repeating callback = (armTimer
        { manager with
          timers := manager.timers.insert manager.nextTimerId ⟨manager.nextAddress, some called, interval, repeating, 1⟩
          nextTimerId := manager.nextTimerId + 1, nextAddress := manager.nextAddress + 1 }
        manager.nextTimerId ⟨manager.nextAddress, some called, interval, repeating, 1⟩ firstDelay 1,
        [.created manager.nextTimerId called repeating]) := by
  unfold createTimer
  cases callback with
  | none => exact .inl ⟨_, rfl⟩
  | some called =>
    simp only
    split
    · exact .inl ⟨_, rfl⟩
    · rename_i room
      rw [not_or, Int.not_le] at room
      exact .inr ⟨called, rfl, room.1, rfl⟩

theorem resetTimer_outcome (manager : TimerManager C) (timerId firstDelay interval : Int) (repeating : Bool)
    (callback : Option C) :
    (∃ code, manager.resetTimer timerId firstDelay interval repeating callback = (manager, [.refused code])) ∨
    ∃ timer called, manager.timers[timerId]? = some timer ∧ callback = some called ∧
      manager.resetTimer timerId firstDelay interval repeating callback = (armTimer
        { manager with
          timers := manager.timers.insert timerId ⟨timer.address, some called, interval, repeating, timer.generation + 1⟩ }
        timerId ⟨timer.address, some called, interval, repeating, timer.generation + 1⟩ firstDelay (timer.generation + 1),
        [.reset timerId called repeating]) := by
  unfold resetTimer
  split
  · exact .inl ⟨_, rfl⟩
  · split
    · exact .inl ⟨_, rfl⟩
    · rename_i timer live
      cases callback with
      | none => exact .inl ⟨_, rfl⟩
      | some called => exact .inr ⟨timer, called, live, rfl, rfl⟩

theorem cancel_outcome (manager : TimerManager C) (timerId : Int) :
    (∃ code, manager.cancel timerId = (manager, [.refused code])) ∨
    ∃ timer, manager.timers[timerId]? = some timer ∧
      manager.cancel timerId = ({ manager with timers := manager.timers.erase timerId }, [.cancelled timerId]) := by
  unfold cancel
  split
  · exact .inl ⟨_, rfl⟩
  · split
    · exact .inl ⟨_, rfl⟩
    · rename_i timer live
      exact .inr ⟨timer, live, rfl⟩

theorem createTimer_changes (firstDelay interval : Int) (repeating : Bool) (callback : Option C) :
    Changes manager (manager.createTimer firstDelay interval repeating callback) := by
  rcases manager.createTimer_outcome firstDelay interval repeating callback with ⟨code, same⟩ | ⟨called, -, room, made⟩
  · rw [same]
    exact .refused code
  · rw [made]
    exact .created called repeating interval firstDelay room

theorem resetTimer_changes (timerId : Int) (firstDelay interval : Int) (repeating : Bool) (callback : Option C) :
    Changes manager (manager.resetTimer timerId firstDelay interval repeating callback) := by
  rcases manager.resetTimer_outcome timerId firstDelay interval repeating callback with
    ⟨code, same⟩ | ⟨timer, called, live, -, made⟩
  · rw [same]
    exact .refused code
  · rw [made]
    exact .reset called repeating interval firstDelay live

theorem cancel_changes (timerId : Int) : Changes manager (manager.cancel timerId) := by
  rcases manager.cancel_outcome timerId with ⟨code, same⟩ | ⟨timer, live, made⟩
  · rw [same]
    exact .refused code
  · rw [made]
    exact .cancelled live

theorem handleWait_changes {index : Nat} {wait : Wait} (idle : manager.running = none)
    (taken : manager.waits[index]? = some wait) (error : WaitError) :
    Changes manager (handleWait { manager with waits := manager.waits.eraseIdx index } wait error) := by
  unfold handleWait
  split
  · exact .dropped index idle
  · cases current : manager.currentEntry wait with
    | none =>
      have gone : currentEntry { manager with waits := manager.waits.eraseIdx index } wait = none := current
      rw [gone]
      exact .dropped index idle
    | some timer =>
      have found : currentEntry { manager with waits := manager.waits.eraseIdx index } wait = some timer := current
      rw [found]
      cases callable : timer.callback with
      | none =>
        simp only [callable]
        exact .failed idle current
      | some callback =>
        simp only [callable]
        cases error with
        | none => exact .started idle taken current callable
        | operationAborted => exact .failed idle current
        | other => exact .failed idle current

theorem finishWait_changes {wait : Wait} (running : manager.running = some wait) :
    Changes manager (finishWait { manager with running := none } wait) := by
  unfold finishWait
  cases current : manager.currentEntry wait with
  | none =>
    have gone : currentEntry { manager with running := none } wait = none := current
    rw [gone]
    exact .stale running current
  | some timer =>
    have found : currentEntry { manager with running := none } wait = some timer := current
    rw [found]
    simp only
    split
    · rename_i repeating
      exact .rearmed running current repeating
    · rename_i once
      exact .finished running current (Bool.eq_false_iff.mpr once)

theorem step_changes (manager : TimerManager C) (input : TimerInput C) : Changes manager (manager.step input) := by
  cases input with
  | createOnce delay callback => exact createTimer_changes ..
  | createRepeating interval callback =>
    simp only [step]
    split
    · exact .refused _
    · exact createTimer_changes ..
  | resetOnce timerId delay callback => exact resetTimer_changes ..
  | resetRepeating timerId interval callback =>
    simp only [step]
    split
    · exact .refused _
    · exact resetTimer_changes ..
  | cancel timerId => exact cancel_changes timerId
  | cancelAll => exact .cancelledAll
  | complete index error =>
    simp only [step]
    split
    · rename_i idle taken
      exact handleWait_changes idle taken error
    · exact .silent
  | callbackReturned =>
    simp only [step]
    split
    · exact .silent
    · rename_i running
      exact finishWait_changes running

/-! ## One current wait for a timer -/

/-- The waits that are not over, the one whose callback runs among them. -/
def held (manager : TimerManager C) : List Wait := manager.waits ++ manager.running.toList

/-- How many waits there are of this generation of a timer. -/
def waitsOf (waits : List Wait) (timerId : Int) (generation : Nat) : Nat :=
  waits.countP fun wait => wait.timerId == timerId && wait.generation == generation

/-- A wait is of a timer that was created, and of a generation that its timer has had; of the last one there is at
most one. -/
structure Waiting (manager : TimerManager C) : Prop where
  live : ∀ (timerId : Int) (timer : TimerEntry C), manager.timers[timerId]? = some timer → timerId < manager.nextTimerId
  known : ∀ wait ∈ manager.held, wait.timerId < manager.nextTimerId
  earlier : ∀ wait ∈ manager.held, ∀ timer, manager.timers[wait.timerId]? = some timer →
    wait.address = timer.address ∧ 1 ≤ wait.generation ∧ wait.generation ≤ timer.generation
  single : ∀ (timerId : Int) (timer : TimerEntry C), manager.timers[timerId]? = some timer →
    waitsOf manager.held timerId timer.generation ≤ 1

theorem start_waiting : Waiting ({} : TimerManager C) where
  live := by simp
  known := by simp [held]
  earlier := by simp [held]
  single := by simp

/-- Fewer timers and fewer waits. -/
theorem Waiting.fewer {after : TimerManager C} (h : Waiting manager)
    (timers : ∀ (timerId : Int) (timer : TimerEntry C), after.timers[timerId]? = some timer →
      manager.timers[timerId]? = some timer)
    (waits : after.held.Subperm manager.held) (next : after.nextTimerId = manager.nextTimerId) : Waiting after where
  live timerId timer found := by
    rw [next]
    exact h.live timerId timer (timers timerId timer found)
  known wait mem := by
    rw [next]
    exact h.known wait (waits.subset mem)
  earlier wait mem timer found := h.earlier wait (waits.subset mem) timer (timers _ _ found)
  single timerId timer found := Nat.le_trans (waits.countP_le _) (h.single timerId timer (timers _ _ found))

theorem mem_held_armTimer {timerId : Int} {timer : TimerEntry C} {delay : Int} {generation : Nat} {wait : Wait} :
    wait ∈ (manager.armTimer timerId timer delay generation).held ↔
      wait ∈ manager.held ∨ wait = ⟨timerId, timer.address, clampNonNegativeDuration delay, generation⟩ := by
  simp only [held, armTimer, List.mem_append, List.mem_singleton]
  tauto

theorem waitsOf_armTimer {timerId other : Int} {timer : TimerEntry C} {delay : Int} {generation number : Nat} :
    waitsOf (manager.armTimer timerId timer delay generation).held other number =
      waitsOf manager.held other number + if timerId = other ∧ generation = number then 1 else 0 := by
  simp only [waitsOf, held, armTimer, List.countP_append, List.countP_singleton, Bool.and_eq_true, beq_iff_eq]
  omega

/-- A timer that is armed anew, with a generation that no wait of it has. -/
theorem Waiting.armed (h : Waiting manager) {timerId : Int} {timer : TimerEntry C} {delay next : Int} {address : Nat}
    (grows : manager.nextTimerId ≤ next) (below : timerId < next) (positive : 1 ≤ timer.generation)
    (behind : ∀ wait ∈ manager.held, wait.timerId = timerId → wait.address = timer.address ∧
      1 ≤ wait.generation ∧ wait.generation < timer.generation) :
    Waiting (armTimer
      { manager with timers := manager.timers.insert timerId timer, nextTimerId := next, nextAddress := address }
      timerId timer delay timer.generation) := by
  have sameHeld : held { manager with
      timers := manager.timers.insert timerId timer, nextTimerId := next, nextAddress := address } = manager.held := rfl
  constructor
  · intro other entry found
    simp only [armTimer, Table.get_insert] at found ⊢
    split at found
    · omega
    · have := h.live other entry found
      omega
  · intro wait mem
    rw [mem_held_armTimer, sameHeld] at mem
    simp only [armTimer]
    rcases mem with old | rfl
    · have := h.known wait old
      omega
    · exact below
  · intro wait mem entry found
    rw [mem_held_armTimer, sameHeld] at mem
    simp only [armTimer, Table.get_insert] at found
    split at found
    · rename_i same
      cases found
      rcases mem with old | rfl
      · obtain ⟨address, low, high⟩ := behind wait old same.symm
        exact ⟨address, low, by omega⟩
      · exact ⟨rfl, positive, Nat.le_refl _⟩
    · rename_i other
      rcases mem with old | rfl
      · exact h.earlier wait old entry found
      · exact absurd rfl other
  · intro other entry found
    rw [waitsOf_armTimer, sameHeld]
    simp only [armTimer, Table.get_insert] at found
    split at found
    · rename_i same
      cases found
      -- the waits of the timer are of earlier generations
      have none : waitsOf manager.held other timer.generation = 0 := by
        refine List.countP_eq_zero.mpr fun wait mem => ?_
        simp only [Bool.and_eq_true, beq_iff_eq, not_and]
        intro id
        have := (behind wait mem (id.trans same.symm)).2.2
        omega
      rw [none]
      split <;> omega
    · rename_i apart
      rw [if_neg fun same => apart same.1]
      exact h.single other entry found

theorem currentEntry_some {wait : Wait} {timer : TimerEntry C} :
    manager.currentEntry wait = some timer ↔ manager.timers[wait.timerId]? = some timer ∧
      timer.address = wait.address ∧ sameGeneration timer.generation wait.generation = true := by
  unfold currentEntry
  cases manager.timers[wait.timerId]? with
  | none => simp
  | some entry =>
    simp only [Option.some.injEq, Option.ite_none_right_eq_some]
    constructor
    · rintro ⟨current, rfl⟩
      exact ⟨rfl, current⟩
    · rintro ⟨rfl, current⟩
      exact ⟨current, rfl⟩

/-- The wait of a repeating timer takes the place of the one whose callback returned. -/
theorem Waiting.rearmed (h : Waiting manager) {wait : Wait} {timer : TimerEntry C} (delay : Int)
    (running : manager.running = some wait) (current : manager.currentEntry wait = some timer) :
    Waiting (armTimer { manager with running := none } wait.timerId timer delay wait.generation) := by
  obtain ⟨found, address, -⟩ := currentEntry_some.mp current
  have before : manager.held = manager.waits ++ [wait] := by
    rw [held, running]
    rfl
  have after : held { manager with running := none } = manager.waits := by simp [held]
  have mem_wait : wait ∈ manager.held := by simp [before]
  have mem_old {other : Wait} (mem : other ∈ manager.waits) : other ∈ manager.held := by simp [before, mem]
  constructor
  · exact h.live
  · intro other mem
    rw [mem_held_armTimer, after] at mem
    rcases mem with old | rfl
    · exact h.known other (mem_old old)
    · exact h.known wait mem_wait
  · intro other mem entry listed
    rw [mem_held_armTimer, after] at mem
    rcases mem with old | rfl
    · exact h.earlier other (mem_old old) entry listed
    · obtain ⟨same, low, high⟩ := h.earlier wait mem_wait entry listed
      exact ⟨address.trans same, low, high⟩
  · intro other entry listed
    have bound := h.single other entry listed
    rw [waitsOf_armTimer, after]
    simp only [waitsOf, before, List.countP_append, List.countP_singleton, Bool.and_eq_true, beq_iff_eq] at bound ⊢
    exact bound

theorem held_eraseIdx (manager : TimerManager C) (index : Nat) :
    (held { manager with waits := manager.waits.eraseIdx index }).Subperm manager.held :=
  ((List.eraseIdx_sublist _ _).append (List.Sublist.refl _)).subperm

theorem held_started {index : Nat} {wait : Wait} (taken : manager.waits[index]? = some wait) :
    (held { manager with waits := manager.waits.eraseIdx index, running := some wait }).Subperm manager.held := by
  obtain ⟨bound, rfl⟩ := List.getElem?_eq_some_iff.mp taken
  have same : (manager.waits.eraseIdx index ++ [manager.waits[index]]).Perm manager.waits :=
    (List.perm_append_singleton _ _).trans (List.getElem_cons_eraseIdx_perm bound)
  exact same.subperm.trans (List.sublist_append_left _ _).subperm

theorem held_ended (manager : TimerManager C) : (held { manager with running := none }).Subperm manager.held :=
  ((List.Sublist.refl _).append (List.nil_sublist _)).subperm

theorem step_waiting (h : Waiting manager) (input : TimerInput C) : Waiting (manager.step input).1 := by
  have changes := step_changes manager input
  generalize manager.step input = outcome at changes ⊢
  cases changes with
  | silent => exact h
  | refused code => exact h
  | created callback repeating interval delay positive =>
    refine h.armed (by omega) (by omega) (by simp) fun wait mem same => ?_
    have := h.known wait mem
    omega
  | reset callback repeating interval delay live =>
    rename_i timerId timer
    refine h.armed (Int.le_refl _) (h.live timerId timer live) (by simp) fun wait mem same => ?_
    obtain ⟨address, low, high⟩ := h.earlier wait mem timer (same ▸ live)
    exact ⟨address, low, by simp only; omega⟩
  | cancelled live => exact h.fewer (fun _ _ found => (Table.get_erase_some found).2) (List.Subperm.refl _) rfl
  | cancelledAll => exact h.fewer (fun _ _ found => by simp at found) (List.Subperm.refl _) rfl
  | dropped index idle => exact h.fewer (fun _ _ found => found) (held_eraseIdx manager index) rfl
  | started idle taken current callable => exact h.fewer (fun _ _ found => found) (held_started taken) rfl
  | failed idle current => exact h.fewer (fun _ _ found => (Table.get_erase_some found).2) (held_eraseIdx manager _) rfl
  | stale running gone => exact h.fewer (fun _ _ found => found) (held_ended manager) rfl
  | rearmed running current repeating => exact h.rearmed _ running current
  | finished running current once => exact h.fewer (fun _ _ found => (Table.get_erase_some found).2) (held_ended manager) rfl

/-! ## The table and the history -/

/-- The table is what the history says, and a one-shot timer whose callback was started is the one whose callback
runs. -/
structure Tracked (manager : TimerManager C) (trace : List (TimerEvent C)) : Prop where
  lawful : Lawful trace
  positive : 0 < manager.nextTimerId
  ids : ∀ timerId callback repeating, .created timerId callback repeating ∈ trace →
    0 < timerId ∧ timerId < manager.nextTimerId
  link : ∀ timerId : Int, (manager.timers[timerId]?).map (fun timer => (timer.callback, timer.repeating)) =
    (arming timerId trace).map fun a => (some a.callback, a.repeating)
  once : ∀ timerId a, arming timerId trace = some a → a.repeating = false → a.started = true →
    ∃ wait timer, manager.running = some wait ∧ wait.timerId = timerId ∧ manager.currentEntry wait = some timer

theorem start_tracked : Tracked ({} : TimerManager C) [] where
  lawful := lawful_nil
  positive := Int.zero_lt_one
  ids := by simp
  link := by simp [arming]
  once := by simp [arming]

theorem created_mem {before : List (TimerEvent C)} {event : TimerEvent C} {timerId : Int} {callback : C}
    {repeating : Bool} (other : ∀ id c r, event ≠ .created id c r)
    (mem : .created timerId callback repeating ∈ before ++ [event]) : .created timerId callback repeating ∈ before := by
  rcases List.mem_append.mp mem with old | new
  · exact old
  · exact absurd (List.mem_singleton.mp new).symm (other _ _ _)

/-- Another timer's entry does not matter to a wait. -/
theorem currentEntry_of_timers {before after : TimerManager C} {wait : Wait}
    (same : after.timers[wait.timerId]? = before.timers[wait.timerId]?) :
    after.currentEntry wait = before.currentEntry wait := by
  unfold currentEntry
  rw [same]

namespace Tracked

/-- A timer of the table is armed as the history says. -/
theorem armed (h : Tracked manager trace) {timerId : Int} {timer : TimerEntry C}
    (found : manager.timers[timerId]? = some timer) :
    ∃ a, arming timerId trace = some a ∧ timer.callback = some a.callback ∧ timer.repeating = a.repeating := by
  have linked := h.link timerId
  rw [found] at linked
  cases known : arming timerId trace with
  | none =>
    rw [known] at linked
    cases linked
  | some a =>
    rw [known] at linked
    simp only [Option.map_some, Option.some.injEq, Prod.mk.injEq] at linked
    exact ⟨a, rfl, linked.1, linked.2⟩

theorem ne_none (h : Tracked manager trace) {timerId : Int} {timer : TimerEntry C}
    (found : manager.timers[timerId]? = some timer) : arming timerId trace ≠ none := by
  obtain ⟨a, known, -⟩ := h.armed found
  rw [known]
  exact Option.some_ne_none a

/-- No one-shot timer was started while no callback runs. -/
theorem idle (h : Tracked manager trace) (idle : manager.running = none) {timerId : Int} {a : Arming C}
    (known : arming timerId trace = some a) (oneShot : a.repeating = false) : a.started = false := by
  cases started : a.started with
  | false => rfl
  | true =>
    obtain ⟨wait, timer, running, -⟩ := h.once timerId a known oneShot started
    rw [idle] at running
    cases running

/-- The callback of the current entry of a wait is the one of its timer's arming. -/
theorem current (h : Tracked manager trace) {wait : Wait} {timer : TimerEntry C}
    (current : manager.currentEntry wait = some timer) :
    ∃ a, arming wait.timerId trace = some a ∧ timer.callback = some a.callback ∧ timer.repeating = a.repeating :=
  h.armed (currentEntry_some.mp current).1

theorem silent {after : TimerManager C} (h : Tracked manager trace) (timers : after.timers = manager.timers)
    (next : after.nextTimerId = manager.nextTimerId)
    (once : ∀ timerId a, arming timerId trace = some a → a.repeating = false → a.started = true →
      ∃ wait timer, after.running = some wait ∧ wait.timerId = timerId ∧ after.currentEntry wait = some timer) :
    Tracked after trace where
  lawful := h.lawful
  positive := next ▸ h.positive
  ids := next ▸ h.ids
  link := timers ▸ h.link
  once := once

theorem refused (h : Tracked manager trace) (code : TimerErrorCode) : Tracked manager (trace ++ [.refused code]) where
  lawful := h.lawful.snoc trivial
  positive := h.positive
  ids timerId callback repeating mem := h.ids timerId callback repeating (created_mem (by simp) mem)
  link timerId := by
    rw [arming_snoc]
    exact h.link timerId
  once timerId a known := by
    rw [arming_snoc] at known
    exact h.once timerId a known

/-- A timer goes: cancelled, or removed. -/
theorem erased (h : Tracked manager trace) {timerId : Int} {event : TimerEvent C}
    (known : event = .cancelled timerId ∨ event = .removed timerId) (live : arming timerId trace ≠ none)
    {after : TimerManager C} (timers : after.timers = manager.timers.erase timerId)
    (next : after.nextTimerId = manager.nextTimerId)
    (once : ∀ other a, other ≠ timerId → arming other trace = some a → a.repeating = false → a.started = true →
      ∃ wait timer, after.running = some wait ∧ wait.timerId = other ∧ after.currentEntry wait = some timer) :
    Tracked after (trace ++ [event]) := by
  have effect (other : Int) : arming other (trace ++ [event]) = if timerId = other then none else arming other trace := by
    rw [arming_snoc]
    rcases known with rfl | rfl <;> rfl
  refine ⟨h.lawful.snoc ?_, next ▸ h.positive, fun id callback repeating mem => ?_, fun other => ?_, fun other a found => ?_⟩
  · rcases known with rfl | rfl <;> exact live
  · rw [next]
    refine h.ids id callback repeating (created_mem ?_ mem)
    rcases known with rfl | rfl <;> simp
  · rw [effect, timers]
    by_cases same : timerId = other
    · rw [same, if_pos rfl, Table.get_erase_self]
      rfl
    · rw [if_neg same, Table.get_erase_of_ne _ same]
      exact h.link other
  · rw [effect] at found
    split at found
    · cases found
    · rename_i apart
      exact once other a (Ne.symm apart) found

/-- A timer is armed: created, or reset. -/
theorem inserted (h : Tracked manager trace) {timerId : Int} {event : TimerEvent C} {callback : C} {timer : TimerEntry C}
    (allowed : Allowed trace event)
    (effect : ∀ other, arming other (trace ++ [event]) =
      if timerId = other then some ⟨callback, timer.repeating, false⟩ else arming other trace)
    (called : timer.callback = some callback) {after : TimerManager C}
    (timers : after.timers = manager.timers.insert timerId timer) (running : after.running = manager.running)
    (grows : manager.nextTimerId ≤ after.nextTimerId)
    (fresh : ∀ id c r, event = .created id c r → 0 < id ∧ id < after.nextTimerId) :
    Tracked after (trace ++ [event]) := by
  refine ⟨h.lawful.snoc allowed, ?_, fun id c r mem => ?_, fun other => ?_, fun other a known oneShot started => ?_⟩
  · have := h.positive
    omega
  · rcases List.mem_append.mp mem with old | new
    · have := h.ids id c r old
      omega
    · exact fresh id c r (List.mem_singleton.mp new).symm
  · rw [effect, timers, Table.get_insert]
    by_cases same : timerId = other
    · rw [if_pos same, if_pos same]
      simp [called]
    · rw [if_neg same, if_neg same]
      exact h.link other
  · rw [effect] at known
    split at known
    · cases known
      cases started
    · rename_i apart
      obtain ⟨wait, entry, runs, rfl, current⟩ := h.once other a known oneShot started
      refine ⟨wait, entry, running.trans runs, rfl, ?_⟩
      rw [@currentEntry_of_timers _ manager after]
      · exact current
      · rw [timers, Table.get_insert_of_ne _ _ apart]

theorem created (h : Tracked manager trace) {callback : C} {repeating : Bool} {timer : TimerEntry C}
    {after : TimerManager C} (positive : 0 < manager.nextTimerId) (called : timer.callback = some callback)
    (repeats : timer.repeating = repeating) (timers : after.timers = manager.timers.insert manager.nextTimerId timer)
    (running : after.running = manager.running) (next : after.nextTimerId = manager.nextTimerId + 1) :
    Tracked after (trace ++ [.created manager.nextTimerId callback repeating]) := by
  have fresh : ∀ c r, .created manager.nextTimerId c r ∉ trace := by
    intro c r mem
    have := (h.ids _ c r mem).2
    omega
  have allowed : Allowed trace (.created manager.nextTimerId callback repeating) := ⟨positive, fresh⟩
  have effect (other : Int) : arming other (trace ++ [.created manager.nextTimerId callback repeating]) =
      if manager.nextTimerId = other then some ⟨callback, timer.repeating, false⟩ else arming other trace := by
    rw [arming_snoc, repeats]
    rfl
  refine h.inserted allowed effect called timers running ?_ ?_
  · omega
  · intro id c r same
    cases same
    omega

/-- A reset leaves the id and arms the timer afresh. -/
theorem reset (h : Tracked manager trace) {timerId : Int} {old timer : TimerEntry C} {callback : C} {repeating : Bool}
    {after : TimerManager C} (live : manager.timers[timerId]? = some old) (called : timer.callback = some callback)
    (repeats : timer.repeating = repeating) (timers : after.timers = manager.timers.insert timerId timer)
    (running : after.running = manager.running) (next : after.nextTimerId = manager.nextTimerId) :
    Tracked after (trace ++ [.reset timerId callback repeating]) := by
  obtain ⟨a, known, -⟩ := h.armed live
  have allowed : Allowed trace (.reset timerId callback repeating) := h.ne_none live
  have effect (other : Int) : arming other (trace ++ [.reset timerId callback repeating]) =
      if timerId = other then some ⟨callback, timer.repeating, false⟩ else arming other trace := by
    rw [arming_snoc, armingAfter, repeats]
    split
    · rename_i same
      rw [← same, known]
      rfl
    · rfl
  exact h.inserted allowed effect called timers running (Int.le_of_eq next.symm) (by simp)

theorem cancelled (h : Tracked manager trace) {timerId : Int} {timer : TimerEntry C}
    (live : manager.timers[timerId]? = some timer) :
    Tracked { manager with timers := manager.timers.erase timerId } (trace ++ [.cancelled timerId]) := by
  refine h.erased (.inl rfl) (h.ne_none live) rfl rfl fun other a apart known oneShot started => ?_
  obtain ⟨wait, entry, running, rfl, current⟩ := h.once other a known oneShot started
  refine ⟨wait, entry, running, rfl, ?_⟩
  rw [@currentEntry_of_timers _ manager _ _ (Table.get_erase_of_ne _ (Ne.symm apart))]
  exact current

theorem cancelledAll (h : Tracked manager trace) : Tracked { manager with timers := ∅ } (trace ++ [.cancelledAll]) := by
  have effect (other : Int) : arming other (trace ++ [.cancelledAll]) = none := by
    rw [arming_snoc]
    rfl
  refine ⟨h.lawful.snoc trivial, h.positive, fun id c r mem => h.ids id c r (created_mem (by simp) mem), fun other => ?_,
    fun other a known => ?_⟩
  · rw [effect]
    simp
  · rw [effect] at known
    cases known

/-- The callback that starts is that of the last arming, and a one-shot timer's did not start before. -/
theorem started (h : Tracked manager trace) {wait : Wait} {timer : TimerEntry C} {callback : C} (waits : List Wait)
    (idle : manager.running = none) (current : manager.currentEntry wait = some timer)
    (callable : timer.callback = some callback) :
    Tracked { manager with waits, running := some wait } (trace ++ [.started wait.timerId callback]) := by
  obtain ⟨a, known, called, -⟩ := h.current current
  rw [callable, Option.some.injEq] at called
  have effect (other : Int) : arming other (trace ++ [.started wait.timerId callback]) =
      if wait.timerId = other then (arming other trace).map fun b => { b with started := true }
      else arming other trace := by
    rw [arming_snoc]
    rfl
  refine ⟨h.lawful.snoc ⟨a, known, called.symm, fun oneShot => h.idle idle known oneShot⟩, h.positive,
    fun id c r mem => h.ids id c r (created_mem (by simp) mem), fun other => ?_, fun other b armed oneShot started => ?_⟩
  · rw [effect]
    split
    · rw [Option.map_map]
      exact h.link other
    · exact h.link other
  · rw [effect] at armed
    split at armed
    · rename_i same
      exact ⟨wait, timer, rfl, same, current⟩
    · rw [h.idle idle armed oneShot] at started
      cases started

/-- A wait failed: its timer is removed while no callback runs. -/
theorem failed (h : Tracked manager trace) {wait : Wait} {timer : TimerEntry C} (waits : List Wait)
    (idle : manager.running = none) (current : manager.currentEntry wait = some timer) :
    Tracked { manager with waits, timers := manager.timers.erase wait.timerId } (trace ++ [.removed wait.timerId]) := by
  obtain ⟨a, known, -⟩ := h.current current
  refine h.erased (.inr rfl) (by simp [known]) rfl rfl fun other b apart armed oneShot started => ?_
  rw [h.idle idle armed oneShot] at started
  cases started

/-- The callback of an overtaken wait returns. -/
theorem stale (h : Tracked manager trace) {wait : Wait} (running : manager.running = some wait)
    (gone : manager.currentEntry wait = none) : Tracked { manager with running := none } trace := by
  refine h.silent rfl rfl fun other a known oneShot started => ?_
  obtain ⟨wait, entry, runs, -, current⟩ := h.once other a known oneShot started
  rw [running] at runs
  cases runs
  rw [gone] at current
  cases current

/-- The callback of a repeating timer returns; no one-shot timer is the one that ran. -/
theorem rearmed (h : Tracked manager trace) {wait : Wait} {timer : TimerEntry C} {after : TimerManager C}
    (running : manager.running = some wait) (current : manager.currentEntry wait = some timer)
    (repeating : timer.repeating = true) (timers : after.timers = manager.timers)
    (next : after.nextTimerId = manager.nextTimerId) : Tracked after trace := by
  refine h.silent timers next fun other a known oneShot started => ?_
  obtain ⟨wait, entry, runs, rfl, -⟩ := h.once other a known oneShot started
  rw [running] at runs
  cases runs
  obtain ⟨b, armed, -, same⟩ := h.current current
  rw [known] at armed
  cases armed
  rw [oneShot, repeating] at same
  cases same

/-- The callback of a one-shot timer returns, and the timer is removed. -/
theorem finished (h : Tracked manager trace) {wait : Wait} {timer : TimerEntry C} (running : manager.running = some wait)
    (current : manager.currentEntry wait = some timer) :
    Tracked { manager with running := none, timers := manager.timers.erase wait.timerId }
      (trace ++ [.removed wait.timerId]) := by
  obtain ⟨a, known, -⟩ := h.current current
  refine h.erased (.inr rfl) (by simp [known]) rfl rfl fun other b apart armed oneShot started => ?_
  obtain ⟨wait, entry, runs, rfl, -⟩ := h.once other b armed oneShot started
  rw [running] at runs
  cases runs
  exact absurd rfl apart

end Tracked

theorem step_tracked (h : Tracked manager trace) (input : TimerInput C) :
    Tracked (manager.step input).1 (trace ++ (manager.step input).2) := by
  have changes := step_changes manager input
  generalize manager.step input = outcome at changes ⊢
  cases changes with
  | silent =>
    rw [List.append_nil]
    exact h
  | refused code => exact h.refused code
  | created callback repeating interval delay positive => exact h.created positive rfl rfl rfl rfl rfl
  | reset callback repeating interval delay live => exact h.reset live rfl rfl rfl rfl rfl
  | cancelled live => exact h.cancelled live
  | cancelledAll => exact h.cancelledAll
  | dropped index idle =>
    rw [List.append_nil]
    exact h.silent rfl rfl h.once
  | started idle taken current callable => exact h.started _ idle current callable
  | failed idle current => exact h.failed _ idle current
  | stale running gone =>
    rw [List.append_nil]
    exact h.stale running gone
  | rearmed running current repeating =>
    rw [List.append_nil]
    exact h.rearmed running current repeating rfl rfl
  | finished running current once => exact h.finished running current

/-! ## Counting resets -/

def isReset (timerId : Int) : TimerEvent C → Bool
  | .reset id .. => id == timerId
  | _ => false

/-- How often a timer was reset. -/
def resets (timerId : Int) (trace : List (TimerEvent C)) : Nat := trace.countP (isReset timerId)

def resetsAfter (timerId : Int) (count : Nat) : TimerEvent C → Nat
  | .started .. => 0
  | .reset id .. => if id = timerId then count + 1 else count
  | _ => count

/-- How often a timer was reset since a callback was started last. -/
def resetsSinceStart (timerId : Int) (trace : List (TimerEvent C)) : Nat := trace.foldl (resetsAfter timerId) 0

theorem resets_snoc (timerId : Int) (trace : List (TimerEvent C)) (event : TimerEvent C) :
    resets timerId (trace ++ [event]) = resets timerId trace + if isReset timerId event = true then 1 else 0 := by
  rw [resets, List.countP_append, List.countP_singleton]
  rfl

theorem resetsSinceStart_snoc (timerId : Int) (trace : List (TimerEvent C)) (event : TimerEvent C) :
    resetsSinceStart timerId (trace ++ [event]) = resetsAfter timerId (resetsSinceStart timerId trace) event := by
  rw [resetsSinceStart, List.foldl_append]
  rfl

theorem resetsSinceStart_le (timerId : Int) (trace : List (TimerEvent C)) :
    resetsSinceStart timerId trace ≤ resets timerId trace := by
  induction trace using List.reverseRecOn with
  | nil => exact Nat.le_refl 0
  | append_singleton trace event ih =>
    rw [resetsSinceStart_snoc, resets_snoc]
    cases event with
    | reset id callback repeating =>
      simp only [resetsAfter, isReset, beq_iff_eq]
      split <;> omega
    | started id callback => exact Nat.zero_le _
    | _ => exact Nat.le_add_right_of_le ih

/-- The generation of a timer counts its resets; the wait whose callback runs is as many resets behind as were made
since the callback was started. -/
structure Counted (manager : TimerManager C) (trace : List (TimerEvent C)) : Prop where
  known : ∀ timerId callback repeating, .reset timerId callback repeating ∈ trace → timerId < manager.nextTimerId
  generation : ∀ (timerId : Int) (timer : TimerEntry C), manager.timers[timerId]? = some timer →
    timer.generation = 1 + resets timerId trace
  inside : ∀ wait timer, manager.running = some wait → manager.timers[wait.timerId]? = some timer →
    sameGeneration timer.generation (wait.generation + resetsSinceStart wait.timerId trace) = true

theorem start_counted : Counted ({} : TimerManager C) [] where
  known := by simp
  generation := by simp
  inside := by simp

namespace Counted

/-- A step that resets no timer and starts no callback. -/
theorem quiet (h : Counted manager trace) {event : TimerEvent C} (noReset : ∀ timerId, isReset timerId event = false)
    (noStart : ∀ timerId count, resetsAfter timerId count event = count) {after : TimerManager C}
    (timers : ∀ (timerId : Int) (timer : TimerEntry C), after.timers[timerId]? = some timer →
      manager.timers[timerId]? = some timer)
    (next : after.nextTimerId = manager.nextTimerId)
    (running : ∀ wait, after.running = some wait → manager.running = some wait) :
    Counted after (trace ++ [event]) := by
  refine ⟨fun id callback repeating mem => ?_, fun id timer found => ?_, fun wait timer runs found => ?_⟩
  · rw [next]
    rcases List.mem_append.mp mem with old | new
    · exact h.known id callback repeating old
    · have := noReset id
      rw [← List.mem_singleton.mp new] at this
      simp [isReset] at this
  · rw [resets_snoc, noReset, h.generation id timer (timers id timer found)]
    rfl
  · rw [resetsSinceStart_snoc, noStart]
    exact h.inside wait timer (running wait runs) (timers _ _ found)

/-- A new timer has the first generation, and was never reset: no reset names an id that was not given out. -/
theorem created (h : Counted manager trace) {callback : C} {repeating : Bool} {timer : TimerEntry C}
    {after : TimerManager C} (below : ∀ wait, manager.running = some wait → wait.timerId < manager.nextTimerId)
    (first : timer.generation = 1) (timers : after.timers = manager.timers.insert manager.nextTimerId timer)
    (running : after.running = manager.running) (next : after.nextTimerId = manager.nextTimerId + 1) :
    Counted after (trace ++ [.created manager.nextTimerId callback repeating]) := by
  have unseen : resets manager.nextTimerId trace = 0 := by
    refine List.countP_eq_zero.mpr fun event mem => ?_
    cases event with
    | reset id c r =>
      have := h.known id c r mem
      simp only [isReset, beq_iff_eq]
      omega
    | _ => simp [isReset]
  refine ⟨fun id c r mem => ?_, fun id entry found => ?_, fun wait entry runs found => ?_⟩
  · have := h.known id c r (by simpa using mem)
    omega
  · rw [resets_snoc]
    rw [timers, Table.get_insert] at found
    split at found
    · rename_i same
      cases found
      rw [← same, unseen, first]
      rfl
    · rw [h.generation id entry found]
      rfl
  · rw [running] at runs
    have known := below wait runs
    rw [timers, Table.get_insert, if_neg (by omega)] at found
    rw [resetsSinceStart_snoc]
    exact h.inside wait entry runs found

/-- A reset counts for its timer alone. -/
theorem reset (h : Counted manager trace) {timerId : Int} {old timer : TimerEntry C} {callback : C} {repeating : Bool}
    {after : TimerManager C} (below : timerId < manager.nextTimerId) (live : manager.timers[timerId]? = some old)
    (next : timer.generation = old.generation + 1) (timers : after.timers = manager.timers.insert timerId timer)
    (running : after.running = manager.running) (ids : after.nextTimerId = manager.nextTimerId) :
    Counted after (trace ++ [.reset timerId callback repeating]) := by
  refine ⟨fun id c r mem => ?_, fun id entry found => ?_, fun wait entry runs found => ?_⟩
  · rw [ids]
    rcases List.mem_append.mp mem with old | new
    · exact h.known id c r old
    · cases List.mem_singleton.mp new
      exact below
  · rw [resets_snoc]
    rw [timers, Table.get_insert] at found
    split at found
    · rename_i same
      cases found
      subst same
      have := h.generation timerId old live
      simp only [isReset, beq_self_eq_true, if_true]
      omega
    · rename_i apart
      rw [h.generation id entry found]
      simp [isReset, apart]
  · rw [resetsSinceStart_snoc]
    rw [running] at runs
    rw [timers, Table.get_insert] at found
    split at found
    · rename_i same
      cases found
      subst same
      have before := h.inside wait old runs live
      simp only [sameGeneration, beq_iff_eq, resetsAfter, if_true] at before ⊢
      omega
    · rename_i apart
      rw [resetsAfter, if_neg apart]
      exact h.inside wait entry runs found

/-- A callback that starts is not behind: its wait is of the timer's generation. -/
theorem started (h : Counted manager trace) {wait : Wait} {timer : TimerEntry C} (waits : List Wait) (callback : C)
    (current : manager.currentEntry wait = some timer) :
    Counted { manager with waits, running := some wait } (trace ++ [.started wait.timerId callback]) := by
  refine ⟨fun id c r mem => h.known id c r (by simpa using mem), fun id entry found => ?_,
    fun other entry running found => ?_⟩
  · rw [resets_snoc, h.generation id entry found]
    rfl
  · cases running
    obtain ⟨listed, -, same⟩ := currentEntry_some.mp current
    cases listed.symm.trans found
    rw [resetsSinceStart_snoc]
    exact same

/-- A timer goes. -/
theorem erased (h : Counted manager trace) {timerId : Int} {event : TimerEvent C}
    (known : event = .cancelled timerId ∨ event = .removed timerId) {after : TimerManager C}
    (timers : after.timers = manager.timers.erase timerId) (next : after.nextTimerId = manager.nextTimerId)
    (running : ∀ wait, after.running = some wait → manager.running = some wait) : Counted after (trace ++ [event]) := by
  refine h.quiet (fun other => ?_) (fun other count => ?_) (fun other timer found => ?_) next running
  · rcases known with rfl | rfl <;> rfl
  · rcases known with rfl | rfl <;> rfl
  · rw [timers] at found
    exact (Table.get_erase_some found).2

/-- The callback returns. -/
theorem returned (h : Counted manager trace) {after : TimerManager C} (timers : after.timers = manager.timers)
    (next : after.nextTimerId = manager.nextTimerId) (idle : after.running = none) : Counted after trace :=
  ⟨next ▸ h.known, timers ▸ h.generation, fun _ _ runs => by cases idle.symm.trans runs⟩

end Counted

theorem step_counted (waiting : Waiting manager) (h : Counted manager trace) (input : TimerInput C) :
    Counted (manager.step input).1 (trace ++ (manager.step input).2) := by
  have changes := step_changes manager input
  generalize manager.step input = outcome at changes ⊢
  cases changes with
  | silent =>
    rw [List.append_nil]
    exact h
  | refused code =>
    exact h.quiet (fun _ => rfl) (fun _ _ => rfl) (fun _ _ found => found) rfl fun _ running => running
  | created callback repeating interval delay positive =>
    exact h.created (fun wait running => waiting.known wait (by simp [held, running])) rfl rfl rfl rfl
  | reset callback repeating interval delay live => exact h.reset (waiting.live _ _ live) live rfl rfl rfl rfl
  | cancelled live => exact h.erased (.inl rfl) rfl rfl fun _ running => running
  | cancelledAll =>
    exact h.quiet (fun _ => rfl) (fun _ _ => rfl) (fun _ _ found => by simp at found) rfl fun _ running => running
  | dropped index idle =>
    rw [List.append_nil]
    exact ⟨h.known, h.generation, h.inside⟩
  | started idle taken current callable => exact h.started _ _ current
  | failed idle current => exact h.erased (.inr rfl) rfl rfl fun _ running => running
  | stale running gone =>
    rw [List.append_nil]
    exact h.returned rfl rfl rfl
  | rearmed running current repeating =>
    rw [List.append_nil]
    exact h.returned rfl rfl rfl
  | finished running current once => exact h.erased (.inr rfl) rfl rfl fun _ runs => by cases runs

/-! ## Runs -/

/-- What a timer manager guarantees at any point of a run. -/
structure Guarantees (manager : TimerManager C) (trace : List (TimerEvent C)) : Prop where
  /-- A callback starts only when a wait completes that is the current one of a live timer, and it is the timer's. -/
  starts : ∀ input timerId callback, .started timerId callback ∈ (manager.step input).2 →
    ∃ index error wait timer, input = .complete index error ∧ manager.waits[index]? = some wait ∧
      wait.timerId = timerId ∧ manager.currentEntry wait = some timer ∧ timer.callback = some callback
  /-- Every callback started so far was the one its timer was last armed with, and of a one-shot timer the first
  since then. -/
  lawful : ∀ before timerId callback after, trace = before ++ .started timerId callback :: after →
    ∃ a, arming timerId before = some a ∧ a.callback = callback ∧ (a.repeating = false → a.started = false)
  cancelled : ∀ before timerId callback after, trace = before ++ .cancelled timerId :: after →
    .started timerId callback ∉ after
  cancelledAll : ∀ before timerId callback after, trace = before ++ .cancelledAll :: after →
    .started timerId callback ∈ after → ∃ callback repeating, .created timerId callback repeating ∈ after
  /-- A one-shot timer goes when its callback returns, unless it was reset meanwhile; then it stays as it is. -/
  returns : ∀ wait, manager.running = some wait →
    (resetsSinceStart wait.timerId trace = 0 →
      (∀ timer, manager.timers[wait.timerId]? = some timer → timer.repeating = false) →
        (manager.step .callbackReturned).1.timers[wait.timerId]? = none) ∧
    (0 < resetsSinceStart wait.timerId trace → resets wait.timerId trace < 2 ^ 64 →
      (manager.step .callbackReturned).1.timers = manager.timers)
  live : ∀ (timerId : Int) (timer : TimerEntry C), manager.timers[timerId]? = some timer →
    0 < timerId ∧ ∃ callback repeating, .created timerId callback repeating ∈ trace
  unique : ∀ before timerId callback repeating after, trace = before ++ .created timerId callback repeating :: after →
    ∀ callback repeating, .created timerId callback repeating ∉ before
  /-- A timer that was reset fewer than 2^64 times has at most one current wait. -/
  single : ∀ (timerId : Int) (timer : TimerEntry C), manager.timers[timerId]? = some timer → resets timerId trace < 2 ^ 64 →
    (manager.waits.countP fun wait => wait.timerId == timerId && (manager.currentEntry wait).isSome) ≤ 1

/-- Everything known of a run. -/
structure Known (manager : TimerManager C) (trace : List (TimerEvent C)) : Prop where
  waiting : Waiting manager
  tracked : Tracked manager trace
  counted : Counted manager trace

theorem start_known : Known ({} : TimerManager C) [] := ⟨start_waiting, start_tracked, start_counted⟩

theorem Known.step (h : Known manager trace) (input : TimerInput C) :
    Known (manager.step input).1 (trace ++ (manager.step input).2) :=
  ⟨step_waiting h.waiting input, step_tracked h.tracked input, step_counted h.waiting h.counted input⟩

theorem run_known (inputs : List (TimerInput C)) :
    Known (machine.run ({} : TimerManager C) inputs).1 (machine.run ({} : TimerManager C) inputs).2 := by
  refine @Machine.run_trace _ _ _ machine _ (fun manager trace input h => ?_) _ _ start_known inputs
  exact h.step input

theorem createTimer_starts {firstDelay interval : Int} {repeating : Bool} {callback : Option C} {timerId : Int}
    {started : C} : .started timerId started ∉ (manager.createTimer firstDelay interval repeating callback).2 := by
  rcases manager.createTimer_outcome firstDelay interval repeating callback with ⟨code, same⟩ | ⟨called, -, -, made⟩
  · simp [same]
  · simp [made]

theorem resetTimer_starts {id firstDelay interval : Int} {repeating : Bool} {callback : Option C} {timerId : Int}
    {started : C} : .started timerId started ∉ (manager.resetTimer id firstDelay interval repeating callback).2 := by
  rcases manager.resetTimer_outcome id firstDelay interval repeating callback with
    ⟨code, same⟩ | ⟨timer, called, -, -, made⟩
  · simp [same]
  · simp [made]

theorem handleWait_starts {wait : Wait} {error : WaitError} {timerId : Int} {callback : C}
    (mem : .started timerId callback ∈ (manager.handleWait wait error).2) :
    wait.timerId = timerId ∧ ∃ timer, manager.currentEntry wait = some timer ∧ timer.callback = some callback := by
  unfold handleWait at mem
  split at mem
  · simp at mem
  · split at mem
    · simp at mem
    · rename_i timer current
      split at mem
      · rename_i called callable _
        simp only [List.mem_singleton, TimerEvent.started.injEq] at mem
        obtain ⟨rfl, rfl⟩ := mem
        exact ⟨rfl, timer, current, callable⟩
      · simp at mem

theorem finishWait_starts {wait : Wait} {timerId : Int} {callback : C} :
    .started timerId callback ∉ (manager.finishWait wait).2 := by
  unfold finishWait
  split
  · simp
  · split <;> simp

theorem step_starts {input : TimerInput C} {timerId : Int} {callback : C}
    (mem : .started timerId callback ∈ (manager.step input).2) :
    ∃ index error wait timer, input = .complete index error ∧ manager.waits[index]? = some wait ∧
      wait.timerId = timerId ∧ manager.currentEntry wait = some timer ∧ timer.callback = some callback := by
  cases input with
  | createOnce delay callback => exact absurd mem createTimer_starts
  | createRepeating interval callback =>
    simp only [step] at mem
    split at mem
    · simp at mem
    · exact absurd mem createTimer_starts
  | resetOnce timerId delay callback => exact absurd mem resetTimer_starts
  | resetRepeating timerId interval callback =>
    simp only [step] at mem
    split at mem
    · simp at mem
    · exact absurd mem resetTimer_starts
  | cancel timerId =>
    rcases manager.cancel_outcome timerId with ⟨code, same⟩ | ⟨timer, -, made⟩
    · simp [step, same] at mem
    · simp [step, made] at mem
  | cancelAll => simp [step, cancelAll] at mem
  | complete index error =>
    simp only [step] at mem
    split at mem
    · rename_i wait idle taken
      obtain ⟨same, timer, current, callable⟩ := handleWait_starts mem
      exact ⟨index, error, wait, timer, rfl, taken, same, current, callable⟩
    · simp at mem
  | callbackReturned =>
    simp only [step] at mem
    split at mem
    · simp at mem
    · exact absurd mem finishWait_starts

namespace Known

theorem mem_held (_ : Known manager trace) {wait : Wait} (running : manager.running = some wait) : wait ∈ manager.held := by
  simp [held, running]

/-- Without a reset since its callback was started, a wait is still the current one of its timer. -/
theorem current (h : Known manager trace) {wait : Wait} {timer : TimerEntry C} (running : manager.running = some wait)
    (found : manager.timers[wait.timerId]? = some timer) (unreset : resetsSinceStart wait.timerId trace = 0) :
    manager.currentEntry wait = some timer := by
  have inside := h.counted.inside wait timer running found
  rw [unreset] at inside
  have address := (h.waiting.earlier wait (h.mem_held running) timer found).1
  exact currentEntry_some.mpr ⟨found, address.symm, inside⟩

/-- With one it is not. -/
theorem overtaken (h : Known manager trace) {wait : Wait} (running : manager.running = some wait)
    (reset : 0 < resetsSinceStart wait.timerId trace) (few : resets wait.timerId trace < 2 ^ 64) :
    manager.currentEntry wait = none := by
  rw [Option.eq_none_iff_forall_ne_some]
  intro timer current
  obtain ⟨found, -, same⟩ := currentEntry_some.mp current
  have inside := h.counted.inside wait timer running found
  have bound := resetsSinceStart_le wait.timerId trace
  simp only [sameGeneration, beq_iff_eq] at same inside
  omega

theorem returns (h : Known manager trace) {wait : Wait} (running : manager.running = some wait)
    (unreset : resetsSinceStart wait.timerId trace = 0)
    (once : ∀ timer, manager.timers[wait.timerId]? = some timer → timer.repeating = false) :
    (manager.step .callbackReturned).1.timers[wait.timerId]? = none := by
  simp only [TimerManager.step, running, finishWait]
  cases found : manager.timers[wait.timerId]? with
  | none =>
    have gone : currentEntry { manager with running := none } wait = none := by simp [currentEntry, found]
    rw [gone]
    exact found
  | some timer =>
    have current : currentEntry { manager with running := none } wait = some timer := h.current running found unreset
    rw [current]
    simp [once timer found]

theorem stays (h : Known manager trace) {wait : Wait} (running : manager.running = some wait)
    (reset : 0 < resetsSinceStart wait.timerId trace) (few : resets wait.timerId trace < 2 ^ 64) :
    (manager.step .callbackReturned).1.timers = manager.timers := by
  simp only [TimerManager.step, running, finishWait]
  have gone : currentEntry { manager with running := none } wait = none := h.overtaken running reset few
  rw [gone]

/-- A wait that completed with success or was aborted starts the callback of its timer or does nothing. -/
theorem complete (h : Known manager trace) (index : Nat) {error : WaitError} (usual : error ≠ .other) :
    ((manager.step (.complete index error)).2 = [] ∧ (manager.step (.complete index error)).1.timers = manager.timers ∧
      (manager.step (.complete index error)).1.running = manager.running ∧
      (manager.step (.complete index error)).1.nextTimerId = manager.nextTimerId) ∨
    ∃ wait timer callback, manager.running = none ∧ manager.currentEntry wait = some timer ∧
      timer.callback = some callback ∧ manager.step (.complete index error) =
        ({ manager with waits := manager.waits.eraseIdx index, running := some wait },
          [.started wait.timerId callback]) := by
  simp only [TimerManager.step]
  split
  · rename_i wait idle taken
    unfold handleWait
    split
    · exact .inl ⟨rfl, rfl, rfl, rfl⟩
    · rename_i handled
      cases current : manager.currentEntry wait with
      | none =>
        have gone : currentEntry { manager with waits := manager.waits.eraseIdx index } wait = none := current
        rw [gone]
        exact .inl ⟨rfl, rfl, rfl, rfl⟩
      | some timer =>
        have found : currentEntry { manager with waits := manager.waits.eraseIdx index } wait = some timer := current
        obtain ⟨a, -, callable, -⟩ := h.tracked.current current
        have success : error = .none := by cases error <;> simp_all
        rw [found, success]
        simp only [callable]
        exact .inr ⟨wait, timer, a.callback, idle, current, callable, rfl⟩
  · exact .inl ⟨rfl, rfl, rfl, rfl⟩

/-- A callback that returns removes its own timer at most. -/
theorem callbackReturned (_ : Known manager trace) {wait : Wait} (running : manager.running = some wait) :
    (manager.step .callbackReturned).1.running = none ∧
    (manager.step .callbackReturned).1.nextTimerId = manager.nextTimerId ∧
    ((manager.step .callbackReturned).1.timers = manager.timers ∨
      (manager.step .callbackReturned).1.timers = manager.timers.erase wait.timerId) ∧
    ∀ timerId, resets timerId (trace ++ (manager.step .callbackReturned).2) = resets timerId trace := by
  simp only [TimerManager.step, running, finishWait]
  split
  · exact ⟨rfl, rfl, .inl rfl, by simp⟩
  · split
    · exact ⟨rfl, rfl, .inl rfl, by simp⟩
    · exact ⟨rfl, rfl, .inr rfl, fun timerId => resets_snoc timerId trace _⟩

theorem live (h : Known manager trace) {timerId : Int} {timer : TimerEntry C}
    (found : manager.timers[timerId]? = some timer) :
    0 < timerId ∧ ∃ callback repeating, .created timerId callback repeating ∈ trace := by
  obtain ⟨a, known, -⟩ := h.tracked.armed found
  obtain ⟨callback, repeating, created⟩ := created_of_arming known
  exact ⟨(h.tracked.ids timerId callback repeating created).1, callback, repeating, created⟩

theorem single (h : Known manager trace) {timerId : Int} {timer : TimerEntry C}
    (found : manager.timers[timerId]? = some timer) (few : resets timerId trace < 2 ^ 64) :
    (manager.waits.countP fun wait => wait.timerId == timerId && (manager.currentEntry wait).isSome) ≤ 1 := by
  have generation := h.counted.generation timerId timer found
  have exactly : ∀ wait ∈ manager.waits, (wait.timerId == timerId && (manager.currentEntry wait).isSome) = true →
      (wait.timerId == timerId && wait.generation == timer.generation) = true := by
    intro wait mem current
    simp only [Bool.and_eq_true, beq_iff_eq] at current ⊢
    obtain ⟨rfl, isCurrent⟩ := current
    obtain ⟨entry, currentEntry⟩ := Option.isSome_iff_exists.mp isCurrent
    obtain ⟨listed, -, same⟩ := currentEntry_some.mp currentEntry
    cases found.symm.trans listed
    -- both generations are between 1 and 2^64
    obtain ⟨-, low, high⟩ := h.waiting.earlier wait (List.mem_append_left _ mem) timer found
    simp only [sameGeneration, beq_iff_eq] at same
    exact ⟨rfl, by omega⟩
  have fewer : (manager.waits.countP fun wait => wait.timerId == timerId && (manager.currentEntry wait).isSome) ≤
      waitsOf manager.waits timerId timer.generation := List.countP_mono_left exactly
  have whole : waitsOf manager.waits timerId timer.generation ≤ waitsOf manager.held timerId timer.generation := by
    rw [waitsOf, waitsOf, held, List.countP_append]
    omega
  have bound := h.waiting.single timerId timer found
  omega

end Known

theorem run_guarantees (inputs : List (TimerInput C)) :
    Guarantees (machine.run ({} : TimerManager C) inputs).1 (machine.run ({} : TimerManager C) inputs).2 := by
  have known := run_known inputs
  constructor
  · intro input timerId callback mem
    exact step_starts mem
  · intro before timerId callback after split
    exact known.tracked.lawful _ _ _ split
  · intro before timerId callback after split
    exact known.tracked.lawful.cancelled split
  · intro before timerId callback after split mem
    exact known.tracked.lawful.cancelledAll split mem
  · intro wait running
    exact ⟨known.returns running, known.stays running⟩
  · intro timerId timer found
    exact known.live found
  · intro before timerId callback repeating after split
    exact (known.tracked.lawful _ _ _ split).2
  · intro timerId timer found few
    exact known.single found few

/-- What `count` resets of timer 1 leave of its first wait and of its entry. -/
theorem run_resets (count : Nat) (callback : C) {manager : TimerManager C} {timer : TimerEntry C}
    (found : manager.timers[(1 : Int)]? = some timer) :
    ∃ entry more, (machine.run manager (List.replicate count (.resetOnce 1 0 (some callback)))).1.timers[(1 : Int)]? =
        some entry ∧ entry.address = timer.address ∧ entry.generation = timer.generation + count ∧
      (machine.run manager (List.replicate count (.resetOnce 1 0 (some callback)))).1.waits = manager.waits ++ more ∧
      (0 < count → (⟨1, timer.address, 0, entry.generation⟩ : Wait) ∈ more) := by
  induction count generalizing manager timer with
  | zero => exact ⟨timer, [], found, rfl, rfl, (List.append_nil _).symm, fun positive => absurd positive (by omega)⟩
  | succ count ih =>
    have reset : (manager.step (.resetOnce 1 0 (some callback))).1 =
        armTimer
          { manager with
            timers := manager.timers.insert 1 ⟨timer.address, some callback, 0, false, timer.generation + 1⟩ }
          1 ⟨timer.address, some callback, 0, false, timer.generation + 1⟩ 0 (timer.generation + 1) := by
      simp [step, resetTimer, found, clampNonNegativeDuration]
    have next : (manager.step (.resetOnce 1 0 (some callback))).1.timers[(1 : Int)]? =
        some ⟨timer.address, some callback, 0, false, timer.generation + 1⟩ := by
      simp [reset, armTimer]
    obtain ⟨entry, more, listed, address, generation, waits, last⟩ := ih next
    refine ⟨entry, ⟨1, timer.address, 0, timer.generation + 1⟩ :: more, listed, address, ?_, ?_, ?_⟩
    · simp only at generation
      omega
    · refine waits.trans ?_
      rw [reset]
      simp [armTimer, clampNonNegativeDuration]
    · intro _
      cases count with
      | zero => simp [generation]
      | succ count => exact List.mem_cons_of_mem _ (last (Nat.succ_pos count))

/-- A timer, and then so many resets of it. -/
def createThenReset (count : Nat) : List (TimerInput Unit) :=
  .createOnce 0 (some ()) :: List.replicate count (.resetOnce 1 0 (some ()))

theorem two_current_waits {count : Nat} (wraps : count % 2 ^ 64 = 0) (positive : 0 < count) :
    ¬ ((machine.run ({} : TimerManager Unit) (createThenReset count)).1.waits.countP fun wait => wait.timerId == 1 &&
      ((machine.run ({} : TimerManager Unit) (createThenReset count)).1.currentEntry wait).isSome) ≤ 1 := by
  have created : (machine.step ({} : TimerManager Unit) (.createOnce 0 (some ()))).1.timers[(1 : Int)]? =
      some ⟨0, some (), 0, false, 1⟩ := by decide
  have first : (machine.step ({} : TimerManager Unit) (.createOnce 0 (some ()))).1.waits = [⟨1, 0, 0, 1⟩] := rfl
  obtain ⟨entry, more, listed, address, generation, waits, last⟩ := run_resets count () created
  rw [createThenReset, Machine.run]
  generalize (machine.run _ (List.replicate _ _)).1 = manager at listed waits ⊢
  simp only at address generation
  have both (wait : Wait) (own : wait = ⟨1, 0, 0, 1⟩ ∨ wait = ⟨1, 0, 0, entry.generation⟩) :
      (wait.timerId == 1 && (manager.currentEntry wait).isSome) = true := by
    rcases own with rfl | rfl
    · have same : sameGeneration entry.generation 1 = true := by
        simp only [sameGeneration, beq_iff_eq]
        omega
      simp [currentEntry, listed, address, same]
    · simp [currentEntry, listed, address, sameGeneration]
  obtain ⟨front, back, rfl⟩ := List.append_of_mem (last positive)
  rw [waits, first, List.countP_append, List.countP_append, List.countP_cons, List.countP_cons, both _ (.inl rfl),
    both _ (.inr rfl), if_pos rfl]
  omega

/-- 2^64 resets later the first wait of a timer is taken for the current one again. -/
theorem generation_wraps : ¬ ((machine.run ({} : TimerManager Unit) (createThenReset (2 ^ 64))).1.waits.countP
    fun wait => wait.timerId == 1 &&
      ((machine.run ({} : TimerManager Unit) (createThenReset (2 ^ 64))).1.currentEntry wait).isSome) ≤ 1 :=
  @two_current_waits (2 ^ 64) (Nat.mod_self _) (Nat.two_pow_pos 64)

end TimerManager
end XServer.Core
