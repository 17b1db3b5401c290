import XServer.Core.Timer

/-!
# Timers of the managed runtime

`ManagedNativeTimerScheduler` keeps the callbacks of the one-shot timers that it created
in the native timer manager. A timer is in both tables except between the start of its
callback, when the scheduler forgets it, and the return of the native callback, when the
timer manager does. Native code has timers of its own in the same timer manager, and
works on these only. A wait completes with success or with `operation_aborted`.
-/

namespace XServer.Managed
open XServer.Lib XServer.Core

/-- A callback in the timer manager: the lambda of `CreateManagedOnceTimer`, with the cell it shares the timer's id
in, or any other. -/
inductive NativeCallback where
  | managed (cell : Nat)
  | native (number : Nat)
  deriving DecidableEq, Repr

inductive SchedulerEvent (A : Type) where
  | created (timerId : Int) (callback : A)
  | notCreated (result : Int)
  | cancelled (timerId : Int)
  | notCancelled (timerId : Int)
  | fired (timerId : Int)
  | ran (timerId : Int) (callback : A)
  | notRun (result : Int)
  | threw (timerId : Int)
  deriving DecidableEq, Repr

/-- An event that tells nothing of a timer. -/
def SchedulerEvent.IsNote {A : Type} (event : SchedulerEvent A) : Prop :=
  (∃ result, event = .notCreated result) ∨ ∃ timerId, event = .notCancelled timerId

/-- Both runtimes: the timer manager and the cells of the lambdas in it, the scheduler, and the timers that native
code created for itself. -/
structure TimerScheduler (A : Type) where
  hasCreateOnceTimer : Bool := true
  hasCancelTimer : Bool := true
  exportsLoaded : Bool := false
  timers : TimerManager NativeCallback := {}
  cells : List Int := []
  onceCallbacks : Table Int A := ∅
  nativeTimerIds : List Int := []

/-- A call that native code makes for itself; the number stands for one of its timers. -/
inductive NativeTimerCall where
  | createOnce (delay : Int) (callback : Option Nat)
  | createRepeating (interval : Int) (callback : Option Nat)
  | resetOnce (index : Nat) (delay : Int) (callback : Option Nat)
  | resetRepeating (index : Nat) (interval : Int) (callback : Option Nat)
  | cancel (index : Nat)
  deriving DecidableEq, Repr

inductive SchedulerInput (A : Type) where
  | createOnce (delay : Int) (callback : Option A)
  | cancel (timerId : Int)
  | loadExports
  | native (call : NativeTimerCall)
  | complete (index : Nat) (aborted : Bool)
  | callbackReturned
  deriving Repr

/-- The `TimerCreateResult` of a call. -/
def createResult {C : Type} (events : List (TimerEvent C)) : Int :=
  match events.head? with
  | some (.created timerId _ _) => timerId
  | some (.refused code) => code.value
  | _ => 0

def createdTimer {C : Type} : TimerEvent C → Option Int
  | .created timerId _ _ => some timerId
  | _ => none

/-- The call of the timer manager, on the timer with this number. -/
def NativeTimerCall.input (nativeTimerIds : List Int) : NativeTimerCall → Option (TimerInput NativeCallback)
  | .createOnce delay callback => some (.createOnce delay (callback.map .native))
  | .createRepeating interval callback => some (.createRepeating interval (callback.map .native))
  | .resetOnce index delay callback => nativeTimerIds[index]?.map fun id => .resetOnce id delay (callback.map .native)
  | .resetRepeating index interval callback =>
    nativeTimerIds[index]?.map fun id => .resetRepeating id interval (callback.map .native)
  | .cancel index => nativeTimerIds[index]?.map .cancel

/-- `kManagedNativeCreateTimerFailed`, `kManagedNativeCallbackInvalidArgument` and
`kManagedNativeCallbackOperationFailed`. -/
def managedNativeCreateTimerFailed : Int := TimerErrorCode.unknown.value
def managedNativeCallbackInvalidArgument : Int := -1
def managedNativeCallbackOperationFailed : Int := -2

namespace TimerScheduler
variable {A : Type}

abbrev Outcome (A : Type) := TimerScheduler A × List (SchedulerEvent A)

/-- `GameNode::CreateManagedOnceTimer`. -/
def createManagedOnceTimer (scheduler : TimerScheduler A) (delayMs : Int) : TimerScheduler A × Int :=
  if scheduler.exportsLoaded = false then (scheduler, managedNativeCreateTimerFailed)
  else
    let outcome := scheduler.timers.step (.createOnce delayMs (some (.managed scheduler.cells.length)))
    let result := createResult outcome.2
    ({ scheduler with timers := outcome.1, cells := scheduler.cells ++ [if 0 < result then result else 0] }, result)

/-- `GameNode::CancelManagedTimer`. -/
def cancelManagedTimer (scheduler : TimerScheduler A) (timerId : Int) : TimerScheduler A × Int :=
  if timerId ≤ 0 then (scheduler, managedNativeCallbackInvalidArgument)
  else
    let outcome := scheduler.timers.step (.cancel timerId)
    let after := { scheduler with timers := outcome.1 }
    match outcome.2.head? with
    | some (.refused _) => (after, managedNativeCallbackOperationFailed)
    | _ => (after, 0)

def createOnce (scheduler : TimerScheduler A) (delay : Int) (callback : Option A) : Outcome A :=
  match callback with
  | none => (scheduler, [.notCreated TimerErrorCode.callbackEmpty.value])
  | some callback =>
    if scheduler.hasCreateOnceTimer = false then (scheduler, [.notCreated TimerErrorCode.unknown.value])
    else
      let made := scheduler.createManagedOnceTimer (max 0 delay)
      if made.2 ≤ 0 then (made.1, [.notCreated made.2])
      else if made.1.onceCallbacks[made.2]?.isSome = true then (made.1, [.threw made.2])
      else ({ made.1 with onceCallbacks := made.1.onceCallbacks.insert made.2 callback }, [.created made.2 callback])

def cancel (scheduler : TimerScheduler A) (timerId : Int) : Outcome A :=
  if timerId ≤ 0 ∨ scheduler.hasCancelTimer = false then (scheduler, [.notCancelled timerId])
  else
    let done := scheduler.cancelManagedTimer timerId
    if done.2 ≠ 0 then (done.1, [.notCancelled timerId])
    else ({ done.1 with onceCallbacks := done.1.onceCallbacks.erase timerId }, [.cancelled timerId])

/-- `HandleTimerFired`, as far as the callback. -/
def handleTimerFired (scheduler : TimerScheduler A) (timerId : Int) : Outcome A :=
  match scheduler.onceCallbacks[timerId]? with
  | none => (scheduler, [.notRun (-1)])
  | some callback => ({ scheduler with onceCallbacks := scheduler.onceCallbacks.erase timerId }, [.ran timerId callback])

/-- `GameNode::HandleManagedTimerFired`. -/
def handleManagedTimerFired (scheduler : TimerScheduler A) (timerId : Int) : Outcome A :=
  if scheduler.exportsLoaded = false then (scheduler, []) else scheduler.handleTimerFired timerId

/-- The timer manager handles a wait, and calls the callback of the timer. -/
def complete (scheduler : TimerScheduler A) (index : Nat) (aborted : Bool) : Outcome A :=
  let outcome := scheduler.timers.step (.complete index (if aborted = true then .operationAborted else .none))
  let delivered := { scheduler with timers := outcome.1 }
  match outcome.2.head? with
  | some (.started timerId (.managed cell)) =>
    let handled := delivered.handleManagedTimerFired (scheduler.cells.getD cell 0)
    (handled.1, .fired timerId :: handled.2)
  | _ => (delivered, [])

/-- Native code works on its own timers. -/
def native (scheduler : TimerScheduler A) (call : NativeTimerCall) : Outcome A :=
  match call.input scheduler.nativeTimerIds with
  | none => (scheduler, [])
  | some input =>
    let outcome := scheduler.timers.step input
    ({ scheduler with
       timers := outcome.1, nativeTimerIds := scheduler.nativeTimerIds ++ outcome.2.filterMap createdTimer }, [])

def step (scheduler : TimerScheduler A) : SchedulerInput A → Outcome A
  | .createOnce delay callback => scheduler.createOnce delay callback
  | .cancel timerId => scheduler.cancel timerId
  | .loadExports => ({ scheduler with exportsLoaded := true }, [])
  | .native call => scheduler.native call
  | .complete index aborted => scheduler.complete index aborted
  | .callbackReturned => ({ scheduler with timers := (scheduler.timers.step .callbackReturned).1 }, [])

def machine : Machine (TimerScheduler A) (SchedulerInput A) (SchedulerEvent A) where
  step := step

/-! ## Histories -/

/-- The timer was created through the scheduler. -/
def Created (trace : List (SchedulerEvent A)) (timerId : Int) : Prop := ∃ callback, .created timerId callback ∈ trace

/-- What may come next: a timer is created once; while it was not cancelled it may fire once, and then its callback
runs, once. -/
def Allowed (before : List (SchedulerEvent A)) : SchedulerEvent A → Prop
  | .created timerId _ => ¬ Created before timerId
  | .fired timerId => Created before timerId ∧ .cancelled timerId ∉ before ∧ .fired timerId ∉ before
  | .ran timerId callback => .created timerId callback ∈ before ∧ .fired timerId ∈ before ∧
      .cancelled timerId ∉ before ∧ ∀ other, .ran timerId other ∉ before
  | .notRun _ | .threw _ => False
  | .notCreated _ | .cancelled _ | .notCancelled _ => True

/-- The two tables and the history; the timer manager has a history of its own. -/
structure Linked (scheduler : TimerScheduler A) (native : List (TimerEvent NativeCallback))
    (trace : List (SchedulerEvent A)) : Prop where
  known : TimerManager.Known scheduler.timers native
  history : History Allowed trace
  own : ∀ timerId ∈ scheduler.nativeTimerIds, timerId < scheduler.timers.nextTimerId ∧ ¬ Created trace timerId
  created : ∀ timerId, Created trace timerId →
    timerId < scheduler.timers.nextTimerId ∧ TimerManager.resets timerId native = 0 ∧ scheduler.exportsLoaded = true
  kind : ∀ (timerId : Int) entry, scheduler.timers.timers[timerId]? = some entry →
    (Created trace timerId ↔ ∃ cell, entry.callback = some (.managed cell))
  managed : ∀ (timerId : Int) entry cell, scheduler.timers.timers[timerId]? = some entry →
    entry.callback = some (.managed cell) → scheduler.cells[cell]? = some timerId ∧ entry.repeating = false
  keys : ∀ timerId, (scheduler.onceCallbacks[timerId]?).isSome = true ↔
    Created trace timerId ∧ (scheduler.timers.timers[timerId]?).isSome = true ∧
      ∀ wait, scheduler.timers.running = some wait → wait.timerId ≠ timerId
  values : ∀ (timerId : Int) callback, scheduler.onceCallbacks[timerId]? = some callback →
    .created timerId callback ∈ trace
  cancelled : ∀ timerId, .cancelled timerId ∈ trace → timerId < scheduler.timers.nextTimerId ∧
    (Created trace timerId → scheduler.timers.timers[timerId]? = none)
  fired : ∀ timerId, .fired timerId ∈ trace → scheduler.onceCallbacks[timerId]? = none ∧ Created trace timerId
  ran : ∀ timerId, .fired timerId ∈ trace ↔ ∃ callback, .ran timerId callback ∈ trace

variable {scheduler : TimerScheduler A} {native : List (TimerEvent NativeCallback)} {trace : List (SchedulerEvent A)}

theorem start_linked (createOnceTimer cancelTimer : Bool) : Linked
    ({ hasCreateOnceTimer := createOnceTimer, hasCancelTimer := cancelTimer } : TimerScheduler A) [] [] where
  known := TimerManager.start_known
  history := history_nil
  own := by simp
  created := by simp [Created]
  kind := by simp
  managed := by simp
  keys := by simp [Created]
  values := by simp
  cancelled := by simp
  fired := by simp
  ran := by simp

theorem created_snoc {event : SchedulerEvent A} {timerId : Int} (other : ∀ callback, event ≠ .created timerId callback) :
    Created (trace ++ [event]) timerId ↔ Created trace timerId := by
  have apart : ∀ callback, .created timerId callback ∈ trace ++ [event] ↔ .created timerId callback ∈ trace := by
    intro callback
    rw [List.mem_append, List.mem_singleton, or_iff_left fun same => other callback same.symm]
  simp only [Created, apart]

namespace Linked

theorem noted (h : Linked scheduler native trace) {event : SchedulerEvent A} (note : event.IsNote) :
    Linked scheduler native (trace ++ [event]) := by
  have same (other : SchedulerEvent A) (apart : ¬ other.IsNote) : other ∈ trace ++ [event] ↔ other ∈ trace := by
    rw [List.mem_append, List.mem_singleton, or_iff_left]
    rintro rfl
    exact apart note
  have created (timerId : Int) : Created (trace ++ [event]) timerId ↔ Created trace timerId :=
    created_snoc fun callback is => by simp [SchedulerEvent.IsNote, is] at note
  have allowed : Allowed trace event := by
    rcases note with ⟨result, rfl⟩ | ⟨timerId, rfl⟩ <;> trivial
  constructor
  · exact h.known
  · exact h.history.snoc allowed
  · simpa only [created] using h.own
  · simpa only [created] using h.created
  · simpa only [created] using h.kind
  · exact h.managed
  · simpa only [created] using h.keys
  · exact fun timerId callback found => List.mem_append_left _ (h.values timerId callback found)
  · intro timerId mem
    rw [same _ (by simp [SchedulerEvent.IsNote])] at mem
    rw [created]
    exact h.cancelled timerId mem
  · intro timerId mem
    rw [same _ (by simp [SchedulerEvent.IsNote])] at mem
    rw [created]
    exact h.fired timerId mem
  · intro timerId
    rw [same _ (by simp [SchedulerEvent.IsNote]), h.ran timerId]
    refine exists_congr fun callback => (same _ ?_).symm
    simp [SchedulerEvent.IsNote]

/-- A step of the timer manager that leaves the timers of the scheduler alone. -/
theorem frame (h : Linked scheduler native trace) {timers : TimerManager NativeCallback}
    {events : List (TimerEvent NativeCallback)} {nativeTimerIds : List Int}
    (known : TimerManager.Known timers (native ++ events)) (next : scheduler.timers.nextTimerId ≤ timers.nextTimerId)
    (old : ∀ timerId, Created trace timerId → timers.timers[timerId]? = scheduler.timers.timers[timerId]? ∧
      TimerManager.resets timerId (native ++ events) = TimerManager.resets timerId native ∧
      ((∀ wait, timers.running = some wait → wait.timerId ≠ timerId) ↔
        ∀ wait, scheduler.timers.running = some wait → wait.timerId ≠ timerId))
    (other : ∀ (timerId : Int) entry, timers.timers[timerId]? = some entry → ¬ Created trace timerId →
      ∀ cell, entry.callback ≠ some (.managed cell))
    (own : ∀ timerId ∈ nativeTimerIds, timerId < timers.nextTimerId ∧ ¬ Created trace timerId) :
    Linked { scheduler with timers := timers, nativeTimerIds := nativeTimerIds } (native ++ events) trace := by
  constructor
  · exact known
  · exact h.history
  · exact own
  · intro timerId created
    obtain ⟨below, unreset, loaded⟩ := h.created timerId created
    exact ⟨by simp only; omega, (old timerId created).2.1.trans unreset, loaded⟩
  · intro timerId entry found
    by_cases created : Created trace timerId
    · rw [(old timerId created).1] at found
      exact h.kind timerId entry found
    · refine iff_of_false created ?_
      rintro ⟨cell, called⟩
      exact other timerId entry found created cell called
  · intro timerId entry cell found called
    by_cases created : Created trace timerId
    · rw [(old timerId created).1] at found
      exact h.managed timerId entry cell found called
    · exact absurd called (other timerId entry found created cell)
  · intro timerId
    rw [h.keys timerId]
    refine and_congr_right fun created => ?_
    obtain ⟨same, -, running⟩ := old timerId created
    simp only [same, running]
  · exact h.values
  · intro timerId mem
    obtain ⟨below, gone⟩ := h.cancelled timerId mem
    refine ⟨by simp only; omega, fun created => ?_⟩
    simp only
    rw [(old timerId created).1]
    exact gone created
  · exact h.fired
  · exact h.ran

/-- Native code created, reset or cancelled a timer of its own, or was refused. -/
theorem nativeRefused (h : Linked scheduler native trace) {input : TimerInput NativeCallback} {code : TimerErrorCode}
    (outcome : scheduler.timers.step input = (scheduler.timers, [.refused code])) :
    Linked
      { scheduler with
        timers := (scheduler.timers.step input).1
        nativeTimerIds := scheduler.nativeTimerIds ++ (scheduler.timers.step input).2.filterMap createdTimer }
      (native ++ (scheduler.timers.step input).2) trace := by
  have known := h.known.step input
  rw [outcome] at known ⊢
  refine h.frame known (Int.le_refl _) (fun timerId created => ⟨rfl, ?_, Iff.rfl⟩) (fun timerId entry found other cell called => ?_) ?_
  · exact TimerManager.resets_snoc timerId native _
  · exact other ((h.kind timerId entry found).mpr ⟨cell, called⟩)
  · simpa [createdTimer] using h.own

theorem nativeCreated (h : Linked scheduler native trace) {input : TimerInput NativeCallback} {delay interval : Int}
    {repeating : Bool} {callback : Option Nat} (same : scheduler.timers.step input =
      scheduler.timers.createTimer delay interval repeating (callback.map .native)) :
    Linked
      { scheduler with
        timers := (scheduler.timers.step input).1
        nativeTimerIds := scheduler.nativeTimerIds ++ (scheduler.timers.step input).2.filterMap createdTimer }
      (native ++ (scheduler.timers.step input).2) trace := by
  rcases scheduler.timers.createTimer_outcome delay interval repeating (callback.map .native) with
    ⟨code, refused⟩ | ⟨called, own, positive, made⟩
  · exact h.nativeRefused (same.trans refused)
  · have known := h.known.step input
    rw [same.trans made] at known ⊢
    have new {timerId : Int} (created : Created trace timerId) : scheduler.timers.nextTimerId ≠ timerId := by
      have := (h.created timerId created).1
      omega
    refine h.frame known ?_ (fun timerId created => ⟨?_, ?_, Iff.rfl⟩) (fun timerId entry found other cell is => ?_)
      fun timerId mem => ?_
    · simp only [TimerManager.armTimer]
      omega
    · exact Table.get_insert_of_ne _ _ (new created)
    · exact TimerManager.resets_snoc timerId native _
    · simp only [TimerManager.armTimer, Table.get_insert] at found
      split at found
      · cases found
        simp only [Option.some.injEq] at is
        subst is
        simp at own
      · exact other ((h.kind timerId entry found).mpr ⟨cell, is⟩)
    · simp only [createdTimer, List.filterMap_cons, List.filterMap_nil, List.mem_append, List.mem_singleton,
        TimerManager.armTimer] at mem ⊢
      rcases mem with old | rfl
      · obtain ⟨below, other⟩ := h.own timerId old
        exact ⟨by omega, other⟩
      · exact ⟨by omega, fun created => new created rfl⟩

theorem nativeReset (h : Linked scheduler native trace) {input : TimerInput NativeCallback} {timerId delay interval : Int}
    {repeating : Bool} {callback : Option Nat} (mine : timerId ∈ scheduler.nativeTimerIds)
    (same : scheduler.timers.step input =
      scheduler.timers.resetTimer timerId delay interval repeating (callback.map .native)) :
    Linked
      { scheduler with
        timers := (scheduler.timers.step input).1
        nativeTimerIds := scheduler.nativeTimerIds ++ (scheduler.timers.step input).2.filterMap createdTimer }
      (native ++ (scheduler.timers.step input).2) trace := by
  rcases scheduler.timers.resetTimer_outcome timerId delay interval repeating (callback.map .native) with
    ⟨code, refused⟩ | ⟨timer, called, live, own, made⟩
  · exact h.nativeRefused (same.trans refused)
  · have known := h.known.step input
    rw [same.trans made] at known ⊢
    have apart {other : Int} (created : Created trace other) : timerId ≠ other := by
      rintro rfl
      exact (h.own timerId mine).2 created
    refine h.frame known (Int.le_refl _) (fun other created => ⟨?_, ?_, Iff.rfl⟩)
      (fun other entry found foreign cell is => ?_) ?_
    · exact Table.get_insert_of_ne _ _ (apart created)
    · rw [TimerManager.resets_snoc]
      simp [TimerManager.isReset, apart created]
    · simp only [TimerManager.armTimer, Table.get_insert] at found
      split at found
      · cases found
        simp only [Option.some.injEq] at is
        subst is
        simp at own
      · exact foreign ((h.kind other entry found).mpr ⟨cell, is⟩)
    · simpa [createdTimer, TimerManager.armTimer] using h.own

theorem nativeCancelled (h : Linked scheduler native trace) {timerId : Int} (mine : timerId ∈ scheduler.nativeTimerIds) :
    Linked
      { scheduler with
        timers := (scheduler.timers.step (.cancel timerId)).1
        nativeTimerIds := scheduler.nativeTimerIds ++ (scheduler.timers.step (.cancel timerId)).2.filterMap createdTimer }
      (native ++ (scheduler.timers.step (.cancel timerId)).2) trace := by
  rcases scheduler.timers.cancel_outcome timerId with ⟨code, refused⟩ | ⟨timer, live, made⟩
  · exact h.nativeRefused refused
  · have known := h.known.step (.cancel timerId)
    have outcome : scheduler.timers.step (.cancel timerId) = _ := made
    rw [outcome] at known ⊢
    refine h.frame known (Int.le_refl _) (fun other created => ⟨?_, ?_, Iff.rfl⟩)
      (fun other entry found foreign cell is => ?_) ?_
    · refine Table.get_erase_of_ne _ ?_
      rintro rfl
      exact (h.own timerId mine).2 created
    · exact TimerManager.resets_snoc other native _
    · exact foreign ((h.kind other entry (Table.get_erase_some found).2).mpr ⟨cell, is⟩)
    · simpa [createdTimer] using h.own

end Linked

theorem native_linked (h : Linked scheduler native trace) (call : NativeTimerCall) :
    ∃ events, Linked (scheduler.native call).1 (native ++ events) (trace ++ (scheduler.native call).2) := by
  unfold TimerScheduler.native
  cases named : call.input scheduler.nativeTimerIds with
  | none =>
    refine ⟨[], ?_⟩
    simpa using h
  | some input =>
    refine ⟨(scheduler.timers.step input).2, ?_⟩
    simp only [List.append_nil]
    cases call with
    | createOnce delay callback =>
      cases named
      exact h.nativeCreated rfl
    | createRepeating interval callback =>
      cases named
      by_cases positive : interval ≤ 0
      · exact h.nativeRefused (if_pos positive)
      · have made : scheduler.timers.step (.createRepeating interval (callback.map .native)) =
            scheduler.timers.createTimer interval interval true (callback.map .native) := if_neg positive
        exact h.nativeCreated made
    | resetOnce index delay callback =>
      obtain ⟨timerId, own, rfl⟩ := Option.map_eq_some_iff.mp named
      exact h.nativeReset (List.mem_of_getElem? own) rfl
    | resetRepeating index interval callback =>
      obtain ⟨timerId, own, rfl⟩ := Option.map_eq_some_iff.mp named
      by_cases positive : interval ≤ 0
      · exact h.nativeRefused (if_pos positive)
      · have made : scheduler.timers.step (.resetRepeating timerId interval (callback.map .native)) =
            scheduler.timers.resetTimer timerId interval interval true (callback.map .native) := if_neg positive
        exact h.nativeReset (List.mem_of_getElem? own) made
    | cancel index =>
      obtain ⟨timerId, own, rfl⟩ := Option.map_eq_some_iff.mp named
      exact h.nativeCancelled (List.mem_of_getElem? own)

/-! ## Managed calls -/

namespace Linked

/-- A lambda that was made for no timer. -/
theorem moreCells (h : Linked scheduler native trace) (cell : Int) :
    Linked { scheduler with cells := scheduler.cells ++ [cell] } native trace where
  known := h.known
  history := h.history
  own := h.own
  created := h.created
  kind := h.kind
  managed timerId entry index found called := by
    obtain ⟨shared, once⟩ := h.managed timerId entry index found called
    refine ⟨?_, once⟩
    rw [List.getElem?_append_left (List.getElem?_eq_some_iff.mp shared).1]
    exact shared
  keys := h.keys
  values := h.values
  cancelled := h.cancelled
  fired := h.fired
  ran := h.ran

/-- A new timer has the next id of the timer manager, which the scheduler knows nothing of. -/
theorem unknown_next (h : Linked scheduler native trace) : ¬ Created trace scheduler.timers.nextTimerId ∧
    scheduler.onceCallbacks[scheduler.timers.nextTimerId]? = none := by
  have new : ¬ Created trace scheduler.timers.nextTimerId := by
    intro created
    have := (h.created _ created).1
    omega
  refine ⟨new, ?_⟩
  rw [← Option.not_isSome_iff_eq_none, h.keys]
  exact fun held => new held.1

/-! ### A timer of the scheduler -/

theorem created_next {next timerId : Int} {callback : A} :
    Created (trace ++ [.created next callback]) timerId ↔ Created trace timerId ∨ timerId = next := by
  simp only [Created, List.mem_append, List.mem_singleton, SchedulerEvent.created.injEq, exists_or, exists_and_left,
    exists_eq, and_true]

/-- The timer manager gave its next id to a one-shot timer whose callback is the next lambda. -/
structure Grown (scheduler : TimerScheduler A) (timers : TimerManager NativeCallback)
    (entry : TimerEntry NativeCallback) : Prop where
  table : timers.timers = scheduler.timers.timers.insert scheduler.timers.nextTimerId entry
  next : timers.nextTimerId = scheduler.timers.nextTimerId + 1
  running : timers.running = scheduler.timers.running
  called : entry.callback = some (.managed scheduler.cells.length)
  once : entry.repeating = false
  first : entry.generation = 1

section Grown
variable {timers : TimerManager NativeCallback} {entry : TimerEntry NativeCallback} {callback : A}

/-- The new timer was never reset: its generation says so. -/
theorem Grown.created (h : Linked scheduler native trace) (loaded : scheduler.exportsLoaded = true)
    (grown : Grown scheduler timers entry)
    (known : TimerManager.Known timers
      (native ++ [.created scheduler.timers.nextTimerId (.managed scheduler.cells.length) false]))
    {timerId : Int} (is : Created (trace ++ [.created scheduler.timers.nextTimerId callback]) timerId) :
    timerId < timers.nextTimerId ∧ TimerManager.resets timerId (native ++
      [.created scheduler.timers.nextTimerId (.managed scheduler.cells.length) false]) = 0 ∧
      scheduler.exportsLoaded = true := by
  rw [grown.next, TimerManager.resets_snoc]
  rcases created_next.mp is with old | rfl
  · obtain ⟨old, unreset, -⟩ := h.created timerId old
    exact ⟨by omega, by simp [unreset, TimerManager.isReset], loaded⟩
  · have found : timers.timers[scheduler.timers.nextTimerId]? = some entry := by
      rw [grown.table, Table.get_insert_self]
    have generation := known.counted.generation scheduler.timers.nextTimerId entry found
    rw [TimerManager.resets_snoc, grown.first] at generation
    exact ⟨by omega, by omega, loaded⟩

/-- The scheduler's timers are still those with one of its lambdas. -/
theorem Grown.kind (h : Linked scheduler native trace) (grown : Grown scheduler timers entry) (timerId : Int)
    (other : TimerEntry NativeCallback) (found : timers.timers[timerId]? = some other) :
    Created (trace ++ [.created scheduler.timers.nextTimerId callback]) timerId ↔
      ∃ cell, other.callback = some (.managed cell) := by
  rw [created_next]
  rw [grown.table, Table.get_insert] at found
  split at found
  · rename_i same
    cases found
    exact iff_of_true (.inr same.symm) ⟨_, grown.called⟩
  · rename_i apart
    rw [or_iff_left (Ne.symm apart)]
    exact h.kind timerId other found

/-- The new lambda has the new timer's id. -/
theorem Grown.managed (h : Linked scheduler native trace) (grown : Grown scheduler timers entry) (timerId : Int)
    (other : TimerEntry NativeCallback) (cell : Nat) (found : timers.timers[timerId]? = some other)
    (called : other.callback = some (.managed cell)) :
    (scheduler.cells ++ [scheduler.timers.nextTimerId])[cell]? = some timerId ∧ other.repeating = false := by
  rw [grown.table, Table.get_insert] at found
  split at found
  · rename_i same
    cases found
    rw [grown.called] at called
    cases called
    rw [List.getElem?_append_right (Nat.le_refl _), Nat.sub_self, ← same]
    exact ⟨rfl, grown.once⟩
  · exact (h.moreCells _).managed timerId other cell found called

/-- The new timer has a callback in the dictionary, and it is not the one that runs. -/
theorem Grown.keys (h : Linked scheduler native trace) (grown : Grown scheduler timers entry) (timerId : Int) :
    ((scheduler.onceCallbacks.insert scheduler.timers.nextTimerId callback)[timerId]?).isSome = true ↔
      Created (trace ++ [.created scheduler.timers.nextTimerId callback]) timerId ∧
      (timers.timers[timerId]?).isSome = true ∧ ∀ wait, timers.running = some wait → wait.timerId ≠ timerId := by
  rw [grown.table, grown.running, Table.get_insert, Table.get_insert, created_next]
  split
  · rename_i same
    subst same
    refine iff_of_true rfl ⟨.inr rfl, rfl, fun wait running is => ?_⟩
    have := h.known.waiting.known wait (h.known.mem_held running)
    omega
  · rename_i apart
    rw [or_iff_left (Ne.symm apart)]
    exact h.keys timerId

theorem Grown.values (h : Linked scheduler native trace) (timerId : Int) (other : A)
    (found : (scheduler.onceCallbacks.insert scheduler.timers.nextTimerId callback)[timerId]? = some other) :
    .created timerId other ∈ trace ++ [.created scheduler.timers.nextTimerId callback] := by
  rw [Table.get_insert] at found
  split at found
  · rename_i same
    cases found
    rw [same]
    exact List.mem_append_right _ List.mem_cons_self
  · exact List.mem_append_left _ (h.values timerId other found)

/-- What was cancelled or has fired is older than the new timer. -/
theorem Grown.cancelled (h : Linked scheduler native trace) (grown : Grown scheduler timers entry) (timerId : Int)
    (mem : .cancelled timerId ∈ trace) : timerId < timers.nextTimerId ∧
      (Created (trace ++ [.created scheduler.timers.nextTimerId callback]) timerId → timers.timers[timerId]? = none) := by
  obtain ⟨old, gone⟩ := h.cancelled timerId mem
  rw [grown.next, created_next]
  refine ⟨by omega, ?_⟩
  rintro (known | rfl)
  · rw [grown.table, Table.get_insert_of_ne _ _ (by omega)]
    exact gone known
  · omega

theorem Grown.fired (h : Linked scheduler native trace) (timerId : Int) (mem : .fired timerId ∈ trace) :
    (scheduler.onceCallbacks.insert scheduler.timers.nextTimerId callback)[timerId]? = none ∧
      Created (trace ++ [.created scheduler.timers.nextTimerId callback]) timerId := by
  obtain ⟨forgotten, old⟩ := h.fired timerId mem
  have below := (h.created timerId old).1
  rw [created_next, Table.get_insert_of_ne _ _ (Ne.symm (Int.ne_of_lt below))]
  exact ⟨forgotten, .inl old⟩

end Grown

theorem managedCreated (h : Linked scheduler native trace) (loaded : scheduler.exportsLoaded = true)
    {timers : TimerManager NativeCallback} {entry : TimerEntry NativeCallback} (callback : A)
    (grown : Grown scheduler timers entry) (known : TimerManager.Known timers
      (native ++ [.created scheduler.timers.nextTimerId (.managed scheduler.cells.length) false])) :
    Linked
      { scheduler with
        timers, cells := scheduler.cells ++ [scheduler.timers.nextTimerId]
        onceCallbacks := scheduler.onceCallbacks.insert scheduler.timers.nextTimerId callback }
      (native ++ [.created scheduler.timers.nextTimerId (.managed scheduler.cells.length) false])
      (trace ++ [.created scheduler.timers.nextTimerId callback]) where
  known := known
  history := h.history.snoc h.unknown_next.1
  own timerId mine := by
    obtain ⟨old, other⟩ := h.own timerId mine
    rw [grown.next, created_next]
    exact ⟨by omega, not_or.mpr ⟨other, by omega⟩⟩
  created timerId is := grown.created h loaded known is
  kind := grown.kind h
  managed := grown.managed h
  keys := grown.keys h
  values := Grown.values h
  cancelled timerId mem := grown.cancelled h timerId (by simpa using mem)
  fired timerId mem := Grown.fired h timerId (by simpa using mem)
  ran timerId := by
    have same := h.ran timerId
    simpa using same

end Linked

theorem createManagedOnceTimer_outcome (scheduler : TimerScheduler A) (delayMs : Int) :
    (∃ result ≤ 0, scheduler.createManagedOnceTimer delayMs = (scheduler, result) ∨
      scheduler.createManagedOnceTimer delayMs = ({ scheduler with cells := scheduler.cells ++ [0] }, result)) ∨
    scheduler.exportsLoaded = true ∧ 0 < scheduler.timers.nextTimerId ∧ ∃ outcome,
      scheduler.timers.step (.createOnce delayMs (some (.managed scheduler.cells.length))) = outcome ∧
      outcome = (TimerManager.armTimer
        { scheduler.timers with
          timers := scheduler.timers.timers.insert scheduler.timers.nextTimerId
            ⟨scheduler.timers.nextAddress, some (.managed scheduler.cells.length), 0, false, 1⟩
          nextTimerId := scheduler.timers.nextTimerId + 1, nextAddress := scheduler.timers.nextAddress + 1 }
        scheduler.timers.nextTimerId
        ⟨scheduler.timers.nextAddress, some (.managed scheduler.cells.length), 0, false, 1⟩
        (clampNonNegativeDuration delayMs) 1,
        [.created scheduler.timers.nextTimerId (.managed scheduler.cells.length) false]) ∧
      scheduler.createManagedOnceTimer delayMs =
        ({ scheduler with timers := outcome.1, cells := scheduler.cells ++ [scheduler.timers.nextTimerId] },
          scheduler.timers.nextTimerId) := by
  unfold createManagedOnceTimer
  split
  · exact .inl ⟨_, by decide, .inl rfl⟩
  · rename_i loaded
    rw [Bool.not_eq_false] at loaded
    have same : scheduler.timers.step (.createOnce delayMs (some (.managed scheduler.cells.length))) = _ := rfl
    rcases scheduler.timers.createTimer_outcome (clampNonNegativeDuration delayMs) 0 false
        (some (.managed scheduler.cells.length)) with ⟨code, refused⟩ | ⟨called, own, positive, made⟩
    · have negative := code.value_neg
      simp only [same.trans refused, createResult, List.head?_cons]
      rw [if_neg (by omega)]
      exact .inl ⟨code.value, Int.le_of_lt negative, .inr rfl⟩
    · cases own
      simp only [same.trans made, createResult, List.head?_cons]
      rw [if_pos positive]
      exact .inr ⟨loaded, positive, _, rfl, rfl, rfl⟩

theorem createOnce_linked (h : Linked scheduler native trace) (delay : Int) (callback : Option A) :
    ∃ events, Linked (scheduler.createOnce delay callback).1 (native ++ events)
      (trace ++ (scheduler.createOnce delay callback).2) := by
  have unchanged : ∃ events, Linked scheduler (native ++ events) trace := ⟨[], by simpa using h⟩
  unfold createOnce
  cases callback with
  | none =>
    obtain ⟨events, linked⟩ := unchanged
    exact ⟨events, linked.noted (.inl ⟨_, rfl⟩)⟩
  | some callback =>
    simp only
    split
    · obtain ⟨events, linked⟩ := unchanged
      exact ⟨events, linked.noted (.inl ⟨_, rfl⟩)⟩
    · rcases scheduler.createManagedOnceTimer_outcome (max 0 delay) with
        ⟨result, failed, same | made⟩ | ⟨loaded, positive, outcome, step, shape, made⟩
      · simp only [same]
        rw [if_pos failed]
        obtain ⟨events, linked⟩ := unchanged
        exact ⟨events, linked.noted (.inl ⟨_, rfl⟩)⟩
      · simp only [made]
        rw [if_pos failed]
        exact ⟨[], by simpa using (h.moreCells 0).noted (.inl ⟨result, rfl⟩)⟩
      · have known := h.known.step (.createOnce (max 0 delay) (some (.managed scheduler.cells.length)))
        rw [step, shape] at known
        simp only [made, shape]
        rw [if_neg (by omega), h.unknown_next.2, if_neg (by simp)]
        exact ⟨_, h.managedCreated loaded callback ⟨rfl, rfl, rfl, rfl, rfl, rfl⟩ known⟩

theorem cancel_outcome (scheduler : TimerScheduler A) (timerId : Int) :
    scheduler.cancel timerId = (scheduler, [.notCancelled timerId]) ∨
    ∃ timer, scheduler.timers.timers[timerId]? = some timer ∧
      scheduler.timers.step (.cancel timerId) =
        ({ scheduler.timers with timers := scheduler.timers.timers.erase timerId }, [.cancelled timerId]) ∧
      scheduler.cancel timerId =
        ({ scheduler with
           timers := { scheduler.timers with timers := scheduler.timers.timers.erase timerId }
           onceCallbacks := scheduler.onceCallbacks.erase timerId }, [.cancelled timerId]) := by
  unfold cancel
  split
  · exact .inl rfl
  · rename_i usable
    rw [not_or] at usable
    have same : scheduler.timers.step (.cancel timerId) = _ := rfl
    unfold cancelManagedTimer
    rw [if_neg usable.1]
    rcases scheduler.timers.cancel_outcome timerId with ⟨code, refused⟩ | ⟨timer, live, made⟩
    · left
      simp only [same.trans refused, List.head?_cons]
      rfl
    · refine .inr ⟨timer, live, same.trans made, ?_⟩
      simp only [same.trans made, List.head?_cons]
      rfl

theorem cancel_linked (h : Linked scheduler native trace) (timerId : Int) :
    ∃ events, Linked (scheduler.cancel timerId).1 (native ++ events) (trace ++ (scheduler.cancel timerId).2) := by
  rcases scheduler.cancel_outcome timerId with same | ⟨timer, live, step, made⟩
  · rw [same]
    exact ⟨[], by simpa using h.noted (.inr ⟨timerId, rfl⟩)⟩
  · have known := h.known.step (.cancel timerId)
    rw [step] at known
    rw [made]
    have created (other : Int) : Created (trace ++ [.cancelled timerId]) other ↔ Created trace other :=
      created_snoc (by simp)
    refine ⟨_, known, h.history.snoc trivial, ?_, ?_, ?_, ?_, ?_, ?_, ?_, ?_, ?_⟩
    · simpa only [created] using h.own
    · intro other is
      obtain ⟨below, unreset, loaded⟩ := h.created other ((created other).mp is)
      exact ⟨below, by simp [TimerManager.resets_snoc, unreset, TimerManager.isReset], loaded⟩
    · intro other entry found
      rw [created]
      exact h.kind other entry (Table.get_erase_some found).2
    · intro other entry cell found called
      exact h.managed other entry cell (Table.get_erase_some found).2 called
    · intro other
      rw [created]
      by_cases same : timerId = other
      · simp [same]
      · simp only [Table.get_erase_of_ne _ same]
        exact h.keys other
    · intro other callback found
      exact List.mem_append_left _ (h.values other callback (Table.get_erase_some found).2)
    · intro other mem
      rw [created]
      by_cases same : timerId = other
      · subst same
        exact ⟨h.known.waiting.live timerId timer live, fun _ => Table.get_erase_self _ _⟩
      · obtain ⟨below, gone⟩ := h.cancelled other (by simpa [Ne.symm same] using mem)
        refine ⟨below, fun is => ?_⟩
        simp only [Table.get_erase_of_ne _ same]
        exact gone is
    · intro other mem
      obtain ⟨forgotten, old⟩ := h.fired other (by simpa using mem)
      rw [created]
      refine ⟨?_, old⟩
      simp only [Std.ExtTreeMap.getElem?_erase, forgotten, ite_self]
    · intro other
      have same := h.ran other
      simpa using same

/-! ## Callbacks -/

/-- A timer of the scheduler fires while no callback runs: its callback is there, and runs. -/
theorem Linked.runs (h : Linked scheduler native trace) {index : Nat} {wait : Wait} {entry : TimerEntry NativeCallback}
    {callback : A} (idle : scheduler.timers.running = none) (live : scheduler.timers.timers[wait.timerId]? = some entry)
    (held : scheduler.onceCallbacks[wait.timerId]? = some callback) {events : List (TimerEvent NativeCallback)}
    (known : TimerManager.Known
      { scheduler.timers with waits := scheduler.timers.waits.eraseIdx index, running := some wait } (native ++ events))
    (unreset : ∀ timerId, TimerManager.resets timerId (native ++ events) = TimerManager.resets timerId native) :
    Linked
      { scheduler with
        timers := { scheduler.timers with waits := scheduler.timers.waits.eraseIdx index, running := some wait }
        onceCallbacks := scheduler.onceCallbacks.erase wait.timerId }
      (native ++ events) (trace ++ [.fired wait.timerId, .ran wait.timerId callback]) := by
  have made : .created wait.timerId callback ∈ trace := h.values wait.timerId callback held
  have uncancelled : .cancelled wait.timerId ∉ trace := by
    intro mem
    rw [(h.cancelled wait.timerId mem).2 ⟨callback, made⟩] at live
    cases live
  have unfired : .fired wait.timerId ∉ trace := by
    intro mem
    rw [(h.fired wait.timerId mem).1] at held
    cases held
  have created (timerId : Int) : Created (trace ++ [.fired wait.timerId, .ran wait.timerId callback]) timerId ↔
      Created trace timerId := by simp [Created]
  constructor
  · exact known
  · have fires : Allowed trace (.fired wait.timerId) := ⟨⟨callback, made⟩, uncancelled, unfired⟩
    rw [← List.singleton_append, ← List.append_assoc]
    refine (h.history.snoc fires).snoc ⟨?_, ?_, ?_, fun other mem => ?_⟩
    · exact List.mem_append_left _ made
    · simp
    · simpa using uncancelled
    · exact unfired ((h.ran wait.timerId).mpr ⟨other, by simpa using mem⟩)
  · simpa only [created] using h.own
  · intro timerId is
    obtain ⟨below, none, loaded⟩ := h.created timerId ((created timerId).mp is)
    exact ⟨below, (unreset timerId).trans none, loaded⟩
  · simpa only [created] using h.kind
  · exact h.managed
  · intro timerId
    rw [created]
    simp only [Option.some.injEq, forall_eq']
    by_cases same : wait.timerId = timerId
    · simp [same]
    · rw [Table.get_erase_of_ne _ same, h.keys timerId, idle]
      simp [same]
  · intro timerId other found
    exact List.mem_append_left _ (h.values timerId other (Table.get_erase_some found).2)
  · intro timerId mem
    rw [created]
    exact h.cancelled timerId (by simpa using mem)
  · intro timerId mem
    rw [created]
    by_cases same : wait.timerId = timerId
    · rw [← same]
      exact ⟨Table.get_erase_self _ _, callback, made⟩
    · obtain ⟨forgotten, old⟩ := h.fired timerId (by simpa [Ne.symm same] using mem)
      refine ⟨?_, old⟩
      rw [Table.get_erase_of_ne _ same]
      exact forgotten
  · intro timerId
    have before := h.ran timerId
    by_cases same : timerId = wait.timerId
    · exact iff_of_true (by simp [same]) ⟨callback, by simp [same]⟩
    · simpa [same] using before

theorem handleManagedTimerFired_held {timerId : Int} {callback : A} (loaded : scheduler.exportsLoaded = true)
    (held : scheduler.onceCallbacks[timerId]? = some callback) : scheduler.handleManagedTimerFired timerId =
      ({ scheduler with onceCallbacks := scheduler.onceCallbacks.erase timerId }, [.ran timerId callback]) := by
  unfold handleManagedTimerFired
  rw [if_neg (by simp [loaded])]
  simp only [handleTimerFired, held]

theorem complete_silent {index : Nat} {aborted : Bool} (silent : (scheduler.timers.step
      (.complete index (if aborted = true then .operationAborted else .none))).2 = []) :
    scheduler.complete index aborted = ({ scheduler with timers := (scheduler.timers.step
      (.complete index (if aborted = true then .operationAborted else .none))).1 }, []) := by
  simp only [TimerScheduler.complete, silent, List.head?_nil]

theorem complete_native {index number : Nat} {aborted : Bool} {timerId : Int} {timers : TimerManager NativeCallback}
    (started : scheduler.timers.step (.complete index (if aborted = true then .operationAborted else .none)) =
      (timers, [.started timerId (.native number)])) :
    scheduler.complete index aborted = ({ scheduler with timers := timers }, []) := by
  unfold TimerScheduler.complete
  rw [started]
  rfl

theorem complete_managed {index cell : Nat} {aborted : Bool} {timerId : Int} {timers : TimerManager NativeCallback}
    {callback : A} (started : scheduler.timers.step
      (.complete index (if aborted = true then .operationAborted else .none)) = (timers, [.started timerId (.managed cell)]))
    (shared : scheduler.cells[cell]? = some timerId) (loaded : scheduler.exportsLoaded = true)
    (held : scheduler.onceCallbacks[timerId]? = some callback) : scheduler.complete index aborted =
      ({ scheduler with timers := timers, onceCallbacks := scheduler.onceCallbacks.erase timerId },
        [.fired timerId, .ran timerId callback]) := by
  have cellId : scheduler.cells.getD cell 0 = timerId := by rw [List.getD_eq_getElem?_getD, shared, Option.getD_some]
  have handled := @handleManagedTimerFired_held A { scheduler with timers := timers } timerId callback loaded held
  simp only [TimerScheduler.complete, started, List.head?_cons, cellId, handled]

theorem complete_linked (h : Linked scheduler native trace) (index : Nat) (aborted : Bool) :
    ∃ events, Linked (scheduler.complete index aborted).1 (native ++ events)
      (trace ++ (scheduler.complete index aborted).2) := by
  refine ⟨(scheduler.timers.step (.complete index (if aborted = true then .operationAborted else .none))).2, ?_⟩
  have known := h.known.step (.complete index (if aborted = true then .operationAborted else .none))
  have usual : (if aborted = true then WaitError.operationAborted else .none) ≠ .other := by split <;> simp
  have foreign : ∀ (timerId : Int) entry, scheduler.timers.timers[timerId]? = some entry → ¬ Created trace timerId →
      ∀ cell, entry.callback ≠ some (.managed cell) := fun timerId entry found other cell called =>
    other ((h.kind timerId entry found).mpr ⟨cell, called⟩)
  rcases h.known.complete index usual with
    ⟨silent, timers, running, next⟩ | ⟨wait, entry, callback, idle, current, called, started⟩
  · rw [complete_silent silent, List.append_nil]
    rw [silent] at known ⊢
    refine h.frame known (Int.le_of_eq next.symm) (fun timerId created => ⟨?_, ?_, ?_⟩) ?_ ?_
    · rw [timers]
    · exact congrArg _ (List.append_nil _)
    · rw [running]
    · rw [timers]
      exact foreign
    · rw [next]
      exact h.own
  · obtain ⟨live, -⟩ := TimerManager.currentEntry_some.mp current
    have unreset (timerId : Int) : TimerManager.resets timerId (native ++ [.started wait.timerId callback]) =
        TimerManager.resets timerId native := TimerManager.resets_snoc timerId native _
    rw [started] at known ⊢
    cases callback with
    | native number =>
      have other : ¬ Created trace wait.timerId := by
        intro created
        obtain ⟨cell, managed⟩ := (h.kind _ _ live).mp created
        rw [called] at managed
        cases managed
      rw [complete_native started, List.append_nil]
      refine h.frame known (Int.le_refl _) (fun timerId created => ⟨rfl, unreset timerId, ?_⟩) foreign h.own
      simp only [Option.some.injEq, forall_eq', idle]
      refine iff_of_true ?_ (by simp)
      rintro rfl
      exact other created
    | managed cell =>
      have created := (h.kind _ _ live).mpr ⟨cell, called⟩
      obtain ⟨shared, -⟩ := h.managed _ _ cell live called
      have present := (h.keys wait.timerId).mpr ⟨created, by simp [live], by simp [idle]⟩
      obtain ⟨action, held⟩ := Option.isSome_iff_exists.mp present
      rw [complete_managed started shared (h.created _ created).2.2 held]
      exact h.runs idle live held known unreset

theorem callbackReturned_linked (h : Linked scheduler native trace) :
    ∃ events, Linked { scheduler with timers := (scheduler.timers.step .callbackReturned).1 } (native ++ events)
      trace := by
  cases running : scheduler.timers.running with
  | none =>
    have same : scheduler.timers.step .callbackReturned = (scheduler.timers, []) := by
      simp only [TimerManager.step, running]
    rw [same]
    exact ⟨[], by simpa using h⟩
  | some wait =>
    refine ⟨(scheduler.timers.step .callbackReturned).2, ?_⟩
    have known := h.known.step .callbackReturned
    obtain ⟨ended, next, timers, unreset⟩ := h.known.callbackReturned running
    have fewer {timerId : Int} {entry : TimerEntry NativeCallback}
        (found : (scheduler.timers.step .callbackReturned).1.timers[timerId]? = some entry) :
        scheduler.timers.timers[timerId]? = some entry := by
      rcases timers with same | erased
      · rwa [same] at found
      · rw [erased] at found
        exact (Table.get_erase_some found).2
    have others {timerId : Int} (apart : wait.timerId ≠ timerId) :
        (scheduler.timers.step .callbackReturned).1.timers[timerId]? = scheduler.timers.timers[timerId]? := by
      rcases timers with same | erased
      · rw [same]
      · rw [erased, Table.get_erase_of_ne _ apart]
    by_cases created : Created trace wait.timerId
    · -- it is a one-shot timer that nothing resets, so it is gone
      have gone : (scheduler.timers.step .callbackReturned).1.timers[wait.timerId]? = none := by
        have none := (h.created _ created).2.1
        have since := TimerManager.resetsSinceStart_le wait.timerId native
        refine h.known.returns running (by omega) fun entry found => ?_
        obtain ⟨cell, called⟩ := (h.kind _ entry found).mp created
        exact (h.managed _ entry cell found called).2
      refine ⟨known, h.history, ?_, ?_, ?_, ?_, ?_, h.values, ?_, h.fired, h.ran⟩
      · rw [next]
        exact h.own
      · intro timerId is
        obtain ⟨below, none, loaded⟩ := h.created timerId is
        exact ⟨next ▸ below, (unreset timerId).trans none, loaded⟩
      · exact fun timerId entry found => h.kind timerId entry (fewer found)
      · exact fun timerId entry cell found => h.managed timerId entry cell (fewer found)
      · intro timerId
        rw [h.keys timerId, ended, running]
        by_cases same : wait.timerId = timerId
        · rw [← same, gone]
          simp
        · rw [others same]
          simp [same]
      · intro timerId mem
        obtain ⟨below, dead⟩ := h.cancelled timerId mem
        refine ⟨next ▸ below, fun is => ?_⟩
        by_cases same : wait.timerId = timerId
        · rw [← same]
          exact gone
        · rw [others same]
          exact dead is
    · have apart {timerId : Int} (is : Created trace timerId) : wait.timerId ≠ timerId := by
        rintro rfl
        exact created is
      refine h.frame known (Int.le_of_eq next.symm)
        (fun timerId is => ⟨others (apart is), unreset timerId, ?_⟩) (fun timerId entry found other cell called => ?_) ?_
      · rw [ended, running]
        simp [apart is]
      · exact other ((h.kind timerId entry (fewer found)).mpr ⟨cell, called⟩)
      · rw [next]
        exact h.own

theorem step_linked (h : Linked scheduler native trace) (input : SchedulerInput A) :
    ∃ events, Linked (scheduler.step input).1 (native ++ events) (trace ++ (scheduler.step input).2) := by
  cases input with
  | createOnce delay callback => exact createOnce_linked h delay callback
  | cancel timerId => exact cancel_linked h timerId
  | loadExports =>
    refine ⟨[], ?_⟩
    simp only [step, List.append_nil]
    exact ⟨h.known, h.history, h.own, fun timerId is => ⟨(h.created timerId is).1, (h.created timerId is).2.1, rfl⟩,
      h.kind, h.managed, h.keys, h.values, h.cancelled, h.fired, h.ran⟩
  | native call => exact native_linked h call
  | complete index aborted => exact complete_linked h index aborted
  | callbackReturned =>
    obtain ⟨events, linked⟩ := callbackReturned_linked h
    exact ⟨events, by simpa [step] using linked⟩

/-! ## Runs -/

def isRun (timerId : Int) : SchedulerEvent A → Bool
  | .ran id _ => id == timerId
  | _ => false

/-- How the two runtimes agree at any point of a run. -/
structure Agrees (scheduler : TimerScheduler A) (trace : List (SchedulerEvent A)) : Prop where
  /-- While no callback of them runs, the timers of the scheduler are in both tables or in none. -/
  keys : (∀ wait, scheduler.timers.running = some wait → ¬ Created trace wait.timerId) →
    ∀ timerId, (scheduler.onceCallbacks[timerId]?).isSome = true ↔
      Created trace timerId ∧ (scheduler.timers.timers[timerId]?).isSome = true
  once : ∀ timerId, trace.countP (isRun timerId) ≤ 1
  /-- The timer manager starts the native callback of a timer of the scheduler: that is firing. -/
  fires : ∀ index aborted timerId callback, Created trace timerId → .started timerId callback ∈
    (scheduler.timers.step (.complete index (if aborted = true then .operationAborted else .none))).2 →
    .fired timerId ∈ (scheduler.complete index aborted).2
  ran : ∀ timerId, .fired timerId ∈ trace ↔ ∃ callback, .ran timerId callback ∈ trace
  own : ∀ timerId callback, .ran timerId callback ∈ trace → .created timerId callback ∈ trace
  cancelled : ∀ before timerId callback after, trace = before ++ .cancelled timerId :: after →
    .ran timerId callback ∉ after
  failed : ∀ timerId, .cancelled timerId ∉ (scheduler.cancel timerId).2 → (scheduler.cancel timerId).1 = scheduler
  /-- No id is added to the dictionary twice. -/
  distinct : ∀ timerId, .threw timerId ∉ trace

namespace Linked

theorem allowed (h : Linked scheduler native trace) {event : SchedulerEvent A} (mem : event ∈ trace) :
    ∃ before, (∀ other ∈ before, other ∈ trace) ∧ Allowed before event := by
  obtain ⟨before, after, rfl⟩ := List.append_of_mem mem
  exact ⟨before, fun other => List.mem_append_left _, h.history before event after rfl⟩

theorem once (h : Linked scheduler native trace) (timerId : Int) : trace.countP (isRun timerId) ≤ 1 := by
  refine h.history.countP_le_one fun before event allowed kind earlier mem => ?_
  cases event with
  | ran id callback =>
    simp only [isRun, beq_iff_eq] at kind
    subst kind
    cases earlier with
    | ran other first =>
      simp only [isRun, beq_eq_false_iff_ne]
      rintro rfl
      exact allowed.2.2.2 first mem
    | _ => rfl
  | _ => simp [isRun] at kind

theorem fires (h : Linked scheduler native trace) {index : Nat} {aborted : Bool} {timerId : Int}
    {callback : NativeCallback} (created : Created trace timerId) (started : .started timerId callback ∈
      (scheduler.timers.step (.complete index (if aborted = true then .operationAborted else .none))).2) :
    .fired timerId ∈ (scheduler.complete index aborted).2 := by
  have usual : (if aborted = true then WaitError.operationAborted else .none) ≠ .other := by split <;> simp
  unfold TimerScheduler.complete
  rcases h.known.complete index usual with
    ⟨silent, -⟩ | ⟨wait, entry, called, -, current, callable, outcome⟩
  · rw [silent] at started
    cases started
  · rw [outcome] at started
    simp only [List.mem_singleton, TimerEvent.started.injEq] at started
    obtain ⟨rfl, rfl⟩ := started
    obtain ⟨live, -⟩ := TimerManager.currentEntry_some.mp current
    obtain ⟨cell, managed⟩ := (h.kind _ _ live).mp created
    rw [callable, Option.some.injEq] at managed
    subst managed
    simp only [outcome, List.head?_cons]
    exact List.mem_cons_self

theorem agrees (h : Linked scheduler native trace) : Agrees scheduler trace := by
  constructor
  · intro idle timerId
    rw [h.keys timerId]
    constructor
    · exact fun held => ⟨held.1, held.2.1⟩
    · rintro ⟨created, live⟩
      refine ⟨created, live, fun wait running => ?_⟩
      rintro rfl
      exact idle wait running created
  · exact h.once
  · intro index aborted timerId callback created started
    exact h.fires created started
  · exact h.ran
  · intro timerId callback mem
    obtain ⟨before, earlier, allowed⟩ := h.allowed mem
    exact earlier _ allowed.1
  · intro before timerId callback after split
    have excludes : ∀ before, Allowed before (.ran timerId callback) → .cancelled timerId ∉ before :=
      fun _ allowed => allowed.2.2.1
    exact h.history.never_after excludes split
  · intro timerId failed
    rcases scheduler.cancel_outcome timerId with same | ⟨timer, -, -, made⟩
    · rw [same]
    · rw [made] at failed
      exact absurd List.mem_cons_self failed
  · intro timerId mem
    obtain ⟨before, -, allowed⟩ := h.allowed mem
    exact allowed

end Linked

theorem run_agrees (createOnceTimer cancelTimer : Bool) (inputs : List (SchedulerInput A)) :
    Agrees (machine.run { hasCreateOnceTimer := createOnceTimer, hasCancelTimer := cancelTimer } inputs).1
      (machine.run { hasCreateOnceTimer := createOnceTimer, hasCancelTimer := cancelTimer } inputs).2 := by
  have start : ∃ native, Linked ({ hasCreateOnceTimer := createOnceTimer, hasCancelTimer := cancelTimer } :
      TimerScheduler A) native [] := ⟨[], start_linked createOnceTimer cancelTimer⟩
  obtain ⟨native, linked⟩ := @Machine.run_trace _ _ _ machine (fun scheduler trace => ∃ native, Linked scheduler native trace)
    (fun scheduler trace input ⟨native, h⟩ => ⟨_, (step_linked h input).choose_spec⟩) _ _ start inputs
  exact linked.agrees

end TimerScheduler
end XServer.Managed
