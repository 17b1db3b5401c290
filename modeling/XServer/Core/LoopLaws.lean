import Mathlib.Data.List.Basic
import XServer.Core.MainEventLoop
import XServer.Lib.History
import XServer.Lib.Machine

/-!
# The laws of the main event loop

What the events so far say of the loop and of each `Run` decides which event may come
next. Runs do not overlap, but a `Bootstrap` outlives its `Run` when a stop request comes
first: bootstraps are run in the order of the calls, each at most once, and one that was
left over is run by a later `Run`.
-/

namespace XServer.Core
open XServer.Lib

/-! ## What the events say -/

/-- The loop as a whole: `escaped` is after an exception left `Run`. -/
inductive LoopPhase where
  | stopped
  | running (run : Nat)
  | stopping (run : Nat)
  | escaped
  deriving DecidableEq, Repr

def LoopPhase.after (phase : LoopPhase) : LoopEvent → LoopPhase
  | .called run _ => .running run
  | .stopRequested =>
    match phase with
    | .running run => .stopping run
    | _ => phase
  | .left .. => .stopped
  | .escaped _ => .escaped
  | _ => phase

def loopPhase (trace : List LoopEvent) : LoopPhase := trace.foldl LoopPhase.after .stopped

/-- One `Run`. The tick is the number and the time of the last one, or the time at which the timer was created. -/
structure RunProgress where
  hooks : Option MainEventLoopHooks := none
  bootstrapped : Bool := false
  startFailure : Option (MainEventLoopErrorCode × String) := none
  tick : Option (UInt64 × Int) := none
  tickFailure : Option String := none
  left : Option (CoreLoopErrorCode × String) := none
  stopped : Bool := false
  stopFailure : Option String := none
  returned : Bool := false
  deriving DecidableEq, Repr

namespace RunProgress

/-- The run that an event is about. -/
def own (progress : RunProgress) : LoopEvent → RunProgress
  | .called _ hooks => { progress with hooks := some hooks }
  | .bootstrapped _ => { progress with bootstrapped := true }
  | .startFailed _ code error => { progress with startFailure := some (code, error) }
  | .ticking _ now => { progress with tick := some (0, now) }
  | .ticked _ info => { progress with tick := some (info.tickCount, info.now) }
  | .tickFailed _ error => { progress with tickFailure := some error }
  | .left _ result error => { progress with left := some (result, error), tick := none }
  | .stopping _ => { progress with stopped := true }
  | .stopFailed _ error => { progress with stopFailure := some error }
  | .returned .. => { progress with returned := true }
  | .refused _ | .handled | .stopRequested | .escaped _ => progress

end RunProgress

def LoopEvent.run : LoopEvent → Option Nat
  | .called run _ | .bootstrapped run | .startFailed run _ _ | .ticking run _ | .ticked run _ | .tickFailed run _ => some run
  | .left run _ _ | .stopping run | .stopFailed run _ | .returned run _ _ | .escaped run => some run
  | .refused _ | .handled | .stopRequested => none

namespace RunProgress

/-- Another run. All timers are cancelled when the loop is left, whichever run they tick for. -/
def other (progress : RunProgress) : LoopEvent → RunProgress
  | .left .. => { progress with tick := none }
  | _ => progress

def after (run : Nat) (progress : RunProgress) (event : LoopEvent) : RunProgress :=
  if event.run = some run then progress.own event else progress.other event

end RunProgress

def runProgress (run : Nat) (trace : List LoopEvent) : RunProgress := trace.foldl (RunProgress.after run) {}

/-- How many runs there were. -/
def runsCalled (trace : List LoopEvent) : Nat := trace.countP fun event => match event with
  | .called .. => true
  | _ => false

/-- What failed first, of the callbacks: the start, a tick, the stop. -/
def RunProgress.failure (progress : RunProgress) : MainEventLoopErrorCode × String :=
  match progress.startFailure, progress.tickFailure, progress.stopFailure with
  | some failure, _, _ => failure
  | none, some error, _ => (.tickCallbackThrew, error)
  | none, none, some error => (.stopCallbackThrew, error)
  | none, none, none => (.none, "")

/-- What `Run` returns, by what happened. -/
def RunProgress.verdict (progress : RunProgress) : MainEventLoopErrorCode × String :=
  match progress.left with
  | some (result, error) => if result = .none then progress.failure else (.executorStartFailed, error)
  | none => progress.failure

/-- What may come next. -/
def LoopEvent.Allowed (before : List LoopEvent) : LoopEvent → Prop
  | .called run _ => loopPhase before = .stopped ∧ run = runsCalled before
  | .refused code => code ≠ .none
  | .bootstrapped run => (∃ current, loopPhase before = .running current) ∧
      (runProgress run before).hooks ≠ none ∧ (runProgress run before).bootstrapped = false ∧
      ∀ earlier < run, (runProgress earlier before).bootstrapped = true
  | .startFailed run code _ => code ≠ .none ∧ (runProgress run before).bootstrapped = true ∧
      (runProgress run before).startFailure = none ∧ (runProgress run before).tick = none
  | .ticking run _ => (runProgress run before).bootstrapped = true ∧ (runProgress run before).startFailure = none ∧
      (runProgress run before).tick = none
  | .ticked run info => (∃ current, loopPhase before = .running current) ∧ (runProgress run before).tickFailure = none ∧
      ∃ count last, (runProgress run before).tick = some (count, last) ∧ info.tickCount = count + 1 ∧
        info.delta = info.now - last
  | .tickFailed run _ => (runProgress run before).tick ≠ none ∧ (runProgress run before).tickFailure = none
  | .handled => ∃ current, loopPhase before = .running current
  | .stopRequested => loopPhase before ≠ .stopped
  | .left run result _ => loopPhase before = .stopping run ∨ loopPhase before = .running run ∧ result ≠ .none
  | .stopping run => (∃ result error, before.getLast? = some (.left run result error)) ∧
      (runProgress run before).bootstrapped = true ∧ (runProgress run before).stopped = false ∧
      (runProgress run before).hooks.map (·.onStop) = some true
  | .stopFailed run _ => (runProgress run before).stopped = true ∧ (runProgress run before).returned = false
  | .returned run code error => (runProgress run before).left ≠ none ∧ (runProgress run before).returned = false ∧
      ((runProgress run before).bootstrapped = true → (runProgress run before).hooks.map (·.onStop) = some true →
        (runProgress run before).stopped = true) ∧
      (code, error) = (runProgress run before).verdict
  | .escaped run => loopPhase before = .running run ∨ loopPhase before = .stopping run

/-- A history of a main event loop. -/
def LawfulLoop (trace : List LoopEvent) : Prop := History LoopEvent.Allowed trace

theorem loopPhase_snoc (trace : List LoopEvent) (event : LoopEvent) :
    loopPhase (trace ++ [event]) = (loopPhase trace).after event := by
  rw [loopPhase, List.foldl_append]
  rfl

theorem runProgress_snoc (run : Nat) (trace : List LoopEvent) (event : LoopEvent) :
    runProgress run (trace ++ [event]) = (runProgress run trace).after run event := by
  rw [runProgress, List.foldl_append]
  rfl

theorem runProgress_own {run : Nat} {event : LoopEvent} (own : event.run = some run) (trace : List LoopEvent) :
    runProgress run (trace ++ [event]) = (runProgress run trace).own event := by
  rw [runProgress_snoc, RunProgress.after, if_pos own]

/-- Other runs do not notice, unless the loop is left. -/
theorem runProgress_other {run : Nat} {event : LoopEvent} (other : event.run ≠ some run)
    (stays : ∀ run result error, event ≠ .left run result error) (trace : List LoopEvent) :
    runProgress run (trace ++ [event]) = runProgress run trace := by
  rw [runProgress_snoc, RunProgress.after, if_neg other]
  cases event with
  | left run result error => exact absurd rfl (stays _ _ _)
  | called | refused | bootstrapped | startFailed | ticking | ticked => rfl
  | tickFailed | handled | stopRequested | stopping | stopFailed | returned | escaped => rfl

theorem runProgress_left {run left : Nat} (other : left ≠ run) (result : CoreLoopErrorCode) (error : String)
    (trace : List LoopEvent) : runProgress run (trace ++ [.left left result error]) =
      { runProgress run trace with tick := none } := by
  have apart : (LoopEvent.left left result error).run ≠ some run := fun same => other (Option.some.inj same)
  rw [runProgress_snoc, RunProgress.after, if_neg apart]
  rfl

theorem runsCalled_snoc (trace : List LoopEvent) {event : LoopEvent} (other : ∀ run hooks, event ≠ .called run hooks) :
    runsCalled (trace ++ [event]) = runsCalled trace := by
  rw [runsCalled, List.countP_append, List.countP_singleton]
  cases event with
  | called run hooks => exact absurd rfl (other _ _)
  | refused | bootstrapped | startFailed | ticking | ticked | tickFailed => rfl
  | handled | stopRequested | left | stopping | stopFailed | returned | escaped => rfl

/-! ## The callbacks of timers -/

namespace TimerManager
variable {C : Type} {manager : TimerManager C}

/-- Where the callback of a timer comes from: the timer had it, or it is the one of the call. -/
def Given (manager : TimerManager C) (timerId : Int) (callback called : Option C) : Prop :=
  (∃ before, manager.timers[timerId]? = some before ∧ before.callback = callback) ∨ callback = called

variable {timerId : Int} {timer : TimerEntry C} {callback : Option C}

theorem createTimer_callback {firstDelay interval : Int} {repeating : Bool}
    (found : (manager.createTimer firstDelay interval repeating callback).1.timers[timerId]? = some timer) :
    manager.Given timerId timer.callback callback := by
  rcases manager.createTimer_outcome firstDelay interval repeating callback with ⟨code, same⟩ | ⟨called, given, -, made⟩
  · rw [same] at found
    exact .inl ⟨timer, found, rfl⟩
  · rw [made, armTimer, Table.get_insert] at found
    split at found
    · cases found
      exact .inr given.symm
    · exact .inl ⟨timer, found, rfl⟩

theorem resetTimer_callback {id firstDelay interval : Int} {repeating : Bool}
    (found : (manager.resetTimer id firstDelay interval repeating callback).1.timers[timerId]? = some timer) :
    manager.Given timerId timer.callback callback := by
  rcases manager.resetTimer_outcome id firstDelay interval repeating callback with
    ⟨code, same⟩ | ⟨before, called, -, given, made⟩
  · rw [same] at found
    exact .inl ⟨timer, found, rfl⟩
  · rw [made, armTimer, Table.get_insert] at found
    split at found
    · cases found
      exact .inr given.symm
    · exact .inl ⟨timer, found, rfl⟩

theorem handleWait_fewer {wait : Wait} {error : WaitError}
    (found : (manager.handleWait wait error).1.timers[timerId]? = some timer) : manager.timers[timerId]? = some timer := by
  unfold handleWait at found
  split at found
  · exact found
  · split at found
    · exact found
    · split at found
      · exact found
      · exact (Table.get_erase_some found).2

theorem finishWait_fewer {wait : Wait} (found : (manager.finishWait wait).1.timers[timerId]? = some timer) :
    manager.timers[timerId]? = some timer := by
  unfold finishWait at found
  split at found
  · exact found
  · split at found
    · exact found
    · exact (Table.get_erase_some found).2

theorem step_callback {input : TimerInput C} (found : (manager.step input).1.timers[timerId]? = some timer) :
    manager.Given timerId timer.callback input.callback := by
  cases input with
  | createOnce delay callback => exact createTimer_callback found
  | createRepeating interval callback =>
    simp only [step] at found
    split at found
    · exact .inl ⟨timer, found, rfl⟩
    · exact createTimer_callback found
  | resetOnce id delay callback => exact resetTimer_callback found
  | resetRepeating id interval callback =>
    simp only [step] at found
    split at found
    · exact .inl ⟨timer, found, rfl⟩
    · exact resetTimer_callback found
  | cancel id =>
    rcases manager.cancel_outcome id with ⟨code, same⟩ | ⟨before, -, made⟩
    · rw [step, same] at found
      exact .inl ⟨timer, found, rfl⟩
    · rw [step, made] at found
      exact .inl ⟨timer, (Table.get_erase_some found).2, rfl⟩
  | cancelAll => simp [step, cancelAll] at found
  | complete index error =>
    simp only [step] at found
    split at found
    · have before := handleWait_fewer found
      exact .inl ⟨timer, before, rfl⟩
    · exact .inl ⟨timer, found, rfl⟩
  | callbackReturned =>
    simp only [step] at found
    split at found
    · exact .inl ⟨timer, found, rfl⟩
    · have before := finishWait_fewer found
      exact .inl ⟨timer, before, rfl⟩

/-- The callback that is started is the one of a timer. -/
theorem step_started {input : TimerInput C} {started : C} {rest : List (TimerEvent C)}
    (starts : (manager.step input).2 = .started timerId started :: rest) :
    ∃ timer, manager.timers[timerId]? = some timer ∧ timer.callback = some started := by
  have changes := step_changes manager input
  generalize manager.step input = outcome at changes starts
  cases changes with
  | started idle taken current callable =>
    cases starts
    exact ⟨_, (currentEntry_some.mp current).1, callable⟩
  | silent | refused | created | reset | cancelled | cancelledAll => cases starts
  | dropped | failed | stale | rearmed | finished => cases starts

end TimerManager

namespace MainEventLoop

/-- Some timer ticks for this run. -/
def Ticks (loop : MainEventLoop) (run : Nat) : Prop :=
  ∃ (timerId : Int) (timer : TimerEntry LoopCallback), loop.timers.timers[timerId]? = some timer ∧
    timer.callback = some (.tick run)

/-- No call of `Run` among these is in the io context. -/
def Waiting (calls : List RunCall) : Prop := ∀ run, .loop run ∉ calls

/-- The loop in this phase. -/
def InPhase (loop : MainEventLoop) : LoopPhase → Prop
  | .stopped => loop.state = .stopped ∧ loop.executor.state = .stopped ∧ Waiting loop.calls ∧ loop.handler = none
  | .running run => loop.state = .running ∧ loop.executor.state = .running ∧ loop.executor.ioStopped = false ∧
      ∃ rest, loop.calls = .loop run :: rest ∧ Waiting rest
  | .stopping run => loop.state = .stopping ∧ loop.executor.state = .stopping ∧ loop.executor.ioStopped = true ∧
      ∃ rest, loop.calls = .loop run :: rest ∧ Waiting rest
  | .escaped => loop.state ≠ .stopped ∧ Waiting loop.calls ∧ loop.handler = none

/-- The state of a run is what its events say. -/
structure Told (state : RunState) (progress : RunProgress) : Prop where
  hooks : progress.hooks = some state.hooks
  bootstrapped : progress.bootstrapped = state.bootstrapStarted
  startFailure : progress.startFailure =
    if state.startupResult = .none then none else some (state.startupResult, state.startupError)
  startText : state.startupResult ≠ .none → state.startupError ≠ ""
  tickFailure : progress.tickFailure = if state.runtimeResult = .none then none else some state.runtimeError
  tickText : state.runtimeResult ≠ .none → state.runtimeResult = .tickCallbackThrew ∧ state.runtimeError ≠ ""
  tick : ∀ count last, progress.tick = some (count, last) → state.tickCount = count ∧ state.lastTickTime = some last

/-- A run, its events, and where the loop stands with it. -/
structure Holds (loop : MainEventLoop) (run : Nat) (state : RunState) (progress : RunProgress) : Prop where
  told : Told state progress
  fresh : progress.bootstrapped = false → progress.startFailure = none ∧ progress.tick = none ∧ state.tickCount = 0
  ticks : loop.Ticks run → progress.tick ≠ none
  inLoop : .loop run ∈ loop.calls → progress.left = none ∧ progress.stopped = false ∧ progress.stopFailure = none ∧
    progress.returned = false
  inStop : ∀ result error, .stopping run result error ∈ loop.calls →
    progress.left = some (result, error) ∧ (result ≠ .none → error ≠ "") ∧ progress.stopped = true ∧
      progress.stopFailure = none ∧ progress.returned = false
  starting : loop.handler = some (.starting run) → progress.bootstrapped = true ∧ progress.startFailure = none ∧
    progress.tick = none ∧ state.tickCount = 0
  ticking : loop.handler = some (.ticking run) → progress.tick ≠ none ∧ progress.tickFailure = none

/-- The bootstraps that are posted are those of the last runs, in order; the others were run. -/
structure Queued (loop : MainEventLoop) (trace : List LoopEvent) (first : Nat) : Prop where
  posted : loop.executor.bootstraps = List.range' first (loop.runs.length - first)
  run : ∀ run, (runProgress run trace).bootstrapped = true ↔ run < first
  bound : first ≤ loop.runs.length

structure Inv (loop : MainEventLoop) (trace : List LoopEvent) : Prop where
  lawful : LawfulLoop trace
  phase : loop.InPhase (loopPhase trace)
  count : runsCalled trace = loop.runs.length
  runs : ∀ run state, loop.runs[run]? = some state → loop.Holds run state (runProgress run trace)
  unborn : ∀ run, loop.runs.length ≤ run → runProgress run trace = {}
  queue : ∃ first, loop.Queued trace first
  calls : (loop.calls.map RunCall.run).Nodup
  known : ∀ call ∈ loop.calls, call.run < loop.runs.length
  timers : ∀ run, loop.Ticks run → run < loop.runs.length
  handler : ∀ run, loop.handler = some (.starting run) ∨ loop.handler = some (.ticking run) → run < loop.runs.length

variable {loop after : MainEventLoop} {trace : List LoopEvent} {run : Nat} {state : RunState} {progress : RunProgress}

/-- Where the loop does not come closer to a run. -/
theorem Holds.away (h : loop.Holds run state progress) (ticks : after.Ticks run → loop.Ticks run)
    (calls : ∀ call ∈ after.calls, call.run = run → call ∈ loop.calls)
    (starting : after.handler = some (.starting run) → loop.handler = some (.starting run))
    (ticking : after.handler = some (.ticking run) → loop.handler = some (.ticking run)) :
    after.Holds run state progress where
  told := h.told
  fresh := h.fresh
  ticks := h.ticks ∘ ticks
  inLoop mem := h.inLoop (calls _ mem rfl)
  inStop result error mem := h.inStop result error (calls _ mem rfl)
  starting := h.starting ∘ starting
  ticking := h.ticking ∘ ticking

theorem create_inv (options : MainEventLoopOptions) : Inv (create options) [] where
  lawful := history_nil
  phase := ⟨rfl, rfl, fun _ => List.not_mem_nil, rfl⟩
  count := rfl
  runs _ _ found := by cases found
  unborn _ _ := rfl
  queue := ⟨0, rfl, fun run => by simp [runProgress], Nat.le_refl 0⟩
  calls := List.nodup_nil
  known _ mem := by cases mem
  timers run := by simp [Ticks, create]
  handler run := by simp [create]

/-! ## What a step does -/

/-- What the laws depend on, apart from the handler and the timers. -/
structure View where
  state : EventLoopState
  executor : EventLoopState
  ioStopped : Bool
  bootstraps : List Nat
  runs : List RunState
  calls : List RunCall

def view (loop : MainEventLoop) : View :=
  ⟨loop.state, loop.executor.state, loop.executor.ioStopped, loop.executor.bootstraps, loop.runs, loop.calls⟩

/-- The io context of this run is between two handlers and takes the next one. -/
structure Takes (loop : MainEventLoop) (run : Nat) (rest : List RunCall) : Prop where
  calls : loop.calls = .loop run :: rest
  idle : loop.handler = none
  going : loop.executor.ioStopped = false

/-- The handler is as before, or one that belongs to no run. -/
def Inside (loop after : MainEventLoop) : Prop :=
  after.handler = none ∨ after.handler = loop.handler ∨
    (∃ run rest, loop.calls = .loop run :: rest) ∧ (after.handler = some .posted ∨ after.handler = some .timer)

/-- The alternatives of a step, with what it was decided on. -/
inductive Change (loop : MainEventLoop) : List LoopEvent → MainEventLoop → Prop where
  | quiet {after : MainEventLoop} (same : after.view = loop.view)
      (inside : after.handler = none ∨ after.handler = loop.handler)
      (ticks : ∀ run, after.Ticks run → loop.Ticks run) : Change loop [] after
  | handled {after : MainEventLoop} {current : Nat} {rest : List RunCall} (takes : loop.Takes current rest)
      (same : after.view = loop.view) (inside : after.handler = some .posted ∨ after.handler = some .timer)
      (ticks : ∀ run, after.Ticks run → loop.Ticks run) : Change loop [.handled] after
  | refused {code : MainEventLoopErrorCode} (refuses : code ≠ .none) : Change loop [.refused code] loop
  | called {after : MainEventLoop} (hooks : MainEventLoopHooks) (off : loop.state = .stopped)
      (entered : after.view = ⟨.running, .running, false, loop.executor.bootstraps ++ [loop.runs.length],
        loop.runs ++ [.ofHooks hooks], .loop loop.runs.length :: loop.calls⟩)
      (inside : after.handler = loop.handler) (ticks : ∀ run, after.Ticks run → loop.Ticks run) :
      Change loop [.called loop.runs.length hooks] after
  | stopRequested (on : loop.state ≠ .stopped) :
      Change loop [.stopRequested] { loop with state := .stopping, executor := loop.executor.stop }
  | bootstrapped {after : MainEventLoop} {current run : Nat} {rest : List RunCall} {bootstraps : List Nat}
      (takes : loop.Takes current rest) (first : loop.executor.bootstraps = run :: bootstraps)
      (started : after.view = { loop.view with
        bootstraps, runs := loop.runs.modify run fun state => { state with bootstrapStarted := true } })
      (inside : after.handler = some (.starting run)) (ticks : ∀ run, after.Ticks run → loop.Ticks run) :
      Change loop [.bootstrapped run] after
  | ticking {after : MainEventLoop} {run : Nat} (now : Int) (starting : loop.handler = some (.starting run))
      (armed : after.view = { loop.view with
        runs := loop.runs.modify run fun state => { state with lastTickTime := some now } })
      (inside : after.handler = none) (ticks : ∀ other, after.Ticks other → loop.Ticks other ∨ other = run) :
      Change loop [.ticking run now] after
  | startFailed {after : MainEventLoop} {run : Nat} {code : MainEventLoopErrorCode} {error : String}
      (last : Option Int → Option Int) (starting : loop.handler = some (.starting run)) (fails : code ≠ .none)
      (filled : error ≠ "")
      (noted : after.view = { loop.view with
        runs := loop.runs.modify run fun state =>
          { state with startupResult := code, startupError := error, lastTickTime := last state.lastTickTime } })
      (inside : after.handler = none) (ticks : ∀ run, after.Ticks run → loop.Ticks run) :
      Change loop [.startFailed run code error] after
  | ticked {after : MainEventLoop} {current run : Nat} {rest : List RunCall} {state : RunState}
      (info : MainEventLoopTickInfo) (takes : loop.Takes current rest) (live : loop.Ticks run)
      (found : loop.runs[run]? = some state) (fine : state.runtimeResult = .none)
      (number : info.tickCount = state.tickCount + 1)
      (delta : ∀ last, state.lastTickTime = some last → info.delta = info.now - last)
      (counted : after.view = { loop.view with
        runs := loop.runs.modify run fun state =>
          { state with tickCount := info.tickCount, lastTickTime := some info.now } })
      (inside : after.handler = some (.ticking run)) (ticks : ∀ run, after.Ticks run → loop.Ticks run) :
      Change loop [.ticked run info] after
  | tickFailed {after : MainEventLoop} {run : Nat} {error : String} (ticking : loop.handler = some (.ticking run))
      (filled : error ≠ "")
      (noted : after.view = { loop.view with
        runs := loop.runs.modify run fun state =>
          { state with runtimeResult := .tickCallbackThrew, runtimeError := error } })
      (inside : after.handler = none) (ticks : ∀ run, after.Ticks run → loop.Ticks run) :
      Change loop [.tickFailed run error] after
  | returned {after : MainEventLoop} {run : Nat} {rest : List RunCall} {state : RunState} {result : CoreLoopErrorCode}
      {error : String} {io : Bool} (calls : loop.calls = .loop run :: rest) (found : loop.runs[run]? = some state)
      (stops : loop.state = .stopping ∨ result ≠ .none) (filled : result ≠ .none → error ≠ "")
      (silent : ¬(state.bootstrapStarted = true ∧ state.hooks.onStop = true))
      (left : after.view = ⟨.stopped, .stopped, io, loop.executor.bootstraps, loop.runs, rest⟩)
      (inside : after.handler = none) (ticks : ∀ run, ¬after.Ticks run) :
      Change loop [.left run result error, returnedEvent state run result error none] after
  | stopping {after : MainEventLoop} {run : Nat} {rest : List RunCall} {state : RunState} {result : CoreLoopErrorCode}
      {error : String} {io : Bool} (calls : loop.calls = .loop run :: rest) (found : loop.runs[run]? = some state)
      (stops : loop.state = .stopping ∨ result ≠ .none) (filled : result ≠ .none → error ≠ "")
      (told : state.bootstrapStarted = true ∧ state.hooks.onStop = true)
      (left : after.view = ⟨.stopped, .stopped, io, loop.executor.bootstraps, loop.runs,
        .stopping run result error :: rest⟩)
      (inside : after.handler = none) (ticks : ∀ run, ¬after.Ticks run) :
      Change loop [.left run result error, .stopping run] after
  | stopped {run : Nat} {rest : List RunCall} {state : RunState} {result : CoreLoopErrorCode} {error : String}
      (calls : loop.calls = .stopping run result error :: rest) (idle : loop.handler = none)
      (found : loop.runs[run]? = some state) :
      Change loop [returnedEvent state run result error none] { loop with calls := rest }
  | stopFailed {run : Nat} {rest : List RunCall} {state : RunState} {result : CoreLoopErrorCode} {error : String}
      {stopError : String} (calls : loop.calls = .stopping run result error :: rest) (idle : loop.handler = none)
      (found : loop.runs[run]? = some state) (filled : stopError ≠ "") :
      Change loop [.stopFailed run stopError, returnedEvent state run result error (some stopError)]
        { loop with calls := rest }
  | escaped {after : MainEventLoop} {run : Nat} {rest : List RunCall} (calls : loop.calls = .loop run :: rest)
      (gone : after.view = { loop.view with calls := rest }) (inside : after.handler = none)
      (ticks : ∀ run, after.Ticks run → loop.Ticks run) : Change loop [.escaped run] after

/-! ## Every change keeps the laws -/

theorem InPhase.congr {phase : LoopPhase} (h : loop.InPhase phase) (same : after.view = loop.view)
    (inside : loop.handler = none → Waiting loop.calls → after.handler = none) : after.InPhase phase := by
  obtain ⟨state, executor, io, -, -, calls⟩ := View.mk.inj same
  cases phase with
  | stopped => exact ⟨state.trans h.1, executor.trans h.2.1, calls ▸ h.2.2.1, inside h.2.2.2 h.2.2.1⟩
  | running run => exact ⟨state.trans h.1, executor.trans h.2.1, io.trans h.2.2.1, calls ▸ h.2.2.2⟩
  | stopping run => exact ⟨state.trans h.1, executor.trans h.2.1, io.trans h.2.2.1, calls ▸ h.2.2.2⟩
  | escaped => exact ⟨state ▸ h.1, calls ▸ h.2.1, inside h.2.2 h.2.1⟩

/-- While a call of `Run` is in the io context, the loop runs or stops. -/
theorem InPhase.inLoop {phase : LoopPhase} (h : loop.InPhase phase) {rest : List RunCall}
    (calls : loop.calls = .loop run :: rest) :
    Waiting rest ∧ (phase = .running run ∧ loop.executor.ioStopped = false ∧ loop.state = .running ∨
      phase = .stopping run ∧ loop.executor.ioStopped = true ∧ loop.state = .stopping) := by
  have here : .loop run ∈ loop.calls := by simp [calls]
  cases phase with
  | stopped => exact absurd here (h.2.2.1 run)
  | escaped => exact absurd here (h.2.1 run)
  | running current =>
    obtain ⟨state, -, io, others, same, waiting⟩ := h
    cases calls.symm.trans same
    exact ⟨waiting, .inl ⟨rfl, io, state⟩⟩
  | stopping current =>
    obtain ⟨state, -, io, others, same, waiting⟩ := h
    cases calls.symm.trans same
    exact ⟨waiting, .inr ⟨rfl, io, state⟩⟩

/-- A handler runs inside a call of `Run`. -/
theorem InPhase.handler {phase : LoopPhase} (h : loop.InPhase phase) (some : loop.handler ≠ none) :
    ∃ current rest, loop.calls = .loop current :: rest := by
  cases phase with
  | stopped => exact absurd h.2.2.2 some
  | escaped => exact absurd h.2.2 some
  | running current => exact ⟨current, h.2.2.2.imp fun _ => And.left⟩
  | stopping current => exact ⟨current, h.2.2.2.imp fun _ => And.left⟩

theorem Inv.found (inv : Inv loop trace) (hooks : (runProgress run trace).hooks ≠ none) :
    ∃ state, loop.runs[run]? = some state := by
  by_cases known : run < loop.runs.length
  · exact ⟨_, List.getElem?_eq_getElem known⟩
  · rw [inv.unborn run (by omega)] at hooks
    exact absurd rfl hooks

theorem Inv.quiet (inv : Inv loop trace) (same : after.view = loop.view) (inside : Inside loop after)
    (ticks : ∀ run, after.Ticks run → loop.Ticks run) : Inv after trace := by
  obtain ⟨-, -, -, posted, runs, calls⟩ := View.mk.inj same
  have kept (handler : RunningHandler) (own : handler ≠ .posted ∧ handler ≠ .timer) :
      after.handler = some handler → loop.handler = some handler := by
    intro now
    rcases inside with none | same | ⟨-, other | other⟩
    · rw [none] at now
      cases now
    · exact same ▸ now
    · exact absurd (Option.some.inj (now.symm.trans other)) own.1
    · exact absurd (Option.some.inj (now.symm.trans other)) own.2
  have idle (before : loop.handler = none) (waiting : Waiting loop.calls) : after.handler = none := by
    rcases inside with gone | same | ⟨⟨run, rest, looping⟩, -⟩
    · exact gone
    · exact same.trans before
    · exact absurd (by simp [looping]) (waiting run)
  refine ⟨inv.lawful, inv.phase.congr same idle, inv.count.trans (by rw [runs]), ?_, ?_, ?_, calls ▸ inv.calls, ?_,
    fun run h => runs ▸ inv.timers run (ticks run h), ?_⟩
  · intro run state found
    rw [runs] at found
    refine (inv.runs run state found).away (ticks run) (fun call mem _ => calls ▸ mem) (kept _ ?_) (kept _ ?_)
    · simp
    · simp
  · rw [runs]
    exact inv.unborn
  · obtain ⟨first, queued⟩ := inv.queue
    exact ⟨first, by rw [posted, runs]; exact queued.posted, queued.run, runs ▸ queued.bound⟩
  · rw [calls, runs]
    exact inv.known
  · intro run now
    rw [runs]
    exact inv.handler run (now.imp (kept _ (by simp)) (kept _ (by simp)))

theorem Queued.same {first : Nat} (h : loop.Queued trace first) (posted : after.executor.bootstraps = loop.executor.bootstraps)
    (length : after.runs.length = loop.runs.length) {trace' : List LoopEvent}
    (booted : ∀ run, (runProgress run trace').bootstrapped = (runProgress run trace).bootstrapped) :
    after.Queued trace' first where
  posted := by rw [posted, length]; exact h.posted
  run run := by rw [booted]; exact h.run run
  bound := length ▸ h.bound

/-- An event about one run, which only changes the state of that run. -/
theorem Inv.event (inv : Inv loop trace) {event : LoopEvent} {change : RunState → RunState} (own : event.run = some run)
    (stays : ∀ run result error, event ≠ .left run result error) (again : ∀ run hooks, event ≠ .called run hooks)
    (known : run < loop.runs.length) (allowed : event.Allowed trace) (runs : after.runs = loop.runs.modify run change)
    (calls : after.calls = loop.calls) (phase : after.InPhase (loopPhase (trace ++ [event])))
    (queue : ∃ first, after.Queued (trace ++ [event]) first)
    (others : ∀ other, run ≠ other → (after.Ticks other → loop.Ticks other) ∧
      after.handler ≠ some (.starting other) ∧ after.handler ≠ some (.ticking other))
    (self : ∀ state, loop.runs[run]? = some state → after.Holds run (change state) ((runProgress run trace).own event)) :
    Inv after (trace ++ [event]) where
  lawful := inv.lawful.snoc allowed
  phase := phase
  count := by rw [runsCalled_snoc trace again, runs, List.length_modify]; exact inv.count
  runs := by
    intro other state found
    rw [runs] at found
    by_cases same : run = other
    · subst same
      rw [List.getElem?_modify_eq, Option.map_eq_map, Option.map_eq_some_iff] at found
      obtain ⟨before, found, rfl⟩ := found
      rw [runProgress_own own]
      exact self before found
    · rw [List.getElem?_modify_ne _ _ same] at found
      have apart : event.run ≠ some other := fun h => same (Option.some.inj (own.symm.trans h))
      obtain ⟨ticks, starting, ticking⟩ := others other same
      rw [runProgress_other apart stays]
      exact (inv.runs other state found).away ticks (fun call mem _ => calls ▸ mem) (fun h => absurd h starting)
        fun h => absurd h ticking
  unborn := by
    intro other out
    rw [runs, List.length_modify] at out
    have apart : event.run ≠ some other := by
      rw [own]
      intro same
      have := Option.some.inj same
      omega
    rw [runProgress_other apart stays]
    exact inv.unborn other out
  queue := queue
  calls := calls ▸ inv.calls
  known := by
    rw [calls, runs, List.length_modify]
    exact inv.known
  timers := by
    intro other ticks
    rw [runs, List.length_modify]
    by_cases same : run = other
    · exact same ▸ known
    · exact inv.timers other ((others other same).1 ticks)
  handler := by
    intro other now
    rw [runs, List.length_modify]
    by_cases same : run = other
    · exact same ▸ known
    · obtain ⟨-, starting, ticking⟩ := others other same
      exact absurd now (not_or.mpr ⟨starting, ticking⟩)

/-- The same for an event that posts and runs no bootstrap. -/
theorem Inv.queue_same (inv : Inv loop trace) {event : LoopEvent} {change : RunState → RunState}
    (own : event.run = some run) (stays : ∀ run result error, event ≠ .left run result error)
    (booted : ((runProgress run trace).own event).bootstrapped = (runProgress run trace).bootstrapped)
    (runs : after.runs = loop.runs.modify run change)
    (posted : after.executor.bootstraps = loop.executor.bootstraps) : ∃ first, after.Queued (trace ++ [event]) first := by
  obtain ⟨first, queued⟩ := inv.queue
  refine ⟨first, queued.same posted (by rw [runs, List.length_modify]) fun other => ?_⟩
  by_cases same : event.run = some other
  · cases own.symm.trans same
    rw [runProgress_own own, booted]
  · rw [runProgress_other same stays]

theorem Takes.phase {current : Nat} {rest : List RunCall} (takes : loop.Takes current rest) (inv : Inv loop trace) :
    loopPhase trace = .running current := by
  rcases (inv.phase.inLoop takes.calls).2 with ⟨phase, -, -⟩ | ⟨-, io, -⟩
  · exact phase
  · exact absurd (takes.going.symm.trans io) Bool.false_ne_true

/-- A loop with the same calls in the io context is in the same phase, whatever handler runs. -/
theorem InPhase.inside {phase : LoopPhase} (h : loop.InPhase phase) {current : Nat} {rest : List RunCall}
    (looping : loop.calls = .loop current :: rest) (state : after.state = loop.state)
    (executor : after.executor.state = loop.executor.state) (io : after.executor.ioStopped = loop.executor.ioStopped)
    (calls : after.calls = loop.calls) : after.InPhase phase := by
  have here : .loop current ∈ loop.calls := by simp [looping]
  cases phase with
  | stopped => exact absurd here (h.2.2.1 current)
  | escaped => exact absurd here (h.2.1 current)
  | running run => exact ⟨state.trans h.1, executor.trans h.2.1, io.trans h.2.2.1, calls ▸ h.2.2.2⟩
  | stopping run => exact ⟨state.trans h.1, executor.trans h.2.1, io.trans h.2.2.1, calls ▸ h.2.2.2⟩

/-- An event about no run, which changes nothing. -/
theorem Inv.aside (inv : Inv loop trace) {event : LoopEvent} (ofNone : event.run = none)
    (quiet : ∀ phase : LoopPhase, phase.after event = phase) (allowed : event.Allowed trace) : Inv loop (trace ++ [event]) := by
  have same (run : Nat) : runProgress run (trace ++ [event]) = runProgress run trace :=
    runProgress_other (by simp [ofNone]) (fun _ _ _ h => by simp [h, LoopEvent.run] at ofNone) trace
  obtain ⟨first, queued⟩ := inv.queue
  refine ⟨inv.lawful.snoc allowed, ?_, ?_, ?_, ?_, ⟨first, queued.same rfl rfl fun run => by rw [same]⟩, inv.calls,
    inv.known, inv.timers, inv.handler⟩
  · rw [loopPhase_snoc, quiet]
    exact inv.phase
  · rw [runsCalled_snoc trace fun _ _ h => by simp [h, LoopEvent.run] at ofNone]
    exact inv.count
  · intro run state found
    rw [same]
    exact inv.runs run state found
  · intro run out
    rw [same]
    exact inv.unborn run out

theorem Inv.stopRequested (inv : Inv loop trace) (on : loop.state ≠ .stopped) :
    Inv { loop with state := .stopping, executor := loop.executor.stop } (trace ++ [.stopRequested]) := by
  have same (run : Nat) : runProgress run (trace ++ [.stopRequested]) = runProgress run trace :=
    runProgress_other (fun h => by cases h) (fun _ _ _ h => by cases h) trace
  have posted : loop.executor.stop.bootstraps = loop.executor.bootstraps := by
    rw [CoreLoopExecutor.stop]
    split <;> rfl
  have phase := inv.phase
  obtain ⟨first, queued⟩ := inv.queue
  have queue : Queued { loop with state := .stopping, executor := loop.executor.stop } (trace ++ [.stopRequested]) first :=
    queued.same posted (by rfl) fun run => by rw [same]
  refine ⟨inv.lawful.snoc ?_, ?_, ?_, ?_, ?_, ⟨first, queue⟩, inv.calls, inv.known, inv.timers, inv.handler⟩
  · intro stopped
    rw [stopped] at phase
    exact on phase.1
  · rw [loopPhase_snoc]
    generalize loopPhase trace = current at phase
    cases current with
    | stopped => exact absurd phase.1 on
    | running run => exact ⟨rfl, by simp [CoreLoopExecutor.stop, phase.2.1], by simp [CoreLoopExecutor.stop, phase.2.1], phase.2.2.2⟩
    | stopping run => exact ⟨rfl, by simp [CoreLoopExecutor.stop, phase.2.1], by simp [CoreLoopExecutor.stop, phase.2.1], phase.2.2.2⟩
    | escaped => exact ⟨by simp, phase.2⟩
  · rw [runsCalled_snoc trace fun _ _ h => by cases h]
    exact inv.count
  · intro run state found
    rw [same]
    exact (inv.runs run state found).away id (fun _ mem _ => mem) id id
  · intro run out
    rw [same]
    exact inv.unborn run out

theorem InPhase.off {phase : LoopPhase} (h : loop.InPhase phase) (off : loop.state = .stopped) : phase = .stopped := by
  cases phase with
  | stopped => rfl
  | escaped => exact absurd off h.1
  | running run => exact absurd (h.1.symm.trans off) (by decide)
  | stopping run => exact absurd (h.1.symm.trans off) (by decide)

/-- A run that is called: no timer ticks for it, and no handler runs. -/
theorem Holds.called {hooks : MainEventLoopHooks} (noTicks : ¬ after.Ticks run)
    (calls : ∀ call ∈ after.calls, call.run = run → call = .loop run) (idle : after.handler = none) :
    after.Holds run (.ofHooks hooks) { hooks := some hooks } where
  told := by
    refine ⟨rfl, rfl, rfl, fun h => absurd rfl h, rfl, fun h => absurd rfl h, ?_⟩
    intro count last h
    cases h
  fresh _ := ⟨rfl, rfl, rfl⟩
  ticks h := absurd h noTicks
  inLoop _ := ⟨rfl, rfl, rfl, rfl⟩
  inStop result error mem := by cases calls _ mem rfl
  starting h := by
    rw [idle] at h
    cases h
  ticking h := by
    rw [idle] at h
    cases h

/-- The bootstrap of a new run is posted behind the others. -/
theorem Queued.called {first : Nat} {events : List LoopEvent} (queued : loop.Queued trace first)
    (posted : after.executor.bootstraps = loop.executor.bootstraps ++ [loop.runs.length])
    (more : after.runs.length = loop.runs.length + 1) (own : (runProgress loop.runs.length events).bootstrapped = false)
    (other : ∀ run, loop.runs.length ≠ run → runProgress run events = runProgress run trace) :
    after.Queued events first := by
  have bound := queued.bound
  refine ⟨?_, fun run => ?_, ?_⟩
  · rw [posted, queued.posted, more, Nat.succ_sub bound, List.range'_1_concat, Nat.add_sub_cancel' bound]
  · by_cases same : loop.runs.length = run
    · subst same
      rw [own]
      simp only [Bool.false_eq_true, false_iff]
      omega
    · rw [other run same]
      exact queued.run run
  · omega

/-- The calls of `Run` under way have their own numbers, below that of a new one. -/
theorem Inv.calls_called (inv : Inv loop trace) (calls : after.calls = .loop loop.runs.length :: loop.calls) :
    (after.calls.map RunCall.run).Nodup ∧ ∀ call ∈ after.calls, call.run < loop.runs.length + 1 := by
  rw [calls, List.map_cons, List.nodup_cons]
  refine ⟨⟨fun mem => ?_, inv.calls⟩, fun call mem => ?_⟩
  · obtain ⟨call, listed, same⟩ := List.mem_map.mp mem
    have known := inv.known call listed
    rw [same] at known
    exact Nat.lt_irrefl _ known
  · cases mem with
    | head => exact Nat.lt_succ_self _
    | tail _ mem => exact Nat.lt_succ_of_lt (inv.known call mem)

theorem Inv.called (inv : Inv loop trace) (hooks : MainEventLoopHooks) (off : loop.state = .stopped)
    (entered : after.view = ⟨.running, .running, false, loop.executor.bootstraps ++ [loop.runs.length],
      loop.runs ++ [.ofHooks hooks], .loop loop.runs.length :: loop.calls⟩)
    (inside : after.handler = loop.handler) (ticks : ∀ run, after.Ticks run → loop.Ticks run) :
    Inv after (trace ++ [.called loop.runs.length hooks]) := by
  obtain ⟨state, executor, io, posted, runs, calls⟩ := View.mk.inj entered
  have phase := inv.phase
  have stopped := phase.off off
  rw [stopped] at phase
  have idle : after.handler = none := inside.trans phase.2.2.2
  have more : after.runs.length = loop.runs.length + 1 := by rw [runs, List.length_append, List.length_singleton]
  have other (run : Nat) (apart : loop.runs.length ≠ run) :
      runProgress run (trace ++ [.called loop.runs.length hooks]) = runProgress run trace :=
    runProgress_other (by simpa [LoopEvent.run] using apart) (fun _ _ _ h => by cases h) trace
  have own : runProgress loop.runs.length (trace ++ [.called loop.runs.length hooks]) = { hooks := some hooks } := by
    rw [runProgress_own rfl, inv.unborn loop.runs.length (Nat.le_refl _)]
    rfl
  have underWay (call : RunCall) (mem : call ∈ after.calls) : call = .loop loop.runs.length ∨ call ∈ loop.calls := by
    rw [calls] at mem
    exact List.mem_cons.mp mem
  obtain ⟨nodup, known⟩ := inv.calls_called calls
  obtain ⟨first, queued⟩ := inv.queue
  refine ⟨inv.lawful.snoc ⟨stopped, inv.count.symm⟩, ?_, ?_, ?_, fun run out => ?_,
    ⟨first, queued.called posted more (own ▸ rfl) other⟩, nodup, more ▸ known, fun run h => ?_, fun run now => ?_⟩
  · rw [loopPhase_snoc]
    exact ⟨state, executor, io, loop.calls, calls, phase.2.2.1⟩
  · rw [more, ← inv.count, runsCalled, List.countP_append]
    rfl
  · intro run state found
    rw [runs] at found
    by_cases same : loop.runs.length = run
    · subst same
      rw [List.getElem?_concat_length, Option.some.injEq] at found
      subst found
      rw [own]
      refine .called (fun h => Nat.lt_irrefl _ (inv.timers _ (ticks _ h))) (fun call mem own => ?_) idle
      rcases underWay call mem with new | old
      · exact new
      · exact absurd (inv.known call old) (own ▸ Nat.lt_irrefl _)
    · rw [List.getElem?_append_left (by
        have := (List.getElem?_eq_some_iff.mp found).1
        rw [List.length_append, List.length_singleton] at this
        omega)] at found
      rw [other run same]
      refine (inv.runs run state found).away (ticks run) (fun call mem own => ?_) (inside ▸ id) (inside ▸ id)
      rcases underWay call mem with rfl | old
      · exact absurd own same
      · exact old
  · rw [more] at out
    rw [other run (by omega)]
    exact inv.unborn run (by omega)
  · rw [more]
    exact Nat.lt_succ_of_lt (inv.timers run (ticks run h))
  · rw [idle] at now
    simp at now

theorem Inv.bootstrapped (inv : Inv loop trace) {current : Nat} {rest : List RunCall} {bootstraps : List Nat}
    (takes : loop.Takes current rest) (first : loop.executor.bootstraps = run :: bootstraps)
    (started : after.view = { loop.view with
      bootstraps, runs := loop.runs.modify run fun state => { state with bootstrapStarted := true } })
    (inside : after.handler = some (.starting run)) (ticks : ∀ run, after.Ticks run → loop.Ticks run) :
    Inv after (trace ++ [.bootstrapped run]) := by
  obtain ⟨state, executor, io, posted, runs, calls⟩ := View.mk.inj started
  change after.calls = loop.calls at calls
  obtain ⟨next, queued⟩ := inv.queue
  -- the first posted bootstrap is the one of the first run that was not bootstrapped
  have listed := queued.posted.symm.trans first
  obtain ⟨rest', more⟩ : ∃ n, loop.runs.length - next = n + 1 := by
    cases left : loop.runs.length - next with
    | zero =>
      rw [left] at listed
      cases listed
    | succ n => exact ⟨n, rfl⟩
  rw [more, List.range'_succ] at listed
  obtain ⟨rfl, later⟩ := List.cons.inj listed
  have fresh : (runProgress next trace).bootstrapped = false := by
    rw [Bool.eq_false_iff]
    exact fun h => Nat.lt_irrefl _ ((queued.run next).mp h)
  have known : next < loop.runs.length := by omega
  have told := (inv.runs next _ (List.getElem?_eq_getElem known)).told
  have running := takes.phase inv
  refine inv.event rfl (fun _ _ _ h => by cases h) (fun _ _ h => by cases h) known ⟨⟨current, running⟩, ?_, fresh, ?_⟩ runs
    calls ?_ ⟨next + 1, ?_, ?_, ?_⟩ (fun other apart => ⟨ticks other, ?_, ?_⟩) fun state found => ?_
  · rw [told.hooks]
    exact Option.some_ne_none _
  · exact fun earlier before => (queued.run earlier).mpr before
  · rw [loopPhase_snoc]
    exact inv.phase.inside takes.calls state executor io calls
  · rw [posted, ← later, runs, List.length_modify]
    congr 1
    omega
  · intro run
    by_cases same : next = run
    · subst same
      rw [runProgress_own rfl]
      simp [RunProgress.own]
    · rw [runProgress_other (by simpa [LoopEvent.run] using same) (fun _ _ _ h => by cases h), queued.run]
      omega
  · rw [runs, List.length_modify]
    exact known
  · rw [inside]
    simpa using apart
  · rw [inside]
    simp
  · have holds := inv.runs next state found
    refine ⟨⟨holds.told.hooks, rfl, holds.told.startFailure, holds.told.startText, holds.told.tickFailure,
      holds.told.tickText, holds.told.tick⟩, fun h => (by cases h), fun h => holds.ticks (ticks _ h), fun mem => holds.inLoop (calls ▸ mem),
      fun result error mem => holds.inStop result error (calls ▸ mem), ?_, ?_⟩
    · exact fun _ => ⟨rfl, holds.fresh fresh⟩
    · intro h
      rw [inside] at h
      cases h

/-- The end of a handler of a run, which ends the callback and changes the state of that run. -/
theorem Inv.ended (inv : Inv loop trace) {event : LoopEvent} {change : RunState → RunState} (own : event.run = some run)
    (stays : ∀ run result error, event ≠ .left run result error) (again : ∀ run hooks, event ≠ .called run hooks)
    (quiet : ∀ phase : LoopPhase, phase.after event = phase) {handler : RunningHandler}
    (inside : loop.handler = some handler) (ofRun : handler = .starting run ∨ handler = .ticking run)
    (allowed : event.Allowed trace) (view : after.view = { loop.view with runs := loop.runs.modify run change })
    (ended : after.handler = none) (ticks : ∀ other, run ≠ other → after.Ticks other → loop.Ticks other)
    (booted : ((runProgress run trace).own event).bootstrapped = (runProgress run trace).bootstrapped)
    (self : ∀ state, loop.runs[run]? = some state → loop.Holds run state (runProgress run trace) →
      Told (change state) ((runProgress run trace).own event) ∧
      (((runProgress run trace).own event).bootstrapped = true) ∧
      (after.Ticks run → ((runProgress run trace).own event).tick ≠ none) ∧
      ((runProgress run trace).own event).left = (runProgress run trace).left ∧
      ((runProgress run trace).own event).stopped = (runProgress run trace).stopped ∧
      ((runProgress run trace).own event).stopFailure = (runProgress run trace).stopFailure ∧
      ((runProgress run trace).own event).returned = (runProgress run trace).returned) :
    Inv after (trace ++ [event]) := by
  obtain ⟨state, executor, io, posted, runs, calls⟩ := View.mk.inj view
  change after.calls = loop.calls at calls
  have known : run < loop.runs.length := by
    rcases ofRun with rfl | rfl
    · exact inv.handler run (.inl inside)
    · exact inv.handler run (.inr inside)
  obtain ⟨current, rest, looping⟩ := inv.phase.handler (by rw [inside]; exact Option.some_ne_none _)
  refine inv.event own stays again known allowed runs calls ?_ (inv.queue_same own stays booted runs posted)
    (fun other apart => ⟨ticks other apart, ?_, ?_⟩) fun state found => ?_
  · rw [loopPhase_snoc, quiet]
    exact inv.phase.inside looping state executor io calls
  · rw [ended]
    simp
  · rw [ended]
    simp
  · have holds := inv.runs run state found
    obtain ⟨told, boot, live, left, stopped, stopFailure, returned⟩ := self state found holds
    refine ⟨told, fun h => absurd (boot.symm.trans h) (by decide), live, fun mem => ?_, fun result error mem => ?_, ?_, ?_⟩
    · rw [left, stopped, stopFailure, returned]
      exact holds.inLoop (calls ▸ mem)
    · rw [left, stopped, stopFailure, returned]
      exact holds.inStop result error (calls ▸ mem)
    · rw [ended]
      simp
    · rw [ended]
      simp

theorem Inv.ticking (inv : Inv loop trace) (now : Int) (starting : loop.handler = some (.starting run))
    (armed : after.view = { loop.view with
      runs := loop.runs.modify run fun state => { state with lastTickTime := some now } })
    (inside : after.handler = none) (ticks : ∀ other, after.Ticks other → loop.Ticks other ∨ other = run) :
    Inv after (trace ++ [.ticking run now]) := by
  have known := inv.handler run (.inl starting)
  obtain ⟨booted, fine, unticked, -⟩ := (inv.runs run _ (List.getElem?_eq_getElem known)).starting starting
  refine inv.ended rfl (fun _ _ _ h => by cases h) (fun _ _ h => by cases h) (fun _ => rfl) starting (.inl rfl)
    ⟨booted, fine, unticked⟩ armed inside
    (fun other apart h => (ticks other h).resolve_right fun same => apart same.symm) rfl fun state found holds => ?_
  obtain ⟨-, -, -, zero⟩ := holds.starting starting
  refine ⟨⟨holds.told.hooks, holds.told.bootstrapped, holds.told.startFailure, holds.told.startText,
    holds.told.tickFailure, holds.told.tickText, ?_⟩, booted, fun _ => Option.some_ne_none _, rfl, rfl, rfl, rfl⟩
  intro count last h
  cases h
  exact ⟨zero, rfl⟩

theorem Inv.startFailed (inv : Inv loop trace) {code : MainEventLoopErrorCode} {error : String}
    {last : Option Int → Option Int} (starting : loop.handler = some (.starting run)) (fails : code ≠ .none)
    (filled : error ≠ "")
    (noted : after.view = { loop.view with
      runs := loop.runs.modify run fun state =>
        { state with startupResult := code, startupError := error, lastTickTime := last state.lastTickTime } })
    (inside : after.handler = none) (ticks : ∀ run, after.Ticks run → loop.Ticks run) :
    Inv after (trace ++ [.startFailed run code error]) := by
  have known := inv.handler run (.inl starting)
  obtain ⟨booted, fine, unticked, -⟩ := (inv.runs run _ (List.getElem?_eq_getElem known)).starting starting
  refine inv.ended rfl (fun _ _ _ h => by cases h) (fun _ _ h => by cases h) (fun _ => rfl) starting (.inl rfl)
    ⟨fails, booted, fine, unticked⟩ noted inside (fun other _ => ticks other) rfl fun state found holds => ?_
  refine ⟨⟨holds.told.hooks, holds.told.bootstrapped, ?_, fun _ => filled, holds.told.tickFailure,
    holds.told.tickText, ?_⟩, booted, fun h => holds.ticks (ticks run h), rfl, rfl, rfl, rfl⟩
  · simp only [if_neg fails]
    rfl
  · intro count last h
    exact absurd (h.symm.trans unticked) (Option.some_ne_none _)

theorem Inv.tickFailed (inv : Inv loop trace) {error : String} (ticking : loop.handler = some (.ticking run))
    (filled : error ≠ "")
    (noted : after.view = { loop.view with
      runs := loop.runs.modify run fun state =>
        { state with runtimeResult := .tickCallbackThrew, runtimeError := error } })
    (inside : after.handler = none) (ticks : ∀ run, after.Ticks run → loop.Ticks run) :
    Inv after (trace ++ [.tickFailed run error]) := by
  have known := inv.handler run (.inr ticking)
  have before := inv.runs run _ (List.getElem?_eq_getElem known)
  obtain ⟨live, fine⟩ := before.ticking ticking
  have booted : (runProgress run trace).bootstrapped = true := by
    by_contra other
    exact live (before.fresh (Bool.eq_false_iff.mpr other)).2.1
  refine inv.ended rfl (fun _ _ _ h => by cases h) (fun _ _ h => by cases h) (fun _ => rfl) ticking (.inr rfl)
    ⟨live, fine⟩ noted inside (fun other _ => ticks other) rfl fun state found holds => ?_
  exact ⟨⟨holds.told.hooks, holds.told.bootstrapped, holds.told.startFailure, holds.told.startText, rfl,
    fun _ => ⟨rfl, filled⟩, holds.told.tick⟩, booted, fun h => holds.ticks (ticks run h), rfl, rfl, rfl, rfl⟩

theorem Inv.ticked (inv : Inv loop trace) {current : Nat} {rest : List RunCall} {state : RunState}
    {info : MainEventLoopTickInfo} (takes : loop.Takes current rest) (live : loop.Ticks run)
    (found : loop.runs[run]? = some state) (fine : state.runtimeResult = .none)
    (number : info.tickCount = state.tickCount + 1)
    (delta : ∀ last, state.lastTickTime = some last → info.delta = info.now - last)
    (counted : after.view = { loop.view with
      runs := loop.runs.modify run fun state =>
        { state with tickCount := info.tickCount, lastTickTime := some info.now } })
    (inside : after.handler = some (.ticking run)) (ticks : ∀ run, after.Ticks run → loop.Ticks run) :
    Inv after (trace ++ [.ticked run info]) := by
  obtain ⟨state', executor, io, posted, runs, calls⟩ := View.mk.inj counted
  change after.calls = loop.calls at calls
  have holds := inv.runs run state found
  have unfailed : (runProgress run trace).tickFailure = none := by rw [holds.told.tickFailure, if_pos fine]
  obtain ⟨⟨count, last⟩, armed⟩ := Option.ne_none_iff_exists'.mp (holds.ticks live)
  obtain ⟨counts, since⟩ := holds.told.tick count last armed
  have booted : (runProgress run trace).bootstrapped = true := by
    by_contra other
    exact holds.ticks live (holds.fresh (Bool.eq_false_iff.mpr other)).2.1
  refine inv.event rfl (fun _ _ _ h => by cases h) (fun _ _ h => by cases h) (List.getElem?_eq_some_iff.mp found).1
    ⟨⟨current, takes.phase inv⟩, unfailed, count, last, armed, counts ▸ number, delta last since⟩ runs calls ?_
    (inv.queue_same rfl (fun _ _ _ h => by cases h) rfl runs posted) (fun other apart => ⟨ticks other, ?_, ?_⟩)
    fun same again => ?_
  · rw [loopPhase_snoc]
    exact inv.phase.inside takes.calls state' executor io calls
  · rw [inside]
    simp
  · rw [inside]
    simpa using apart
  · cases found.symm.trans again
    refine ⟨⟨holds.told.hooks, holds.told.bootstrapped, holds.told.startFailure, holds.told.startText,
      holds.told.tickFailure, holds.told.tickText, ?_⟩, fun h => absurd (booted.symm.trans h) (by decide),
      fun _ => Option.some_ne_none _, fun mem => holds.inLoop (calls ▸ mem),
      fun result error mem => holds.inStop result error (calls ▸ mem), ?_, fun _ => ⟨Option.some_ne_none _, unfailed⟩⟩
    · intro count last h
      cases h
      exact ⟨rfl, rfl⟩
    · rw [inside]
      simp

/-- The loop is left: no call of `Run` is in the io context any more, and nothing ticks. -/
theorem Inv.left (inv : Inv loop trace) {rest : List RunCall} {result : CoreLoopErrorCode} {io : Bool} (error : String)
    (looping : loop.calls = .loop run :: rest) (stops : loop.state = .stopping ∨ result ≠ .none)
    (left : after.view = ⟨.stopped, .stopped, io, loop.executor.bootstraps, loop.runs, rest⟩)
    (inside : after.handler = none) (ticks : ∀ run, ¬after.Ticks run) :
    Inv after (trace ++ [.left run result error]) ∧
      runProgress run (trace ++ [.left run result error]) =
        { runProgress run trace with left := some (result, error), tick := none } := by
  obtain ⟨state, executor, -, posted, runs, calls⟩ := View.mk.inj left
  have own : runProgress run (trace ++ [.left run result error]) =
      { runProgress run trace with left := some (result, error), tick := none } := runProgress_own rfl trace
  obtain ⟨waiting, phase⟩ := inv.phase.inLoop looping
  have apart := inv.calls
  rw [looping, List.map_cons, List.nodup_cons] at apart
  have fewer {call : RunCall} (mem : call ∈ rest) : call ∈ loop.calls := looping ▸ List.mem_cons_of_mem _ mem
  have booted (other : Nat) : (runProgress other (trace ++ [.left run result error])).bootstrapped =
      (runProgress other trace).bootstrapped := by
    by_cases same : run = other
    · rw [← same, own]
    · rw [runProgress_left same]
  have allowed : LoopEvent.Allowed trace (.left run result error) := by
    rcases phase with ⟨running, -, state⟩ | ⟨stopping, -, -⟩
    · exact .inr ⟨running, stops.resolve_left fun h => absurd (state.symm.trans h) (by decide)⟩
    · exact .inl stopping
  obtain ⟨first, queued⟩ := inv.queue
  refine ⟨⟨inv.lawful.snoc allowed, ?_, ?_, ?_, ?_, ⟨first, queued.same posted (by rw [runs]) booted⟩, calls ▸ apart.2, ?_,
    fun other h => absurd h (ticks other), ?_⟩, own⟩
  · rw [loopPhase_snoc]
    exact ⟨state, executor, calls ▸ waiting, inside⟩
  · rw [runsCalled_snoc trace (fun _ _ h => by cases h), runs]
    exact inv.count
  · intro other state found
    rw [runs] at found
    have holds := inv.runs other state found
    have told (progress : RunProgress) (h : Told state progress) (left : Option (CoreLoopErrorCode × String)) :
        Told state { progress with left, tick := none } :=
      ⟨h.hooks, h.bootstrapped, h.startFailure, h.startText, h.tickFailure, h.tickText, fun _ _ none => by cases none⟩
    have idle (handler : RunningHandler) : after.handler ≠ some handler := by simp [inside]
    by_cases same : run = other
    · subst same
      have gone {call : RunCall} (mem : call ∈ after.calls) : call.run ≠ run := by
        intro same
        rw [calls] at mem
        exact apart.1 (List.mem_map.mpr ⟨call, mem, same⟩)
      rw [own]
      exact ⟨told _ holds.told _, fun h => ⟨(holds.fresh h).1, rfl, (holds.fresh h).2.2⟩, fun h => absurd h (ticks run),
        fun mem => absurd rfl (gone mem), fun _ _ mem => absurd rfl (gone mem), fun h => absurd h (idle _),
        fun h => absurd h (idle _)⟩
    · rw [runProgress_left same]
      exact ⟨told _ holds.told _, fun h => ⟨(holds.fresh h).1, rfl, (holds.fresh h).2.2⟩, fun h => absurd h (ticks other),
        fun mem => holds.inLoop (fewer (calls ▸ mem)), fun _ _ mem => holds.inStop _ _ (fewer (calls ▸ mem)),
        fun h => absurd h (idle _), fun h => absurd h (idle _)⟩
  · intro other out
    rw [runs] at out
    have known := inv.known (.loop run) (by simp [looping])
    rw [runProgress_left (by simp only [RunCall.run] at known; omega), inv.unborn other out]
  · intro call mem
    rw [runs]
    exact inv.known call (fewer (calls ▸ mem))
  · intro other h
    simp [inside] at h

/-- What `Run` returns is what its events say. -/
theorem Told.verdict {state : RunState} {progress : RunProgress} (told : Told state progress) {result : CoreLoopErrorCode}
    {error : String} (left : progress.left = some (result, error)) (filled : result ≠ .none → error ≠ "")
    (stopFilled : ∀ stopError, progress.stopFailure = some stopError → stopError ≠ "") :
    runResult state result error progress.stopFailure = progress.verdict := by
  unfold runResult RunProgress.verdict
  rw [left]
  by_cases entered : result = .none
  · simp only [entered, ne_eq, not_true_eq_false, if_false, if_true, RunProgress.failure, told.startFailure,
      told.tickFailure]
    by_cases started : state.startupResult = .none
    · by_cases ticked : state.runtimeResult = .none
      · cases failed : progress.stopFailure with
        | none => simp [started, ticked]
        | some stopError => simp [started, ticked, orMessage, stopFilled stopError failed]
      · simp [started, orMessage, told.tickText ticked]
    · simp [started, orMessage, told.startText started]
  · simp [entered, orMessage, filled entered]

/-- Outside of the io context, an event about a run without a pending call. -/
theorem Inv.settled (inv : Inv loop trace) (event : LoopEvent) (own : event.run = some run)
    (stays : ∀ run result error, event ≠ .left run result error) (again : ∀ run hooks, event ≠ .called run hooks)
    (quiet : ∀ phase : LoopPhase, phase.after event = phase) (known : run < loop.runs.length)
    (idle : loop.handler = none) (gone : ∀ call ∈ loop.calls, call.run ≠ run) (allowed : event.Allowed trace)
    (same : ∃ stopped stopFailure returned, (runProgress run trace).own event =
      { runProgress run trace with stopped, stopFailure, returned }) : Inv loop (trace ++ [event]) := by
  obtain ⟨stopped, stopFailure, returned, made⟩ := same
  have unchanged : loop.runs = loop.runs.modify run id := (List.modify_id _ _).symm
  refine inv.event own stays again known allowed unchanged rfl ?_ (inv.queue_same own stays (by rw [made]) unchanged rfl)
    (fun other _ => ⟨id, by simp [idle], by simp [idle]⟩) fun state found => ?_
  · rw [loopPhase_snoc, quiet]
    exact inv.phase
  · have holds := inv.runs run state found
    have told := holds.told
    rw [made]
    exact ⟨⟨told.hooks, told.bootstrapped, told.startFailure, told.startText, told.tickFailure, told.tickText, told.tick⟩,
      holds.fresh, holds.ticks, fun mem => absurd rfl (gone _ mem), fun _ _ mem => absurd rfl (gone _ mem),
      fun h => by simp [idle] at h, fun h => by simp [idle] at h⟩

/-- `Run` returns. -/
theorem Inv.returned (inv : Inv loop trace) {state : RunState} {result : CoreLoopErrorCode} {error : String}
    {stopError : Option String} (found : loop.runs[run]? = some state) (idle : loop.handler = none)
    (gone : ∀ call ∈ loop.calls, call.run ≠ run) (left : (runProgress run trace).left = some (result, error))
    (filled : result ≠ .none → error ≠ "") (going : (runProgress run trace).returned = false)
    (failed : (runProgress run trace).stopFailure = stopError) (stopFilled : ∀ error, stopError = some error → error ≠ "")
    (stops : state.bootstrapStarted = true → state.hooks.onStop = true → (runProgress run trace).stopped = true) :
    Inv loop (trace ++ [returnedEvent state run result error stopError]) := by
  have told := (inv.runs run state found).told
  refine inv.settled _ rfl (fun _ _ _ h => by cases h) (fun _ _ h => by cases h) (fun _ => rfl)
    (List.getElem?_eq_some_iff.mp found).1 idle gone ⟨?_, going, ?_, ?_⟩ ⟨_, _, true, rfl⟩
  · rw [left]
    exact Option.some_ne_none _
  · rw [told.bootstrapped, told.hooks]
    exact fun booted wanted => stops booted (Option.some.inj wanted)
  · rw [← failed] at stopFilled
    rw [← told.verdict left filled stopFilled, failed]

/-- A call of `Run` that is not in the io context is over. -/
theorem Inv.popped (inv : Inv loop trace) {rest : List RunCall} {result : CoreLoopErrorCode} {error : String}
    (calls : loop.calls = .stopping run result error :: rest) (idle : loop.handler = none) :
    Inv { loop with calls := rest } trace ∧ ∀ call ∈ rest, call.run ≠ run := by
  have fewer {call : RunCall} (mem : call ∈ rest) : call ∈ loop.calls := calls ▸ List.mem_cons_of_mem _ mem
  have apart := inv.calls
  rw [calls, List.map_cons, List.nodup_cons] at apart
  have phase := inv.phase
  refine ⟨⟨inv.lawful, ?_, inv.count, ?_, inv.unborn, inv.queue.imp fun first h => ⟨h.posted, h.run, h.bound⟩, apart.2,
    fun call mem => inv.known call (fewer mem), inv.timers, inv.handler⟩, ?_⟩
  · generalize loopPhase trace = current at phase
    cases current with
    | stopped => exact ⟨phase.1, phase.2.1, fun run mem => phase.2.2.1 run (fewer mem), idle⟩
    | escaped => exact ⟨phase.1, fun run mem => phase.2.1 run (fewer mem), idle⟩
    | running run =>
      obtain ⟨-, -, -, others, looping, -⟩ := phase
      cases calls.symm.trans looping
    | stopping run =>
      obtain ⟨-, -, -, others, looping, -⟩ := phase
      cases calls.symm.trans looping
  · exact fun other state found => (inv.runs other state found).away id (fun _ mem _ => fewer mem) id id
  · intro call mem same
    exact apart.1 (List.mem_map.mpr ⟨call, mem, same⟩)

/-- A call of `Run` goes on to `on_stop`. -/
theorem Inv.pushed (inv : Inv loop trace) (result : CoreLoopErrorCode) (error : String) (off : loop.state = .stopped)
    (known : run < loop.runs.length) (gone : ∀ call ∈ loop.calls, call.run ≠ run)
    (left : (runProgress run trace).left = some (result, error)) (filled : result ≠ .none → error ≠ "")
    (told : (runProgress run trace).stopped = true) (fine : (runProgress run trace).stopFailure = none)
    (going : (runProgress run trace).returned = false) :
    Inv { loop with calls := .stopping run result error :: loop.calls } trace := by
  have phase := inv.phase
  rw [phase.off off] at phase
  obtain ⟨state, executor, waiting, idle⟩ := phase
  refine ⟨inv.lawful, ?_, inv.count, ?_, inv.unborn, inv.queue.imp fun first h => ⟨h.posted, h.run, h.bound⟩, ?_, ?_,
    inv.timers, inv.handler⟩
  · rw [inv.phase.off off]
    refine ⟨state, executor, fun other mem => ?_, idle⟩
    cases mem with
    | tail _ mem => exact waiting other mem
  · intro other state found
    have holds := inv.runs other state found
    by_cases same : run = other
    · subst same
      refine ⟨holds.told, holds.fresh, holds.ticks, fun mem => ?_, fun result' error' mem => ?_, holds.starting, holds.ticking⟩
      · cases mem with
        | tail _ mem => exact absurd mem (waiting run)
      · cases mem with
        | head => exact ⟨left, filled, told, fine, going⟩
        | tail _ mem => exact absurd rfl (gone _ mem)
    · refine holds.away id (fun call mem own => ?_) id id
      cases mem with
      | head => exact absurd own same
      | tail _ mem => exact mem
  · rw [List.map_cons, List.nodup_cons]
    refine ⟨fun mem => ?_, inv.calls⟩
    obtain ⟨call, listed, same⟩ := List.mem_map.mp mem
    exact gone call listed same
  · intro call mem
    cases mem with
    | head => exact known
    | tail _ mem => exact inv.known call mem

theorem Inv.escaped (inv : Inv loop trace) {rest : List RunCall} (calls : loop.calls = .loop run :: rest)
    (gone : after.view = { loop.view with calls := rest }) (inside : after.handler = none)
    (ticks : ∀ run, after.Ticks run → loop.Ticks run) : Inv after (trace ++ [.escaped run]) := by
  obtain ⟨state, executor, io, posted, runs, pending⟩ := View.mk.inj gone
  change after.calls = rest at pending
  obtain ⟨waiting, phase⟩ := inv.phase.inLoop calls
  have apart := inv.calls
  rw [calls, List.map_cons, List.nodup_cons] at apart
  have fewer {call : RunCall} (mem : call ∈ after.calls) : call ∈ loop.calls :=
    calls ▸ List.mem_cons_of_mem _ (pending ▸ mem)
  have same (other : Nat) : runProgress other (trace ++ [.escaped run]) = runProgress other trace := by
    by_cases own : run = other
    · rw [← own, runProgress_own rfl]
      rfl
    · exact runProgress_other (by simpa [LoopEvent.run] using own) (fun _ _ _ h => by cases h) trace
  obtain ⟨first, queued⟩ := inv.queue
  refine ⟨inv.lawful.snoc ?_, ?_, ?_, ?_, ?_, ⟨first, queued.same posted (by rw [runs]; rfl) fun other => by rw [same]⟩,
    pending ▸ apart.2, ?_, ?_, ?_⟩
  · exact phase.imp And.left And.left
  · rw [loopPhase_snoc]
    refine ⟨?_, pending ▸ waiting, inside⟩
    rw [state]
    rcases phase with ⟨-, -, running⟩ | ⟨-, -, stopping⟩
    · exact fun h => absurd (running.symm.trans h) (by decide)
    · exact fun h => absurd (stopping.symm.trans h) (by decide)
  · rw [runsCalled_snoc trace (fun _ _ h => by cases h), runs]
    exact inv.count
  · intro other state found
    rw [runs] at found
    rw [same]
    exact (inv.runs other state found).away (ticks other) (fun _ mem _ => fewer mem) (by simp [inside]) (by simp [inside])
  · intro other out
    rw [runs] at out
    rw [same]
    exact inv.unborn other out
  · intro call mem
    rw [runs]
    exact inv.known call (fewer mem)
  · intro other h
    rw [runs]
    exact inv.timers other (ticks other h)
  · intro other h
    simp [inside] at h

/-- The loop is left, with what follows from it for the run. -/
theorem Inv.leaves (inv : Inv loop trace) {rest : List RunCall} {result : CoreLoopErrorCode} {io : Bool} (error : String)
    (looping : loop.calls = .loop run :: rest) (stops : loop.state = .stopping ∨ result ≠ .none)
    (left : after.view = ⟨.stopped, .stopped, io, loop.executor.bootstraps, loop.runs, rest⟩)
    (inside : after.handler = none) (ticks : ∀ run, ¬after.Ticks run) :
    Inv after (trace ++ [.left run result error]) ∧ (∀ call ∈ after.calls, call.run ≠ run) ∧
      (runProgress run (trace ++ [.left run result error])).left = some (result, error) ∧
      (runProgress run (trace ++ [.left run result error])).stopped = false ∧
      (runProgress run (trace ++ [.left run result error])).stopFailure = none ∧
      (runProgress run (trace ++ [.left run result error])).returned = false := by
  obtain ⟨next, own⟩ := inv.left error looping stops left inside ticks
  obtain ⟨-, -, -, -, -, calls⟩ := View.mk.inj left
  have apart := inv.calls
  rw [looping, List.map_cons, List.nodup_cons] at apart
  have known := inv.known (.loop run) (by simp [looping])
  obtain ⟨-, first, fine, going⟩ := (inv.runs run _ (List.getElem?_eq_getElem known)).inLoop (by simp [looping])
  refine ⟨next, fun call mem same => apart.1 (List.mem_map.mpr ⟨call, calls ▸ mem, same⟩), ?_⟩
  rw [own]
  exact ⟨rfl, first, fine, going⟩

theorem Change.inv {events : List LoopEvent} (change : Change loop events after) (inv : Inv loop trace) :
    Inv after (trace ++ events) := by
  cases change with
  | quiet same inside ticks =>
    rw [List.append_nil]
    exact inv.quiet same (inside.imp id .inl) ticks
  | refused refuses => exact inv.aside rfl (fun _ => rfl) refuses
  | @handled _ current rest takes same inside ticks =>
    have noted : Inv loop (trace ++ [.handled]) := inv.aside rfl (fun _ => rfl) ⟨current, takes.phase inv⟩
    exact noted.quiet same (.inr (.inr ⟨⟨current, rest, takes.calls⟩, inside⟩)) ticks
  | called hooks off entered inside ticks => exact inv.called hooks off entered inside ticks
  | stopRequested on => exact inv.stopRequested on
  | bootstrapped takes first started inside ticks => exact inv.bootstrapped takes first started inside ticks
  | ticking now starting armed inside ticks => exact inv.ticking now starting armed inside ticks
  | startFailed last starting fails filled noted inside ticks => exact inv.startFailed starting fails filled noted inside ticks
  | ticked info takes live found fine number delta counted inside ticks =>
    exact inv.ticked takes live found fine number delta counted inside ticks
  | tickFailed ticking filled noted inside ticks => exact inv.tickFailed ticking filled noted inside ticks
  | @returned _ run _ state result error _ calls found stops filled silent left inside ticks =>
    obtain ⟨next, gone, now, -, fine, going⟩ := inv.leaves error calls stops left inside ticks
    obtain ⟨-, -, -, -, runs, -⟩ := View.mk.inj left
    rw [← List.singleton_append, ← List.append_assoc]
    exact next.returned (runs ▸ found) inside gone now filled going fine (fun _ h => by cases h)
      fun booted wanted => absurd ⟨booted, wanted⟩ silent
  | @stopping _ run rest state result error _ calls found stops filled told left inside ticks =>
    obtain ⟨atState, executor, io, posted, runs, pending⟩ := View.mk.inj left
    -- the loop is left first, then `on_stop` is called
    have mid : View.mk after.state after.executor.state after.executor.ioStopped after.executor.bootstraps after.runs rest =
        ⟨.stopped, .stopped, after.executor.ioStopped, loop.executor.bootstraps, loop.runs, rest⟩ := by
      rw [atState, executor, posted, runs]
    obtain ⟨next, gone, now, first, fine, going⟩ :=
      @Inv.leaves loop { after with calls := rest } trace run inv rest result _ error calls stops mid inside ticks
    have known : run < after.runs.length := runs ▸ (List.getElem?_eq_some_iff.mp found).1
    have facts := (next.runs run state (runs ▸ found)).told
    have noted := next.settled (.stopping run) rfl (fun _ _ _ h => by cases h) (fun _ _ h => by cases h)
      (fun _ => rfl) known inside gone ⟨⟨result, error, List.getLast?_concat⟩, facts.bootstrapped.trans told.1, first,
        by rw [facts.hooks]; exact congrArg some told.2⟩ ⟨true, _, _, rfl⟩
    have own : runProgress run (trace ++ [.left run result error] ++ [.stopping run]) =
        { runProgress run (trace ++ [.left run result error]) with stopped := true } := runProgress_own rfl _
    have whole := noted.pushed result error atState known gone (by rw [own]; exact now) filled
      (by rw [own]) (by rw [own]; exact fine) (by rw [own]; exact going)
    have same : { after with calls := .stopping run result error :: rest } = after := by rw [← pending]
    rw [← List.singleton_append, ← List.append_assoc]
    exact same ▸ whole
  | @stopped run rest state result error calls idle found =>
    obtain ⟨next, gone⟩ := inv.popped calls idle
    obtain ⟨now, filled, told, fine, going⟩ := (inv.runs run state found).inStop result error (by simp [calls])
    exact next.returned found idle gone now filled going fine (fun _ h => by cases h) fun _ _ => told
  | @stopFailed run rest state result error stopError calls idle found filled' =>
    obtain ⟨next, gone⟩ := inv.popped calls idle
    obtain ⟨now, filled, told, fine, going⟩ := (inv.runs run state found).inStop result error (by simp [calls])
    have noted := next.settled (.stopFailed run stopError) rfl (fun _ _ _ h => by cases h)
      (fun _ _ h => by cases h) (fun _ => rfl) (List.getElem?_eq_some_iff.mp found).1 idle gone ⟨told, going⟩
      ⟨_, some stopError, _, rfl⟩
    have own : runProgress run (trace ++ [.stopFailed run stopError]) =
        { runProgress run trace with stopFailure := some stopError } := runProgress_own rfl trace
    rw [← List.singleton_append, ← List.append_assoc]
    refine noted.returned found idle gone (by rw [own]; exact now) filled (by rw [own]; exact going) (by rw [own])
      (fun _ h => ?_) fun _ _ => by rw [own]; exact told
    cases h
    exact filled'
  | escaped calls gone inside ticks => exact inv.escaped calls gone inside ticks

end MainEventLoop
end XServer.Core
