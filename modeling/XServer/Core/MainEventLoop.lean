import XServer.Core.Timer

/-!
# The main event loop

`core/MainEventLoop.cpp` over `core/CoreLoopExecutor.cpp`. `Run` posts its `Bootstrap` and
runs the io context until a stop is requested; what is still posted then, a `Bootstrap`
among it, waits for the next `Run`. A callback of the program runs from one step to
another, and the calls it makes are steps in between: `on_stop`, which is called when the
loop counts as stopped, may call `Run` again. The timers are those of `Core/Timer.lean`.
-/

namespace XServer.Core
open XServer.Lib

def TimerErrorCode.message : TimerErrorCode → String
  | .invalidTimerID => "Timer ID must be greater than zero."
  | .timerNotFound => "Timer ID was not found."
  | .callbackEmpty => "Timer callback must not be empty."
  | .intervalMustBePositive => "Repeating timer interval must be greater than zero."
  | .timerIdExhausted => "Timer ID space is exhausted."
  | .unknown => "Unknown timer error."

/-! ## The executor -/

inductive CoreLoopErrorCode where
  | none
  | emptyThreadName
  | alreadyRunning
  | threadNameConversionFailed
  | threadNameSetFailed
  | runFailed
  | invalidState
  deriving DecidableEq, Repr

def CoreLoopErrorCode.message : CoreLoopErrorCode → String
  | .none => "No error."
  | .emptyThreadName => "Thread name must not be empty."
  | .alreadyRunning => "Core loop executor is already running."
  | .threadNameConversionFailed => "Failed to convert thread name to UTF-16."
  | .threadNameSetFailed => "Failed to set current thread name."
  | .runFailed => "Failed to run core loop executor."
  | .invalidState => "Core loop executor is in an invalid state."

/-- What the system may refuse a thread name for. -/
inductive ThreadNameFailure where
  | conversion
  | set
  deriving DecidableEq, Repr

def ThreadNameFailure.code : ThreadNameFailure → CoreLoopErrorCode
  | .conversion => .threadNameConversionFailed
  | .set => .threadNameSetFailed

/-- The state of the executor, and of the loop over it. -/
inductive EventLoopState where
  | stopped
  | running
  | stopping
  deriving DecidableEq, Repr

/-- A handler posted to the io context: the `Bootstrap` of a `Run`, a `RequestStop` that another thread asks for,
or a handler of the program. -/
inductive PostedHandler where
  | bootstrap (run : Nat)
  | requestStop
  | program
  deriving DecidableEq, Repr

def PostedHandler.run : PostedHandler → Option Nat
  | .bootstrap run => some run
  | _ => none

/-- The executor with its io context. -/
structure CoreLoopExecutor where
  threadName : String
  state : EventLoopState := .stopped
  workGuard : Bool := false
  ioStopped : Bool := false
  handlers : List PostedHandler := []
  deriving DecidableEq, Repr

namespace CoreLoopExecutor

/-- The bootstraps that are posted. -/
def bootstraps (executor : CoreLoopExecutor) : List Nat := executor.handlers.filterMap PostedHandler.run

def post (executor : CoreLoopExecutor) (handler : PostedHandler) : CoreLoopExecutor :=
  { executor with handlers := executor.handlers ++ [handler] }

/-- `Start` as far as the io context runs, or its error. `unnamed` is what `SetCurrentThreadName` fails with. -/
def start (executor : CoreLoopExecutor) (unnamed : Option ThreadNameFailure) :
    CoreLoopExecutor × Option (CoreLoopErrorCode × String) :=
  if executor.state ≠ .stopped then (executor, some (.alreadyRunning, "Core loop executor is already running."))
  else if executor.threadName = "" then
    (executor, some (.emptyThreadName, "Core loop executor thread name must not be empty."))
  else
    match unnamed with
    | some failure =>
      ({ executor with workGuard := false, ioStopped := true, state := .stopped }, some (failure.code, failure.code.message))
    | none => ({ executor with workGuard := true, ioStopped := false, state := .running }, none)

/-- `Start` after the io context returned. -/
def finish (executor : CoreLoopExecutor) : CoreLoopExecutor := { executor with workGuard := false, state := .stopped }

/-- `Start` after a handler threw. -/
def fail (executor : CoreLoopExecutor) : CoreLoopExecutor :=
  { executor with workGuard := false, ioStopped := true, state := .stopped }

def stop (executor : CoreLoopExecutor) : CoreLoopExecutor :=
  if executor.state = .stopped then executor
  else { executor with state := .stopping, workGuard := false, ioStopped := true }

end CoreLoopExecutor

/-! ## The loop -/

inductive MainEventLoopErrorCode where
  | none
  | emptyThreadName
  | negativeTickInterval
  | tickCallbackRequiresPositiveInterval
  | tickIntervalRequiresCallback
  | alreadyRunning
  | executorStartFailed
  | startupCallbackFailed
  | tickTimerCreateFailed
  | tickCallbackThrew
  | stopCallbackThrew
  | invalidState
  deriving DecidableEq, Repr

def MainEventLoopErrorCode.message : MainEventLoopErrorCode → String
  | .none => "No error."
  | .emptyThreadName => "Main event loop thread name must not be empty."
  | .negativeTickInterval => "Main event loop tick interval must not be negative."
  | .tickCallbackRequiresPositiveInterval => "Main event loop tick callback requires a positive tick interval."
  | .tickIntervalRequiresCallback => "Main event loop tick interval requires an on_tick callback."
  | .alreadyRunning => "Main event loop is already running."
  | .executorStartFailed => "Failed to start the main event loop executor."
  | .startupCallbackFailed => "Main event loop startup callback failed."
  | .tickTimerCreateFailed => "Failed to create the main event loop tick timer."
  | .tickCallbackThrew => "Main event loop tick callback threw an exception."
  | .stopCallbackThrew => "Main event loop stop callback threw an exception."
  | .invalidState => "Main event loop is in an invalid state."

/-- A text, or what stands for it when it is empty. -/
def orMessage (text message : String) : String := if text = "" then message else text

/-- What a callback of this name is said to have thrown; `none` is an exception that says nothing. -/
def threwMessage (callback : String) : Option String → String
  | some what => "Main event loop " ++ callback ++ " callback threw: " ++ what
  | none => "Main event loop " ++ callback ++ " callback threw an unknown exception."

structure MainEventLoopOptions where
  threadName : String := "xs-main-loop"
  tickInterval : Int := 0
  deriving DecidableEq, Repr

/-- Which callbacks are set. -/
structure MainEventLoopHooks where
  onStart : Bool := false
  onTick : Bool := false
  onStop : Bool := false
  deriving DecidableEq, Repr

structure MainEventLoopTickInfo where
  now : Int
  delta : Int
  tickCount : UInt64
  deriving DecidableEq, Repr

structure RunState where
  hooks : MainEventLoopHooks
  startupError : String := ""
  runtimeError : String := ""
  bootstrapStarted : Bool := false
  startupResult : MainEventLoopErrorCode := .none
  runtimeResult : MainEventLoopErrorCode := .none
  lastTickTime : Option Int := none
  tickCount : UInt64 := 0
  deriving DecidableEq, Repr

def RunState.ofHooks (hooks : MainEventLoopHooks) : RunState := { hooks }

/-- The callback of a timer: the ticks of a `Run`, or one of the program. -/
inductive LoopCallback where
  | tick (run : Nat)
  | program
  deriving DecidableEq, Repr

/-- Where a call of `Run` is: in the io context, or in `on_stop` with what the executor came to. -/
inductive RunCall where
  | loop (run : Nat)
  | stopping (run : Nat) (executorResult : CoreLoopErrorCode) (executorError : String)
  deriving DecidableEq, Repr

def RunCall.run : RunCall → Nat
  | .loop run | .stopping run _ _ => run

/-- The handler that the io context runs. -/
inductive RunningHandler where
  | starting (run : Nat)
  | ticking (run : Nat)
  | posted
  | timer
  deriving DecidableEq, Repr

/-- The loop with the calls of `Run` that have not returned, the latest first. The `RunState` of the n-th `Run` is
at n: its handlers keep it beyond the call. -/
structure MainEventLoop where
  options : MainEventLoopOptions
  executor : CoreLoopExecutor
  timers : TimerManager LoopCallback := {}
  state : EventLoopState := .stopped
  runs : List RunState := []
  calls : List RunCall := []
  handler : Option RunningHandler := none

/-- What the program sees of the loop: `handled` is the start of a handler or timer callback of its own. -/
inductive LoopEvent where
  | called (run : Nat) (hooks : MainEventLoopHooks)
  | refused (code : MainEventLoopErrorCode)
  | bootstrapped (run : Nat)
  | startFailed (run : Nat) (code : MainEventLoopErrorCode) (error : String)
  | ticking (run : Nat) (now : Int)
  | ticked (run : Nat) (info : MainEventLoopTickInfo)
  | tickFailed (run : Nat) (error : String)
  | handled
  | stopRequested
  | left (run : Nat) (executorResult : CoreLoopErrorCode) (executorError : String)
  | stopping (run : Nat)
  | stopFailed (run : Nat) (error : String)
  | returned (run : Nat) (code : MainEventLoopErrorCode) (error : String)
  | escaped (run : Nat)
  deriving DecidableEq, Repr

/-- The callback that a timer is to have. -/
def TimerInput.callback {C : Type} : TimerInput C → Option C
  | .createOnce _ callback | .createRepeating _ callback => callback
  | .resetOnce _ _ callback | .resetRepeating _ _ callback => callback
  | .cancel _ | .cancelAll | .complete .. | .callbackReturned => none

/-- A call that the program makes of its timers, with a callback of its own. -/
def TimerInput.ofProgram : TimerInput LoopCallback → Bool
  | .complete .. | .callbackReturned => false
  | call => call.callback.all (· == .program)

/-- A call of the program, a post of any thread, a step of the io context, or the end of the callback that runs. -/
inductive LoopInput where
  | run (hooks : MainEventLoopHooks) (unnamed : Option ThreadNameFailure)
  | requestStop
  | timers (call : TimerInput LoopCallback) (ofProgram : call.ofProgram = true)
  | postStop
  | post
  | runPosted (now : Int)
  | timerFires (index : Nat) (error : WaitError) (now : Int)
  | ioReturns
  | returns (now : Int)
  | startRefused (code : MainEventLoopErrorCode) (error : String) (refuses : code ≠ .none)
  | throws (what : Option String)

namespace MainEventLoop

abbrev Outcome := MainEventLoop × List LoopEvent

def create (options : MainEventLoopOptions) : MainEventLoop where
  options
  executor := { threadName := options.threadName }

def validateOptionsAndHooks (loop : MainEventLoop) (hooks : MainEventLoopHooks) : MainEventLoopErrorCode :=
  if loop.options.threadName = "" then .emptyThreadName
  else if loop.options.tickInterval < 0 then .negativeTickInterval
  else if hooks.onTick = true ∧ loop.options.tickInterval ≤ 0 then .tickCallbackRequiresPositiveInterval
  else if hooks.onTick = false ∧ 0 < loop.options.tickInterval then .tickIntervalRequiresCallback
  else .none

def requestStop (loop : MainEventLoop) : Outcome :=
  if loop.state = .stopped then (loop, [])
  else ({ loop with state := .stopping, executor := loop.executor.stop }, [.stopRequested])

def updateRun (loop : MainEventLoop) (run : Nat) (change : RunState → RunState) : MainEventLoop :=
  { loop with runs := loop.runs.modify run change }

/-! ### The end of a run -/

/-- What `Run` returns. -/
def runResult (state : RunState) (executorResult : CoreLoopErrorCode) (executorError : String)
    (stopError : Option String) : MainEventLoopErrorCode × String :=
  if executorResult ≠ .none then
    (.executorStartFailed,
      orMessage executorError ("Failed to start main event loop executor: " ++ executorResult.message))
  else if state.startupResult ≠ .none then
    (state.startupResult, orMessage state.startupError state.startupResult.message)
  else if state.runtimeResult ≠ .none then
    (state.runtimeResult, orMessage state.runtimeError state.runtimeResult.message)
  else
    match stopError with
    | some error => (.stopCallbackThrew, orMessage error MainEventLoopErrorCode.stopCallbackThrew.message)
    | none => (.none, "")

def returnedEvent (state : RunState) (run : Nat) (executorResult : CoreLoopErrorCode) (executorError : String)
    (stopError : Option String) : LoopEvent :=
  .returned run (runResult state executorResult executorError stopError).1
    (runResult state executorResult executorError stopError).2

/-- `Run` after the executor returned, up to `on_stop`. -/
def leave (loop : MainEventLoop) (run : Nat) (rest : List RunCall) (executorResult : CoreLoopErrorCode)
    (executorError : String) : Outcome :=
  match loop.runs[run]? with
  | none => (loop, [])
  | some state =>
    let left := { loop with timers := (loop.timers.step .cancelAll).1, state := .stopped, calls := rest, handler := none }
    if state.bootstrapStarted = true ∧ state.hooks.onStop = true then
      ({ left with calls := .stopping run executorResult executorError :: rest },
        [.left run executorResult executorError, .stopping run])
    else
      (left, [.left run executorResult executorError, returnedEvent state run executorResult executorError none])

/-- `Run` from the end of `on_stop` on. -/
def finishStop (loop : MainEventLoop) (run : Nat) (rest : List RunCall) (executorResult : CoreLoopErrorCode)
    (executorError : String) (stopError : Option String) : Outcome :=
  match loop.runs[run]? with
  | none => (loop, [])
  | some state =>
    ({ loop with calls := rest },
      (match stopError with | some error => [.stopFailed run error] | none => []) ++
        [returnedEvent state run executorResult executorError stopError])

def run (loop : MainEventLoop) (hooks : MainEventLoopHooks) (unnamed : Option ThreadNameFailure) : Outcome :=
  if loop.validateOptionsAndHooks hooks ≠ .none then (loop, [.refused (loop.validateOptionsAndHooks hooks)])
  else if loop.state ≠ .stopped then (loop, [.refused .alreadyRunning])
  else
    let run := loop.runs.length
    let started := (loop.executor.post (.bootstrap run)).start unnamed
    let entered :=
      { loop with state := .running, runs := loop.runs ++ [RunState.ofHooks hooks], executor := started.1, calls := .loop run :: loop.calls }
    match started.2 with
    | none => (entered, [.called run hooks])
    | some failure =>
      let result := entered.leave run loop.calls failure.1 failure.2
      (result.1, .called run hooks :: result.2)

/-! ### Handlers -/

/-- `Bootstrap` after `on_start`. -/
def afterStart (loop : MainEventLoop) (run : Nat) (now : Int) : Outcome :=
  match loop.runs[run]? with
  | none => (loop, [])
  | some state =>
    if state.hooks.onTick = false then ({ loop with handler := none }, [])
    else
      let created := loop.timers.step (.createRepeating loop.options.tickInterval (some (.tick run)))
      let armed := { loop.updateRun run fun state => { state with lastTickTime := some now } with
        timers := created.1, handler := none }
      match created.2 with
      | [.refused code] =>
        let error := "Failed to create main event loop tick timer: " ++ code.message
        let stopped := (armed.updateRun run fun state =>
          { state with startupResult := .tickTimerCreateFailed, startupError := error }).requestStop
        (stopped.1, .startFailed run .tickTimerCreateFailed error :: stopped.2)
      | _ => (armed, [.ticking run now])

/-- `Bootstrap` when `on_start` returned an error or threw. -/
def startFailed (loop : MainEventLoop) (run : Nat) (code : MainEventLoopErrorCode) (error : String) : Outcome :=
  let stopped := ({ loop with handler := none }.updateRun run fun state =>
    { state with startupResult := code, startupError := error }).requestStop
  (stopped.1, .startFailed run code error :: stopped.2)

/-- `Bootstrap`, as far as `on_start`. -/
def bootstrap (loop : MainEventLoop) (run : Nat) (now : Int) : Outcome :=
  match loop.runs[run]? with
  | none => (loop, [])
  | some state =>
    let started := { loop.updateRun run fun state => { state with bootstrapStarted := true } with
      handler := some (.starting run) }
    if state.hooks.onStart = true then (started, [.bootstrapped run])
    else
      let result := started.afterStart run now
      (result.1, .bootstrapped run :: result.2)

/-- The end of a timer's callback. -/
def callbackReturned (loop : MainEventLoop) : MainEventLoop :=
  { loop with timers := (loop.timers.step .callbackReturned).1, handler := none }

/-- `HandleTick`, as far as `on_tick`. -/
def handleTick (loop : MainEventLoop) (run : Nat) (now : Int) : Outcome :=
  match loop.runs[run]? with
  | none => (loop, [])
  | some state =>
    if state.runtimeResult ≠ .none ∨ state.hooks.onTick = false then (loop.callbackReturned, [])
    else
      let info : MainEventLoopTickInfo :=
        { now
          delta := match state.lastTickTime with
            | some last => now - last
            | none => loop.options.tickInterval
          tickCount := state.tickCount + 1 }
      ({ loop.updateRun run fun state => { state with tickCount := info.tickCount, lastTickTime := some now } with
          handler := some (.ticking run) },
        [.ticked run info])

/-- `HandleTick` when `on_tick` threw. -/
def tickFailed (loop : MainEventLoop) (run : Nat) (error : String) : Outcome :=
  let stopped := (loop.callbackReturned.updateRun run fun state =>
    { state with runtimeResult := .tickCallbackThrew, runtimeError := error }).requestStop
  (stopped.1, .tickFailed run error :: stopped.2)

/-- The io context runs the handler that was posted first. -/
def runPosted (loop : MainEventLoop) (now : Int) : Outcome :=
  match loop.executor.handlers with
  | [] => (loop, [])
  | handler :: handlers =>
    let taken := { loop with executor := { loop.executor with handlers } }
    match handler with
    | .bootstrap run => taken.bootstrap run now
    | .requestStop => taken.requestStop
    | .program => ({ taken with handler := some .posted }, [.handled])

/-- A wait of a timer completes. -/
def timerFires (loop : MainEventLoop) (index : Nat) (error : WaitError) (now : Int) : Outcome :=
  let fired := loop.timers.step (.complete index error)
  let after := { loop with timers := fired.1 }
  match fired.2 with
  | [.started _ (.tick run)] => after.handleTick run now
  | [.started _ .program] => ({ after with handler := some .timer }, [.handled])
  | _ => (after, [])

/-- A handler of the program ends with an exception, which ends the `Start` below it. Only what derives from
`std::exception` is caught there; anything else leaves `Run` as well. -/
def handlerThrows (loop : MainEventLoop) (run : Nat) (rest : List RunCall) : Option String → Outcome
  | some what =>
    let thrown := { loop with executor := loop.executor.fail, timers := { loop.timers with running := none } }
    thrown.leave run rest .runFailed ("Failed to run core loop executor: " ++ what)
  | none =>
    ({ loop with timers := { loop.timers with running := none }, calls := rest, handler := none }, [.escaped run])

/-! ### Steps -/

/-- Whether the program runs: outside of `Run`, in `on_stop` or in a handler. -/
def atProgram (loop : MainEventLoop) : Bool :=
  match loop.calls, loop.handler with
  | .loop _ :: _, none => false
  | _, _ => true

/-- The run whose io context is between two handlers. -/
def betweenHandlers (loop : MainEventLoop) : Option (Nat × List RunCall) :=
  match loop.calls, loop.handler with
  | .loop run :: rest, none => some (run, rest)
  | _, _ => none

/-- The callback that runs returns. -/
def callbackReturns (loop : MainEventLoop) (now : Int) : Outcome :=
  match loop.handler, loop.calls with
  | some (.starting run), _ => loop.afterStart run now
  | some (.ticking _), _ | some .timer, _ => (loop.callbackReturned, [])
  | some .posted, _ => ({ loop with handler := none }, [])
  | none, .stopping run executorResult executorError :: rest => loop.finishStop run rest executorResult executorError none
  | none, _ => (loop, [])

/-- The callback that runs throws. -/
def callbackThrows (loop : MainEventLoop) (what : Option String) : Outcome :=
  match loop.handler, loop.calls with
  | some (.starting run), _ => loop.startFailed run .startupCallbackFailed (threwMessage "startup" what)
  | some (.ticking run), _ => loop.tickFailed run (threwMessage "tick" what)
  | some .posted, .loop run :: rest | some .timer, .loop run :: rest => loop.handlerThrows run rest what
  | some .posted, _ | some .timer, _ => (loop, [])
  | none, .stopping run executorResult executorError :: rest =>
    loop.finishStop run rest executorResult executorError (some (threwMessage "stop" what))
  | none, _ => (loop, [])

def step (loop : MainEventLoop) : LoopInput → Outcome
  | .run hooks unnamed => if loop.atProgram = true then loop.run hooks unnamed else (loop, [])
  | .requestStop => if loop.atProgram = true then loop.requestStop else (loop, [])
  | .timers call _ => if loop.atProgram = true then ({ loop with timers := (loop.timers.step call).1 }, []) else (loop, [])
  | .postStop => ({ loop with executor := loop.executor.post .requestStop }, [])
  | .post => ({ loop with executor := loop.executor.post .program }, [])
  | .runPosted now =>
    if loop.betweenHandlers.isSome = true ∧ loop.executor.ioStopped = false then loop.runPosted now else (loop, [])
  | .timerFires index error now =>
    if loop.betweenHandlers.isSome = true ∧ loop.executor.ioStopped = false then loop.timerFires index error now
    else (loop, [])
  | .ioReturns =>
    match loop.betweenHandlers, loop.executor.ioStopped with
    | some (run, rest), true => { loop with executor := loop.executor.finish }.leave run rest .none ""
    | _, _ => (loop, [])
  | .returns now => loop.callbackReturns now
  | .startRefused code error _ =>
    match loop.handler with
    | some (.starting run) => loop.startFailed run code (orMessage error code.message)
    | _ => (loop, [])
  | .throws what => loop.callbackThrows what

def machine : Machine MainEventLoop LoopInput LoopEvent := ⟨step⟩

end MainEventLoop
end XServer.Core
