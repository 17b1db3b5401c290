import XServer.Core.LoopLaws

/-!
# Runs of the main event loop

Every step of the loop is made of the changes that keep its laws.
-/

namespace XServer.Core
open XServer.Lib

namespace MainEventLoop
variable {loop after : MainEventLoop} {trace : List LoopEvent} {run : Nat} {state : RunState}

/-- A step of the timers makes none tick for a run, unless it is asked to. -/
theorem ticks_step {input : TimerInput LoopCallback} (timers : after.timers = (loop.timers.step input).1)
    (ticks : after.Ticks run) : loop.Ticks run ∨ input.callback = some (.tick run) := by
  obtain ⟨timerId, timer, found, callback⟩ := ticks
  rw [timers] at found
  rcases TimerManager.step_callback found with ⟨before, listed, same⟩ | called
  · exact .inl ⟨timerId, before, listed, same.trans callback⟩
  · exact .inr (called.symm.trans callback)

/-- A refused tick timer leaves the timers as they are. -/
theorem createRepeating_refused {interval : Int} {code : TimerErrorCode} {manager : TimerManager LoopCallback}
    {callback : LoopCallback} (refused : (manager.step (.createRepeating interval (some callback))).2 = [.refused code]) :
    (manager.step (.createRepeating interval (some callback))).1 = manager := by
  unfold TimerManager.step at refused ⊢
  simp only at refused ⊢
  split at refused
  · rename_i low
    rw [if_pos low]
  · rename_i high
    rw [if_neg high]
    rcases manager.createTimer_outcome interval interval true (some callback) with ⟨c, same⟩ | ⟨called, -, -, made⟩
    · rw [same]
    · rw [made] at refused
      cases refused

theorem ofProgram_callback {call : TimerInput LoopCallback} (ofProgram : call.ofProgram = true) :
    call.callback ≠ some (.tick run) := by
  intro ticks
  cases call with
  | createOnce | createRepeating | resetOnce | resetRepeating =>
    simp only [TimerInput.callback] at ticks
    simp [TimerInput.ofProgram, TimerInput.callback, ticks] at ofProgram
  | cancel | cancelAll | complete | callbackReturned => cases ticks

theorem requestStop_steps (loop : MainEventLoop) : Steps Change loop loop.requestStop.2 loop.requestStop.1 := by
  rw [requestStop]
  split
  · exact .nil loop
  · rename_i on
    exact .single (.stopRequested on)

theorem callbackReturned_ticks (ticks : loop.callbackReturned.Ticks run) : loop.Ticks run :=
  (@ticks_step loop loop.callbackReturned run .callbackReturned rfl ticks).resolve_right (fun h => by cases h)

/-- `before` is the loop while the call was in the io context. -/
theorem leave_steps {rest : List RunCall} {result : CoreLoopErrorCode} {error : String} {before : MainEventLoop}
    (looping : before.calls = .loop run :: rest) (runs : before.runs = loop.runs)
    (posted : before.executor.bootstraps = loop.executor.bootstraps) (off : loop.executor.state = .stopped)
    (stops : before.state = .stopping ∨ result ≠ .none) (filled : result ≠ .none → error ≠ "")
    (found : before.runs[run]? = some state) :
    Steps Change before (loop.leave run rest result error).2 (loop.leave run rest result error).1 := by
  have noTicks (after : MainEventLoop) (cleared : after.timers = (loop.timers.step .cancelAll).1) (run : Nat) :
      ¬after.Ticks run := by
    rintro ⟨timerId, timer, found, -⟩
    rw [cleared] at found
    simp [TimerManager.step, TimerManager.cancelAll] at found
  have here : loop.runs[run]? = some state := runs ▸ found
  unfold leave
  simp only [here]
  split
  · rename_i told
    have view : View.mk .stopped loop.executor.state loop.executor.ioStopped loop.executor.bootstraps loop.runs
        (.stopping run result error :: rest) = ⟨.stopped, .stopped, loop.executor.ioStopped, before.executor.bootstraps,
          before.runs, .stopping run result error :: rest⟩ := by rw [off, runs, posted]
    exact .single (.stopping looping found stops filled told view rfl (noTicks _ rfl))
  · rename_i silent
    have view : View.mk .stopped loop.executor.state loop.executor.ioStopped loop.executor.bootstraps loop.runs rest =
        ⟨.stopped, .stopped, loop.executor.ioStopped, before.executor.bootstraps, before.runs, rest⟩ := by
      rw [off, runs, posted]
    exact .single (.returned looping found stops filled silent view rfl (noTicks _ rfl))

theorem finishStop_steps {rest : List RunCall} {result : CoreLoopErrorCode} {error : String}
    {stopError : Option String} (calls : loop.calls = .stopping run result error :: rest) (idle : loop.handler = none)
    (filled : ∀ error, stopError = some error → error ≠ "") :
    Steps Change loop (loop.finishStop run rest result error stopError).2
      (loop.finishStop run rest result error stopError).1 := by
  unfold finishStop
  split
  · exact .nil loop
  · rename_i state found
    cases stopError with
    | none => exact .single (.stopped calls idle found)
    | some stopError => exact .single (.stopFailed calls idle found (filled stopError rfl))

theorem start_entered {executor : CoreLoopExecutor} {unnamed : Option ThreadNameFailure} (off : executor.state = .stopped)
    (entered : (executor.start unnamed).2 = none) :
    (executor.start unnamed).1 = { executor with workGuard := true, ioStopped := false, state := .running } := by
  unfold CoreLoopExecutor.start at entered ⊢
  rw [if_neg (not_not_intro off)] at entered ⊢
  split at entered
  · cases entered
  · rename_i named
    rw [if_neg named]
    cases unnamed with
    | none => rfl
    | some failure => cases entered

theorem start_failed {executor : CoreLoopExecutor} {unnamed : Option ThreadNameFailure} (off : executor.state = .stopped)
    {failure : CoreLoopErrorCode × String} (failed : (executor.start unnamed).2 = some failure) :
    failure.1 ≠ .none ∧ failure.2 ≠ "" ∧ (executor.start unnamed).1.state = .stopped ∧
      (executor.start unnamed).1.bootstraps = executor.bootstraps := by
  unfold CoreLoopExecutor.start at failed ⊢
  rw [if_neg (not_not_intro off)] at failed ⊢
  split at failed
  · rename_i unnamed
    cases failed
    rw [if_pos unnamed]
    exact ⟨by decide, by decide, off, rfl⟩
  · rename_i named
    rw [if_neg named]
    cases unnamed with
    | none => cases failed
    | some failure =>
      cases failed
      cases failure with
      | conversion => exact ⟨by decide, by decide, rfl, rfl⟩
      | set => exact ⟨by decide, by decide, rfl, rfl⟩

theorem run_steps (hooks : MainEventLoopHooks) (unnamed : Option ThreadNameFailure)
    (synced : loop.state = .stopped → loop.executor.state = .stopped) :
    Steps Change loop (loop.run hooks unnamed).2 (loop.run hooks unnamed).1 := by
  rw [run]
  split
  · rename_i invalid
    exact .single (.refused invalid)
  · split
    · exact .single (.refused (by decide))
    · rename_i off
      rw [not_not] at off
      have posted : (loop.executor.post (.bootstrap loop.runs.length)).bootstraps =
          loop.executor.bootstraps ++ [loop.runs.length] := by
        simp [CoreLoopExecutor.post, CoreLoopExecutor.bootstraps, PostedHandler.run]
      have stopped : (loop.executor.post (.bootstrap loop.runs.length)).state = .stopped := synced off
      simp only
      split
      · rename_i entered
        have view := start_entered stopped entered
        refine .single (.called hooks off ?_ rfl fun _ => id)
        rw [view]
        exact congrArg (View.mk .running .running false · _ _) posted
      · rename_i failure failed
        obtain ⟨fails, filled, unmoved, kept⟩ := start_failed stopped failed
        -- as if the io context had been entered, and left at once
        have called : Change loop [.called loop.runs.length hooks]
            { loop with
              state := .running, runs := loop.runs ++ [.ofHooks hooks], calls := .loop loop.runs.length :: loop.calls
              executor := { loop.executor.post (.bootstrap loop.runs.length) with state := .running, ioStopped := false } } :=
          .called hooks off (congrArg (View.mk .running .running false · _ _) posted) rfl fun _ => id
        exact .cons called (leave_steps rfl rfl kept.symm unmoved (.inr fails) (fun _ => filled)
          (List.getElem?_concat_length ..))

/-- The callback of `on_start` is over. -/
theorem startFailed_steps {code : MainEventLoopErrorCode} {error : String}
    (starting : loop.handler = some (.starting run)) (fails : code ≠ .none) (filled : error ≠ "") :
    Steps Change loop (loop.startFailed run code error).2 (loop.startFailed run code error).1 := by
  have noted : Change loop [.startFailed run code error] ({ loop with handler := none }.updateRun run fun state =>
      { state with startupResult := code, startupError := error }) :=
    .startFailed id starting fails filled rfl rfl fun _ => id
  exact .cons noted (requestStop_steps _)

theorem afterStart_steps (now : Int) (starting : loop.handler = some (.starting run)) :
    Steps Change loop (loop.afterStart run now).2 (loop.afterStart run now).1 := by
  unfold afterStart
  split
  · exact .nil loop
  · rename_i state found
    split
    · exact .single (.quiet rfl (.inl rfl) fun _ => id)
    · have ticks (after : MainEventLoop) (timers : after.timers =
          (loop.timers.step (.createRepeating loop.options.tickInterval (some (.tick run)))).1) (other : Nat)
          (h : after.Ticks other) : loop.Ticks other ∨ other = run := by
        refine (ticks_step timers h).imp id fun called => ?_
        cases called
        rfl
      simp only
      split
      · rename_i code refused
        have same := createRepeating_refused refused
        have noted : Change loop
            [.startFailed run .tickTimerCreateFailed ("Failed to create main event loop tick timer: " ++ code.message)]
            ({ loop.updateRun run fun state => { state with lastTickTime := some now } with handler := none }.updateRun run
              fun state => { state with
                startupResult := .tickTimerCreateFailed
                startupError := "Failed to create main event loop tick timer: " ++ code.message }) :=
          .startFailed (fun _ => some now) starting (by decide) (by simp)
            (congrArg (View.mk _ _ _ _ · _) (List.modify_modify_eq ..)) rfl fun _ => id
        rw [same]
        exact .cons noted (requestStop_steps _)
      · exact .single (.ticking now starting rfl rfl (ticks _ rfl))

/-- `before` is the loop before the handler was taken. -/
theorem bootstrap_steps {current : Nat} {rest : List RunCall} {bootstraps : List Nat} {before : MainEventLoop} (now : Int)
    (takes : before.Takes current rest) (first : before.executor.bootstraps = run :: bootstraps)
    (view : loop.view = { before.view with bootstraps }) (ticks : ∀ run, loop.Ticks run → before.Ticks run)
    (known : run < loop.runs.length) :
    Steps Change before (loop.bootstrap run now).2 (loop.bootstrap run now).1 := by
  obtain ⟨state, executor, io, posted, runs, calls⟩ := View.mk.inj view
  have started : Change before [.bootstrapped run]
      { loop.updateRun run fun state => { state with bootstrapStarted := true } with handler := some (.starting run) } := by
    refine .bootstrapped takes first ?_ rfl ticks
    change View.mk loop.state loop.executor.state loop.executor.ioStopped loop.executor.bootstraps
      (loop.runs.modify run _) loop.calls = _
    rw [state, executor, io, posted, runs, calls]
    rfl
  unfold bootstrap
  rw [List.getElem?_eq_getElem known]
  simp only
  split
  · exact .single started
  · exact .cons started (afterStart_steps now rfl)

theorem tickFailed_steps {error : String} (ticking : loop.handler = some (.ticking run)) (filled : error ≠ "") :
    Steps Change loop (loop.tickFailed run error).2 (loop.tickFailed run error).1 := by
  have noted : Change loop [.tickFailed run error] (loop.callbackReturned.updateRun run fun state =>
      { state with runtimeResult := .tickCallbackThrew, runtimeError := error }) :=
    .tickFailed ticking filled rfl rfl fun _ => callbackReturned_ticks
  exact .cons noted (requestStop_steps _)

theorem handleTick_steps {current : Nat} {rest : List RunCall} {before : MainEventLoop} (now : Int)
    (takes : before.Takes current rest) (live : before.Ticks run) (view : loop.view = before.view)
    (idle : loop.handler = before.handler) (ticks : ∀ run, loop.Ticks run → before.Ticks run) :
    Steps Change before (loop.handleTick run now).2 (loop.handleTick run now).1 := by
  have runs := (View.mk.inj view).2.2.2.2.1
  unfold handleTick
  split
  · rename_i out
    exact .single (.quiet view (.inr idle) ticks)
  · rename_i state found
    split
    · exact .single (.quiet view (.inl rfl) fun run h => ticks run (callbackReturned_ticks h))
    · rename_i fine
      rw [not_or, not_not] at fine
      refine .single (.ticked _ takes live (runs ▸ found) fine.1 rfl ?_ ?_ rfl ticks)
      · intro last known
        simp only [known]
      · change View.mk loop.state loop.executor.state loop.executor.ioStopped loop.executor.bootstraps
          (loop.runs.modify run _) loop.calls = _
        obtain ⟨state', executor, io, posted, -, calls⟩ := View.mk.inj view
        rw [state', executor, io, posted, runs, calls]
        rfl

theorem betweenHandlers_some {current : Nat} {rest : List RunCall} :
    loop.betweenHandlers = some (current, rest) ↔ loop.calls = .loop current :: rest ∧ loop.handler = none := by
  unfold betweenHandlers
  split
  · rename_i run others looping idle
    simp [looping, idle]
  · rename_i other
    refine ⟨fun h => (by cases h), fun h => ?_⟩
    exact absurd h.2 (other _ _ h.1)

/-- Handlers that are no bootstrap come and go unnoticed. -/
theorem taken_view {handler : PostedHandler} {handlers : List PostedHandler}
    (posted : loop.executor.handlers = handler :: handlers) (plain : handler.run = none) :
    view { loop with executor := { loop.executor with handlers } } = loop.view := by
  have same : loop.executor.bootstraps = handlers.filterMap PostedHandler.run := by
    rw [CoreLoopExecutor.bootstraps, posted, List.filterMap_cons_none plain]
  rw [view, view, same]
  rfl

theorem posted_view {handler : PostedHandler} (plain : handler.run = none) :
    view { loop with executor := loop.executor.post handler } = loop.view := by
  have same : (loop.executor.post handler).bootstraps = loop.executor.bootstraps := by
    rw [CoreLoopExecutor.bootstraps, CoreLoopExecutor.post, List.filterMap_append, List.filterMap_cons_none plain]
    exact List.append_nil _
  rw [view, view, same]
  rfl

theorem runPosted_steps {current : Nat} {rest : List RunCall} (now : Int) (takes : loop.Takes current rest)
    (known : ∀ run ∈ loop.executor.bootstraps, run < loop.runs.length) :
    Steps Change loop (loop.runPosted now).2 (loop.runPosted now).1 := by
  unfold runPosted
  split
  · exact .nil loop
  · rename_i handler handlers posted
    cases handler with
    | bootstrap run =>
      have first : loop.executor.bootstraps = run :: handlers.filterMap PostedHandler.run := by
        simp [CoreLoopExecutor.bootstraps, posted, PostedHandler.run]
      exact bootstrap_steps now takes first rfl (fun _ => id) (known run (by simp [first]))
    | requestStop =>
      have taken : Change loop [] { loop with executor := { loop.executor with handlers } } :=
        .quiet (taken_view posted rfl) (.inr rfl) fun _ => id
      exact .cons taken (requestStop_steps _)
    | program =>
      exact .single (.handled takes (taken_view posted rfl) (.inl rfl) fun _ => id)

theorem timerFires_steps {current : Nat} {rest : List RunCall} (index : Nat) (error : WaitError) (now : Int)
    (takes : loop.Takes current rest) :
    Steps Change loop (loop.timerFires index error now).2 (loop.timerFires index error now).1 := by
  have ticks (after : MainEventLoop) (timers : after.timers = (loop.timers.step (.complete index error)).1) (run : Nat)
      (h : after.Ticks run) : loop.Ticks run := (ticks_step timers h).resolve_right fun none => by cases none
  unfold timerFires
  simp only
  split
  · rename_i timerId run started
    obtain ⟨timer, found, callback⟩ := TimerManager.step_started started
    exact handleTick_steps now takes ⟨_, timer, found, callback⟩ rfl rfl (ticks _ rfl)
  · exact .single (.handled takes rfl (.inr rfl) (ticks _ rfl))
  · exact .single (.quiet rfl (.inr rfl) (ticks _ rfl))

theorem handlerThrows_steps {rest : List RunCall} (what : Option String) (looping : loop.calls = .loop run :: rest)
    (known : run < loop.runs.length) :
    Steps Change loop (loop.handlerThrows run rest what).2 (loop.handlerThrows run rest what).1 := by
  cases what with
  | some what =>
    refine leave_steps looping rfl rfl rfl (.inr (by decide)) (fun _ => ?_) (List.getElem?_eq_getElem known)
    simp
  | none => exact .single (.escaped looping rfl rfl fun _ => id)

theorem threwMessage_filled (callback : String) (what : Option String) : threwMessage callback what ≠ "" := by
  cases what with
  | none =>
    have text : threwMessage callback none =
        "Main event loop " ++ callback ++ " callback threw an unknown exception." := rfl
    rw [text]
    simp
  | some what =>
    have text : threwMessage callback (some what) = "Main event loop " ++ callback ++ " callback threw: " ++ what := rfl
    rw [text]
    simp

theorem callbackReturns_steps (now : Int) :
    Steps Change loop (loop.callbackReturns now).2 (loop.callbackReturns now).1 := by
  unfold callbackReturns
  split
  · rename_i run starting
    exact afterStart_steps now starting
  · exact .single (.quiet rfl (.inl rfl) fun _ => callbackReturned_ticks)
  · exact .single (.quiet rfl (.inl rfl) fun _ => callbackReturned_ticks)
  · exact .single (.quiet rfl (.inl rfl) fun _ => id)
  · rename_i run result error rest idle calls
    exact finishStop_steps calls idle fun _ none => by cases none
  · exact .nil loop

theorem callbackThrows_steps (what : Option String) (known : ∀ call ∈ loop.calls, call.run < loop.runs.length) :
    Steps Change loop (loop.callbackThrows what).2 (loop.callbackThrows what).1 := by
  unfold callbackThrows
  split
  · rename_i run starting
    exact startFailed_steps starting (by decide) (threwMessage_filled _ _)
  · rename_i run ticking
    exact tickFailed_steps ticking (threwMessage_filled _ _)
  · rename_i run rest posted calls
    exact handlerThrows_steps what calls (known (.loop run) (by simp [calls]))
  · rename_i run rest posted calls
    exact handlerThrows_steps what calls (known (.loop run) (by simp [calls]))
  · exact .nil loop
  · exact .nil loop
  · rename_i run result error rest idle calls
    refine finishStop_steps calls idle fun error same => ?_
    cases same
    exact threwMessage_filled _ _
  · exact .nil loop

theorem message_filled {code : MainEventLoopErrorCode} (error : String) : orMessage error code.message ≠ "" := by
  rw [orMessage]
  split
  · cases code <;> decide
  · assumption

theorem step_steps (inv : Inv loop trace) (input : LoopInput) : Steps Change loop (loop.step input).2 (loop.step input).1 := by
  have synced (off : loop.state = .stopped) : loop.executor.state = .stopped := by
    have phase := inv.phase
    rw [phase.off off] at phase
    exact phase.2.1
  obtain ⟨first, queued⟩ := inv.queue
  have known (run : Nat) (mem : run ∈ loop.executor.bootstraps) : run < loop.runs.length := by
    have bound := queued.bound
    rw [queued.posted, List.mem_range'_1] at mem
    omega
  cases input with
  | run hooks unnamed =>
    simp only [step]
    split
    · exact run_steps hooks unnamed synced
    · exact .nil loop
  | requestStop =>
    simp only [step]
    split
    · exact requestStop_steps loop
    · exact .nil loop
  | timers call ofProgram =>
    simp only [step]
    split
    · exact .single (.quiet rfl (.inr rfl) fun run h =>
        (ticks_step rfl h).resolve_right (ofProgram_callback ofProgram))
    · exact .nil loop
  | postStop =>
    exact .single (.quiet (posted_view rfl) (.inr rfl) fun _ => id)
  | post =>
    exact .single (.quiet (posted_view rfl) (.inr rfl) fun _ => id)
  | runPosted now =>
    simp only [step]
    split
    · rename_i ready
      obtain ⟨⟨current, rest⟩, between⟩ := Option.isSome_iff_exists.mp ready.1
      obtain ⟨calls, idle⟩ := betweenHandlers_some.mp between
      exact runPosted_steps now ⟨calls, idle, ready.2⟩ known
    · exact .nil loop
  | timerFires index error now =>
    simp only [step]
    split
    · rename_i ready
      obtain ⟨⟨current, rest⟩, between⟩ := Option.isSome_iff_exists.mp ready.1
      obtain ⟨calls, idle⟩ := betweenHandlers_some.mp between
      exact timerFires_steps index error now ⟨calls, idle, ready.2⟩
    · exact .nil loop
  | ioReturns =>
    simp only [step]
    split
    · rename_i run rest between stopped
      obtain ⟨calls, -⟩ := betweenHandlers_some.mp between
      have stops : loop.state = .stopping := by
        rcases (inv.phase.inLoop calls).2 with ⟨-, going, -⟩ | ⟨-, -, stopping⟩
        · exact absurd (stopped.symm.trans going) (by decide)
        · exact stopping
      exact leave_steps calls rfl rfl rfl (.inl stops) (fun fails => absurd rfl fails)
        (List.getElem?_eq_getElem (inv.known (.loop run) (by simp [calls])))
    · exact .nil loop
  | returns now => exact callbackReturns_steps now
  | startRefused code error refuses =>
    simp only [step]
    split
    · rename_i run starting
      exact startFailed_steps starting refuses (message_filled error)
    · exact .nil loop
  | throws what => exact callbackThrows_steps what inv.known

theorem step_inv (loop : MainEventLoop) (trace : List LoopEvent) (input : LoopInput) (inv : Inv loop trace) :
    Inv (loop.step input).1 (trace ++ (loop.step input).2) :=
  (step_steps inv input).trace (fun _ _ _ _ inv change => change.inv inv) inv

/-- **The laws of the loop.** Over every sequence of calls, posts, handlers, ticks and exceptions: the runs do not
overlap, a stop request is followed by no other handler, every bootstrap runs at most once and in order, ticks are
counted without a gap, `on_stop` follows the end of its own loop, and `Run` returns what failed first. -/
theorem loop_lawful (options : MainEventLoopOptions) (is : List LoopInput) :
    LawfulLoop (machine.run (create options) is).2 := by
  have inv : Inv (machine.run (create options) is).1 (machine.run (create options) is).2 :=
    Machine.run_trace (fun loop trace input inv => step_inv loop trace input inv) (create_inv options) is
  exact inv.lawful

/-- A stop that was posted before `Run` ends it before its bootstrap, which the next `Run` finds and runs. -/
example : (machine.run (create {}) [.postStop, .run { onStart := true } none, .runPosted 0, .ioReturns,
      .run { onStart := true } none, .runPosted 5]).2 =
    [.called 0 { onStart := true }, .stopRequested, .left 0 .none "", .returned 0 .none "",
      .called 1 { onStart := true }, .bootstrapped 0] := by decide +kernel

end MainEventLoop
end XServer.Core
