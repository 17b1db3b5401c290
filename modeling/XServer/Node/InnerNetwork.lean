import Mathlib.Data.Set.Basic
import XServer.Lib.Table
import XServer.Net.Serialization

/-!
# The inner network of a node

`InnerNetwork`: a listener and connectors, which `Init` creates and `Run` starts. A call of
`Run` that fails stops what it has started, so that the running components are those from
before it; one that succeeds leaves all that was asked for running.
-/

namespace XServer.Node
open XServer.Lib XServer.Lib.Wire XServer.Net

inductive NodeErrorCode where
  | none
  | invalidArgument
  | nodeInitFailed
  | nodeRunFailed
  deriving DecidableEq, Repr

/-- `NodeErrorMessage` of the codes that are set here. -/
def nodeErrorMessage : NodeErrorCode → Bytes
  | .none => text "No error."
  | .invalidArgument => text "Invalid node argument."
  | .nodeInitFailed => text "Server node initialization failed."
  | .nodeRunFailed => text "Server node run failed."

structure InnerNetworkConnectorOptions where
  id : Bytes
  remoteEndpoint : Bytes
  routingId : Bytes
  deriving DecidableEq, Repr

structure InnerNetworkOptions where
  localEndpoint : Bytes
  connectors : List InnerNetworkConnectorOptions
  deriving DecidableEq, Repr

structure ZmqPassiveListener where
  running : Bool
  boundEndpoint : Bytes
  deriving DecidableEq, Repr

structure ConnectorSlot where
  options : InnerNetworkConnectorOptions
  running : Bool
  deriving DecidableEq, Repr

structure InnerNetwork where
  options : InnerNetworkOptions
  initialized : Bool
  listener : Option ZmqPassiveListener
  connectors : Table Bytes ConnectorSlot
  boundEndpoint : Bytes
  lastErrorMessage : Bytes

/-- How the components start: the listener with the endpoint it is bound to, or not, with a text. -/
structure Starts where
  listener : Except Bytes Bytes
  connector : Bytes → Option Bytes

namespace InnerNetwork

/-! ## Creating the components -/

def create (options : InnerNetworkOptions) : InnerNetwork :=
  { options, initialized := false, listener := none, connectors := ∅, boundEndpoint := [], lastErrorMessage := [] }

/-- `SetError`. -/
def setError (network : InnerNetwork) (code : NodeErrorCode) (message : Bytes) : NodeErrorCode × InnerNetwork :=
  (code, { network with lastErrorMessage := if message = [] then nodeErrorMessage code else message })

def clearError (network : InnerNetwork) : NodeErrorCode × InnerNetwork := (.none, { network with lastErrorMessage := [] })

/-- The loop of `ValidateOptions`, behind connectors whose ids are `seen`. -/
def validateConnectors : List InnerNetworkConnectorOptions → List Bytes → Option Bytes
  | [], _ => none
  | connector :: rest, seen =>
    if connector.id = [] then some (text "InnerNetwork connector id must not be empty.")
    else if connector.remoteEndpoint = [] then some (text "InnerNetwork connector remote_endpoint must not be empty.")
    else if connector.id ∈ seen then some (text "InnerNetwork connector id '" ++ connector.id ++ text "' is duplicated.")
    else validateConnectors rest (connector.id :: seen)

/-- The loop of `Init` over the connectors; `emplace` keeps what is there. -/
def createConnectors (slots : Table Bytes ConnectorSlot) (connectors : List InnerNetworkConnectorOptions) :
    Table Bytes ConnectorSlot :=
  connectors.foldl
    (fun slots options => if slots.contains options.id then slots else slots.insert options.id { options, running := false })
    slots

/-- `Init`; `context` is the error of the ZeroMQ context, if it has one. -/
def init (context : Option Bytes) (network : InnerNetwork) : NodeErrorCode × InnerNetwork :=
  if network.initialized then network.setError .invalidArgument (text "InnerNetwork is already initialized.")
  else
    match validateConnectors network.options.connectors [] with
    | some message => network.setError .invalidArgument message
    | none =>
      if network.options.localEndpoint = [] ∧ network.options.connectors = [] then
        { network with initialized := true }.clearError
      else
        match context with
        | some error =>
          network.setError .nodeInitFailed (text "Failed to initialize inner network ZeroMQ context: " ++ error)
        | none =>
          { network with
            initialized := true
            listener := if network.options.localEndpoint = [] then none else some { running := false, boundEndpoint := [] }
            connectors := createConnectors ∅ network.options.connectors }.clearError

/-! ## Starting and stopping -/

def setConnectorRunning (network : InnerNetwork) (id : Bytes) (running : Bool) : InnerNetwork :=
  { network with
    connectors :=
      match network.connectors[id]? with
      | some slot => network.connectors.insert id { slot with running }
      | none => network.connectors }

/-- `Stop` of the listener; its state handler takes over the endpoint, which is empty then. -/
def stopListener (network : InnerNetwork) : InnerNetwork :=
  match network.listener with
  | some _ => { network with listener := some { running := false, boundEndpoint := [] }, boundEndpoint := [] }
  | none => network

def stopStartedComponents (listenerStarted : Bool) (startedConnectors : List Bytes) (network : InnerNetwork) : InnerNetwork :=
  let stopped := startedConnectors.reverse.foldl (fun network id => network.setConnectorRunning id false) network
  if listenerStarted then stopped.stopListener else stopped

/-- The listener once it is bound. -/
def listen (network : InnerNetwork) (boundEndpoint : Bytes) : InnerNetwork :=
  { network with listener := some { running := true, boundEndpoint }, boundEndpoint }

/-- The listener is started if there is one and it does not run. -/
def startListener (starts : Starts) (network : InnerNetwork) : Except Bytes (Bool × InnerNetwork) :=
  match network.listener with
  | none => .ok (false, network)
  | some listener =>
    if listener.running then .ok (false, network)
    else
      match starts.listener with
      | .error listenerError => .error listenerError
      | .ok boundEndpoint => .ok (true, network.listen boundEndpoint)

/-- The ids that are asked for, each once, behind those of `targets`, or why they are none. -/
def requestedConnectors (network : InnerNetwork) : List Bytes → List Bytes → Except Bytes (List Bytes)
  | [], targets => .ok targets
  | id :: rest, targets =>
    if id = [] then .error (text "InnerNetwork connector ID must not be empty.")
    else if network.connectors.contains id = false then
      .error (text "InnerNetwork connector '" ++ id ++ text "' is not configured.")
    else if id ∈ targets then network.requestedConnectors rest targets
    else network.requestedConnectors rest (targets ++ [id])

def targetConnectors (network : InnerNetwork) (connectorIds : List Bytes) : Except Bytes (List Bytes) :=
  if connectorIds = [] then .ok (network.connectors.toList.map (·.1)) else network.requestedConnectors connectorIds []

/-- The loop of `Run`, which has started the connectors of `startedConnectors`. -/
def startConnectors (starts : Starts) (listenerStarted : Bool) :
    List Bytes → List Bytes → InnerNetwork → NodeErrorCode × InnerNetwork
  | [], _, network => network.clearError
  | id :: rest, startedConnectors, network =>
    match network.connectors[id]? with
    | none => startConnectors starts listenerStarted rest startedConnectors network
    | some slot =>
      if slot.running then startConnectors starts listenerStarted rest startedConnectors network
      else
        match starts.connector id with
        | some connectorError =>
          (network.stopStartedComponents listenerStarted startedConnectors).setError .nodeRunFailed
            (text "Failed to start inner network connector '" ++ id ++ text "': " ++ connectorError)
        | none =>
          startConnectors starts listenerStarted rest (startedConnectors ++ [id]) (network.setConnectorRunning id true)

def run (starts : Starts) (connectorIds : List Bytes) (network : InnerNetwork) : NodeErrorCode × InnerNetwork :=
  if !network.initialized then
    network.setError .invalidArgument (text "InnerNetwork must be initialized before Run().")
  else if network.listener.isNone && network.connectors.isEmpty then network.clearError
  else
    match network.startListener starts with
    | .error listenerError =>
      network.setError .nodeRunFailed (text "Failed to start inner network listener: " ++ listenerError)
    | .ok (listenerStarted, network) =>
      match network.targetConnectors connectorIds with
      | .error message => (network.stopStartedComponents listenerStarted []).setError .invalidArgument message
      | .ok targetConnectors => network.startConnectors starts listenerStarted targetConnectors []

def startConnector (starts : Starts) (connectorId : Bytes) (network : InnerNetwork) : NodeErrorCode × InnerNetwork :=
  network.run starts [connectorId]

/-- `Uninit`: what runs is stopped, and then everything is let go of. -/
def uninit (network : InnerNetwork) : NodeErrorCode × InnerNetwork := (.none, create network.options)

/-! ## What runs -/

inductive Component where
  | listener
  | connector (id : Bytes)
  deriving DecidableEq, Repr

def Runs (network : InnerNetwork) : Component → Prop
  | .listener => ∃ listener, network.listener = some listener ∧ listener.running = true
  | .connector id => ∃ slot, network.connectors[id]? = some slot ∧ slot.running = true

/-- The running components. -/
def running (network : InnerNetwork) : Set Component := {component | network.Runs component}

def connectorsOf (ids : List Bytes) : Set Component := {component | ∃ id ∈ ids, component = .connector id}

/-- The components that a call has started. -/
def started (listenerStarted : Bool) (startedConnectors : List Bytes) : Set Component :=
  {component | component = .listener ∧ listenerStarted = true} ∪ connectorsOf startedConnectors

@[simp] theorem connectorsOf_nil : connectorsOf [] = ∅ := by
  ext component
  simp [connectorsOf]

@[simp] theorem connectorsOf_cons (id : Bytes) (ids : List Bytes) :
    connectorsOf (id :: ids) = insert (.connector id) (connectorsOf ids) := by
  ext component
  simp [connectorsOf]

theorem connectorsOf_append (ids others : List Bytes) : connectorsOf (ids ++ others) = connectorsOf ids ∪ connectorsOf others := by
  induction ids with
  | nil => rw [List.nil_append, connectorsOf_nil, Set.empty_union]
  | cons id rest ih => rw [List.cons_append, connectorsOf_cons, connectorsOf_cons, ih, Set.insert_union]

theorem connectorsOf_reverse (ids : List Bytes) : connectorsOf ids.reverse = connectorsOf ids := by
  ext component
  simp [connectorsOf]

theorem started_append (listenerStarted : Bool) (ids : List Bytes) (id : Bytes) :
    started listenerStarted (ids ++ [id]) = insert (.connector id) (started listenerStarted ids) := by
  unfold started
  rw [connectorsOf_append, connectorsOf_cons, connectorsOf_nil, Set.union_insert, Set.union_empty, Set.union_insert]

section Steps
variable (network : InnerNetwork)

theorem get_setConnectorRunning (id other : Bytes) (runs : Bool) :
    (network.setConnectorRunning id runs).connectors[other]? =
      if other = id then network.connectors[id]?.map fun slot => { slot with running := runs }
      else network.connectors[other]? := by
  unfold setConnectorRunning
  by_cases same : other = id
  · subst same
    rw [if_pos rfl]
    cases found : network.connectors[other]? with
    | none => exact found
    | some slot => exact Table.get_insert_self _ _ _
  · rw [if_neg same]
    cases network.connectors[id]? with
    | none => rfl
    | some slot => exact Table.get_insert_of_ne _ _ (Ne.symm same)

theorem contains_setConnectorRunning (id other : Bytes) (runs : Bool) :
    (network.setConnectorRunning id runs).connectors.contains other = network.connectors.contains other := by
  rw [Std.ExtTreeMap.contains_eq_isSome_getElem?, Std.ExtTreeMap.contains_eq_isSome_getElem?, get_setConnectorRunning]
  split
  · rename_i same
    rw [same, Option.isSome_map]
  · rfl

theorem running_startConnector {id : Bytes} (known : network.connectors.contains id = true) :
    (network.setConnectorRunning id true).running = insert (.connector id) network.running := by
  ext component
  rw [Set.mem_insert_iff]
  cases component with
  | listener =>
    constructor
    · exact .inr
    · rintro (other | runs)
      · cases other
      · exact runs
  | connector other =>
    show (∃ slot, (network.setConnectorRunning id true).connectors[other]? = some slot ∧ slot.running = true) ↔ _
    rw [get_setConnectorRunning]
    split
    · rename_i same
      rw [Std.ExtTreeMap.contains_eq_isSome_getElem?] at known
      obtain ⟨slot, found⟩ := Option.isSome_iff_exists.mp known
      rw [found, same]
      exact iff_of_true ⟨_, rfl, rfl⟩ (.inl rfl)
    · rename_i different
      constructor
      · exact .inr
      · rintro (same | runs)
        · exact absurd (Component.connector.inj same) different
        · exact runs

theorem running_stopConnector (id : Bytes) :
    (network.setConnectorRunning id false).running = network.running \ {.connector id} := by
  ext component
  rw [Set.mem_sdiff, Set.mem_singleton_iff]
  cases component with
  | listener =>
    constructor
    · intro runs
      exact ⟨runs, fun same => Component.noConfusion same⟩
    · exact And.left
  | connector other =>
    show (∃ slot, (network.setConnectorRunning id false).connectors[other]? = some slot ∧ slot.running = true) ↔ _
    rw [get_setConnectorRunning]
    split
    · rename_i same
      constructor
      · rintro ⟨slot, found, runs⟩
        obtain ⟨before, -, rfl⟩ := Option.map_eq_some_iff.mp found
        cases runs
      · rintro ⟨-, different⟩
        exact absurd (congrArg Component.connector same) different
    · rename_i different
      constructor
      · intro runs
        exact ⟨runs, fun same => different (Component.connector.inj same)⟩
      · exact And.left

theorem running_listen (boundEndpoint : Bytes) :
    (network.listen boundEndpoint).running = network.running ∪ {.listener} := by
  ext component
  rw [Set.union_singleton, Set.mem_insert_iff]
  cases component with
  | listener => exact iff_of_true ⟨_, rfl, rfl⟩ (.inl rfl)
  | connector id =>
    constructor
    · exact .inr
    · rintro (same | runs)
      · cases same
      · exact runs

theorem running_stopListener : network.stopListener.running = network.running \ {.listener} := by
  ext component
  rw [Set.mem_sdiff, Set.mem_singleton_iff]
  unfold stopListener
  cases found : network.listener with
  | none =>
    constructor
    · intro runs
      refine ⟨runs, ?_⟩
      rintro rfl
      obtain ⟨listener, present, -⟩ := runs
      rw [found] at present
      cases present
    · exact And.left
  | some listener =>
    cases component with
    | listener =>
      constructor
      · rintro ⟨stopped, present, runs⟩
        cases present
        cases runs
      · rintro ⟨-, different⟩
        exact absurd rfl different
    | connector id =>
      constructor
      · intro runs
        exact ⟨runs, fun same => Component.noConfusion same⟩
      · exact And.left

theorem running_stopConnectors (ids : List Bytes) :
    (ids.foldl (fun network id => network.setConnectorRunning id false) network).running =
      network.running \ connectorsOf ids := by
  induction ids generalizing network with
  | nil => rw [List.foldl_nil, connectorsOf_nil, Set.sdiff_empty]
  | cons id rest ih => rw [List.foldl_cons, ih, running_stopConnector, Set.sdiff_sdiff, connectorsOf_cons, Set.insert_eq]

/-- Exactly the started components are stopped. -/
theorem running_stopStartedComponents (listenerStarted : Bool) (startedConnectors : List Bytes) :
    (network.stopStartedComponents listenerStarted startedConnectors).running =
      network.running \ started listenerStarted startedConnectors := by
  unfold stopStartedComponents started
  cases listenerStarted with
  | false =>
    have nothing : {component : Component | component = .listener ∧ false = true} = ∅ := by
      ext component
      simp
    rw [nothing, Set.empty_union, ← connectorsOf_reverse]
    exact running_stopConnectors network _
  | true =>
    have one : {component : Component | component = .listener ∧ true = true} = {.listener} := by
      ext component
      simp
    rw [one, Set.union_comm, ← Set.sdiff_sdiff, ← connectorsOf_reverse, ← running_stopConnectors]
    exact running_stopListener _

end Steps

/-! ## All or nothing -/

/-- What an undone call leaves running is what ran before it. -/
theorem running_undone {network : InnerNetwork} {before : Set Component} {listenerStarted : Bool} {ids : List Bytes}
    (now : network.running = before ∪ started listenerStarted ids)
    (apart : ∀ component ∈ started listenerStarted ids, component ∉ before) :
    (network.stopStartedComponents listenerStarted ids).running = before := by
  rw [running_stopStartedComponents, now]
  exact Set.union_sdiff_cancel_right fun component both => apart component both.2 both.1

/-- The loop over the targets: either all of them run behind it, or nothing does that did not before the call. -/
theorem startConnectors_running (starts : Starts) {listenerStarted : Bool} {before : Set Component} (targets : List Bytes)
    {ids : List Bytes} {network : InnerNetwork} (known : ∀ id ∈ targets, network.connectors.contains id = true)
    (now : network.running = before ∪ started listenerStarted ids)
    (apart : ∀ component ∈ started listenerStarted ids, component ∉ before) :
    let result := network.startConnectors starts listenerStarted targets ids
    (result.1 ≠ .none ∧ result.2.running = before) ∨
      (result.1 = .none ∧ result.2.running = network.running ∪ connectorsOf targets) := by
  induction targets generalizing ids network with
  | nil =>
    right
    refine ⟨rfl, ?_⟩
    rw [connectorsOf_nil, Set.union_empty]
    rfl
  | cons id rest ih =>
    have knownHere := known id List.mem_cons_self
    have knownRest : ∀ other ∈ rest, network.connectors.contains other = true :=
      fun other listed => known other (List.mem_cons_of_mem id listed)
    obtain ⟨slot, found⟩ : ∃ slot, network.connectors[id]? = some slot := by
      rw [Std.ExtTreeMap.contains_eq_isSome_getElem?] at knownHere
      exact Option.isSome_iff_exists.mp knownHere
    unfold startConnectors
    simp only [found]
    by_cases runs : slot.running = true
    · have inside : Component.connector id ∈ network.running := ⟨slot, found, runs⟩
      rw [if_pos runs, connectorsOf_cons, Set.union_insert, ← Set.insert_union, Set.insert_eq_of_mem inside]
      exact ih knownRest now apart
    · rw [if_neg runs]
      cases starts.connector id with
      | some error =>
        left
        exact ⟨NodeErrorCode.noConfusion, running_undone now apart⟩
      | none =>
        have fresh : Component.connector id ∉ before := by
          intro inside
          have earlier : Component.connector id ∈ network.running := by
            rw [now]
            exact Set.mem_union_left _ inside
          obtain ⟨other, present, running⟩ := earlier
          rw [found] at present
          cases present
          exact runs running
        have more := running_startConnector network knownHere
        rw [connectorsOf_cons, Set.union_insert, ← Set.insert_union, ← more]
        refine ih (fun other listed => ?_) ?_ ?_
        · rw [contains_setConnectorRunning]
          exact knownRest other listed
        · rw [more, now, started_append, Set.union_insert]
        · rw [started_append]
          rintro component (rfl | earlier)
          · exact fresh
          · exact apart component earlier

theorem requestedConnectors_ok {network : InnerNetwork} {ids targets result : List Bytes}
    (known : ∀ id ∈ targets, network.connectors.contains id = true)
    (ok : network.requestedConnectors ids targets = .ok result) :
    (∀ id ∈ result, network.connectors.contains id = true) ∧ connectorsOf result = connectorsOf targets ∪ connectorsOf ids := by
  induction ids generalizing targets with
  | nil =>
    cases ok
    exact ⟨known, by rw [connectorsOf_nil, Set.union_empty]⟩
  | cons id rest ih =>
    unfold requestedConnectors at ok
    split at ok
    · cases ok
    split at ok
    · cases ok
    rename_i _ configured
    rw [Bool.not_eq_false] at configured
    rw [connectorsOf_cons]
    split at ok
    · rename_i repeated
      obtain ⟨all, same⟩ := ih known ok
      have inside : Component.connector id ∈ connectorsOf targets := ⟨id, repeated, rfl⟩
      rw [Set.union_insert, ← Set.insert_union, Set.insert_eq_of_mem inside]
      exact ⟨all, same⟩
    · have known' : ∀ other ∈ targets ++ [id], network.connectors.contains other = true := by
        intro other listed
        rcases List.mem_append.mp listed with earlier | here
        · exact known other earlier
        · rw [List.mem_singleton.mp here]
          exact configured
      obtain ⟨all, same⟩ := ih known' ok
      rw [connectorsOf_append, connectorsOf_cons, connectorsOf_nil, Set.union_insert, Set.union_empty] at same
      rw [Set.union_insert, ← Set.insert_union]
      exact ⟨all, same⟩

/-- What a call asks for: the listener, and the connectors it lists, or all of them. -/
def requested (network : InnerNetwork) (connectorIds : List Bytes) : Set Component :=
  {component | component = .listener ∧ network.listener ≠ none} ∪
    if connectorIds = [] then {component | ∃ id, component = .connector id ∧ network.connectors.contains id = true}
    else connectorsOf connectorIds

theorem targetConnectors_ok {network : InnerNetwork} {connectorIds targets : List Bytes}
    (ok : network.targetConnectors connectorIds = .ok targets) :
    (∀ id ∈ targets, network.connectors.contains id = true) ∧
      connectorsOf targets =
        if connectorIds = [] then {component | ∃ id, component = .connector id ∧ network.connectors.contains id = true}
        else connectorsOf connectorIds := by
  unfold targetConnectors at ok
  split at ok
  · rename_i all
    cases ok
    have listed : ∀ id, id ∈ network.connectors.toList.map (·.1) ↔ network.connectors.contains id = true := by
      intro id
      rw [List.mem_map, Std.ExtTreeMap.contains_eq_isSome_getElem?, Option.isSome_iff_exists]
      constructor
      · rintro ⟨entry, inTable, rfl⟩
        exact ⟨entry.2, Std.ExtTreeMap.mem_toList_iff_getElem?_eq_some.mp inTable⟩
      · rintro ⟨slot, found⟩
        exact ⟨(id, slot), Std.ExtTreeMap.mem_toList_iff_getElem?_eq_some.mpr found, rfl⟩
    refine ⟨fun id inList => (listed id).mp inList, ?_⟩
    rw [if_pos all]
    ext component
    constructor
    · rintro ⟨id, inList, same⟩
      exact ⟨id, same, (listed id).mp inList⟩
    · rintro ⟨id, same, configured⟩
      exact ⟨id, (listed id).mpr configured, same⟩
  · rename_i some
    rw [if_neg some]
    obtain ⟨known, same⟩ := requestedConnectors_ok (fun id listed => by cases listed) ok
    rw [connectorsOf_nil, Set.empty_union] at same
    exact ⟨known, same⟩

/-- The listener behind its start: whether this call started it, and what runs then. -/
theorem startListener_ok {starts : Starts} {network after : InnerNetwork} {listenerStarted : Bool}
    (ok : network.startListener starts = .ok (listenerStarted, after)) :
    after.connectors = network.connectors ∧ after.running = network.running ∪ started listenerStarted [] ∧
      (∀ component ∈ started listenerStarted [], component ∉ network.running) ∧
      after.running = network.running ∪ {component | component = .listener ∧ network.listener ≠ none} := by
  have untouched : started false [] = ∅ := by
    ext component
    simp [started]
  have own : started true [] = {.listener} := by
    ext component
    simp [started]
  unfold startListener at ok
  cases found : network.listener with
  | none =>
    simp only [found] at ok
    cases ok
    have nothing : {component : Component | component = .listener ∧ (none : Option ZmqPassiveListener) ≠ none} = ∅ := by
      ext component
      simp
    rw [untouched, nothing, Set.union_empty]
    exact ⟨rfl, rfl, fun _ nowhere => nowhere.elim, rfl⟩
  | some listener =>
    have wanted : {component : Component | component = .listener ∧ some listener ≠ none} = {.listener} := by
      ext component
      simp
    simp only [found] at ok
    rw [wanted]
    split at ok
    · rename_i runs
      cases ok
      have inside : Component.listener ∈ network.running := ⟨listener, found, runs⟩
      rw [untouched, Set.union_empty, Set.union_singleton, Set.insert_eq_of_mem inside]
      exact ⟨rfl, rfl, fun _ nowhere => nowhere.elim, rfl⟩
    · rename_i stopped
      split at ok
      · cases ok
      · cases ok
        have fresh : Component.listener ∉ network.running := by
          rintro ⟨other, present, running⟩
          rw [found] at present
          cases present
          exact stopped running
        have more := running_listen network
        rw [own]
        exact ⟨rfl, more _, fun component only => only ▸ fresh, more _⟩

/-- A call that fails changes nothing about what runs; one that succeeds adds what it asks for, and nothing else. -/
theorem run_running (starts : Starts) (connectorIds : List Bytes) (network : InnerNetwork)
    (components : network.listener ≠ none ∨ ∃ id, network.connectors.contains id = true) :
    let result := network.run starts connectorIds
    (result.1 ≠ .none ∧ result.2.running = network.running) ∨
      (result.1 = .none ∧ result.2.running = network.running ∪ network.requested connectorIds) := by
  unfold run
  split
  · left
    exact ⟨NodeErrorCode.noConfusion, rfl⟩
  split
  · rename_i nothing
    rw [Bool.and_eq_true, Option.isNone_iff_eq_none] at nothing
    rcases components with present | ⟨id, configured⟩
    · exact absurd nothing.1 present
    · rw [Std.ExtTreeMap.isEmpty_iff.mp nothing.2, Std.ExtTreeMap.contains_empty] at configured
      cases configured
  cases listening : network.startListener starts with
  | error listenerError =>
    left
    exact ⟨NodeErrorCode.noConfusion, rfl⟩
  | ok begun =>
    obtain ⟨listenerStarted, after⟩ := begun
    obtain ⟨same, now, apart, wanted⟩ := startListener_ok listening
    cases targets : after.targetConnectors connectorIds with
    | error message =>
      left
      simp only [targets]
      exact ⟨NodeErrorCode.noConfusion, running_undone now apart⟩
    | ok targetConnectors =>
      obtain ⟨known, all⟩ := targetConnectors_ok targets
      simp only [targets]
      rcases startConnectors_running starts targetConnectors known now apart with failed | ⟨success, more⟩
      · exact .inl failed
      · right
        refine ⟨success, ?_⟩
        rw [more, wanted, all, same, Set.union_assoc]
        rfl

/-- `Run` is all or nothing: with an error, what runs is what ran before; without one, the listener runs and every
connector that was asked for. -/
theorem run_all_or_nothing (starts : Starts) (connectorIds : List Bytes) (network : InnerNetwork)
    (components : network.listener ≠ none ∨ ∃ id, network.connectors.contains id = true) :
    let result := network.run starts connectorIds
    (result.1 ≠ .none → result.2.running = network.running) ∧
      (result.1 = .none →
        network.running ⊆ result.2.running ∧ (network.listener ≠ none → .listener ∈ result.2.running) ∧
          ∀ id, (if connectorIds = [] then network.connectors.contains id = true else id ∈ connectorIds) →
            .connector id ∈ result.2.running) := by
  intro result
  rcases run_running starts connectorIds network components with ⟨failed, kept⟩ | ⟨success, more⟩
  · exact ⟨fun _ => kept, fun success => absurd success failed⟩
  · refine ⟨fun failed => absurd success failed, fun _ => ?_⟩
    have all : result.2.running = network.running ∪ network.requested connectorIds := more
    rw [all]
    refine ⟨Set.subset_union_left, fun configured => ?_, fun id asked => ?_⟩
    · exact .inr (.inl ⟨rfl, configured⟩)
    · refine .inr (.inr ?_)
      split
      · rename_i empty
        rw [if_pos empty] at asked
        exact ⟨id, rfl, asked⟩
      · rename_i listed
        rw [if_neg listed] at asked
        exact ⟨id, asked, rfl⟩

/-- A gate that listens and connects to two games. -/
def sampleOptions : InnerNetworkOptions :=
  { localEndpoint := text "tcp://*:5100"
    connectors :=
      [⟨text "Game0", text "tcp://10.0.0.1:5200", text "Gate0"⟩, ⟨text "Game1", text "tcp://10.0.0.1:5201", text "Gate0"⟩] }

/-- The second of its connectors does not start. -/
def sampleStarts : Starts where
  listener := .ok (text "tcp://0.0.0.0:5100")
  connector id := if id = text "Game1" then some (text "no socket") else none

theorem run_all_or_nothing_sample :
    let network := ((create sampleOptions).init none).2
    let result := network.run sampleStarts [text "Game0", text "Game1", text "Game0"]
    (result.1 ≠ .none → result.2.running = network.running) ∧
      (result.1 = .none →
        network.running ⊆ result.2.running ∧ (network.listener ≠ none → .listener ∈ result.2.running) ∧
          ∀ id, (if [text "Game0", text "Game1", text "Game0"] = [] then network.connectors.contains id = true
            else id ∈ [text "Game0", text "Game1", text "Game0"]) → .connector id ∈ result.2.running) :=
  run_all_or_nothing sampleStarts _ _ (.inl (by decide +kernel))

/-! ## From `Init` on -/

/-- The same components are there, running or not. -/
structure SameComponents (network after : InnerNetwork) : Prop where
  listener : after.listener = none ↔ network.listener = none
  connectors : ∀ id, after.connectors.contains id = network.connectors.contains id

theorem SameComponents.refl (network : InnerNetwork) : SameComponents network network := ⟨Iff.rfl, fun _ => rfl⟩

theorem SameComponents.trans {a b c : InnerNetwork} (first : SameComponents a b) (second : SameComponents b c) :
    SameComponents a c :=
  ⟨second.listener.trans first.listener, fun id => (second.connectors id).trans (first.connectors id)⟩

theorem SameComponents.setError {a b : InnerNetwork} (h : SameComponents a b) (code : NodeErrorCode) (message : Bytes) :
    SameComponents a (b.setError code message).2 := ⟨h.listener, h.connectors⟩

theorem SameComponents.clearError {a b : InnerNetwork} (h : SameComponents a b) : SameComponents a b.clearError.2 :=
  ⟨h.listener, h.connectors⟩

theorem SameComponents.requested {a b : InnerNetwork} (h : SameComponents a b) (connectorIds : List Bytes) :
    b.requested connectorIds = a.requested connectorIds := by
  unfold InnerNetwork.requested
  simp only [h.connectors, ne_eq, h.listener]

section Shape
variable (network : InnerNetwork)

theorem same_setConnectorRunning (id : Bytes) (runs : Bool) : SameComponents network (network.setConnectorRunning id runs) :=
  ⟨Iff.rfl, fun other => contains_setConnectorRunning network id other runs⟩

theorem same_stopListener : SameComponents network network.stopListener := by
  unfold stopListener
  cases found : network.listener with
  | none => exact .refl network
  | some listener =>
    constructor
    · rw [found]
      constructor <;> intro impossible <;> cases impossible
    · exact fun _ => rfl

theorem same_stopStartedComponents (listenerStarted : Bool) (ids : List Bytes) :
    SameComponents network (network.stopStartedComponents listenerStarted ids) := by
  have stopped : ∀ (ids : List Bytes) (network : InnerNetwork),
      SameComponents network (ids.foldl (fun network id => network.setConnectorRunning id false) network) := by
    intro ids
    induction ids with
    | nil => exact .refl
    | cons id rest ih => exact fun network => (same_setConnectorRunning network id false).trans (ih _)
  unfold stopStartedComponents
  cases listenerStarted with
  | false => exact stopped _ network
  | true => exact (stopped _ network).trans (same_stopListener _)

theorem same_startConnectors (starts : Starts) (listenerStarted : Bool) (targets ids : List Bytes) :
    SameComponents network (network.startConnectors starts listenerStarted targets ids).2 := by
  induction targets generalizing ids network with
  | nil => exact (SameComponents.refl network).clearError
  | cons id rest ih =>
    unfold startConnectors
    split
    · exact ih network ids
    split
    · exact ih network ids
    split
    · exact (same_stopStartedComponents network listenerStarted ids).setError _ _
    · exact (same_setConnectorRunning network id true).trans (ih _ _)

theorem same_startListener {starts : Starts} {listenerStarted : Bool} {after : InnerNetwork}
    (ok : network.startListener starts = .ok (listenerStarted, after)) : SameComponents network after := by
  unfold startListener at ok
  split at ok
  · cases ok
    exact .refl network
  rename_i listener found
  split at ok
  · cases ok
    exact .refl network
  split at ok
  · cases ok
  · cases ok
    constructor
    · rw [found]
      constructor <;> intro impossible <;> cases impossible
    · exact fun _ => rfl

/-- `Run` neither adds nor removes a component. -/
theorem same_run (starts : Starts) (connectorIds : List Bytes) : SameComponents network (network.run starts connectorIds).2 := by
  unfold run
  split
  · exact (SameComponents.refl network).setError _ _
  split
  · exact (SameComponents.refl network).clearError
  split
  · exact (SameComponents.refl network).setError _ _
  · rename_i listenerStarted after listening
    have begun := same_startListener network listening
    split
    · exact (begun.trans (same_stopStartedComponents after listenerStarted [])).setError _ _
    · exact begun.trans (same_startConnectors after starts listenerStarted _ [])

end Shape

/-- What some calls of `Run` leave behind. -/
def runAll (network : InnerNetwork) (calls : List (Starts × List Bytes)) : InnerNetwork :=
  calls.foldl (fun network call => (network.run call.1 call.2).2) network

/-- After any calls of `Run`, what runs ran before them or was asked for by one of them that succeeded. -/
theorem runAll_running {network : InnerNetwork}
    (components : network.listener ≠ none ∨ ∃ id, network.connectors.contains id = true)
    (calls : List (Starts × List Bytes)) (component : Component) :
    component ∈ (network.runAll calls).running ↔
      component ∈ network.running ∨ ∃ before call after, calls = before ++ call :: after ∧
        ((network.runAll before).run call.1 call.2).1 = .none ∧ component ∈ network.requested call.2 := by
  induction calls generalizing network with
  | nil =>
    constructor
    · exact .inl
    · rintro (runs | ⟨before, call, after, impossible, -⟩)
      · exact runs
      · cases before <;> cases impossible
  | cons call rest ih =>
    have same := same_run network call.1 call.2
    have components' : (network.run call.1 call.2).2.listener ≠ none ∨
        ∃ id, (network.run call.1 call.2).2.connectors.contains id = true := by
      simpa only [ne_eq, same.listener, same.connectors] using components
    have first : component ∈ (network.run call.1 call.2).2.running ↔
        component ∈ network.running ∨ (network.run call.1 call.2).1 = .none ∧ component ∈ network.requested call.2 := by
      rcases run_running call.1 call.2 network components with ⟨failed, kept⟩ | ⟨success, more⟩
      · rw [kept]
        simp only [failed, false_and, or_false]
      · rw [more, Set.mem_union]
        simp only [success, true_and]
    show component ∈ ((network.run call.1 call.2).2.runAll rest).running ↔ _
    rw [ih components', first, or_assoc]
    refine or_congr_right ?_
    simp only [same.requested]
    constructor
    · rintro (⟨success, asked⟩ | ⟨before, later, after, rfl, success, asked⟩)
      · exact ⟨[], call, rest, rfl, success, asked⟩
      · exact ⟨call :: before, later, after, rfl, success, asked⟩
    · rintro ⟨before, later, after, split, success, asked⟩
      cases before with
      | nil =>
        cases split
        exact .inl ⟨success, asked⟩
      | cons head before =>
        cases split
        exact .inr ⟨before, later, after, rfl, success, asked⟩

theorem get_createConnectors (connectors : List InnerNetworkConnectorOptions) (slots : Table Bytes ConnectorSlot) (id : Bytes) :
    ((createConnectors slots connectors)[id]? = none ↔ slots[id]? = none ∧ ∀ options ∈ connectors, options.id ≠ id) ∧
      ∀ slot, (createConnectors slots connectors)[id]? = some slot → slots[id]? = some slot ∨ slot.running = false := by
  induction connectors generalizing slots with
  | nil => exact ⟨by simp [createConnectors], fun slot found => .inl found⟩
  | cons first rest ih =>
    obtain ⟨absent, stopped⟩ := ih (if slots.contains first.id then slots else slots.insert first.id ⟨first, false⟩)
    have step : createConnectors slots (first :: rest) =
        createConnectors (if slots.contains first.id then slots else slots.insert first.id ⟨first, false⟩) rest := rfl
    rw [step, List.forall_mem_cons]
    by_cases known : slots.contains first.id = true
    · rw [if_pos known] at absent stopped ⊢
      refine ⟨?_, stopped⟩
      rw [absent]
      constructor
      · rintro ⟨missing, others⟩
        refine ⟨missing, ?_, others⟩
        rintro rfl
        rw [Std.ExtTreeMap.contains_eq_isSome_getElem?, missing] at known
        cases known
      · rintro ⟨missing, -, others⟩
        exact ⟨missing, others⟩
    · rw [if_neg known] at absent stopped ⊢
      by_cases same : first.id = id
      · rw [← same, Table.get_insert_self] at absent stopped
        rw [← same]
        refine ⟨?_, fun slot found => ?_⟩
        · rw [absent]
          constructor
          · rintro ⟨impossible, -⟩
            cases impossible
          · rintro ⟨-, different, -⟩
            exact absurd rfl different
        · rcases stopped slot found with here | idle
          · cases here
            exact .inr rfl
          · exact .inr idle
      · rw [Table.get_insert_of_ne _ _ same] at absent stopped
        refine ⟨?_, stopped⟩
        rw [absent]
        constructor
        · rintro ⟨missing, others⟩
          exact ⟨missing, same, others⟩
        · rintro ⟨missing, -, others⟩
          exact ⟨missing, others⟩

/-- The network that `Init` leaves behind if it succeeds. -/
def created (options : InnerNetworkOptions) : InnerNetwork :=
  { create options with
    initialized := true
    listener := if options.localEndpoint = [] then none else some { running := false, boundEndpoint := [] }
    connectors := createConnectors ∅ options.connectors }

theorem init_eq {options : InnerNetworkOptions} {context : Option Bytes} (ok : ((create options).init context).1 = .none)
    (wanted : options.localEndpoint ≠ [] ∨ options.connectors ≠ []) : ((create options).init context).2 = created options := by
  have nonempty : ¬ ((create options).options.localEndpoint = [] ∧ (create options).options.connectors = []) := by
    rintro ⟨noListener, noConnectors⟩
    rcases wanted with some | some
    · exact some noListener
    · exact some noConnectors
  have idle : ¬ (create options).initialized = true := Bool.false_ne_true
  unfold init at ok ⊢
  rw [if_neg idle] at ok ⊢
  cases valid : validateConnectors (create options).options.connectors [] with
  | some message =>
    simp only [valid] at ok
    cases ok
  | none =>
    simp only [valid, if_neg nonempty] at ok ⊢
    cases context with
    | some error => cases ok
    | none => rfl

/-- An initialized network has the components of its options, and none of them runs. -/
theorem init_components {options : InnerNetworkOptions} {context : Option Bytes}
    (ok : ((create options).init context).1 = .none) (wanted : options.localEndpoint ≠ [] ∨ options.connectors ≠ []) :
    let network := ((create options).init context).2
    network.initialized = true ∧ (network.listener = none ↔ options.localEndpoint = []) ∧
      (∀ id, network.connectors.contains id = true ↔ ∃ connector ∈ options.connectors, connector.id = id) ∧
      network.running = ∅ := by
  rw [init_eq ok wanted]
  have slots : ∀ id : Bytes, _ := get_createConnectors options.connectors ∅
  refine ⟨rfl, ?_, fun id => ?_, ?_⟩
  · show (if options.localEndpoint = [] then none else some _) = none ↔ _
    split
    · rename_i empty
      exact iff_of_true rfl empty
    · rename_i named
      exact iff_of_false (fun impossible => by cases impossible) named
  · show (createConnectors ∅ options.connectors).contains id = true ↔ _
    rw [Std.ExtTreeMap.contains_eq_isSome_getElem?, ← not_iff_not, Bool.not_eq_true, Option.isSome_eq_false_iff,
      Option.isNone_iff_eq_none, (slots id).1]
    simp
  · ext component
    rw [Set.mem_empty_iff_false, iff_false]
    cases component with
    | listener =>
      rintro ⟨listener, present, runs⟩
      change (if options.localEndpoint = [] then none else some _) = some listener at present
      split at present
      · cases present
      · cases present
        cases runs
    | connector id =>
      rintro ⟨slot, present, runs⟩
      rcases (slots id).2 slot present with impossible | stopped
      · simp at impossible
      · rw [stopped] at runs
        cases runs

end InnerNetwork

end XServer.Node
