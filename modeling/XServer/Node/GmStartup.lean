import XServer.Node.GmNode

/-!
# The startup phases of the GM

`StartupStep` says once what a handler call can do to the startup state and the
stub table, and which phase begins in it. The invariant `StartupInv` and the
order `Advances` between two states of a run follow by cases on it: the three
phases open in order and once each, and stub owners and ready ids are final.
-/

namespace XServer.Node
open XServer.Lib XServer.Lib.Wire XServer.Net

/-! ## Phase events -/

/-- The phase events of a handler call. -/
def GmEvent.phases (events : List GmEvent) : List GmEvent :=
  events.filter fun e => match e with
    | .send _ _ => false
    | _ => true

namespace GmNode

open GmEvent (phases)

@[simp] theorem phases_nil : phases [] = [] := rfl

@[simp] theorem phases_cons_send (routingId packet : Bytes) (events : List GmEvent) :
    phases (.send routingId packet :: events) = phases events := rfl

@[simp] theorem phases_cons_allNodeOnline (events : List GmEvent) :
    phases (.allNodeOnline :: events) = .allNodeOnline :: phases events := rfl

@[simp] theorem phases_cons_allGameReady (events : List GmEvent) :
    phases (.allGameReady :: events) = .allGameReady :: phases events := rfl

@[simp] theorem phases_cons_allStubReady (events : List GmEvent) :
    phases (.allStubReady :: events) = .allStubReady :: phases events := rfl

@[simp] theorem phases_sent (routingId : Bytes) (packet : Option Bytes) :
    phases (GmEvent.sent routingId packet) = [] := by
  cases packet <;> rfl

theorem phases_flatMap {α : Type} (targets : List α) (f : α → List GmEvent) (quiet : ∀ a, phases (f a) = []) :
    phases (targets.flatMap f) = [] := by
  induction targets with
  | nil => rfl
  | cons a as ih =>
    rw [List.flatMap_cons]
    simp only [phases, List.filter_append] at *
    rw [quiet a, ih]
    rfl

@[simp] theorem phases_sendRegisterError (env : GmEnv) (routingId : Bytes) (seq : UInt32) (code : Int32) :
    phases (sendRegisterError env routingId seq code) = [] := by
  unfold sendRegisterError
  split
  · rfl
  · exact phases_sent _ _

@[simp] theorem phases_sendHeartbeatSuccess (env : GmEnv) (routingId : Bytes) (seq : UInt32) :
    phases (sendHeartbeatSuccess env routingId seq) = [] := by
  unfold sendHeartbeatSuccess
  split
  · rfl
  · exact phases_sent _ _

theorem phases_sendClusterNodesOnlineNotifyToGame (env : GmEnv) (session : InnerNetworkSession) (online : Bool)
    (now : UInt64) : phases (sendClusterNodesOnlineNotifyToGame env session online now) = [] := by
  unfold sendClusterNodesOnlineNotifyToGame
  split
  · rfl
  · exact phases_sent _ _

theorem phases_sendOwnershipSyncToGame (env : GmEnv) (session : InnerNetworkSession)
    (sync : ServerStubOwnershipSync) : phases (sendOwnershipSyncToGame env session sync) = [] := by
  unfold sendOwnershipSyncToGame
  split
  · rfl
  · split
    · rfl
    · exact phases_sent _ _

theorem phases_sendClusterGateOpenNotifyToGate (env : GmEnv) (session : InnerNetworkSession)
    (notify : ClusterReadyNotify) : phases (sendClusterGateOpenNotifyToGate env session notify) = [] := by
  unfold sendClusterGateOpenNotifyToGate
  split
  · rfl
  · exact phases_sent _ _

/-! ## What a step can do -/

/-- The node ids of the expected Games. -/
def expectedGameNodeIds (gm : GmNode) : List Bytes := gm.startup.expectedGameEntries.map (·.nodeId)

/-- The state after a change of the session table and the registration lists. -/
def withRegistered (gm : GmNode) (sessions : InnerNetworkSessionManager) (gates games : List Bytes) : GmNode :=
  { gm with
    sessions, startup := { gm.startup with registeredGateNodeIds := gates, registeredGameNodeIds := games } }

/-- The state after the nodes-online phase began. -/
def withNodesOnline (gm : GmNode) (now : UInt64) : GmNode :=
  { gm with startup := { gm.startup with allNodesOnline := true, lastAllNodesOnlineServerNowUnixMs := now } }

/-- The state after the ownership phase began, with the table it produced. -/
def withOwnership (gm : GmNode) (table : ServerStubStateTable) : GmNode :=
  { gm with startup := { gm.startup with allExpectedGamesMeshReady := true }, stubs := table }

/-- The state after the cluster-ready phase began. -/
def withGateOpen (gm : GmNode) (now : UInt64) : GmNode :=
  { gm with startup := { gm.startup with
    gateOpen := true, lastClusterReadyServerNowUnixMs := now, readyEpoch := gm.startup.readyEpoch + 1 } }

/-- A table the ownership phase can leave: empty, or every stub freshly
assigned to one of the listed Games. -/
def Assigned (games : List Bytes) (table : ServerStubStateTable) : Prop :=
  ∀ entry ∈ table.entries, entry.ownerGameNodeId ∈ games ∧ entry.entityId = unknownServerEntityId ∧ entry.state = .init

/-- The input is a message of this kind, under this routing id. -/
def Input.Carries (input : Input) (routingId payload : Bytes) (msgId : UInt32) : Prop :=
  (∃ env, input = .message env routingId payload) ∧ HasMsgId payload msgId

/-- What one handler call can do to the startup state and the stub table, with
the phase that begins in it. -/
inductive StartupStep (gm : GmNode) (input : Input) : GmNode → List GmEvent → Prop where
  | bookkeeping {sessions : InnerNetworkSessionManager} {gates games : List Bytes} :
      StartupStep gm input (gm.withRegistered sessions gates games) []
  | nodesOnline {sessions : InnerNetworkSessionManager} {gates games : List Bytes} {now : UInt64}
      (closed : gm.startup.allNodesOnline = false) :
      StartupStep gm input ((gm.withRegistered sessions gates games).withNodesOnline now) [.allNodeOnline]
  | meshReport {nodeId : Bytes} {reportedAt : UInt64} : StartupStep gm input (gm.markMeshReady nodeId reportedAt) []
  | ownership {nodeId : Bytes} {reportedAt : UInt64} {env : GmEnv} (online : gm.startup.allNodesOnline = true)
      (closed : gm.startup.allExpectedGamesMeshReady = false)
      (complete : (gm.markMeshReady nodeId reportedAt).areAllExpectedGamesMeshReady = true) :
      StartupStep gm input ((gm.markMeshReady nodeId reportedAt).onAllGameReady env).1 [.allGameReady]
  | readyReport {routingId payload : Bytes} {session : InnerNetworkSession} {report : GameServiceReadyReport}
      (arrived : input.Carries routingId payload innerGameServiceReadyReportMsgId)
      (accepted : gm.acceptStubsReadyReport routingId payload = some (session, report)) :
      StartupStep gm input (gm.applyReadyEntries session.nodeId report.entries) []
  | gateOpen {routingId payload : Bytes} {session : InnerNetworkSession} {report : GameServiceReadyReport}
      {now : UInt64} (arrived : input.Carries routingId payload innerGameServiceReadyReportMsgId)
      (accepted : gm.acceptStubsReadyReport routingId payload = some (session, report))
      (closed : gm.startup.gateOpen = false)
      (ready : (gm.applyReadyEntries session.nodeId report.entries).areAllServerStubsReady = true) :
      StartupStep gm input ((gm.applyReadyEntries session.nodeId report.entries).withGateOpen now) [.allStubReady]

theorem StartupStep.refl (gm : GmNode) (input : Input) : StartupStep gm input gm [] := StartupStep.bookkeeping

theorem onAllNodeOnline_open (gm : GmNode) (env : GmEnv) (closed : gm.startup.allNodesOnline = false) :
    (gm.onAllNodeOnline env).1 = gm.withNodesOnline env.laterUnixMs ∧
      phases (gm.onAllNodeOnline env).2 = [.allNodeOnline] := by
  unfold onAllNodeOnline
  rw [if_neg (by simp [closed])]
  refine ⟨rfl, ?_⟩
  simp only [phases_cons_allNodeOnline]
  rw [phases_flatMap _ _ fun session => phases_sendClusterNodesOnlineNotifyToGame _ _ _ _]

theorem recordStartupRegistration_eq (gm : GmNode) (processType : ProcessType) (nodeId : Bytes) :
    ∃ gates games, gm.recordStartupRegistration processType nodeId = gm.withRegistered gm.sessions gates games := by
  unfold recordStartupRegistration
  cases processType with
  | gm => exact ⟨_, _, rfl⟩
  | gate =>
    simp only
    split
    · exact ⟨_, _, rfl⟩
    · exact ⟨_, _, rfl⟩
  | game =>
    simp only
    split
    · exact ⟨_, _, rfl⟩
    · exact ⟨_, _, rfl⟩

theorem completeRegistration_step (gm : GmNode) (input : Input) (env : GmEnv) (routingId : Bytes) (seq : UInt32)
    (registration : InnerNetworkSessionRegistration) (sessions : InnerNetworkSessionManager) :
    StartupStep gm input (gm.completeRegistration env routingId seq registration sessions).1
      (phases (gm.completeRegistration env routingId seq registration sessions).2) := by
  unfold completeRegistration
  simp only
  split
  · exact .bookkeeping
  · split
    · exact .bookkeeping
    · obtain ⟨gates, games, recorded⟩ := recordStartupRegistration_eq
        { gm with sessions := sessions.modify registration.nodeId (applyRegistrationState registration env.nowUnixMs) }
        registration.processType registration.nodeId
      rw [recorded]
      split
      · rename_i opens
        simp only [Bool.and_eq_true, Bool.not_eq_true'] at opens
        obtain ⟨state, events⟩ := onAllNodeOnline_open (gm.withRegistered _ gates games) env opens.1
        simp only [phases_cons_send]
        exact state ▸ events ▸ .nodesOnline opens.1
      · exact .bookkeeping

theorem handleRegisterMessage_step (gm : GmNode) (input : Input) (env : GmEnv) (routingId payload : Bytes) :
    StartupStep gm input (gm.handleRegisterMessage env routingId payload).1
      (phases (gm.handleRegisterMessage env routingId payload).2) := by
  unfold handleRegisterMessage
  split
  · exact .refl gm _
  · simp only
    split
    · simpa using StartupStep.refl gm _
    · split
      · simpa using StartupStep.refl gm _
      · split
        · simpa using StartupStep.refl gm _
        · split
          · simpa using StartupStep.refl gm _
          · exact completeRegistration_step _ _ _ _ _ _ _

theorem handleHeartbeatMessage_step (gm : GmNode) (input : Input) (env : GmEnv) (routingId payload : Bytes) :
    StartupStep gm input (gm.handleHeartbeatMessage env routingId payload).1
      (phases (gm.handleHeartbeatMessage env routingId payload).2) := by
  unfold handleHeartbeatMessage
  split
  · exact .refl gm _
  · split
    · exact .refl gm _
    · split
      · exact .refl gm _
      · rw [phases_sendHeartbeatSuccess]
        exact .bookkeeping

theorem onAllGameReady_phases {gm : GmNode} {env : GmEnv} (closed : gm.startup.allExpectedGamesMeshReady = false) :
    phases (gm.onAllGameReady env).2 = [.allGameReady] := by
  unfold onAllGameReady
  rw [if_neg (by simp [closed])]
  simp only
  split
  · rfl
  · split
    · rfl
    · simp only [phases_cons_allGameReady]
      rw [phases_flatMap _ _ fun session => phases_sendOwnershipSyncToGame _ _ _]

theorem acceptMeshReadyReport_online {gm : GmNode} {routingId payload : Bytes}
    {session : InnerNetworkSession} {report : GameGateMeshReadyReport}
    (h : gm.acceptMeshReadyReport routingId payload = some (session, report)) :
    gm.startup.allNodesOnline = true := by
  simp only [acceptMeshReadyReport, Option.bind_eq_bind, Option.bind_eq_some_iff, Option.guard_eq_some'] at h
  obtain ⟨_, _, _, _, _, _, _, online, _⟩ := h
  exact online

theorem handleGameGateMeshReadyReport_step (gm : GmNode) (input : Input) (env : GmEnv) (routingId payload : Bytes) :
    StartupStep gm input (gm.handleGameGateMeshReadyReport env routingId payload).1
      (phases (gm.handleGameGateMeshReadyReport env routingId payload).2) := by
  unfold handleGameGateMeshReadyReport
  split
  · exact .refl gm _
  · rename_i session report accepted
    simp only
    split
    · rename_i opens
      simp only [Bool.and_eq_true, Bool.not_eq_true'] at opens
      rw [onAllGameReady_phases opens.1]
      exact .ownership (acceptMeshReadyReport_online accepted) opens.1 opens.2
    · exact .meshReport

theorem onAllStubReady_open {gm : GmNode} (env : GmEnv) (closed : gm.startup.gateOpen = false)
    (ready : gm.areAllServerStubsReady = true) :
    (gm.onAllStubReady env).1 = gm.withGateOpen env.laterUnixMs ∧
      phases (gm.onAllStubReady env).2 = [.allStubReady] := by
  unfold onAllStubReady
  rw [if_neg (by simp [closed, ready])]
  refine ⟨rfl, ?_⟩
  simp only [phases_cons_allStubReady]
  rw [phases_flatMap _ _ fun session => phases_sendClusterGateOpenNotifyToGate _ _ _]

theorem handleGameStubsReadyReport_step (gm : GmNode) (input : Input) (env : GmEnv) (routingId payload : Bytes)
    (arrived : input.Carries routingId payload innerGameServiceReadyReportMsgId) :
    StartupStep gm input (gm.handleGameStubsReadyReport env routingId payload).1
      (phases (gm.handleGameStubsReadyReport env routingId payload).2) := by
  unfold handleGameStubsReadyReport
  split
  · exact .refl gm _
  · rename_i session report accepted
    simp only
    split
    · rename_i opens
      simp only [Bool.and_eq_true, Bool.not_eq_true'] at opens
      obtain ⟨state, events⟩ := onAllStubReady_open env opens.1 opens.2
      rw [state, events]
      exact .gateOpen arrived accepted opens.1 opens.2
    · exact .readyReport arrived accepted

/-- **Every input is a `StartupStep`.** -/
theorem step_startupStep (gm : GmNode) (i : Input) : StartupStep gm i (gm.step i).1 (phases (gm.step i).2) := by
  cases i with
  | message env routingId payload =>
    simp only [step, handleInnerMessage]
    split
    · exact .refl gm _
    · rename_i raw read
      split
      · exact handleRegisterMessage_step gm _ env routingId payload
      · split
        · exact handleHeartbeatMessage_step gm _ env routingId payload
        · split
          · exact handleGameGateMeshReadyReport_step gm _ env routingId payload
          · split
            · rename_i report
              exact handleGameStubsReadyReport_step gm _ env routingId payload ⟨⟨env, rfl⟩, raw, read, report⟩
            · exact .refl gm _
  | timeoutScan env => exact .bookkeeping
  | peerDisconnected routingId => exact .refl gm _

/-! ## The ownership phase -/

theorem readReflectionEntries_unowned {pairs : List (Bytes × Bytes)} {entries result : List ServerStubEntry}
    (h : readReflectionEntries pairs entries = some result) (unowned : ∀ e ∈ entries, e.ownerGameNodeId = []) :
    ∀ e ∈ result, e.ownerGameNodeId = [] := by
  induction pairs generalizing entries with
  | nil => cases h; exact unowned
  | cons pair rest ih =>
    rw [readReflectionEntries] at h
    obtain ⟨-, h⟩ := Option.ite_none_left_eq_some.mp h
    obtain ⟨-, h⟩ := Option.ite_none_left_eq_some.mp h
    refine ih h fun e mem => ?_
    rcases List.mem_append.mp mem with mem | mem
    · exact unowned e mem
    · rw [List.mem_singleton.mp mem]

/-- From an untouched table, loading leaves either no entries or unowned ones. -/
theorem loadManagedServerStubReflection_untouched (reflection : Option (List (Bytes × Bytes))) :
    (∃ table, loadManagedServerStubReflection {} reflection = (false, table) ∧ table.entries = []) ∨
    (∃ table, loadManagedServerStubReflection {} reflection = (true, table) ∧
      ∀ e ∈ table.entries, e.ownerGameNodeId = []) := by
  unfold loadManagedServerStubReflection
  simp only [Bool.false_eq_true, if_false]
  split
  · exact .inl ⟨_, rfl, rfl⟩
  · exact .inl ⟨_, rfl, rfl⟩
  · split
    · exact .inl ⟨_, rfl, rfl⟩
    · rename_i entries read
      refine .inr ⟨_, rfl, fun e mem => ?_⟩
      obtain ⟨e', mem', rfl⟩ := List.mem_map.mp mem
      exact readReflectionEntries_unowned read (by simp) e' mem'

theorem assignOwners_owned {games : List GameMeshReadyEntry} {distribution : Nat → Nat}
    {entries : List ServerStubEntry} (some_game : games ≠ []) :
    ∀ e ∈ assignOwners games distribution entries, e.ownerGameNodeId ∈ games.map (·.nodeId) := by
  intro e mem
  obtain ⟨i, bound, rfl⟩ := List.mem_iff_getElem.mp mem
  simp only [assignOwners, List.getElem_mapIdx]
  have index : distribution i % games.length < games.length :=
    Nat.mod_lt _ (List.length_pos_of_ne_nil some_game)
  rw [List.getElem?_eq_getElem index]
  exact List.mem_map_of_mem (List.getElem_mem index)

theorem resetServerStubStates_assigned {games : List Bytes} (table : ServerStubStateTable)
    (owned : ∀ e ∈ table.entries, e.ownerGameNodeId ∈ games) :
    Assigned games { table with entries := resetServerStubStates table.entries } := by
  intro e mem
  obtain ⟨e', mem', rfl⟩ := List.mem_map.mp mem
  exact ⟨owned e' mem', rfl, rfl⟩

/-- The ownership phase assigns every stub to an expected Game, or leaves no stub. -/
theorem onAllGameReady_assigned (gm : GmNode) (env : GmEnv)
    (closed : gm.startup.allExpectedGamesMeshReady = false) (untouched : gm.stubs = {})
    (some_game : gm.startup.expectedGameEntries ≠ []) :
    ∃ table, (gm.onAllGameReady env).1 = gm.withOwnership table ∧ Assigned gm.expectedGameNodeIds table := by
  unfold onAllGameReady
  rw [if_neg (by simp [closed])]
  simp only [ensureServerStubAssignments, untouched]
  rcases loadManagedServerStubReflection_untouched env.reflection with ⟨table, load, empty⟩ | ⟨table, load, unowned⟩
  · rw [load]
    exact ⟨table, rfl, by simp [Assigned, empty]⟩
  · rw [load]
    simp only
    by_cases none : table.entries.isEmpty = true
    · rw [if_pos (by simp [none])]
      have empty : table.entries = [] := List.isEmpty_iff.mp none
      exact ⟨table, rfl, by simp [Assigned, empty]⟩
    · have games : gm.startup.expectedGameEntries.isEmpty = false := by simpa using some_game
      have loose : ¬ (table.entries.all fun entry => entry.ownerGameNodeId != []) = true := by
        intro all
        obtain ⟨e, mem⟩ := List.exists_mem_of_ne_nil _ (by simpa using none)
        have owned := List.all_eq_true.mp all e mem
        rw [unowned e mem] at owned
        cases owned
      rw [if_neg (by simp [none, games]), if_neg loose]
      simp only
      have assigned := resetServerStubStates_assigned { table with
        entries := assignOwners gm.startup.expectedGameEntries env.distribution table.entries }
        (assignOwners_owned some_game)
      split <;> exact ⟨_, rfl, assigned⟩

/-! ## The ready reports -/

/-- What a report leaves of a stub entry. -/
structure Settled (before after : ServerStubEntry) : Prop where
  type : after.entityType = before.entityType
  owner : after.ownerGameNodeId = before.ownerGameNodeId
  ready : before.state = .ready → after.state = .ready ∧ after.entityId = before.entityId

theorem Settled.refl (e : ServerStubEntry) : Settled e e := ⟨rfl, rfl, fun h => ⟨h, rfl⟩⟩

theorem Settled.trans {a b c : ServerStubEntry} (ab : Settled a b) (bc : Settled b c) : Settled a c where
  type := bc.type.trans ab.type
  owner := bc.owner.trans ab.owner
  ready := fun ready =>
    have mid := ab.ready ready
    have last := bc.ready mid.1
    ⟨last.1, last.2.trans mid.2⟩

/-- Entries that are ready have a real id. -/
def ReadyNamed (entries : List ServerStubEntry) : Prop :=
  ∀ e ∈ entries, e.state = .ready → e.entityId ≠ [] ∧ e.entityId ≠ unknownServerEntityId

theorem applyReadyEntry_named {nodeId : Bytes} {entries : List ServerStubEntry} (ready : ServerStubReadyEntry)
    (named : ReadyNamed entries) : ReadyNamed (applyReadyEntry nodeId entries ready) := by
  unfold applyReadyEntry
  split
  · exact named
  · split
    · exact named
    · rename_i real
      intro e mem isReady
      rcases mem_modifyFirst mem with mem | ⟨a, -, -, rfl⟩
      · exact named e mem isReady
      · simpa using real

theorem applyReadyEntry_settled (nodeId : Bytes) {entries : List ServerStubEntry} (ready : ServerStubReadyEntry)
    (named : ReadyNamed entries) :
    List.Forall₂ (fun a b => a ∈ entries → Settled a b) entries (applyReadyEntry nodeId entries ready) := by
  unfold applyReadyEntry
  split
  · exact List.forall₂_same.mpr fun a _ _ => Settled.refl a
  · split
    · exact List.forall₂_same.mpr fun a _ _ => Settled.refl a
    · refine forall₂_modifyFirst (fun a _ => Settled.refl a) (fun a found mem => ?_) entries
      simp only [Bool.and_eq_true, Bool.or_eq_true, beq_iff_eq] at found
      refine ⟨rfl, rfl, fun isReady => ⟨rfl, ?_⟩⟩
      rcases found.2.2 with same | same
      · exact absurd same (named a mem isReady).2
      · exact same.symm

theorem applyReadyEntries_spec (nodeId : Bytes) (ready : List ServerStubReadyEntry) {entries : List ServerStubEntry}
    (named : ReadyNamed entries) :
    ReadyNamed (ready.foldl (applyReadyEntry nodeId) entries) ∧
      List.Forall₂ Settled entries (ready.foldl (applyReadyEntry nodeId) entries) := by
  induction ready generalizing entries with
  | nil => exact ⟨named, List.forall₂_same.mpr fun a _ => Settled.refl a⟩
  | cons r rest ih =>
    obtain ⟨named', settled⟩ := ih (applyReadyEntry_named r named)
    refine ⟨named', ?_⟩
    have first := applyReadyEntry_settled nodeId r named
    rw [List.forall₂_iff_get] at first settled ⊢
    refine ⟨first.1.trans settled.1, fun i hi hj => ?_⟩
    have mid : i < (applyReadyEntry nodeId entries r).length := first.1 ▸ hi
    exact (first.2 i hi mid (List.getElem_mem hi)).trans (settled.2 i mid hj)

/-! ## The invariant -/

/-- The startup phases open in order, and the stub table follows them. -/
structure StartupInv (gm : GmNode) : Prop where
  gamesBeforeGate : gm.startup.gateOpen = true → gm.startup.allExpectedGamesMeshReady = true
  nodesBeforeGames : gm.startup.allExpectedGamesMeshReady = true → gm.startup.allNodesOnline = true
  epoch : gm.startup.readyEpoch = if gm.startup.gateOpen then 1 else 0
  untouched : gm.startup.allExpectedGamesMeshReady = false → gm.stubs = {}
  owners : ∀ e ∈ gm.stubs.entries, e.ownerGameNodeId ∈ gm.expectedGameNodeIds
  named : ReadyNamed gm.stubs.entries
  openReady : gm.startup.gateOpen = true → gm.areAllServerStubsReady = true

theorem init_startupInv (gates games : List Bytes) : StartupInv (GmNode.init gates games) := by
  refine ⟨by simp [GmNode.init], by simp [GmNode.init], rfl, fun _ => rfl, ?_, ?_, by simp [GmNode.init]⟩ <;>
    intro e mem <;> cases mem

@[simp] theorem expectedGameNodeIds_markMeshReady (gm : GmNode) (nodeId : Bytes) (at' : UInt64) :
    (gm.markMeshReady nodeId at').expectedGameNodeIds = gm.expectedGameNodeIds := by
  simp only [expectedGameNodeIds, markMeshReady]
  generalize gm.startup.expectedGameEntries = entries
  induction entries with
  | nil => rfl
  | cons a as ih =>
    unfold modifyFirst
    split
    · rfl
    · simp [ih]

theorem acceptStubsReadyReport_some {gm : GmNode} {routingId payload : Bytes}
    {session : InnerNetworkSession} {report : GameServiceReadyReport}
    (h : gm.acceptStubsReadyReport routingId payload = some (session, report)) :
    ∃ packet, reportEnvelope payload = some packet ∧ decodeGameServiceReadyReport packet.payload = .ok report ∧
      gm.registeredGame routingId = some session ∧ gm.startup.allExpectedGamesMeshReady = true ∧
      gm.ownershipActive = true ∧ report.assignmentEpoch = serverStubOwnershipAssignmentEpoch := by
  simp only [acceptStubsReadyReport, Option.bind_eq_bind, Option.bind_eq_some_iff, Option.guard_eq_some',
    Option.some.injEq, Prod.mk.injEq] at h
  obtain ⟨packet, envelope, report', decoded, session', found, _, active, _, epoch, _, _, _, _, rfl, rfl⟩ := h
  refine ⟨packet, envelope, ?_, found, active.1, active.2, epoch⟩
  cases d : decodeGameServiceReadyReport packet.payload with
  | error e => rw [d] at decoded; cases decoded
  | ok r => rw [d] at decoded; cases decoded; rfl

/-- Owners survive a report. -/
theorem owners_of_settled {gm : GmNode} (inv : StartupInv gm) {entries : List ServerStubEntry}
    (settled : List.Forall₂ Settled gm.stubs.entries entries) :
    ∀ e ∈ entries, e.ownerGameNodeId ∈ gm.expectedGameNodeIds := by
  rw [List.forall₂_iff_get] at settled
  intro e mem
  obtain ⟨i, bound, rfl⟩ := List.mem_iff_getElem.mp mem
  have old : i < gm.stubs.entries.length := settled.1 ▸ bound
  have same : entries[i].ownerGameNodeId = gm.stubs.entries[i].ownerGameNodeId := (settled.2 i old bound).owner
  rw [same]
  exact inv.owners _ (List.getElem_mem old)

/-- Readiness of all stubs survives a report: a ready stub stays ready. -/
theorem areAllServerStubsReady_applyReadyEntries {gm : GmNode} (inv : StartupInv gm) (nodeId : Bytes)
    (ready : List ServerStubReadyEntry) (all : gm.areAllServerStubsReady = true) :
    (gm.applyReadyEntries nodeId ready).areAllServerStubsReady = true := by
  have settled := (applyReadyEntries_spec nodeId ready inv.named).2
  rw [List.forall₂_iff_get] at settled
  simp only [areAllServerStubsReady, Bool.and_eq_true, Bool.not_eq_true', List.all_eq_true, bne_iff_ne,
    beq_iff_eq, ne_eq] at all ⊢
  obtain ⟨nonempty, each⟩ := all
  constructor
  · have pos : gm.stubs.entries.length ≠ 0 := by simpa using nonempty
    simpa [applyReadyEntries, ← List.length_eq_zero_iff, ← settled.1] using pos
  · intro e mem
    obtain ⟨i, bound, rfl⟩ := List.mem_iff_getElem.mp mem
    have old : i < gm.stubs.entries.length := settled.1 ▸ bound
    have before := each _ (List.getElem_mem old)
    have after := settled.2 i old bound
    exact ⟨fun none => before.1 (after.owner.symm.trans none), (after.ready before.2).1⟩

/-- The ownership phase of an invariant state. -/
theorem onAllGameReady_opens {gm : GmNode} (inv : StartupInv gm) (nodeId : Bytes) (reportedAt : UInt64) (env : GmEnv)
    (closed : gm.startup.allExpectedGamesMeshReady = false)
    (complete : (gm.markMeshReady nodeId reportedAt).areAllExpectedGamesMeshReady = true) :
    ∃ table, ((gm.markMeshReady nodeId reportedAt).onAllGameReady env).1 =
        (gm.markMeshReady nodeId reportedAt).withOwnership table ∧ Assigned gm.expectedGameNodeIds table := by
  have some_game : (gm.markMeshReady nodeId reportedAt).startup.expectedGameEntries ≠ [] := by
    intro none
    simp [areAllExpectedGamesMeshReady, none] at complete
  have opened := onAllGameReady_assigned (gm.markMeshReady nodeId reportedAt) env closed (inv.untouched closed) some_game
  rwa [expectedGameNodeIds_markMeshReady] at opened

theorem StartupStep.inv {gm gm' : GmNode} {i : Input} {ps : List GmEvent} (h : StartupStep gm i gm' ps) (inv : StartupInv gm) :
    StartupInv gm' := by
  cases h with
  | bookkeeping => exact ⟨inv.1, inv.2, inv.3, inv.4, inv.5, inv.6, inv.7⟩
  | nodesOnline closed => exact ⟨inv.1, fun _ => rfl, inv.3, inv.4, inv.5, inv.6, inv.7⟩
  | meshReport =>
    refine ⟨inv.1, inv.2, inv.3, inv.4, ?_, inv.6, inv.7⟩
    rw [expectedGameNodeIds_markMeshReady]
    exact inv.5
  | @ownership nodeId reportedAt env online closed complete =>
    obtain ⟨table, state, assigned⟩ := onAllGameReady_opens inv nodeId reportedAt env closed complete
    rw [← expectedGameNodeIds_markMeshReady gm nodeId reportedAt] at assigned
    have gateClosed : gm.startup.gateOpen = false := by
      cases gate : gm.startup.gateOpen with
      | false => rfl
      | true => rw [inv.gamesBeforeGate gate] at closed; cases closed
    rw [state]
    refine ⟨fun _ => rfl, fun _ => online, inv.3, fun h => (by cases h), fun e mem => (assigned e mem).1, ?_, ?_⟩
    · intro e mem isReady
      rw [(assigned e mem).2.2] at isReady
      cases isReady
    · intro isOpen
      exact absurd (isOpen.symm.trans gateClosed) (by simp)
  | @readyReport routingId payload session report arrived accepted =>
    obtain ⟨-, -, -, -, ready, -⟩ := acceptStubsReadyReport_some accepted
    obtain ⟨named, settled⟩ := applyReadyEntries_spec session.nodeId report.entries inv.named
    exact ⟨inv.1, inv.2, inv.3, fun closed => absurd (ready.symm.trans closed) (by simp),
      owners_of_settled inv settled, named,
      fun isOpen => areAllServerStubsReady_applyReadyEntries inv _ _ (inv.openReady isOpen)⟩
  | @gateOpen routingId payload session report now arrived accepted closed allReady =>
    obtain ⟨-, -, -, -, ready, -⟩ := acceptStubsReadyReport_some accepted
    obtain ⟨named, settled⟩ := applyReadyEntries_spec session.nodeId report.entries inv.named
    refine ⟨fun _ => ready, inv.2, ?_, fun closed => absurd (ready.symm.trans closed) (by simp),
      owners_of_settled inv settled, named, fun _ => allReady⟩
    have zero : gm.startup.readyEpoch = 0 := by rw [inv.epoch, closed]; rfl
    simp [withGateOpen, applyReadyEntries, zero]

theorem step_startupInv (gm : GmNode) (i : Input) (inv : StartupInv gm) : StartupInv (machine.step gm i).1 :=
  (step_startupStep gm i).inv inv

/-! ## Two states of one run -/

/-- What holds between a state of a run and any later one. -/
structure Advances (before after : GmNode) : Prop where
  nodes : before.startup.allNodesOnline = true → after.startup.allNodesOnline = true
  games : before.startup.allExpectedGamesMeshReady = true → after.startup.allExpectedGamesMeshReady = true
  gate : before.startup.gateOpen = true → after.startup.gateOpen = true
  stubs : before.stubs.entries = [] ∨ List.Forall₂ Settled before.stubs.entries after.stubs.entries

theorem forall₂_settled_refl (entries : List ServerStubEntry) : List.Forall₂ Settled entries entries :=
  List.forall₂_same.mpr fun e _ => Settled.refl e

theorem Advances.refl (gm : GmNode) : Advances gm gm := ⟨id, id, id, .inr (forall₂_settled_refl _)⟩

theorem Advances.trans (a b c : GmNode) (ab : Advances a b) (bc : Advances b c) : Advances a c := by
  refine ⟨bc.nodes ∘ ab.nodes, bc.games ∘ ab.games, bc.gate ∘ ab.gate, ?_⟩
  rcases ab.stubs with empty | first
  · exact .inl empty
  · rcases bc.stubs with empty | second
    · rw [empty] at first
      exact .inl (List.forall₂_nil_right_iff.mp first)
    · exact .inr (forall₂_trans (R := Settled) Settled.trans first second)

theorem StartupStep.advances {gm gm' : GmNode} {i : Input} {ps : List GmEvent} (h : StartupStep gm i gm' ps)
    (inv : StartupInv gm) : Advances gm gm' := by
  cases h with
  | bookkeeping => exact ⟨id, id, id, .inr (forall₂_settled_refl _)⟩
  | nodesOnline closed => exact ⟨fun _ => rfl, id, id, .inr (forall₂_settled_refl _)⟩
  | meshReport => exact ⟨id, id, id, .inr (forall₂_settled_refl _)⟩
  | @ownership nodeId reportedAt env online closed complete =>
    obtain ⟨table, state, -⟩ := onAllGameReady_opens inv nodeId reportedAt env closed complete
    rw [state]
    exact ⟨id, fun _ => rfl, id, .inl (by rw [inv.untouched closed])⟩
  | @readyReport routingId payload session report arrived accepted =>
    exact ⟨id, id, id, .inr (applyReadyEntries_spec _ report.entries inv.named).2⟩
  | @gateOpen routingId payload session report now arrived accepted closed allReady =>
    exact ⟨id, id, fun _ => rfl, .inr (applyReadyEntries_spec _ report.entries inv.named).2⟩

/-! ## Phases are entered once -/

/-- The phase events so far, counted against the flags. -/
structure PhaseCount (gm : GmNode) (trace : List GmEvent) : Prop where
  inv : StartupInv gm
  nodes : trace.count .allNodeOnline = gm.startup.allNodesOnline.toNat
  games : trace.count .allGameReady = gm.startup.allExpectedGamesMeshReady.toNat
  gate : trace.count .allStubReady = gm.startup.gateOpen.toNat

theorem count_phases {e : GmEvent} (phase : ∀ routingId packet, e ≠ .send routingId packet)
    (events : List GmEvent) : (phases events).count e = events.count e := by
  unfold phases
  rw [List.count_filter]
  cases e with
  | send routingId packet => exact absurd rfl (phase routingId packet)
  | allNodeOnline => rfl
  | allGameReady => rfl
  | allStubReady => rfl

/-- A phase begins exactly when its flag is set. -/
theorem StartupStep.phaseCount {gm gm' : GmNode} {i : Input} {ps trace : List GmEvent} (h : StartupStep gm i gm' ps)
    (count : PhaseCount gm trace) : PhaseCount gm' (trace ++ ps) := by
  obtain ⟨inv, nodes, games, gate⟩ := count
  refine ⟨h.inv inv, ?_, ?_, ?_⟩ <;> rw [List.count_append]
  all_goals cases h with
    | @ownership nodeId reportedAt env online closed complete =>
      obtain ⟨table, state, -⟩ := onAllGameReady_opens inv nodeId reportedAt env closed complete
      simp_all [withOwnership, markMeshReady]
    | _ => simp_all [withRegistered, withNodesOnline, markMeshReady, applyReadyEntries, withGateOpen]

theorem step_phaseCount (gm : GmNode) (trace : List GmEvent) (i : Input) (h : PhaseCount gm trace) :
    PhaseCount (machine.step gm i).1 (trace ++ (machine.step gm i).2) := by
  obtain ⟨inv, nodes, games, gate⟩ := (step_startupStep gm i).phaseCount h
  rw [List.count_append, count_phases (by simp)] at nodes games gate
  exact ⟨inv, by rw [List.count_append]; exact nodes, by rw [List.count_append]; exact games,
    by rw [List.count_append]; exact gate⟩

/-! ## Every run -/

/-- The startup aggregate at a state of a run, at any later state of it, and in
the trace up to the later one. -/
structure MonotoneStartup (gm later : GmNode) (trace : List GmEvent) : Prop where
  gameBeforeGate : gm.startup.gateOpen = true → gm.startup.allExpectedGamesMeshReady = true
  nodesBeforeGame : gm.startup.allExpectedGamesMeshReady = true → gm.startup.allNodesOnline = true
  nodesStay : gm.startup.allNodesOnline = true → later.startup.allNodesOnline = true
  gamesStay : gm.startup.allExpectedGamesMeshReady = true → later.startup.allExpectedGamesMeshReady = true
  gateStays : gm.startup.gateOpen = true → later.startup.gateOpen = true
  readyEpoch : gm.startup.readyEpoch = if gm.startup.gateOpen then 1 else 0
  nodesOnce : trace.count .allNodeOnline ≤ 1
  gamesOnce : trace.count .allGameReady ≤ 1
  gateOnce : trace.count .allStubReady ≤ 1
  ownerFinal : ∀ (i : Nat) (entry : ServerStubEntry), gm.stubs.entries[i]? = some entry → entry.ownerGameNodeId ≠ [] →
    ∃ entry', later.stubs.entries[i]? = some entry' ∧ entry'.entityType = entry.entityType ∧
      entry'.ownerGameNodeId = entry.ownerGameNodeId
  readyFinal : ∀ (i : Nat) (entry : ServerStubEntry), gm.stubs.entries[i]? = some entry → entry.state = .ready →
    ∃ entry', later.stubs.entries[i]? = some entry' ∧ entry'.entityType = entry.entityType ∧
      entry'.state = .ready ∧ entry'.entityId = entry.entityId

theorem Advances.entry {gm later : GmNode} (h : Advances gm later) {i : Nat} {entry : ServerStubEntry}
    (found : gm.stubs.entries[i]? = some entry) :
    ∃ entry', later.stubs.entries[i]? = some entry' ∧ Settled entry entry' := by
  rcases h.stubs with empty | settled
  · rw [empty] at found
    cases found
  · rw [List.forall₂_iff_get] at settled
    obtain ⟨bound, rfl⟩ := List.getElem?_eq_some_iff.mp found
    have bound' : i < later.stubs.entries.length := settled.1 ▸ bound
    exact ⟨_, List.getElem?_eq_getElem bound', settled.2 i bound bound'⟩

/-- **The startup state is a monotone chain.** For every sequence of inner
messages, timer ticks and disconnects the GM processes. -/
theorem startup_monotone (gates games : List Bytes) (is js : List Input) :
    MonotoneStartup (machine.run (GmNode.init gates games) is).1
      (machine.run (machine.run (GmNode.init gates games) is).1 js).1
      (machine.run (GmNode.init gates games) (is ++ js)).2 := by
  have inv : StartupInv (machine.run (GmNode.init gates games) is).1 :=
    Machine.invariant step_startupInv (init_startupInv gates games) ⟨is, rfl⟩
  have advances := Machine.run_relates Advances.refl Advances.trans step_startupInv
    (fun gm i inv => (step_startupStep gm i).advances inv) inv js
  have start : PhaseCount (GmNode.init gates games) [] := ⟨init_startupInv gates games, rfl, rfl, rfl⟩
  have count := Machine.run_trace step_phaseCount start (is ++ js)
  rw [List.nil_append] at count
  refine ⟨inv.gamesBeforeGate, inv.nodesBeforeGames, advances.nodes, advances.games, advances.gate, inv.epoch,
    ?_, ?_, ?_, ?_, ?_⟩
  · exact count.nodes ▸ Bool.toNat_le _
  · exact count.games ▸ Bool.toNat_le _
  · exact count.gate ▸ Bool.toNat_le _
  · intro i entry found _
    obtain ⟨entry', found', settled⟩ := advances.entry found
    exact ⟨entry', found', settled.type, settled.owner⟩
  · intro i entry found ready
    obtain ⟨entry', found', settled⟩ := advances.entry found
    exact ⟨entry', found', settled.type, settled.ready ready⟩

end GmNode

end XServer.Node
