import XServer.Node.GameMesh
import XServer.Node.GameProvenance

/-!
# Ownership and ready stubs of a Game

`StubStep` says what a handler call does to the stub state: a sync is applied or a
ready callback stored, and then the ready stubs are counted, which may send one
report. Over every run the ownership is that of the last applied sync, and as long
as no sync changes it at most one report goes out (`ownership_laws`). Whether a
report is complete is judged by counting; `reports_complete_iff` says when that is
right.
-/

namespace XServer.Node.GameNode
open XServer.Lib XServer.Lib.Wire XServer.Net XServer.Core

/-! ## What a step does to the stub state -/

/-- The syncs applied and the reports sent. -/
def stubEvents (events : List GameEvent) : List GameEvent := events.filter fun event => decide event.OfStubs

@[simp] theorem stubEvents_append (events more : List GameEvent) :
    stubEvents (events ++ more) = stubEvents events ++ stubEvents more := List.filter_append ..

theorem stubEvents_sent (peer : Bytes) (packet : Option Bytes) : stubEvents (GameEvent.sent peer packet) = [] := by
  cases packet with
  | none => rfl
  | some packet => rfl

/-- The stub state is as before, and no sync is applied and no report sent. -/
structure NoStubs (game : GameNode) (result : GameNode × List GameEvent) : Prop where
  same : SameStubs game result.1
  silent : stubEvents result.2 = []

theorem NoStubs.refl (game : GameNode) : NoStubs game (game, []) := ⟨⟨rfl, rfl, rfl, rfl⟩, rfl⟩

/-- The ready stubs are counted: nothing happens, or the report of this epoch goes
out for the first time. -/
inductive Checked (game : GameNode) : GameNode × List GameEvent → Prop where
  | silent {result : GameNode × List GameEvent} (none : NoStubs game result) : Checked game result
  | reported {game' : GameNode} {events : List GameEvent} {lastReportedAt : UInt64} (env : GameEnv)
      (complete : LocalStubsReady game)
      (unreported : game.serviceReady.lastReportedAssignmentEpoch ≠ game.ownership.assignmentEpoch)
      (stubs : stubEvents events = [.reported (game.serviceReadyReport env)]) (nodeId : game'.nodeId = game.nodeId)
      (ownership : game'.ownership = game.ownership)
      (serviceReady : game'.serviceReady = { game.serviceReady with
        lastReportedAssignmentEpoch := game.ownership.assignmentEpoch, lastReportedAtUnixMs := lastReportedAt }) :
      Checked game (game', events)

/-- A handler without stub events before the count. -/
theorem Checked.after {game : GameNode} {first second : GameNode × List GameEvent} (h : Checked first.1 second)
    (quiet : NoStubs game first) : Checked game (second.1, first.2 ++ second.2) := by
  obtain ⟨⟨sameId, sameOwned, sameReady, sameExports⟩, silent⟩ := quiet
  cases h with
  | silent none =>
    obtain ⟨same, silent'⟩ := none
    refine .silent ⟨⟨same.nodeId.trans sameId, same.ownership.trans sameOwned, same.serviceReady.trans sameReady,
      same.exports.trans sameExports⟩, ?_⟩
    rw [stubEvents_append, silent, silent']
    rfl
  | @reported game' events lastReportedAt env complete unreported stubs nodeId ownership serviceReady =>
    have report : first.1.serviceReadyReport env = game.serviceReadyReport env := by
      unfold serviceReadyReport
      rw [sameOwned, sameReady]
    obtain ⟨epoch, owned, count⟩ := complete
    rw [sameOwned] at epoch owned count unreported ownership serviceReady
    rw [sameReady] at count unreported serviceReady
    refine .reported env ⟨epoch, owned, count⟩ unreported ?_ (nodeId.trans sameId) ownership serviceReady
    rw [stubEvents_append, silent, stubs, report]
    rfl

/-- An epoch that was reported is not reported again. -/
theorem Checked.settled {game : GameNode} {result : GameNode × List GameEvent} (h : Checked game result)
    (reported : game.serviceReady.lastReportedAssignmentEpoch = game.ownership.assignmentEpoch) :
    NoStubs game result := by
  cases h with
  | silent none => exact none
  | reported env complete unreported => exact absurd reported unreported

theorem Act.checked {origin game game' : GameNode} {input : Input} {events : List GameEvent}
    (act : Act origin input game events game') : Checked game (game', events) := by
  cases act with
  | link found op => exact .silent ⟨⟨rfl, rfl, rfl, rfl⟩, stubEvents_sent ..⟩
  | online serverNowUnixMs => exact .silent ⟨⟨rfl, rfl, rfl, rfl⟩, rfl⟩
  | @mesh env looked unlatched complete =>
    rcases game.latch.sendMeshReadyReport_cases env with ⟨packet, -, sent⟩ | unsent
    · rw [sent]
      exact .silent ⟨⟨rfl, rfl, rfl, rfl⟩, rfl⟩
    · rw [unsent]
      exact .silent ⟨⟨rfl, rfl, rfl, rfl⟩, rfl⟩
  | @report env packet body latched complete unreported encoded decoded =>
    exact .reported env complete unreported rfl rfl rfl rfl

/-- Acts report the ready stubs of one epoch at most once. -/
theorem Acts.checked {origin game : GameNode} {input : Input} {result : GameNode × List GameEvent}
    (acts : Acts origin input game result) : Checked game result := by
  refine @Steps.trace _ _ _ (fun s t => Checked game (s, t)) (fun s t es u h act => ?_) _ _ [] _ acts (.silent (.refl game))
  cases h with
  | silent none => exact act.checked.after none
  | @reported _ _ lastReportedAt env complete unreported stubs nodeId ownership serviceReady =>
    -- the epoch was reported before this act
    obtain ⟨same, silent⟩ := act.checked.settled (by rw [serviceReady, ownership])
    refine .reported env complete unreported ?_ (same.nodeId.trans nodeId) (same.ownership.trans ownership)
      (same.serviceReady.trans serviceReady)
    rw [stubEvents_append, stubs, silent]
    rfl

/-- What an input does to the stub state. -/
inductive StubStep (game : GameNode) (input : Input) : GameNode × List GameEvent → Prop where
  | other {result : GameNode × List GameEvent} (checked : Checked game result) : StubStep game input result
  | applied {sync : ServerStubOwnershipSync} {result : GameNode × List GameEvent}
      (brought : game.ownershipSyncOf input = some sync) (checked : Checked (game.createAllLocalStubs sync) result) :
      StubStep game input (result.1, .applied sync :: result.2)
  | ready {env : GameEnv} {assignmentEpoch : UInt64} {entry : ManagedServerStubReadyEntry}
      {result : GameNode × List GameEvent} (arrived : input = .serverStubReady env assignmentEpoch entry)
      (taken : game.takesReady assignmentEpoch entry = true)
      (checked : Checked { game with serviceReady := { game.serviceReady with
        readyEntries := upsertReadyEntry game.serviceReady.readyEntries entry.toReadyEntry } } result) :
      StubStep game input result

/-- **What a step does to the stub state.** -/
theorem step_stubs (game : GameNode) (input : Input) : StubStep game input (game.step input) := by
  have handled := step_handled game input
  generalize game.step input = result at handled ⊢
  obtain ⟨opening, acts⟩ := handled
  have checked := acts.checked
  cases opening with
  | nothing => exact .other checked
  | @state env peer state session found passed =>
    exact .other (@Checked.after game (_, []) _ checked ⟨⟨rfl, rfl, rfl, rfl⟩, rfl⟩)
  | @reset env peer state session found isGate down =>
    exact .other (@Checked.after game (_, []) _ checked ⟨⟨rfl, rfl, rfl, rfl⟩, rfl⟩)
  | apply latched brought => exact .applied brought checked
  | ready taken => exact .ready rfl taken checked

/-! ## The ownership that a trace tells of -/

/-- What a Game owns after it applied a sync. -/
def ownershipOf (nodeId : Bytes) (sync : ServerStubOwnershipSync) : OwnershipState where
  assignmentEpoch := sync.assignmentEpoch
  serverNowUnixMs := sync.serverNowUnixMs
  assignments := sync.assignments
  ownedAssignments := sync.assignments.filter fun assignment => assignment.ownerGameNodeId == nodeId

def ownershipOn (nodeId : Bytes) (ownership : OwnershipState) : GameEvent → OwnershipState
  | .applied sync => ownershipOf nodeId sync
  | .reported _ => ownership
  | .send _ _ => ownership

/-- The ownership of the last applied sync. -/
def ownershipAfter (nodeId : Bytes) (ownership : OwnershipState) (events : List GameEvent) : OwnershipState :=
  events.foldl (ownershipOn nodeId) ownership

/-- The sync leaves the epoch and the owned assignments as they are. -/
def SameOwnership (nodeId : Bytes) (ownership : OwnershipState) (sync : ServerStubOwnershipSync) : Prop :=
  sync.assignmentEpoch = ownership.assignmentEpoch ∧
    (ownershipOf nodeId sync).ownedAssignments = ownership.ownedAssignments

instance (nodeId : Bytes) (ownership : OwnershipState) (sync : ServerStubOwnershipSync) :
    Decidable (SameOwnership nodeId ownership sync) := inferInstanceAs (Decidable (_ ∧ _))

/-- No sync among these events changes the epoch or the owned assignments. -/
def Unchanging (nodeId : Bytes) (ownership : OwnershipState) : List GameEvent → Prop
  | [] => True
  | .applied sync :: events => SameOwnership nodeId ownership sync ∧ Unchanging nodeId (ownershipOf nodeId sync) events
  | .reported _ :: events => Unchanging nodeId ownership events
  | .send _ _ :: events => Unchanging nodeId ownership events

def isReport : GameEvent → Bool
  | .send _ _ => false
  | .applied _ => false
  | .reported _ => true

/-- Between syncs that change the ownership at most one report is sent. -/
def OneReport (nodeId : Bytes) (trace : List GameEvent) : Prop :=
  ∀ before middle after, trace = before ++ middle ++ after →
    Unchanging nodeId (ownershipAfter nodeId {} before) middle → (middle.filter isReport).length ≤ 1

/-- The ownership, and whether a report was sent since it last changed. -/
def reportOn (nodeId : Bytes) (view : OwnershipState × Bool) : GameEvent → OwnershipState × Bool
  | .applied sync => (ownershipOf nodeId sync, view.2 && decide (SameOwnership nodeId view.1 sync))
  | .reported _ => (view.1, true)
  | .send _ _ => view

/-- A report was sent since the ownership last changed. -/
def reportedAfter (nodeId : Bytes) (ownership : OwnershipState) (reported : Bool) (events : List GameEvent) : Bool :=
  (events.foldl (reportOn nodeId) (ownership, reported)).2

/-- The same, event by event: a report is sent only if none was since the ownership
last changed. -/
def SingleReports (nodeId : Bytes) (ownership : OwnershipState) (reported : Bool) : List GameEvent → Prop
  | [] => True
  | .applied sync :: events =>
    SingleReports nodeId (ownershipOf nodeId sync) (reported && decide (SameOwnership nodeId ownership sync)) events
  | .reported _ :: events => reported = false ∧ SingleReports nodeId ownership true events
  | .send _ _ :: events => SingleReports nodeId ownership reported events

variable {nodeId : Bytes}

/-- What sent packets leave alone is told by the stub events. -/
theorem foldl_stubEvents {σ : Type} {tell : σ → GameEvent → σ}
    (silent : ∀ state connector packet, tell state (.send connector packet) = state) (state : σ) (events : List GameEvent) :
    (stubEvents events).foldl tell state = events.foldl tell state := by
  induction events generalizing state with
  | nil => rfl
  | cons event events ih =>
    cases event with
    | send connector packet =>
      rw [List.foldl_cons, silent]
      exact ih state
    | applied sync => exact ih _
    | reported report => exact ih _

theorem ownershipAfter_append (ownership : OwnershipState) (events more : List GameEvent) :
    ownershipAfter nodeId ownership (events ++ more) =
      ownershipAfter nodeId (ownershipAfter nodeId ownership events) more := List.foldl_append

theorem ownershipAfter_stubEvents (ownership : OwnershipState) (events : List GameEvent) :
    ownershipAfter nodeId ownership (stubEvents events) = ownershipAfter nodeId ownership events :=
  foldl_stubEvents (fun _ _ _ => rfl) ownership events

/-- A view and the ownership go together. -/
theorem foldl_reportOn (ownership : OwnershipState) (reported : Bool) (events : List GameEvent) :
    events.foldl (reportOn nodeId) (ownership, reported) =
      (ownershipAfter nodeId ownership events, reportedAfter nodeId ownership reported events) := by
  refine Prod.ext ?_ rfl
  refine (List.foldl_hom Prod.fst fun view event => ?_).symm
  cases event with
  | send connector packet => rfl
  | applied sync => rfl
  | reported report => rfl

theorem reportedAfter_append (ownership : OwnershipState) (reported : Bool) (events more : List GameEvent) :
    reportedAfter nodeId ownership reported (events ++ more) =
      reportedAfter nodeId (ownershipAfter nodeId ownership events) (reportedAfter nodeId ownership reported events)
        more := by
  unfold reportedAfter
  rw [List.foldl_append, foldl_reportOn ownership reported events]

theorem reportedAfter_stubEvents (ownership : OwnershipState) (reported : Bool) (events : List GameEvent) :
    reportedAfter nodeId ownership reported (stubEvents events) = reportedAfter nodeId ownership reported events :=
  congrArg Prod.snd (foldl_stubEvents (fun _ _ _ => rfl) (ownership, reported) events)

theorem singleReports_append (ownership : OwnershipState) (reported : Bool) (events more : List GameEvent) :
    SingleReports nodeId ownership reported (events ++ more) ↔
      SingleReports nodeId ownership reported events ∧
        SingleReports nodeId (ownershipAfter nodeId ownership events) (reportedAfter nodeId ownership reported events)
          more := by
  induction events generalizing ownership reported with
  | nil => exact (iff_of_eq (true_and _)).symm
  | cons event events ih =>
    cases event with
    | send connector packet => exact ih ownership reported
    | applied sync => exact ih _ _
    | reported report =>
      simp only [List.cons_append, SingleReports, ih, and_assoc]
      rfl

/-- Only the stub events matter. -/
theorem singleReports_stubEvents (ownership : OwnershipState) (reported : Bool) (events : List GameEvent) :
    SingleReports nodeId ownership reported (stubEvents events) ↔ SingleReports nodeId ownership reported events := by
  induction events generalizing ownership reported with
  | nil => exact Iff.rfl
  | cons event events ih =>
    cases event with
    | send connector packet => exact ih ownership reported
    | applied sync => exact ih _ _
    | reported report => exact and_congr_right fun _ => ih ownership true

/-- In a part of the trace that does not change the ownership. -/
theorem SingleReports.count {ownership : OwnershipState} {reported : Bool} {events : List GameEvent}
    (single : SingleReports nodeId ownership reported events) (unchanging : Unchanging nodeId ownership events) :
    (events.filter isReport).length + reported.toNat ≤ 1 := by
  induction events generalizing ownership reported with
  | nil =>
    have bound := Bool.toNat_le reported
    simpa using bound
  | cons event events ih =>
    cases event with
    | send connector packet => exact ih single unchanging
    | applied sync =>
      have same : (reported && decide (SameOwnership nodeId ownership sync)) = reported := by
        rw [decide_eq_true unchanging.1, Bool.and_true]
      have single' : SingleReports nodeId (ownershipOf nodeId sync) reported events := same ▸ single
      exact ih single' unchanging.2
    | reported report =>
      obtain ⟨rfl, rest⟩ := single
      have once := ih rest unchanging
      have head : ((GameEvent.reported report :: events).filter isReport).length = (events.filter isReport).length + 1 := rfl
      rw [head, Bool.toNat_false]
      rw [Bool.toNat_true] at once
      exact once

theorem SingleReports.oneReport {trace : List GameEvent} (single : SingleReports nodeId {} false trace) :
    OneReport nodeId trace := by
  intro before middle after eq unchanging
  subst eq
  rw [singleReports_append, singleReports_append] at single
  have bound := single.1.2.count unchanging
  exact Nat.le_trans (Nat.le_add_right _ _) bound

/-! ## Over every run -/

theorem haveEquivalent_iff {left right : List ServerStubOwnershipEntry} :
    haveEquivalentOwnedAssignments left right = true ↔ left = right := by
  unfold haveEquivalentOwnedAssignments
  constructor
  · intro h
    simp only [Bool.and_eq_true, decide_eq_true_eq, List.all_eq_true, beq_iff_eq] at h
    refine List.ext_getElem h.1 fun i hi hj => ?_
    have pair : (left[i], right[i]) ∈ left.zip right := by
      rw [List.mem_iff_getElem]
      exact ⟨i, by simp [hi, hj], by simp⟩
    obtain ⟨⟨⟨type, id⟩, owner⟩, flags⟩ := h.2 _ pair
    revert type id owner flags
    generalize left[i] = l
    generalize right[i] = r
    cases l
    cases r
    simp only
    rintro rfl rfl rfl rfl
    rfl
  · rintro rfl
    induction left with
    | nil => rfl
    | cons entry left ih =>
      simp only [decide_true, Bool.true_and] at ih
      simp [ih]

/-- The ready stubs survive a sync that leaves epoch and owned assignments alone. -/
theorem createAllLocalStubs_serviceReady {game : GameNode} {sync : ServerStubOwnershipSync} :
    (game.createAllLocalStubs sync).serviceReady =
      if SameOwnership game.nodeId game.ownership sync then game.serviceReady else {} := by
  unfold createAllLocalStubs SameOwnership
  simp only [Bool.and_eq_true, beq_iff_eq, haveEquivalent_iff]
  rfl

/-- The state of a Game against its trace. -/
structure OwnershipInv (nodeId : Bytes) (game : GameNode) (trace : List GameEvent) : Prop where
  name : game.nodeId = nodeId
  ownership : game.ownership = ownershipAfter nodeId {} trace
  single : SingleReports nodeId {} false trace
  reported : reportedAfter nodeId {} false trace = true →
    game.serviceReady.lastReportedAssignmentEpoch = game.ownership.assignmentEpoch

theorem OwnershipInv.applied {game : GameNode} {trace : List GameEvent} (h : OwnershipInv nodeId game trace)
    (sync : ServerStubOwnershipSync) :
    OwnershipInv nodeId (game.createAllLocalStubs sync) (trace ++ [.applied sync]) := by
  obtain ⟨rfl, ownership, single, reported⟩ := h
  refine ⟨rfl, ?_, ?_, fun still => ?_⟩
  · rw [ownershipAfter_append]
    rfl
  · rw [singleReports_append]
    exact ⟨single, trivial⟩
  · rw [reportedAfter_append, ← ownership] at still
    have both := (Bool.and_eq_true _ _).mp still
    have same : SameOwnership game.nodeId game.ownership sync := decide_eq_true_eq.mp both.2
    rw [createAllLocalStubs_serviceReady, if_pos same, reported both.1]
    exact same.1.symm

theorem OwnershipInv.checked {game : GameNode} {trace : List GameEvent} {result : GameNode × List GameEvent}
    (h : OwnershipInv nodeId game trace) (checked : Checked game result) :
    OwnershipInv nodeId result.1 (trace ++ result.2) := by
  cases checked with
  | silent none =>
    obtain ⟨same, silent⟩ := none
    refine ⟨same.nodeId.trans h.name, ?_, ?_, ?_⟩
    · rw [same.ownership, ownershipAfter_append, ← ownershipAfter_stubEvents, silent]
      exact h.ownership
    · rw [singleReports_append, ← singleReports_stubEvents _ _ result.2, silent]
      exact ⟨h.single, trivial⟩
    · rw [reportedAfter_append, ← reportedAfter_stubEvents _ _ result.2, silent, same.ownership, same.serviceReady]
      exact h.reported
  | reported env complete unreported stubs name ownership serviceReady =>
    rename_i events _
    have fresh : reportedAfter nodeId {} false trace = false := by
      by_contra before
      exact unreported (h.reported (Bool.not_eq_false _ ▸ before))
    refine ⟨name.trans h.name, ?_, ?_, fun _ => ?_⟩
    · rw [ownership, ownershipAfter_append, ← ownershipAfter_stubEvents _ events, stubs]
      exact h.ownership
    · rw [singleReports_append, ← singleReports_stubEvents _ _ events, stubs]
      exact ⟨h.single, fresh, trivial⟩
    · rw [ownership, serviceReady]

theorem OwnershipInv.stored {game : GameNode} {trace : List GameEvent} (h : OwnershipInv nodeId game trace)
    (readyEntries : List ServerStubReadyEntry) :
    OwnershipInv nodeId { game with serviceReady := { game.serviceReady with readyEntries } } trace :=
  ⟨h.name, h.ownership, h.single, h.reported⟩

theorem step_ownershipInv (game : GameNode) (trace : List GameEvent) (input : Input)
    (h : OwnershipInv nodeId game trace) :
    OwnershipInv nodeId (game.step input).1 (trace ++ (game.step input).2) := by
  have stubs := step_stubs game input
  generalize game.step input = result at stubs ⊢
  cases stubs with
  | other checked => exact h.checked checked
  | applied brought checked =>
    have next := (h.applied _).checked checked
    rwa [List.append_assoc] at next
  | ready arrived taken checked => exact (h.stored _).checked checked

/-- A sync that is not applied: it cannot be decoded, is stale, has a string that is
too long for the managed ABI, or is refused by the managed runtime. -/
inductive RefusedSync (game : GameNode) (env : GameEnv) (body : Bytes) : Prop where
  | undecodable {error : InnerClusterCodecErrorCode} (failed : decodeServerStubOwnershipSync body = .error error)
  | stale {sync : ServerStubOwnershipSync} (decoded : decodeServerStubOwnershipSync body = .ok sync)
      (older : sync.assignmentEpoch < game.ownership.assignmentEpoch)
  | tooLong {sync : ServerStubOwnershipSync} (decoded : decodeServerStubOwnershipSync body = .ok sync)
      {assignment : ServerStubOwnershipEntry} (listed : assignment ∈ sync.assignments)
      (long : assignment.entityType.length > managedMaxUtf8Bytes ∨ assignment.entityId.length > managedMaxUtf8Bytes ∨
        assignment.ownerGameNodeId.length > managedMaxUtf8Bytes)
  | refused (result : env.applyResult ≠ 0)

theorem acceptOwnershipSync_some {game : GameNode} {packet : Packet} {sync : ServerStubOwnershipSync}
    (accepted : game.acceptOwnershipSync packet = some sync) :
    decodeServerStubOwnershipSync packet.payload = .ok sync ∧
      ¬ sync.assignmentEpoch < game.ownership.assignmentEpoch ∧ sync.assignments.all fitsManagedAbi = true := by
  simp only [acceptOwnershipSync, notifyBody, Option.bind_eq_bind, Option.bind_eq_some_iff, Option.guard_eq_some'] at accepted
  obtain ⟨_, ⟨_, -, _, -, decoded⟩, _, -, _, newer, _, ⟨-, fits⟩, eq⟩ := accepted
  cases eq
  exact ⟨ok_of_toOption decoded, newer, fits⟩

theorem RefusedSync.unchanged {game : GameNode} {env : GameEnv} {packet : Packet}
    (refused : RefusedSync game env packet.payload) : game.handleServerStubOwnershipSync env packet = (game, []) := by
  unfold handleServerStubOwnershipSync
  split
  · rfl
  rename_i sync accepted
  obtain ⟨decoded, newer, fits⟩ := acceptOwnershipSync_some accepted
  cases refused with
  | undecodable failed =>
    rw [failed] at decoded
    cases decoded
  | stale decoded' older =>
    rw [decoded] at decoded'
    cases decoded'
    exact absurd older newer
  | tooLong decoded' listed long =>
    rw [decoded] at decoded'
    cases decoded'
    have short := List.all_eq_true.mp fits _ listed
    simp only [fitsManagedAbi, Bool.and_eq_true, decide_eq_true_eq] at short
    omega
  | refused result => rw [if_pos result]

theorem ownershipSyncOf_some {game : GameNode} {input : Input} {sync : ServerStubOwnershipSync}
    (brought : game.ownershipSyncOf input = some sync) : ∃ packet, game.acceptOwnershipSync packet = some sync := by
  unfold ownershipSyncOf at brought
  split at brought
  · split at brought
    · split at brought
      · cases brought
      · rename_i packet _
        split at brought
        · exact ⟨packet, brought⟩
        · cases brought
    · cases brought
  · cases brought

theorem Checked.ownership {game : GameNode} {result : GameNode × List GameEvent} (checked : Checked game result) :
    result.1.ownership = game.ownership := by
  cases checked with
  | silent none => exact none.same.ownership
  | reported env complete unreported stubs name ownership serviceReady => exact ownership

theorem Checked.readyEntries {game : GameNode} {result : GameNode × List GameEvent} (checked : Checked game result) :
    result.1.serviceReady.readyEntries = game.serviceReady.readyEntries := by
  cases checked with
  | silent none => rw [none.same.serviceReady]
  | reported env complete unreported stubs name ownership serviceReady => rw [serviceReady]

/-- No sync is applied while the ready stubs are counted. -/
theorem Checked.not_applied {game : GameNode} {result : GameNode × List GameEvent} (checked : Checked game result)
    {sync : ServerStubOwnershipSync} : .applied sync ∉ result.2 := by
  intro mem
  have stub : GameEvent.applied sync ∈ stubEvents result.2 := List.mem_filter.mpr ⟨mem, rfl⟩
  cases checked with
  | silent none =>
    rw [none.silent] at stub
    cases stub
  | reported env complete unreported stubs name ownership serviceReady =>
    rw [stubs] at stub
    cases List.mem_singleton.mp stub

/-- The epoch never goes back. -/
theorem step_epoch (game : GameNode) (input : Input) :
    game.ownership.assignmentEpoch ≤ (game.step input).1.ownership.assignmentEpoch := by
  have stubs := step_stubs game input
  generalize game.step input = result at stubs ⊢
  cases stubs with
  | other checked =>
    rw [checked.ownership]
    exact UInt64.le_refl _
  | applied brought checked =>
    obtain ⟨packet, accepted⟩ := ownershipSyncOf_some brought
    rw [checked.ownership]
    exact UInt64.not_lt.mp (acceptOwnershipSync_some accepted).2.1
  | ready arrived taken checked =>
    rw [checked.ownership]
    exact UInt64.le_refl _

/-- A sync that changes neither epoch nor owned assignments keeps the ready entries. -/
theorem step_keepsReady {game : GameNode} {input : Input} {sync : ServerStubOwnershipSync}
    (applied : .applied sync ∈ (game.step input).2) (same : SameOwnership game.nodeId game.ownership sync) :
    (game.step input).1.serviceReady.readyEntries = game.serviceReady.readyEntries := by
  have stubs := step_stubs game input
  generalize game.step input = result at stubs applied ⊢
  cases stubs with
  | other checked => exact absurd applied checked.not_applied
  | applied brought checked =>
    rcases List.mem_cons.mp applied with this | later
    · cases this
      rw [checked.readyEntries, createAllLocalStubs_serviceReady, if_pos same]
    · exact absurd later checked.not_applied
  | ready arrived taken checked => exact absurd applied checked.not_applied

/-- The laws of a Game's ownership, in a state and for the trace that led to it. -/
structure OwnershipLaws (nodeId : Bytes) (game : GameNode) (trace : List GameEvent) : Prop where
  lastSync : game.ownership = ownershipAfter nodeId {} trace
  refused : ∀ env payload packet, decodePacket payload = .ok packet →
    packet.header.msgId = innerServerStubOwnershipSyncMsgId → RefusedSync game env packet.payload →
    (game.step (.connectorMessage env gmRemoteNodeId payload)).1.ownership = game.ownership ∧
      (game.step (.connectorMessage env gmRemoteNodeId payload)).1.serviceReady = game.serviceReady
  kept : ∀ input sync, .applied sync ∈ (game.step input).2 → SameOwnership nodeId game.ownership sync →
    (game.step input).1.serviceReady.readyEntries = game.serviceReady.readyEntries
  reports : OneReport nodeId trace

/-- **Ownership of a Game**, over every run: the epoch never decreases, the state is
that of the last applied sync, a sync that is refused changes nothing, one that
repeats the ownership keeps the ready entries, and at most one report is sent
until the ownership changes. -/
theorem ownership_laws {config : ClusterConfig} {self : NodeEntry} {boot : NodeBoot} {game : GameNode}
    (init : onInit config self boot = some game) (is js : List Input) :
    (machine.run game is).1.ownership.assignmentEpoch ≤ (machine.run game (is ++ js)).1.ownership.assignmentEpoch ∧
      OwnershipLaws self.nodeId (machine.run game is).1 (machine.run game is).2 := by
  obtain ⟨name, noOwned, noReady, -⟩ := onInit_some init
  have start : OwnershipInv self.nodeId game [] := ⟨name, noOwned, trivial, by simp [reportedAfter]⟩
  have inv : OwnershipInv self.nodeId (machine.run game is).1 ([] ++ (machine.run game is).2) :=
    Machine.run_trace (fun s t i h => step_ownershipInv s t i h) start is
  rw [List.nil_append] at inv
  refine ⟨?_, inv.ownership, ?_, ?_, inv.single.oneReport⟩
  · rw [Machine.run_append]
    exact @Machine.run_relates _ _ _ machine (fun _ => True)
      (fun a b => a.ownership.assignmentEpoch ≤ b.ownership.assignmentEpoch) (fun _ => UInt64.le_refl _)
      (fun _ _ _ => UInt64.le_trans) (fun _ _ _ => trivial) (fun s i _ => step_epoch s i) _ trivial js
  · intro env payload packet decoded isSync refused
    have notNotify : packet.header.msgId ≠ innerClusterNodesOnlineNotifyMsgId := by
      rw [isSync]
      decide
    have unchanged : (machine.run game is).1.step (.connectorMessage env gmRemoteNodeId payload) =
        ((machine.run game is).1, []) := by
      simp only [step, handleConnectorMessage, if_true, handleGmMessage, decoded, if_neg notNotify, if_pos isSync]
      exact refused.unchanged
    rw [unchanged]
    exact ⟨rfl, rfl⟩
  · intro input sync applied same
    rw [← inv.name] at same
    exact step_keepsReady applied same

theorem ownership_laws_sample :
    OwnershipLaws (text "Game0") (machine.run sampleGame (sampleMeshed ++ [sampleSync])).1
        (machine.run sampleGame (sampleMeshed ++ [sampleSync])).2 ∧
      (machine.run sampleGame (sampleMeshed ++ [sampleSync])).1.ownership.assignmentEpoch = 1 :=
  ⟨(ownership_laws sampleGame_init _ []).2, by decide +kernel⟩

/-! ## Complete reports -/

/-- The stored entry that a ready callback overwrites: the first with its id or its
type. -/
def overwritten (entries : List ServerStubReadyEntry) (entry : ServerStubReadyEntry) : Option ServerStubReadyEntry :=
  entries.find? fun existing => existing.entityId == entry.entityId || existing.entityType == entry.entityType

/-- The entry overwrites one of its own type, or is the only one of its type. -/
def TypesApart (entries : List ServerStubReadyEntry) (entry : ServerStubReadyEntry) : Prop :=
  ∀ existing, overwritten entries entry = some existing →
    existing.entityType = entry.entityType ∨ ∀ e ∈ entries, e.entityType ≠ entry.entityType

instance (entries : List ServerStubReadyEntry) (entry : ServerStubReadyEntry) : Decidable (TypesApart entries entry) :=
  inferInstanceAs (Decidable (∀ existing ∈ overwritten entries entry,
    existing.entityType = entry.entityType ∨ ∀ e ∈ entries, e.entityType ≠ entry.entityType))

/-- Storing an entry keeps the types distinct exactly if it does not overwrite an
entry of another type beside one of its own. -/
theorem nodup_upsertReadyEntry {entries : List ServerStubReadyEntry} (entry : ServerStubReadyEntry)
    (distinct : (entries.map (·.entityType)).Nodup) :
    ((upsertReadyEntry entries entry).map (·.entityType)).Nodup ↔ TypesApart entries entry := by
  unfold upsertReadyEntry TypesApart
  cases found : overwritten entries entry with
  | none =>
    have absent := List.find?_eq_none.mp found
    have noMatch : (entries.any fun existing =>
        existing.entityId == entry.entityId || existing.entityType == entry.entityType) = false := by
      rw [List.any_eq_false]
      exact absent
    rw [if_neg (by rw [noMatch]; simp)]
    refine iff_of_true ?_ nofun
    rw [List.map_append, List.nodup_append]
    refine ⟨distinct, by simp, fun type mem type' new same => ?_⟩
    obtain ⟨e, listed, rfl⟩ := List.mem_map.mp mem
    have type : e.entityType = entry.entityType := same.trans (List.mem_singleton.mp new)
    exact absent e listed (by simp [type])
  | some existing =>
    unfold overwritten at found
    have isMatch := List.any_eq_true.mpr ⟨existing, List.mem_of_find?_eq_some found, List.find?_some found⟩
    obtain ⟨front, back, split, changed⟩ := modifyFirst_split found fun _ => entry
    rw [if_pos isMatch, changed]
    subst split
    simp only [List.map_append, List.map_cons, List.perm_middle.nodup_iff, List.nodup_cons] at distinct ⊢
    constructor
    · rintro ⟨apart, -⟩ _ same
      cases same
      refine or_iff_not_imp_left.mpr fun other e listed type => apart ?_
      rw [← type, ← List.map_append]
      refine List.mem_map_of_mem ?_
      rcases List.mem_append.mp listed with before | after
      · exact List.mem_append_left _ before
      · rcases List.mem_cons.mp after with rfl | after
        · exact absurd type other
        · exact List.mem_append_right _ after
    · intro apart
      refine ⟨?_, distinct.2⟩
      rcases apart existing rfl with same | alone
      · rw [← same]
        exact distinct.1
      · rw [← List.map_append]
        intro mem
        obtain ⟨e, listed, type⟩ := List.mem_map.mp mem
        refine alone e ?_ type
        rcases List.mem_append.mp listed with before | after
        · exact List.mem_append_left _ before
        · exact List.mem_append_right _ (List.mem_cons_of_mem _ after)

/-- The owned types are distinct, and the ready entries are of distinct ones of them. -/
structure DistinctStubs (game : GameNode) : Prop where
  owned : (game.ownership.ownedAssignments.map (·.entityType)).Nodup
  ready : (game.serviceReady.readyEntries.map (·.entityType)).Nodup
  listed : ∀ entry ∈ game.serviceReady.readyEntries, ∃ a ∈ game.ownership.ownedAssignments, a.entityType = entry.entityType

/-- A sync that is applied gives the Game stubs of distinct types. -/
def DistinctSync (game : GameNode) (input : Input) : Prop :=
  ∀ sync, game.ownershipSyncOf input = some sync → ((game.ownedAssignmentsOf sync).map (·.entityType)).Nodup

/-- A ready callback that is stored does not overwrite an entry of another type
beside one of its own. -/
def CallbackApart (game : GameNode) (input : Input) : Prop :=
  ∀ env assignmentEpoch entry, input = .serverStubReady env assignmentEpoch entry →
    game.takesReady assignmentEpoch entry = true → TypesApart game.serviceReady.readyEntries entry.toReadyEntry

instance (game : GameNode) : ∀ input, Decidable (game.CallbackApart input)
  | .serverStubReady _ assignmentEpoch entry =>
    decidable_of_iff (game.takesReady assignmentEpoch entry = true →
        TypesApart game.serviceReady.readyEntries entry.toReadyEntry)
      ⟨fun h _ _ _ same => by cases same; exact h, fun h => h _ _ _ rfl⟩
  | .connectorMessage _ _ _ => .isTrue nofun
  | .connectorState _ _ _ => .isTrue nofun
  | .heartbeatTimer _ _ => .isTrue nofun

/-- A report with `localReady` has an entry of the type of each owned stub, and no
two ready entries are of one type. -/
structure ReportComplete (game : GameNode) (input : Input) : Prop where
  complete : ∀ report, .reported report ∈ (game.step input).2 → report.localReady = true →
    (report.entries.map (·.entityType)).Nodup ∧
      ∀ a ∈ (game.step input).1.ownership.ownedAssignments, ∃ entry ∈ report.entries, entry.entityType = a.entityType
  distinct : ((game.step input).1.serviceReady.readyEntries.map (·.entityType)).Nodup

/-- With distinct types, counting is enough. -/
theorem DistinctStubs.complete {game : GameNode} (h : DistinctStubs game) (count : LocalStubsReady game) :
    ∀ a ∈ game.ownership.ownedAssignments, ∃ entry ∈ game.serviceReady.readyEntries, entry.entityType = a.entityType := by
  have sub : (game.serviceReady.readyEntries.map (·.entityType)).Subperm
      (game.ownership.ownedAssignments.map (·.entityType)) := by
    refine List.subperm_of_subset h.ready fun type mem => ?_
    obtain ⟨entry, stored, rfl⟩ := List.mem_map.mp mem
    obtain ⟨a, owned, same⟩ := h.listed entry stored
    exact same ▸ List.mem_map_of_mem owned
  have perm := sub.perm_of_length_le (by simp [count.count])
  intro a owned
  have mem := perm.mem_iff.mpr (List.mem_map_of_mem owned)
  exact List.mem_map.mp mem

theorem DistinctStubs.checked {game : GameNode} {result : GameNode × List GameEvent} (h : DistinctStubs game)
    (checked : Checked game result) :
    DistinctStubs result.1 ∧ ∀ report, .reported report ∈ result.2 → (report.entries.map (·.entityType)).Nodup ∧
      ∀ a ∈ result.1.ownership.ownedAssignments, ∃ entry ∈ report.entries, entry.entityType = a.entityType := by
  have next : DistinctStubs result.1 := by
    refine ⟨?_, ?_, ?_⟩
    · rw [checked.ownership]
      exact h.owned
    · rw [checked.readyEntries]
      exact h.ready
    · rw [checked.ownership, checked.readyEntries]
      exact h.listed
  refine ⟨next, fun report mem => ?_⟩
  have stub : GameEvent.reported report ∈ stubEvents result.2 := List.mem_filter.mpr ⟨mem, rfl⟩
  cases checked with
  | silent none =>
    rw [none.silent] at stub
    cases stub
  | reported env complete unreported stubs name ownership serviceReady =>
    rw [stubs] at stub
    cases List.mem_singleton.mp stub
    rw [ownership]
    exact ⟨h.ready, h.complete complete⟩

theorem DistinctStubs.applied {game : GameNode} (h : DistinctStubs game) {sync : ServerStubOwnershipSync}
    (distinct : ((game.ownedAssignmentsOf sync).map (·.entityType)).Nodup) :
    DistinctStubs (game.createAllLocalStubs sync) := by
  by_cases same : SameOwnership game.nodeId game.ownership sync
  · have kept : (game.createAllLocalStubs sync).serviceReady = game.serviceReady := by
      rw [createAllLocalStubs_serviceReady, if_pos same]
    have owned : (game.createAllLocalStubs sync).ownership.ownedAssignments = game.ownership.ownedAssignments := same.2
    refine ⟨distinct, ?_, ?_⟩
    · rw [kept]
      exact h.ready
    · rw [kept, owned]
      exact h.listed
  · have cleared : (game.createAllLocalStubs sync).serviceReady = {} := by
      rw [createAllLocalStubs_serviceReady, if_neg same]
    refine ⟨distinct, ?_, ?_⟩
    · rw [cleared]
      exact .nil
    · rw [cleared]
      nofun

theorem DistinctStubs.stored {game : GameNode} (h : DistinctStubs game) {assignmentEpoch : UInt64}
    {entry : ManagedServerStubReadyEntry} (taken : game.takesReady assignmentEpoch entry = true)
    (apart : TypesApart game.serviceReady.readyEntries entry.toReadyEntry) :
    DistinctStubs { game with serviceReady := { game.serviceReady with
      readyEntries := upsertReadyEntry game.serviceReady.readyEntries entry.toReadyEntry } } := by
  refine ⟨h.owned, (nodup_upsertReadyEntry _ h.ready).mpr apart, fun e mem => ?_⟩
  rcases upsertReadyEntry_mem mem with old | rfl
  · exact h.listed e old
  · simp only [takesReady, Bool.and_eq_true, List.any_eq_true, beq_iff_eq] at taken
    exact taken.2

theorem step_distinct {game : GameNode} {input : Input} (h : DistinctStubs game) (sync : DistinctSync game input)
    (apart : CallbackApart game input) : DistinctStubs (game.step input).1 ∧ ReportComplete game input := by
  suffices both : DistinctStubs (game.step input).1 ∧
      ∀ report, .reported report ∈ (game.step input).2 → (report.entries.map (·.entityType)).Nodup ∧
        ∀ a ∈ (game.step input).1.ownership.ownedAssignments, ∃ entry ∈ report.entries, entry.entityType = a.entityType from
    ⟨both.1, fun report sent _ => both.2 report sent, both.1.ready⟩
  have stubs := step_stubs game input
  generalize game.step input = result at stubs ⊢
  cases stubs with
  | other checked => exact h.checked checked
  | applied brought checked =>
    obtain ⟨next, reports⟩ := (h.applied (sync _ brought)).checked checked
    refine ⟨next, fun report mem => ?_⟩
    rcases List.mem_cons.mp mem with impossible | later
    · cases impossible
    · exact reports report later
  | ready arrived taken checked => exact (h.stored taken (apart _ _ _ arrived taken)).checked checked

/-- A callback that mixes up the types leaves two entries of one type. -/
theorem ReportComplete.apart {game : GameNode} {input : Input} (h : DistinctStubs game)
    (complete : ReportComplete game input) : CallbackApart game input := by
  intro env assignmentEpoch entry arrived taken
  subst arrived
  have distinct := complete.distinct
  simp only [step, handleManagedServerStubReady_eq, if_pos taken] at distinct
  rw [(checkAllLocalStubsReady_kept _ env).readyEntries] at distinct
  exact (nodup_upsertReadyEntry _ h.ready).mp distinct

/-- **Complete reports.** From any ownership with distinct types and no ready entries
yet, over any run whose syncs have distinct types: every report with `localReady`
covers every owned stub and no two ready entries are of one type, exactly if no
ready callback overwrites an entry of another type beside one of its own. -/
theorem reports_complete_iff {game : GameNode} (owned : (game.ownership.ownedAssignments.map (·.entityType)).Nodup)
    (none : game.serviceReady.readyEntries = []) {is : List Input} (syncs : machine.Along DistinctSync game is) :
    machine.Along ReportComplete game is ↔ machine.Along CallbackApart game is := by
  have start : DistinctStubs game := by
    refine ⟨owned, ?_, ?_⟩
    · rw [none]
      exact .nil
    · rw [none]
      nofun
  constructor
  · intro complete
    exact Machine.Along.of_invariant
      (fun s _ (h : DistinctStubs s) both => (step_distinct h both.1 (both.2.apart h)).1)
      (fun _ _ h both => both.2.apart h) start (syncs.and complete)
  · intro apart
    exact Machine.Along.of_invariant (fun s _ (h : DistinctStubs s) both => (step_distinct h both.1 both.2).1)
      (fun _ _ h both => (step_distinct h both.1 both.2).2) start (syncs.and apart)

/-- The stubs of three types for the small Game. -/
def sampleThreeStubs : Input :=
  .connectorMessage {} gmRemoteNodeId (samplePacket innerServerStubOwnershipSyncMsgId packetSeqNone 0
    (encodeServerStubOwnershipSync ⟨1, 0, [⟨text "A", text "unknown", text "Game0", 0⟩,
      ⟨text "B", text "unknown", text "Game0", 0⟩, ⟨text "C", text "unknown", text "Game0", 0⟩], 1000⟩ 93))

/-- A ready callback for the first epoch. -/
def sampleReady (entityType entityId : Bytes) : Input := .serverStubReady {} 1 ⟨entityType, entityId, 1, 0⟩

theorem sampleReady_distinct (game : GameNode) (entityType entityId : Bytes) :
    DistinctSync game (sampleReady entityType entityId) := by
  intro sync brought
  cases brought

/-- The small Game with three stubs to make. -/
def sampleOwner : GameNode := (machine.run sampleGame (sampleMeshed ++ [sampleThreeStubs])).1

theorem reports_complete_sample :
    machine.Along ReportComplete sampleOwner [sampleReady (text "A") (text "1"), sampleReady (text "B") (text "2"),
        sampleReady (text "C") (text "3")] ∧
      (machine.run sampleOwner [sampleReady (text "A") (text "1"), sampleReady (text "B") (text "2"),
        sampleReady (text "C") (text "3")]).2.any isReport = true := by
  obtain ⟨owned, none, apart, reports⟩ : (sampleOwner.ownership.ownedAssignments.map (·.entityType)).Nodup ∧
      sampleOwner.serviceReady.readyEntries = [] ∧
      machine.Along CallbackApart sampleOwner [sampleReady (text "A") (text "1"),
        sampleReady (text "B") (text "2"), sampleReady (text "C") (text "3")] ∧
      (machine.run sampleOwner [sampleReady (text "A") (text "1"), sampleReady (text "B") (text "2"),
        sampleReady (text "C") (text "3")]).2.any isReport = true := by decide +kernel
  have syncs : machine.Along DistinctSync sampleOwner [sampleReady (text "A") (text "1"),
    sampleReady (text "B") (text "2"), sampleReady (text "C") (text "3")] :=
    ⟨sampleReady_distinct _ _ _, sampleReady_distinct _ _ _, sampleReady_distinct _ _ _, trivial⟩
  exact ⟨(reports_complete_iff owned none syncs).mpr apart, reports⟩

/-- Two stubs are announced, and the second again under the id of the first. -/
def sampleReusedId : List Input :=
  [sampleReady (text "A") (text "1"), sampleReady (text "B") (text "2"), sampleReady (text "B") (text "1")]

/-- The entry of type `A` is overwritten, and the report counts two of type `B`. -/
theorem reused_id_hides_stub :
    ¬ machine.Along ReportComplete sampleOwner (sampleReusedId ++ [sampleReady (text "C") (text "3")]) := by
  intro complete
  obtain ⟨last, -⟩ := complete.append.2
  obtain ⟨sent, owned⟩ : GameEvent.reported ⟨1, true, 0, [⟨text "B", text "1", true, 0⟩, ⟨text "B", text "2", true, 0⟩,
      ⟨text "C", text "3", true, 0⟩], 0⟩ ∈
        ((machine.run sampleOwner sampleReusedId).1.step (sampleReady (text "C") (text "3"))).2 ∧
      (⟨text "A", text "unknown", text "Game0", 0⟩ : ServerStubOwnershipEntry) ∈ ((machine.run sampleOwner
        sampleReusedId).1.step (sampleReady (text "C") (text "3"))).1.ownership.ownedAssignments := by decide +kernel
  obtain ⟨-, covered⟩ := last.complete _ sent rfl
  have hidden := covered _ owned
  revert hidden
  decide +kernel

end XServer.Node.GameNode
