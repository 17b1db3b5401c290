import XServer.Node.GmStartup

/-!
# What a service-ready report settles

A report names ready stubs by type and id, and each goes to the first stub of the
Game with that type whose id is unknown or this one. So among the stubs of one
type and owner the known ids come first and differ (`FilledInOrder`), and an entry
that has been applied finds its own stub, or none, ever after (`Absorbed`).
-/

namespace XServer.Node
open XServer.Lib XServer.Lib.Wire XServer.Net

namespace GmNode

open GmEvent (phases)

/-! ## Stubs of one kind -/

/-- The two stubs have the same entity type and the same owner. -/
def SameKind (a b : ServerStubEntry) : Prop :=
  a.entityType = b.entityType ∧ a.ownerGameNodeId = b.ownerGameNodeId

/-- The stub has an entity id. -/
def Known (entry : ServerStubEntry) : Prop := entry.entityId ≠ unknownServerEntityId

/-- The condition of `std::find_if`: the entry of the report fits the stub. -/
def fits (nodeId : Bytes) (ready : ServerStubReadyEntry) (entry : ServerStubEntry) : Bool :=
  entry.ownerGameNodeId == nodeId && (entry.entityType == ready.entityType &&
    (entry.entityId == unknownServerEntityId || entry.entityId == ready.entityId))

/-- The stub with the entry of the report. -/
def settle (ready : ServerStubReadyEntry) (entry : ServerStubEntry) : ServerStubEntry :=
  { entry with entityId := ready.entityId, state := .ready }

theorem fits_iff {nodeId : Bytes} {ready : ServerStubReadyEntry} {entry : ServerStubEntry} :
    fits nodeId ready entry = true ↔ entry.ownerGameNodeId = nodeId ∧ entry.entityType = ready.entityType ∧
      (entry.entityId = unknownServerEntityId ∨ entry.entityId = ready.entityId) := by
  simp only [fits, Bool.and_eq_true, Bool.or_eq_true, beq_iff_eq]

/-- An entry counts when it is ready and names an id. -/
def counts (ready : ServerStubReadyEntry) : Bool :=
  ready.ready && !(ready.entityId = [] || ready.entityId == unknownServerEntityId)

theorem applyReadyEntry_eq (nodeId : Bytes) (entries : List ServerStubEntry) (ready : ServerStubReadyEntry) :
    applyReadyEntry nodeId entries ready =
      if counts ready then modifyFirst (fits nodeId ready) (settle ready) entries else entries := by
  unfold applyReadyEntry counts
  cases ready.ready with
  | false => rfl
  | true =>
    simp only [Bool.not_true, Bool.false_eq_true, if_false, Bool.true_and, Bool.not_eq_true']
    split
    · rename_i unnamed
      rw [if_neg (by simp [unnamed])]
    · rename_i named
      rw [if_pos (by simpa using named)]
      rfl

theorem counts_named {ready : ServerStubReadyEntry} (h : counts ready = true) :
    ready.entityId ≠ unknownServerEntityId := by
  simp only [counts, Bool.and_eq_true, Bool.not_eq_true', Bool.or_eq_false_iff, beq_eq_false_iff_ne] at h
  exact h.2.2

/-! ## Known ids come first and differ -/

/-- Of two stubs of one kind, the later one is known only if the earlier one is,
under another id. -/
def FilledInOrder (entries : List ServerStubEntry) : Prop :=
  entries.Pairwise fun a b => SameKind a b → Known b → Known a ∧ a.entityId ≠ b.entityId

theorem filledInOrder_unknown {entries : List ServerStubEntry}
    (unknown : ∀ entry ∈ entries, entry.entityId = unknownServerEntityId) : FilledInOrder entries := by
  refine List.pairwise_of_forall_mem_list fun a _ b mem _ known => ?_
  exact absurd (unknown b mem) known

theorem applyReadyEntry_filledInOrder (nodeId : Bytes) (ready : ServerStubReadyEntry) {entries : List ServerStubEntry}
    (h : FilledInOrder entries) : FilledInOrder (applyReadyEntry nodeId entries ready) := by
  rw [applyReadyEntry_eq]
  split
  · rename_i named
    induction entries with
    | nil => exact h
    | cons a as ih =>
      obtain ⟨head, tail⟩ := List.pairwise_cons.mp h
      rw [modifyFirst]
      split
      · rename_i fit
        obtain ⟨-, -, open_⟩ := fits_iff.mp fit
        refine List.pairwise_cons.mpr ⟨fun b mem same known => ?_, tail⟩
        -- the stub was known already if a later one is, so it keeps its id
        obtain ⟨knownHead, different⟩ := head b mem same known
        have kept : a.entityId = ready.entityId := open_.resolve_left knownHead
        exact ⟨counts_named named, fun clash => different (kept.trans clash)⟩
      · rename_i misfit
        refine List.pairwise_cons.mpr ⟨fun b mem same known => ?_, ih tail⟩
        rcases mem_modifyFirst mem with mem | ⟨c, -, fit, rfl⟩
        · exact head b mem same known
        · -- the first of the kind that is open is taken: this one is not open
          obtain ⟨owner, type, -⟩ := fits_iff.mp fit
          have closed : ¬ (a.entityId = unknownServerEntityId ∨ a.entityId = ready.entityId) := by
            intro open_
            exact misfit (fits_iff.mpr ⟨same.2.trans owner, same.1.trans type, open_⟩)
          exact ⟨fun unknown => closed (.inl unknown), fun clash => closed (.inr clash)⟩
  · exact h

theorem applyReadyEntries_filledInOrder (nodeId : Bytes) (ready : List ServerStubReadyEntry)
    {entries : List ServerStubEntry} (h : FilledInOrder entries) :
    FilledInOrder (ready.foldl (applyReadyEntry nodeId) entries) := by
  induction ready generalizing entries with
  | nil => exact h
  | cons first rest ih => exact ih (applyReadyEntry_filledInOrder nodeId first h)

/-! ## An applied entry is absorbed -/

/-- The entry changes nothing any more. -/
def Absorbed (nodeId : Bytes) (ready : ServerStubReadyEntry) (entries : List ServerStubEntry) : Prop :=
  applyReadyEntry nodeId entries ready = entries

theorem applyReadyEntry_absorbed (nodeId : Bytes) (ready : ServerStubReadyEntry) (entries : List ServerStubEntry) :
    Absorbed nodeId ready (applyReadyEntry nodeId entries ready) := by
  unfold Absorbed
  rw [applyReadyEntry_eq, applyReadyEntry_eq]
  split
  · refine modifyFirst_modifyFirst (fun entry fit => ?_) entries
    obtain ⟨owner, type, -⟩ := fits_iff.mp fit
    exact ⟨fits_iff.mpr ⟨owner, type, .inr rfl⟩, rfl⟩
  · rfl

/-- Whatever else is applied: what fits an absorbed entry is its own stub, and it
stays as it is. -/
theorem Absorbed.apply {nodeId : Bytes} {ready : ServerStubReadyEntry} {entries : List ServerStubEntry}
    (h : Absorbed nodeId ready entries) (otherId : Bytes) (other : ServerStubReadyEntry) :
    Absorbed nodeId ready (applyReadyEntry otherId entries other) := by
  unfold Absorbed at h ⊢
  rw [applyReadyEntry_eq] at h ⊢
  rw [applyReadyEntry_eq]
  split
  · rename_i named
    rw [if_pos named] at h
    split
    · rename_i namedOther
      refine modifyFirst_absorbed (fun entry fit misfit => ?_) (fun entry fit fitting fixed => ?_) h
      · -- a stub that does not fit keeps its type and owner, and its id if it has one
        rw [Bool.eq_false_iff] at misfit ⊢
        intro fitting
        obtain ⟨owner, type, open_⟩ := fits_iff.mp fitting
        obtain ⟨-, -, openOther⟩ := fits_iff.mp fit
        have same : other.entityId = ready.entityId := open_.resolve_left (counts_named namedOther)
        refine misfit (fits_iff.mpr ⟨owner, type, ?_⟩)
        rw [← same]
        exact openOther
      · -- the absorbed stub has its id, so only the same entry fits it
        have id : entry.entityId = ready.entityId := (congrArg ServerStubEntry.entityId fixed).symm
        have state : entry.state = .ready := (congrArg ServerStubEntry.state fixed).symm
        obtain ⟨-, -, openOther⟩ := fits_iff.mp fit
        have same : entry.entityId = other.entityId := openOther.resolve_left (id ▸ counts_named named)
        have unchanged : settle other entry = entry := by
          unfold settle
          rw [← same, ← state]
        rw [unchanged]
        exact ⟨fitting, fixed⟩
    · exact h
  · rfl

theorem Absorbed.foldl {nodeId : Bytes} {ready : ServerStubReadyEntry} {entries : List ServerStubEntry}
    (h : Absorbed nodeId ready entries) (otherId : Bytes) (others : List ServerStubReadyEntry) :
    Absorbed nodeId ready (others.foldl (applyReadyEntry otherId) entries) := by
  induction others generalizing entries with
  | nil => exact h
  | cons other rest ih => exact ih (h.apply otherId other)

theorem applyReadyEntries_absorbed (nodeId : Bytes) (ready : List ServerStubReadyEntry) (entries : List ServerStubEntry) :
    ∀ r ∈ ready, Absorbed nodeId r (ready.foldl (applyReadyEntry nodeId) entries) := by
  induction ready generalizing entries with
  | nil =>
    intro r mem
    cases mem
  | cons first rest ih =>
    intro r mem
    rcases List.mem_cons.mp mem with rfl | later
    · exact (applyReadyEntry_absorbed nodeId r entries).foldl nodeId rest
    · exact ih _ r later

theorem foldl_of_absorbed {nodeId : Bytes} {ready : List ServerStubReadyEntry} {entries : List ServerStubEntry}
    (h : ∀ r ∈ ready, Absorbed nodeId r entries) : ready.foldl (applyReadyEntry nodeId) entries = entries := by
  induction ready with
  | nil => rfl
  | cons first rest ih =>
    rw [List.foldl_cons, show applyReadyEntry nodeId entries first = entries from h first List.mem_cons_self]
    exact ih fun r mem => h r (List.mem_cons_of_mem _ mem)

/-! ## What a report leaves of the stubs -/

/-- A stub before and after a report of the Game `nodeId`. -/
structure Kept (nodeId : Bytes) (before after : ServerStubEntry) : Prop where
  type : after.entityType = before.entityType
  owner : after.ownerGameNodeId = before.ownerGameNodeId
  others : before.ownerGameNodeId ≠ nodeId → after = before
  known : Known before → after.entityId = before.entityId

theorem Kept.refl (nodeId : Bytes) (entry : ServerStubEntry) : Kept nodeId entry entry :=
  ⟨rfl, rfl, fun _ => rfl, fun _ => rfl⟩

theorem Kept.trans {nodeId : Bytes} {a b c : ServerStubEntry} (ab : Kept nodeId a b) (bc : Kept nodeId b c) :
    Kept nodeId a c where
  type := bc.type.trans ab.type
  owner := bc.owner.trans ab.owner
  others := fun other => (bc.others (fun same => other (ab.owner.symm.trans same))).trans (ab.others other)
  known := by
    intro known
    have same := ab.known known
    exact (bc.known (fun unknown => known (same.symm.trans unknown))).trans same

theorem applyReadyEntry_kept (nodeId : Bytes) (entries : List ServerStubEntry) (ready : ServerStubReadyEntry) :
    List.Forall₂ (Kept nodeId) entries (applyReadyEntry nodeId entries ready) := by
  rw [applyReadyEntry_eq]
  split
  · refine forall₂_modifyFirst (fun entry => .refl nodeId entry) (fun entry fit => ?_) entries
    obtain ⟨owner, -, open_⟩ := fits_iff.mp fit
    exact ⟨rfl, rfl, fun other => absurd owner other, fun known => (open_.resolve_left known).symm⟩
  · exact List.forall₂_same.mpr fun entry _ => .refl nodeId entry

theorem applyReadyEntries_kept (nodeId : Bytes) (ready : List ServerStubReadyEntry) (entries : List ServerStubEntry) :
    List.Forall₂ (Kept nodeId) entries (ready.foldl (applyReadyEntry nodeId) entries) := by
  induction ready generalizing entries with
  | nil => exact List.forall₂_same.mpr fun entry _ => .refl nodeId entry
  | cons first rest ih => exact forall₂_trans (R := Kept nodeId) Kept.trans (applyReadyEntry_kept nodeId entries first) (ih _)

theorem owners_of_kept {nodeId : Bytes} {before after : List ServerStubEntry}
    (h : List.Forall₂ (Kept nodeId) before after) :
    after.map (·.ownerGameNodeId) = before.map (·.ownerGameNodeId) := by
  induction h with
  | nil => rfl
  | cons head _ ih => rw [List.map_cons, List.map_cons, ih, head.owner]

/-! ## Reports in sequence -/

/-- A service-ready report as it arrives. -/
structure Arrival where
  env : GmEnv
  routingId : Bytes
  payload : Bytes

def takeReport (gm : GmNode) (arrival : Arrival) : GmNode :=
  (gm.handleGameStubsReadyReport arrival.env arrival.routingId arrival.payload).1

def takeReports (gm : GmNode) (arrivals : List Arrival) : GmNode := arrivals.foldl takeReport gm

/-- The gate is open, or some stub is not ready. -/
def GateSettled (gm : GmNode) : Prop := (!gm.startup.gateOpen && gm.areAllServerStubsReady) = false

/-- What an accepted report changes, and what acceptance depends on. -/
structure Taken (gm : GmNode) (nodeId : Bytes) (ready : List ServerStubReadyEntry) (after : GmNode) : Prop where
  stubs : after.stubs.entries = ready.foldl (applyReadyEntry nodeId) gm.stubs.entries
  sessions : after.sessions = gm.sessions
  phase : after.startup.allExpectedGamesMeshReady = gm.startup.allExpectedGamesMeshReady
  settled : GateSettled after

theorem handleGameStubsReadyReport_taken {gm : GmNode} {routingId payload : Bytes} {session : InnerNetworkSession}
    {report : GameServiceReadyReport} (accepted : gm.acceptStubsReadyReport routingId payload = some (session, report))
    (env : GmEnv) :
    Taken gm session.nodeId report.entries (gm.handleGameStubsReadyReport env routingId payload).1 := by
  unfold handleGameStubsReadyReport
  rw [accepted]
  simp only
  split
  · rename_i opens
    simp only [Bool.and_eq_true, Bool.not_eq_true'] at opens
    rw [(onAllStubReady_open env opens.1 opens.2).1]
    exact ⟨rfl, rfl, rfl, rfl⟩
  · rename_i stays
    exact ⟨rfl, rfl, rfl, Bool.eq_false_iff.mpr stays⟩

theorem handleGameStubsReadyReport_rejected {gm : GmNode} {routingId payload : Bytes}
    (rejected : gm.acceptStubsReadyReport routingId payload = none) (env : GmEnv) :
    gm.handleGameStubsReadyReport env routingId payload = (gm, []) := by
  unfold handleGameStubsReadyReport
  rw [rejected]

/-- Acceptance asks for the sessions, the phase and the owners of the stubs. -/
theorem acceptStubsReadyReport_congr {gm after : GmNode} (sessions : after.sessions = gm.sessions)
    (phase : after.startup.allExpectedGamesMeshReady = gm.startup.allExpectedGamesMeshReady)
    (owners : after.stubs.entries.map (·.ownerGameNodeId) = gm.stubs.entries.map (·.ownerGameNodeId))
    (routingId payload : Bytes) :
    after.acceptStubsReadyReport routingId payload = gm.acceptStubsReadyReport routingId payload := by
  have active : after.ownershipActive = gm.ownershipActive := by
    have all := congrArg (fun owners : List Bytes => !owners.isEmpty && owners.all fun owner => owner != []) owners
    simpa [ownershipActive, List.all_map, Function.comp_def] using all
  have owns : ∀ nodeId : Bytes, (after.stubs.entries.any fun entry => entry.ownerGameNodeId == nodeId) =
      gm.stubs.entries.any fun entry => entry.ownerGameNodeId == nodeId := by
    intro nodeId
    have any := congrArg (fun owners : List Bytes => owners.any fun owner => owner == nodeId) owners
    simpa [List.any_map, Function.comp_def] using any
  unfold acceptStubsReadyReport registeredGame
  simp only [sessions, phase, active, owns]

theorem takeReport_accepts (gm : GmNode) (arrival : Arrival) (routingId payload : Bytes) :
    (gm.takeReport arrival).acceptStubsReadyReport routingId payload = gm.acceptStubsReadyReport routingId payload := by
  unfold takeReport
  cases accepted : gm.acceptStubsReadyReport arrival.routingId arrival.payload with
  | none => rw [handleGameStubsReadyReport_rejected accepted]
  | some result =>
    obtain ⟨session, report⟩ := result
    have taken := handleGameStubsReadyReport_taken accepted arrival.env
    have owners := owners_of_kept (applyReadyEntries_kept session.nodeId report.entries gm.stubs.entries)
    rw [← taken.stubs] at owners
    exact acceptStubsReadyReport_congr taken.sessions taken.phase owners routingId payload

theorem takeReports_accepts (gm : GmNode) (arrivals : List Arrival) (routingId payload : Bytes) :
    (gm.takeReports arrivals).acceptStubsReadyReport routingId payload = gm.acceptStubsReadyReport routingId payload := by
  unfold takeReports
  induction arrivals generalizing gm with
  | nil => rfl
  | cons first rest ih => exact (ih (gm.takeReport first)).trans (takeReport_accepts gm first routingId payload)

/-- The report has been applied: its entries are absorbed and the gate has seen it. -/
structure Spent (nodeId : Bytes) (ready : List ServerStubReadyEntry) (gm : GmNode) : Prop where
  absorbed : ∀ r ∈ ready, Absorbed nodeId r gm.stubs.entries
  settled : GateSettled gm

theorem Spent.takeReport {nodeId : Bytes} {ready : List ServerStubReadyEntry} {gm : GmNode} (h : Spent nodeId ready gm)
    (arrival : Arrival) : Spent nodeId ready (gm.takeReport arrival) := by
  unfold GmNode.takeReport
  cases accepted : gm.acceptStubsReadyReport arrival.routingId arrival.payload with
  | none =>
    rw [handleGameStubsReadyReport_rejected accepted]
    exact h
  | some result =>
    obtain ⟨session, report⟩ := result
    have taken := handleGameStubsReadyReport_taken accepted arrival.env
    refine ⟨fun r mem => ?_, taken.settled⟩
    rw [taken.stubs]
    exact (h.absorbed r mem).foldl session.nodeId report.entries

theorem Spent.takeReports {nodeId : Bytes} {ready : List ServerStubReadyEntry} {gm : GmNode} (h : Spent nodeId ready gm)
    (arrivals : List Arrival) : Spent nodeId ready (gm.takeReports arrivals) := by
  unfold GmNode.takeReports
  induction arrivals generalizing gm with
  | nil => exact h
  | cons first rest ih => exact ih (h.takeReport first)

/-- A report that comes again, after whatever other reports. -/
theorem takeReport_again (gm : GmNode) (arrival : Arrival) (between : List Arrival) (env : GmEnv) :
    ((gm.takeReport arrival).takeReports between).handleGameStubsReadyReport env arrival.routingId arrival.payload =
      ((gm.takeReport arrival).takeReports between, []) := by
  have same := (takeReports_accepts (gm.takeReport arrival) between arrival.routingId arrival.payload).trans
    (takeReport_accepts gm arrival arrival.routingId arrival.payload)
  cases accepted : gm.acceptStubsReadyReport arrival.routingId arrival.payload with
  | none =>
    rw [accepted] at same
    exact handleGameStubsReadyReport_rejected same env
  | some result =>
    obtain ⟨session, report⟩ := result
    have taken := handleGameStubsReadyReport_taken accepted arrival.env
    have first : Spent session.nodeId report.entries (gm.takeReport arrival) := by
      refine ⟨fun r mem => ?_, taken.settled⟩
      show Absorbed session.nodeId r (gm.handleGameStubsReadyReport _ _ _).1.stubs.entries
      rw [taken.stubs]
      exact applyReadyEntries_absorbed session.nodeId report.entries _ r mem
    have spent := first.takeReports between
    rw [accepted] at same
    generalize (gm.takeReport arrival).takeReports between = later at same spent
    have unchanged : later.applyReadyEntries session.nodeId report.entries = later := by
      unfold applyReadyEntries
      rw [foldl_of_absorbed spent.absorbed]
    unfold handleGameStubsReadyReport
    rw [same]
    simp only [unchanged]
    exact if_neg (Bool.eq_false_iff.mp spent.settled)

/-! ## Over every run -/

theorem StartupStep.filledInOrder {gm gm' : GmNode} {i : Input} {ps : List GmEvent} (h : StartupStep gm i gm' ps)
    (inv : StartupInv gm) (filled : FilledInOrder gm.stubs.entries) : FilledInOrder gm'.stubs.entries := by
  cases h with
  | bookkeeping => exact filled
  | nodesOnline closed => exact filled
  | meshReport => exact filled
  | @ownership nodeId reportedAt env online closed complete =>
    obtain ⟨table, state, assigned⟩ := onAllGameReady_opens inv nodeId reportedAt env closed complete
    rw [state]
    exact filledInOrder_unknown fun entry mem => (assigned entry mem).2.1
  | @readyReport routingId payload session report arrived accepted =>
    exact applyReadyEntries_filledInOrder session.nodeId report.entries filled
  | @gateOpen routingId payload session report now arrived accepted closed ready =>
    exact applyReadyEntries_filledInOrder session.nodeId report.entries filled

theorem run_filledInOrder (gates games : List Bytes) (is : List Input) :
    FilledInOrder (machine.run (GmNode.init gates games) is).1.stubs.entries := by
  have start : StartupInv (GmNode.init gates games) ∧ FilledInOrder (GmNode.init gates games).stubs.entries :=
    ⟨init_startupInv gates games, .nil⟩
  have both := @Machine.run_invariant _ _ _ machine (fun _ _ => True)
    (fun gm => StartupInv gm ∧ FilledInOrder gm.stubs.entries)
    (fun gm i inv _ => ⟨step_startupInv gm i inv.1, (step_startupStep gm i).filledInOrder inv.1 inv.2⟩) _ _ start
    (Machine.along_true _ is)
  exact both.2

/-- What a service-ready report does in a state, whatever the state is. -/
structure ReportEffect (gm : GmNode) (arrival : Arrival) : Prop where
  rejected : gm.acceptStubsReadyReport arrival.routingId arrival.payload = none →
    gm.handleGameStubsReadyReport arrival.env arrival.routingId arrival.payload = (gm, [])
  ofSession : ∀ (session : InnerNetworkSession) (report : GameServiceReadyReport),
    gm.acceptStubsReadyReport arrival.routingId arrival.payload = some (session, report) →
    gm.registeredGame arrival.routingId = some session ∧
      List.Forall₂ (Kept session.nodeId) gm.stubs.entries (gm.takeReport arrival).stubs.entries
  again : ∀ (between : List Arrival) (env : GmEnv),
    ((gm.takeReport arrival).takeReports between).handleGameStubsReadyReport env arrival.routingId arrival.payload =
      ((gm.takeReport arrival).takeReports between, [])

/-- No two stubs of one type and owner have the same id. -/
def DistinctIds (gm : GmNode) : Prop :=
  ∀ (i j : Nat) (a b : ServerStubEntry), i ≠ j → gm.stubs.entries[i]? = some a → gm.stubs.entries[j]? = some b →
    SameKind a b → Known a → a.entityId ≠ b.entityId

theorem FilledInOrder.distinct {gm : GmNode} (h : FilledInOrder gm.stubs.entries) : DistinctIds gm := by
  intro i j a b different foundA foundB same known
  obtain ⟨boundA, rfl⟩ := List.getElem?_eq_some_iff.mp foundA
  obtain ⟨boundB, rfl⟩ := List.getElem?_eq_some_iff.mp foundB
  have ordered := List.pairwise_iff_getElem.mp h
  rcases Nat.lt_or_gt_of_ne different with before | after
  · intro clash
    exact (ordered i j boundA boundB before same fun unknown => known (clash.trans unknown)).2 clash
  · exact fun clash => (ordered j i boundB boundA after ⟨same.1.symm, same.2.symm⟩ known).2 clash.symm

/-- **Service-ready reports settle the stubs.** In every state a report changes
stubs of its own Game only, keeps the ids it finds, and changes nothing when it
comes again; in every state of a run the ids of one type and owner differ. -/
theorem stub_reports_settle :
    (∀ (gm : GmNode) (arrival : Arrival), ReportEffect gm arrival) ∧
    ∀ (gates games : List Bytes) (is : List Input), DistinctIds (machine.run (GmNode.init gates games) is).1 := by
  refine ⟨fun gm arrival => ⟨fun rejected => ?_, fun session report accepted => ?_, ?_⟩, fun gates games is => ?_⟩
  · exact handleGameStubsReadyReport_rejected rejected arrival.env
  · obtain ⟨-, -, -, registered, -⟩ := acceptStubsReadyReport_some accepted
    refine ⟨registered, ?_⟩
    have taken := handleGameStubsReadyReport_taken accepted arrival.env
    show List.Forall₂ (Kept session.nodeId) _ (gm.handleGameStubsReadyReport _ _ _).1.stubs.entries
    rw [taken.stubs]
    exact applyReadyEntries_kept session.nodeId report.entries gm.stubs.entries
  · exact takeReport_again gm arrival
  · exact (run_filledInOrder gates games is).distinct

/-- Two stubs of one type: a repeated entry and a third id are left over. -/
example :
    let stub : ServerStubEntry := { entityType := text "ChatStub", ownerGameNodeId := text "Game0" }
    let ready (entityId : String) : ServerStubReadyEntry := ⟨text "ChatStub", text entityId, true, 0⟩
    ([ready "b", ready "a", ready "b", ready "c"].foldl (applyReadyEntry (text "Game0")) [stub, stub]).map
      (·.entityId) = [text "b", text "a"] := by
  decide +kernel

end GmNode

end XServer.Node
