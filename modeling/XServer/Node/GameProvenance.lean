import XServer.Node.GameAct

/-!
# What a Game reports

`Change` lists the elementary changes of a Game's stub state with what each
sends; every handler call is a sequence of them (`step_changes`). From this
follows, over any run, that a Game reports a stub as ready only after it applied
an ownership sync of the report's epoch that assigns the stub's type to it, and
that everything it sends to the GM is a link packet, a mesh-ready report or such
a service-ready report (`Justified`).
-/

namespace XServer.Node.GameNode
open XServer.Lib XServer.Lib.Wire XServer.Net XServer.Core

/-! ## Changes -/

/-- The stub state is as before. -/
structure SameStubs (game game' : GameNode) : Prop where
  nodeId : game'.nodeId = game.nodeId
  ownership : game'.ownership = game.ownership
  serviceReady : game'.serviceReady = game.serviceReady
  exports : game'.managedExportsLoaded = game.managedExportsLoaded

/-- A packet that carries no stub state, wherever it goes. -/
def PlainSend (nodeId : Bytes) (event : GameEvent) : Prop :=
  ∃ connector packet, event = .send connector packet ∧
    (LinkPacket nodeId packet ∨ HasMsgId packet innerGameGateMeshReadyReportMsgId)

/-- What a handler may apply or store: the syncs and the ready entries its input
brings. -/
structure Brings where
  sync : ServerStubOwnershipSync → Prop
  ready : ServerStubReadyEntry → Prop

/-- The elementary changes of a Game's stub state. -/
inductive Change (brings : Brings) (game : GameNode) : List GameEvent → GameNode → Prop where
  | plain {game' : GameNode} {events : List GameEvent} (same : SameStubs game game')
      (sends : ∀ event ∈ events, PlainSend game.nodeId event) : Change brings game events game'
  | report {env : GameEnv} {packet body : Bytes} {lastReportedAt : UInt64} (complete : LocalStubsReady game)
      (encoded : encodePacket (makePacketHeader innerGameServiceReadyReportMsgId packetSeqNone 0
        (UInt32.ofNat body.length)) body (packetHeaderSize + body.length) = .ok packet)
      (decoded : decodeGameServiceReadyReport body = .ok (game.serviceReadyReport env)) :
      Change brings game [.reported (game.serviceReadyReport env), .send gmRemoteNodeId packet]
        { game with serviceReady := { game.serviceReady with
          lastReportedAssignmentEpoch := game.ownership.assignmentEpoch, lastReportedAtUnixMs := lastReportedAt } }
  | apply (sync : ServerStubOwnershipSync) (brought : brings.sync sync) :
      Change brings game [.applied sync] (game.createAllLocalStubs sync)
  | ready (entry : ServerStubReadyEntry) (brought : brings.ready entry) (isReady : entry.ready = true)
      (owned : ∃ a ∈ game.ownership.ownedAssignments, a.entityType = entry.entityType) :
      Change brings game [] { game with serviceReady := { game.serviceReady with
        readyEntries := upsertReadyEntry game.serviceReady.readyEntries entry } }

/-- A handler call as a sequence of changes. -/
def Changes (brings : Brings) (game : GameNode) (result : GameNode × List GameEvent) : Prop :=
  Steps (Change brings) game result.2 result.1

variable {brings : Brings}

/-- What an input brings. -/
def Input.content (game : GameNode) (i : Input) : Brings where
  sync sync := game.ownershipSyncOf i = some sync
  ready entry := ∃ env assignmentEpoch managed, i = .serverStubReady env assignmentEpoch managed ∧
    entry = managed.toReadyEntry

theorem LinkOp.packet {request : RegisterRequest} {peer packet : Bytes} {session session' : InnerNetworkSession}
    (op : LinkOp request peer session session' (some packet)) : LinkPacket request.nodeId packet := by
  generalize sent : some packet = result at op
  cases op with
  | ask env idle => exact InnerNetworkSession.sendRegisterRequest_some sent.symm
  | tick env => exact .inr (InnerNetworkSession.heartbeatTick_some sent.symm)
  | registerResponse env response => cases sent
  | heartbeatResponse env response => cases sent

theorem takesReady_owned {game : GameNode} {assignmentEpoch : UInt64} {entry : ManagedServerStubReadyEntry}
    (taken : game.takesReady assignmentEpoch entry = true) :
    ∃ a ∈ game.ownership.ownedAssignments, a.entityType = entry.entityType := by
  simp only [takesReady, Bool.and_eq_true, List.any_eq_true, beq_iff_eq] at taken
  exact taken.2

theorem Opening.change {game game' : GameNode} {input : Input} {events : List GameEvent}
    (opening : Opening game input events game') : Change (input.content game) game events game' := by
  cases opening with
  | nothing => exact .plain ⟨rfl, rfl, rfl, rfl⟩ (by simp)
  | state found passed => exact .plain ⟨rfl, rfl, rfl, rfl⟩ (by simp)
  | reset found isGate down => exact .plain ⟨rfl, rfl, rfl, rfl⟩ (by simp)
  | apply latched brought => exact .apply _ brought
  | @ready env assignmentEpoch entry taken =>
    exact .ready entry.toReadyEntry ⟨env, assignmentEpoch, entry, rfl, rfl⟩ rfl (takesReady_owned taken)

theorem Act.change {origin game game' : GameNode} {input : Input} {events : List GameEvent}
    (act : Act origin input game events game') : Change brings game events game' := by
  cases act with
  | @link peer session session' packet found op =>
    refine .plain ⟨rfl, rfl, rfl, rfl⟩ fun event mem => ?_
    simp only [GameEvent.sent, List.mem_map, Option.mem_toList] at mem
    obtain ⟨packet, rfl, rfl⟩ := mem
    exact ⟨peer, packet, rfl, .inl op.packet⟩
  | online serverNowUnixMs => exact .plain ⟨rfl, rfl, rfl, rfl⟩ (by simp)
  | @mesh env looked unlatched complete =>
    rcases game.latch.sendMeshReadyReport_cases env with ⟨packet, kind, sent⟩ | unsent
    · rw [sent]
      refine .plain ⟨rfl, rfl, rfl, rfl⟩ fun event mem => ?_
      exact ⟨gmRemoteNodeId, packet, List.mem_singleton.mp mem, .inr kind⟩
    · rw [unsent]
      exact .plain ⟨rfl, rfl, rfl, rfl⟩ (by simp)
  | report latched complete unreported encoded decoded => exact .report complete encoded decoded

/-- **Every input is a sequence of changes.** -/
theorem step_changes (game : GameNode) (i : Input) : Changes (i.content game) game (game.step i) :=
  (step_handled game i).steps (fun _ _ opening => Steps.single opening.change) fun _ _ _ act => Steps.single act.change

/-! ## Steps that bring nothing -/

/-- The stub state is kept, and only a complete one is reported. -/
structure StubsKept (game : GameNode) (result : GameNode × List GameEvent) : Prop where
  nodeId : result.1.nodeId = game.nodeId
  ownership : result.1.ownership = game.ownership
  readyEntries : result.1.serviceReady.readyEntries = game.serviceReady.readyEntries
  exports : result.1.managedExportsLoaded = game.managedExportsLoaded
  reports : ∀ report, .reported report ∈ result.2 →
    LocalStubsReady game ∧ report.entries = game.serviceReady.readyEntries

theorem Changes.kept {game : GameNode} {result : GameNode × List GameEvent} (h : Changes brings game result)
    (noSync : ∀ sync, ¬ brings.sync sync) (noReady : ∀ entry, ¬ brings.ready entry) : StubsKept game result := by
  have start : StubsKept game (game, []) := ⟨rfl, rfl, rfl, rfl, by simp⟩
  refine @Steps.trace _ _ _ (fun s t => StubsKept game (s, t)) (fun s t es u kept change => ?_) _ _ [] _ h start
  obtain ⟨nodeId, ownership, readyEntries, exports, reports⟩ := kept
  cases change with
  | plain same sends =>
    refine ⟨same.nodeId.trans nodeId, same.ownership.trans ownership,
      (congrArg ServiceReadyState.readyEntries same.serviceReady).trans readyEntries, same.exports.trans exports,
      fun report mem => ?_⟩
    rcases List.mem_append.mp mem with mem | mem
    · exact reports report mem
    · obtain ⟨_, _, impossible, -⟩ := sends _ mem
      cases impossible
  | @report env packet body lastReportedAt complete encoded decoded =>
    refine ⟨nodeId, ownership, readyEntries, exports, fun report mem => ?_⟩
    rcases List.mem_append.mp mem with mem | mem
    · exact reports report mem
    · have same : report = s.serviceReadyReport env := by simpa using mem
      rw [same]
      refine ⟨⟨?_, ?_, ?_⟩, readyEntries⟩
      · rw [← ownership]
        exact complete.epoch
      · rw [← ownership]
        exact complete.owned
      · rw [← readyEntries, ← ownership]
        exact complete.count
  | apply sync brought => exact absurd brought (noSync sync)
  | ready entry brought isReady owned => exact absurd brought (noReady entry)

theorem checkAllLocalStubsReady_kept (game : GameNode) (env : GameEnv) :
    StubsKept game (game.checkAllLocalStubsReady env) := by
  have acts : Acts game (.heartbeatTimer env gmRemoteNodeId) game _ := checkAllLocalStubsReady_acts game env
  have changes : Changes ⟨fun _ => False, fun _ => False⟩ game _ :=
    Steps.refine (fun _ _ _ act => Steps.single act.change) acts
  exact changes.kept (fun _ => id) fun _ => id

/-! ## The trace of a Game justifies its reports -/

/-- The trace holds an applied sync of this epoch that gives `entityType` to `nodeId`. -/
def AssignedIn (trace : List GameEvent) (nodeId : Bytes) (epoch : UInt64) (entityType : Bytes) : Prop :=
  ∃ sync, .applied sync ∈ trace ∧ sync.assignmentEpoch = epoch ∧
    ∃ a ∈ sync.assignments, a.entityType = entityType ∧ a.ownerGameNodeId = nodeId

theorem AssignedIn.mono {trace : List GameEvent} {nodeId entityType : Bytes} {epoch : UInt64}
    (h : AssignedIn trace nodeId epoch entityType) (more : List GameEvent) :
    AssignedIn (trace ++ more) nodeId epoch entityType := by
  obtain ⟨sync, mem, rest⟩ := h
  exact ⟨sync, List.mem_append_left _ mem, rest⟩

/-- Every reported entry is ready and was assigned before the report. -/
def ReportsAssigned (trace : List GameEvent) (nodeId : Bytes) : Prop :=
  ∀ before report after, trace = before ++ .reported report :: after →
    ∀ entry ∈ report.entries, entry.ready = true ∧
      AssignedIn before nodeId report.assignmentEpoch entry.entityType

/-- What a Game may send to the GM. -/
def GmPacket (trace : List GameEvent) (nodeId packet : Bytes) : Prop :=
  LinkPacket nodeId packet ∨ HasMsgId packet innerGameGateMeshReadyReportMsgId ∨
    (HasMsgId packet innerGameServiceReadyReportMsgId ∧ ∃ header body report,
      decodePacket packet = .ok ⟨header, body⟩ ∧ decodeGameServiceReadyReport body = .ok report ∧
      .reported report ∈ trace)

theorem GmPacket.mono {trace : List GameEvent} {nodeId packet : Bytes} (h : GmPacket trace nodeId packet)
    (more : List GameEvent) : GmPacket (trace ++ more) nodeId packet := by
  rcases h with link | mesh | ⟨id, header, body, report, wire, decoded, mem⟩
  · exact .inl link
  · exact .inr (.inl mesh)
  · exact .inr (.inr ⟨id, header, body, report, wire, decoded, List.mem_append_left _ mem⟩)

/-- The kinds of packets that reach the GM are told apart by their ids. -/
theorem GmPacket.register {events : List GameEvent} {source payload : Bytes}
    (h : GmPacket events source payload) (kind : HasMsgId payload innerRegisterMsgId) {packet : Packet}
    {request : RegisterRequest} (decoded : decodePacket payload = .ok packet)
    (body : decodeRegisterRequest packet.payload = .ok request) : request.nodeId = source := by
  rcases h with (⟨-, header, body', request', decoded', body'', named⟩ | heartbeat) | mesh | ⟨report, -⟩
  · rw [decoded] at decoded'
    cases decoded'
    rw [body] at body''
    cases body''
    exact named
  · exact absurd (kind.unique heartbeat) (by decide)
  · exact absurd (kind.unique mesh) (by decide)
  · exact absurd (kind.unique report) (by decide)

theorem GmPacket.report {events : List GameEvent} {source payload : Bytes}
    (h : GmPacket events source payload) (kind : HasMsgId payload innerGameServiceReadyReportMsgId)
    {packet : Packet} {report : GameServiceReadyReport} (decoded : decodePacket payload = .ok packet)
    (body : decodeGameServiceReadyReport packet.payload = .ok report) : .reported report ∈ events := by
  rcases h with (⟨register, -⟩ | heartbeat) | mesh | ⟨-, header, body', report', decoded', body'', mem⟩
  · exact absurd (kind.unique register) (by decide)
  · exact absurd (kind.unique heartbeat) (by decide)
  · exact absurd (kind.unique mesh) (by decide)
  · rw [decoded] at decoded'
    cases decoded'
    rw [body] at body''
    cases body''
    exact mem

/-- The state of a Game against its trace. -/
structure Justified (game : GameNode) (trace : List GameEvent) : Prop where
  owned : ∀ a ∈ game.ownership.ownedAssignments,
    AssignedIn trace game.nodeId game.ownership.assignmentEpoch a.entityType
  ready : ∀ entry ∈ game.serviceReady.readyEntries, entry.ready = true ∧
    ∃ a ∈ game.ownership.ownedAssignments, a.entityType = entry.entityType
  reports : ReportsAssigned trace game.nodeId
  sends : ∀ packet, .send gmRemoteNodeId packet ∈ trace → GmPacket trace game.nodeId packet

theorem Justified.init {game : GameNode} (noOwned : game.ownership = {}) (noReady : game.serviceReady = {}) :
    Justified game [] := by
  refine ⟨?_, ?_, ?_, ?_⟩
  · simp [noOwned]
  · simp [noReady]
  · intro before report after split
    simp at split
  · simp

/-- A Game starts with its configured name and without stubs. -/
theorem onInit_some {config : ClusterConfig} {self : NodeEntry} {boot : NodeBoot} {game : GameNode}
    (init : onInit config self boot = some game) :
    game.nodeId = self.nodeId ∧ game.ownership = {} ∧ game.serviceReady = {} ∧ game.managedExportsLoaded = true := by
  simp only [onInit, Option.bind_eq_bind, Option.bind_eq_some_iff] at init
  obtain ⟨_, -, _, -, _, -, _, -, eq⟩ := init
  cases eq
  exact ⟨rfl, rfl, rfl, rfl⟩

/-- A report in `trace ++ events` is an earlier one, or one of `events` with the
whole of `trace` before it. -/
theorem reportsAssigned_append {trace events : List GameEvent} {nodeId : Bytes} (old : ReportsAssigned trace nodeId)
    (new : ∀ before report after, events = before ++ .reported report :: after →
      ∀ entry ∈ report.entries, entry.ready = true ∧
        AssignedIn (trace ++ before) nodeId report.assignmentEpoch entry.entityType) :
    ReportsAssigned (trace ++ events) nodeId := by
  intro before report after split
  rcases List.append_eq_append_iff.mp split with ⟨middle, rfl, rest⟩ | ⟨middle, rfl, rest⟩
  · exact new middle report after rest
  · cases middle with
    | nil => simpa using new [] report after rest.symm
    | cons e middle =>
      rw [List.cons_append, List.cons.injEq] at rest
      obtain ⟨rfl, rest⟩ := rest
      exact old before report middle rfl

theorem upsertReadyEntry_mem {entries : List ServerStubReadyEntry} {entry e : ServerStubReadyEntry}
    (h : e ∈ upsertReadyEntry entries entry) : e ∈ entries ∨ e = entry := by
  unfold upsertReadyEntry at h
  split at h
  · rcases mem_modifyFirst h with mem | ⟨_, -, -, rfl⟩
    · exact .inl mem
    · exact .inr rfl
  · simpa using h

/-- Equivalent owned lists have the same types. -/
theorem types_of_haveEquivalent {left right : List ServerStubOwnershipEntry}
    (h : haveEquivalentOwnedAssignments left right = true) :
    left.map (·.entityType) = right.map (·.entityType) := by
  unfold haveEquivalentOwnedAssignments at h
  simp only [Bool.and_eq_true, decide_eq_true_eq, List.all_eq_true, beq_iff_eq] at h
  obtain ⟨length, each⟩ := h
  refine List.ext_getElem (by simp [length]) fun i hi hj => ?_
  simp only [List.length_map] at hi hj
  have pair : (left[i], right[i]) ∈ left.zip right := by
    rw [List.mem_iff_getElem]
    exact ⟨i, by simp [hi, hj], by simp⟩
  simpa using (each _ pair).1.1.1

theorem haveEquivalentOwnedAssignments_type {left right : List ServerStubOwnershipEntry}
    (h : haveEquivalentOwnedAssignments left right = true) {r : ServerStubOwnershipEntry} (mem : r ∈ right) :
    ∃ l ∈ left, l.entityType = r.entityType := by
  have listed : r.entityType ∈ left.map (·.entityType) := types_of_haveEquivalent h ▸ List.mem_map_of_mem mem
  exact List.mem_map.mp listed

/-- Nothing a change adds to the trace takes a justification away. -/
theorem Justified.sends_append {trace events : List GameEvent} {nodeId : Bytes}
    (old : ∀ packet, .send gmRemoteNodeId packet ∈ trace → GmPacket trace nodeId packet)
    (new : ∀ packet, .send gmRemoteNodeId packet ∈ events → GmPacket (trace ++ events) nodeId packet) :
    ∀ packet, .send gmRemoteNodeId packet ∈ trace ++ events → GmPacket (trace ++ events) nodeId packet := by
  intro packet mem
  rcases List.mem_append.mp mem with mem | mem
  · exact (old packet mem).mono events
  · exact new packet mem

/-- A change of the links alone. -/
theorem Justified.plain {game game' : GameNode} {trace events : List GameEvent} (h : Justified game trace)
    (same : SameStubs game game') (sends : ∀ event ∈ events, PlainSend game.nodeId event) :
    Justified game' (trace ++ events) := by
  obtain ⟨owned, ready, reports, sent⟩ := h
  refine ⟨?_, ?_, ?_, ?_⟩
  · rw [same.ownership, same.nodeId]
    exact fun a mem => (owned a mem).mono events
  · rw [same.ownership, same.serviceReady]
    exact ready
  · rw [same.nodeId]
    refine reportsAssigned_append reports fun before report after split => ?_
    obtain ⟨_, _, impossible, -⟩ := sends (.reported report) (by rw [split]; simp)
    cases impossible
  · rw [same.nodeId]
    refine Justified.sends_append sent fun packet mem => ?_
    obtain ⟨_, _, same, link | mesh⟩ := sends _ mem
    · cases same
      exact .inl link
    · cases same
      exact .inr (.inl mesh)

/-- A report carries the ready entries, all of them owned under its epoch. -/
theorem Justified.report {game : GameNode} {trace : List GameEvent} (h : Justified game trace) {env : GameEnv}
    {packet body : Bytes} {lastReportedAt : UInt64}
    (encoded : encodePacket (makePacketHeader innerGameServiceReadyReportMsgId packetSeqNone 0
      (UInt32.ofNat body.length)) body (packetHeaderSize + body.length) = .ok packet)
    (decoded : decodeGameServiceReadyReport body = .ok (game.serviceReadyReport env)) :
    Justified { game with serviceReady := { game.serviceReady with
        lastReportedAssignmentEpoch := game.ownership.assignmentEpoch, lastReportedAtUnixMs := lastReportedAt } }
      (trace ++ [.reported (game.serviceReadyReport env), .send gmRemoteNodeId packet]) := by
  obtain ⟨owned, ready, reports, sent⟩ := h
  refine ⟨fun a mem => (owned a mem).mono _, ready, ?_, ?_⟩
  · refine reportsAssigned_append reports fun before report after split entry mem => ?_
    -- the new events hold one report, at their head
    cases before with
    | cons e before =>
      rw [List.cons_append, List.cons.injEq] at split
      have : GameEvent.reported report ∈ [GameEvent.send gmRemoteNodeId packet] := by rw [split.2]; simp
      simp at this
    | nil =>
      rw [List.nil_append, List.cons.injEq, GameEvent.reported.injEq] at split
      obtain ⟨rfl, -⟩ := split
      obtain ⟨isReady, a, mem', type⟩ := ready entry mem
      have assigned := (owned a mem').mono ([] : List GameEvent)
      exact ⟨isReady, type ▸ assigned⟩
  · refine Justified.sends_append sent fun packet' mem => ?_
    have same : packet' = packet := by simpa using mem
    rw [same]
    exact .inr (.inr ⟨⟨_, readRawHeader_encodePacket encoded, rfl⟩, _, body, _,
      decodePacket_encodePacket encoded, decoded, by simp⟩)

/-- An applied sync owns what it assigns here; the ready entries survive only
when the owned types are the same. -/
theorem Justified.apply {game : GameNode} {trace : List GameEvent} (h : Justified game trace)
    (sync : ServerStubOwnershipSync) : Justified (game.createAllLocalStubs sync) (trace ++ [.applied sync]) := by
  obtain ⟨owned, ready, reports, sent⟩ := h
  refine ⟨fun a mem => ?_, fun entry mem => ?_, ?_, ?_⟩
  · obtain ⟨mem, here⟩ := List.mem_filter.mp mem
    exact ⟨sync, by simp, rfl, a, mem, rfl, beq_iff_eq.mp here⟩
  · unfold createAllLocalStubs at mem ⊢
    simp only at mem ⊢
    split at mem
    · rename_i preserved
      simp only [Bool.and_eq_true] at preserved
      obtain ⟨isReady, a, mem', type⟩ := ready entry mem
      obtain ⟨l, mem'', type'⟩ := haveEquivalentOwnedAssignments_type preserved.2 mem'
      exact ⟨isReady, l, mem'', type'.trans type⟩
    · cases mem
  · refine reportsAssigned_append reports fun before report after split => ?_
    have : GameEvent.reported report ∈ [GameEvent.applied sync] := by rw [split]; simp
    simp at this
  · exact Justified.sends_append sent (by simp)

/-- A ready callback for an owned type. -/
theorem Justified.stored {game : GameNode} {trace : List GameEvent} (h : Justified game trace)
    {entry : ServerStubReadyEntry} (isReady : entry.ready = true)
    (owned : ∃ a ∈ game.ownership.ownedAssignments, a.entityType = entry.entityType) :
    Justified { game with serviceReady := { game.serviceReady with
      readyEntries := upsertReadyEntry game.serviceReady.readyEntries entry } } (trace ++ []) := by
  rw [List.append_nil]
  refine ⟨h.owned, fun e mem => ?_, h.reports, h.sends⟩
  rcases upsertReadyEntry_mem mem with mem | rfl
  · exact h.ready e mem
  · exact ⟨isReady, owned⟩

theorem Change.justified (game : GameNode) (trace events : List GameEvent) (game' : GameNode)
    (h : Justified game trace) (change : Change brings game events game') : Justified game' (trace ++ events) := by
  cases change with
  | plain same sends => exact h.plain same sends
  | report complete encoded decoded => exact h.report encoded decoded
  | apply sync brought => exact h.apply sync
  | ready entry brought isReady owned => exact h.stored isReady owned

theorem step_justified (game : GameNode) (trace : List GameEvent) (i : Input) (h : Justified game trace) :
    Justified (game.step i).1 (trace ++ (game.step i).2) :=
  Steps.trace Change.justified (step_changes game i) h

theorem Change.nodeId {game game' : GameNode} {events : List GameEvent} (change : Change brings game events game') :
    game'.nodeId = game.nodeId := by
  cases change with
  | plain same sends => exact same.nodeId
  | report complete encoded decoded => rfl
  | apply sync brought => rfl
  | ready entry brought isReady owned => rfl

/-- A Game keeps its node id. -/
theorem step_nodeId (game : GameNode) (i : Input) : (game.step i).1.nodeId = game.nodeId :=
  @Steps.trace _ _ _ (fun g _ => g.nodeId = game.nodeId) (fun _ _ _ _ same change => change.nodeId.trans same)
    _ _ [] _ (step_changes game i) rfl

end XServer.Node.GameNode
