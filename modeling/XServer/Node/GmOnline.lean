import XServer.Node.GmRegister
import Mathlib.Data.List.Perm.Subperm

/-!
# The nodes-online phase

The GM calls its nodes online when its startup lists are as long as the lists of
expected nodes. The lists only grow, while a timeout scan takes the registration
of a silent session back, so the two agree only as long as no scan before that
moment finds a listed node overdue (`online_complete`).
-/

namespace XServer.Node
open XServer.Lib XServer.Lib.Wire XServer.Net XServer.Core

namespace GmNode

/-! ## Present nodes -/

/-- The node has a registered session that has not timed out. -/
def LiveNode (gm : GmNode) (nodeId : Bytes) : Prop :=
  ∃ session, gm.sessions.findByNodeId nodeId = some session ∧ session.registered = true ∧
    session.heartbeatTimedOut = false

/-- The scan's test: a heartbeat was seen, and it is too long ago. -/
def Overdue (now : UInt64) (session : InnerNetworkSession) : Prop :=
  session.lastHeartbeatAtUnixMs ≠ 0 ∧ session.lastHeartbeatAtUnixMs ≤ now ∧
    ¬ now - session.lastHeartbeatAtUnixMs < defaultHeartbeatTimeoutMs.toUInt64

instance (now : UInt64) (session : InnerNetworkSession) : Decidable (Overdue now session) :=
  inferInstanceAs (Decidable (_ ∧ _ ∧ ¬ _))

/-- The nodes on the startup lists. -/
def listedNodeIds (gm : GmNode) : List Bytes := gm.startup.registeredGateNodeIds ++ gm.startup.registeredGameNodeIds

/-- Before the nodes are online, a scan finds no listed node overdue. -/
def ScanSpares (gm : GmNode) : Input → Prop
  | .timeoutScan env => gm.startup.allNodesOnline = false → ∀ nodeId ∈ gm.listedNodeIds,
      ∀ session ∈ gm.sessions.findByNodeId nodeId, ¬ Overdue env.nowUnixMs session
  | _ => True

instance (gm : GmNode) : ∀ input, Decidable (gm.ScanSpares input)
  | .timeoutScan env => inferInstanceAs (Decidable (gm.startup.allNodesOnline = false → ∀ nodeId ∈ gm.listedNodeIds,
      ∀ session ∈ gm.sessions.findByNodeId nodeId, ¬ Overdue env.nowUnixMs session))
  | .message _ _ _ => inferInstanceAs (Decidable True)
  | .peerDisconnected _ => inferInstanceAs (Decidable True)

theorem timeoutSession_of_spared {now : UInt64} {session : InnerNetworkSession} (spared : ¬ Overdue now session) :
    timeoutSession now session = session := by
  unfold timeoutSession
  split
  · rfl
  · rename_i seen
    split
    · rfl
    · rename_i late
      simp only [Bool.or_eq_true, decide_eq_true_eq, not_or] at seen
      exact absurd ⟨seen.1, UInt64.not_lt.mp seen.2, late⟩ spared

/-! ## The lists -/

/-- What recording does to the two lists. -/
theorem recordStartupRegistration_lists (gm : GmNode) (processType : ProcessType) (nodeId : Bytes) :
    let after := (gm.recordStartupRegistration processType nodeId).startup
    (after.registeredGateNodeIds = gm.startup.registeredGateNodeIds ∨
      after.registeredGateNodeIds = gm.startup.registeredGateNodeIds ++ [nodeId] ∧
        nodeId ∈ gm.startup.expectedGateNodeIds ∧ nodeId ∉ gm.startup.registeredGateNodeIds) ∧
    (after.registeredGameNodeIds = gm.startup.registeredGameNodeIds ∨
      after.registeredGameNodeIds = gm.startup.registeredGameNodeIds ++ [nodeId] ∧
        nodeId ∈ gm.expectedGameNodeIds ∧ nodeId ∉ gm.startup.registeredGameNodeIds) := by
  unfold recordStartupRegistration
  cases processType with
  | gm => exact ⟨.inl rfl, .inl rfl⟩
  | gate =>
    simp only
    split
    · exact ⟨.inl rfl, .inl rfl⟩
    · rename_i new
      simp only [Bool.or_eq_true, Bool.not_eq_true', not_or, Bool.not_eq_false, List.contains_iff_mem] at new
      exact ⟨.inr ⟨rfl, new⟩, .inl rfl⟩
  | game =>
    simp only
    split
    · exact ⟨.inl rfl, .inl rfl⟩
    · rename_i new
      simp only [Bool.or_eq_true, decide_eq_true_eq, not_or, List.contains_iff_mem] at new
      refine ⟨.inl rfl, .inr ⟨rfl, ?_, new.2⟩⟩
      obtain ⟨entry, found⟩ := Option.ne_none_iff_exists'.mp new.1
      unfold meshReadyEntry at found
      have named := List.find?_some found
      exact eq_of_beq named ▸ List.mem_map_of_mem (List.mem_of_find?_eq_some found)

/-- A list of distinct members of another. -/
def Roll (listed expected : List Bytes) : Prop := listed.Nodup ∧ listed ⊆ expected

theorem Roll.snoc {listed expected : List Bytes} (roll : Roll listed expected) {nodeId : Bytes}
    (isExpected : nodeId ∈ expected) (new : nodeId ∉ listed) : Roll (listed ++ [nodeId]) expected := by
  constructor
  · rw [List.nodup_append]
    refine ⟨roll.1, List.pairwise_singleton _ nodeId, ?_⟩
    rintro a mem b single rfl
    exact new (List.mem_singleton.mp single ▸ mem)
  · intro id mem
    rcases List.mem_append.mp mem with mem | single
    · exact roll.2 mem
    · exact List.mem_singleton.mp single ▸ isExpected

/-- Counting is enough: a roll as long as the list it is taken from is complete. -/
theorem Roll.complete {listed expected : List Bytes} (roll : Roll listed expected)
    (counted : listed.length = expected.length) : expected ⊆ listed := by
  have sub : listed.Subperm expected := List.Nodup.subperm roll.1 roll.2
  have perm : listed.Perm expected := sub.perm_of_length_le counted.ge
  intro nodeId mem
  exact perm.mem_iff.mpr mem

/-! ## The invariant -/

/-- The lists are rolls of the expected nodes, and until the nodes are online
every listed node is present. -/
structure RollInv (gm : GmNode) : Prop where
  gates : Roll gm.startup.registeredGateNodeIds gm.startup.expectedGateNodeIds
  games : Roll gm.startup.registeredGameNodeIds gm.expectedGameNodeIds
  live : gm.startup.allNodesOnline = false → ∀ nodeId ∈ gm.listedNodeIds, LiveNode gm nodeId

theorem init_rollInv (gates games : List Bytes) : RollInv (GmNode.init gates games) := by
  constructor
  · exact ⟨List.nodup_nil, List.nil_subset _⟩
  · exact ⟨List.nodup_nil, List.nil_subset _⟩
  · exact fun _ nodeId mem => by cases mem

theorem RollInv.of_rolls {gm gm' : GmNode} (inv : RollInv gm) (rolls : SameRolls gm gm')
    (live : ∀ nodeId ∈ gm.listedNodeIds, LiveNode gm nodeId → LiveNode gm' nodeId) : RollInv gm' where
  gates := by
    rw [rolls.gates, rolls.expectedGates]
    exact inv.gates
  games := by
    rw [rolls.games, rolls.expectedGames]
    exact inv.games
  live closed nodeId mem := by
    rw [rolls.online] at closed
    rw [listedNodeIds, rolls.gates, rolls.games] at mem
    exact live nodeId mem (inv.live closed nodeId mem)

theorem liveNode_of_eq {gm gm' : GmNode} (same : gm'.sessions = gm.sessions) {nodeId : Bytes} (live : LiveNode gm nodeId) :
    LiveNode gm' nodeId := by
  unfold LiveNode
  rw [same]
  exact live

/-- A grant leaves the nodes that are present where they are, and adds one. -/
theorem liveNode_granted {gm gm' : GmNode} {env : GmEnv} {registration : InnerNetworkSessionRegistration}
    {sessions : InnerNetworkSessionManager} (accepted : gm.sessions.register registration = .ok sessions)
    (after : gm'.sessions = grantedSessions env registration sessions) {nodeId : Bytes}
    (live : registration.nodeId = nodeId ∨ LiveNode gm nodeId) : LiveNode gm' nodeId := by
  unfold LiveNode
  rw [after, findByNodeId_granted accepted]
  split
  · exact ⟨_, rfl, rfl, rfl⟩
  · rename_i other
    exact live.resolve_left other

theorem recorded_rollInv {gm : GmNode} {env : GmEnv} {registration : InnerNetworkSessionRegistration}
    {sessions : InnerNetworkSessionManager} (inv : RollInv gm)
    (accepted : gm.sessions.register registration = .ok sessions) : RollInv (gm.recorded env registration sessions) := by
  have lists := recordStartupRegistration_lists { gm with sessions := grantedSessions env registration sessions }
    registration.processType registration.nodeId
  obtain ⟨gates, games, eq⟩ := recordStartupRegistration_eq
    { gm with sessions := grantedSessions env registration sessions } registration.processType registration.nodeId
  have live := fun {nodeId} => @liveNode_granted gm (gm.recorded env registration sessions) env _ _ accepted
    (recorded_sessions gm env registration sessions) nodeId
  unfold recorded at live ⊢
  rw [eq] at lists live ⊢
  obtain ⟨gateList, gameList⟩ := lists
  have member : ∀ {listed listed' : List Bytes} {p : Prop},
      (listed' = listed ∨ listed' = listed ++ [registration.nodeId] ∧ p) →
      ∀ nodeId ∈ listed', registration.nodeId = nodeId ∨ nodeId ∈ listed := by
    rintro listed listed' p (rfl | ⟨rfl, -⟩) nodeId mem
    · exact .inr mem
    · rcases List.mem_append.mp mem with mem | single
      · exact .inr mem
      · exact .inl (List.mem_singleton.mp single).symm
  constructor
  · rcases gateList with same | ⟨longer, expected, new⟩
    · exact same ▸ inv.gates
    · exact longer ▸ inv.gates.snoc expected new
  · rcases gameList with same | ⟨longer, expected, new⟩
    · exact same ▸ inv.games
    · exact longer ▸ inv.games.snoc expected new
  · intro closed nodeId mem
    refine live ?_
    rcases List.mem_append.mp mem with mem | mem
    · exact (member gateList nodeId mem).imp_right fun mem => inv.live closed nodeId (List.mem_append_left _ mem)
    · exact (member gameList nodeId mem).imp_right fun mem => inv.live closed nodeId (List.mem_append_right _ mem)

theorem step_rollInv (gm : GmNode) (input : Input) (inv : RollInv gm) (spares : gm.ScanSpares input) :
    RollInv (gm.step input).1 := by
  have roll := step_rollStep gm input
  generalize gm.step input = result at roll ⊢
  cases roll with
  | kept rolls sessions => exact inv.of_rolls rolls fun _ _ live => liveNode_of_eq sessions live
  | @refreshed gm' events other load now rolls sessions =>
    refine inv.of_rolls rolls fun nodeId _ ⟨session, found, registered, inTime⟩ => ?_
    unfold LiveNode
    rw [sessions, InnerNetworkSessionManager.findByNodeId_modify, found]
    split
    · exact ⟨_, rfl, registered, inTime⟩
    · exact ⟨_, rfl, registered, inTime⟩
  | @scanned env scan =>
    subst scan
    refine ⟨inv.gates, inv.games, fun closed nodeId mem => ?_⟩
    obtain ⟨session, found, registered, inTime⟩ := inv.live closed nodeId mem
    refine ⟨session, ?_, registered, inTime⟩
    have spared := timeoutSession_of_spared (spares closed nodeId mem session found)
    simp only [handleTimeoutScan, InnerNetworkSessionManager.findByNodeId_mapSessions, found, Option.map_some, spared]
  | @register env routingId payload result arrived kind outcome =>
    cases outcome with
    | refused none answers => exact inv
    | unanswered granted unsent =>
      obtain ⟨-, -, -, -, accepted⟩ := grantRegister_some granted
      exact inv.of_rolls ⟨rfl, rfl, rfl, rfl, rfl⟩ fun _ _ live => liveNode_granted accepted rfl (.inr live)
    | answered granted sent =>
      obtain ⟨-, -, -, -, accepted⟩ := grantRegister_some granted
      exact recorded_rollInv inv accepted
    | online granted sent closed complete =>
      obtain ⟨-, -, -, -, accepted⟩ := grantRegister_some granted
      have recorded := @recorded_rollInv _ env _ _ inv accepted
      rw [onAllNodeOnline_eq env closed]
      exact ⟨recorded.gates, recorded.games, nofun⟩

/-! ## The moment the nodes are online -/

/-- The body of the nodes-online notification. -/
def onlineBody (now : UInt64) : Bytes := 1 :: (bigEndian 4 0 ++ bigEndian 8 now.toNat)

theorem encode_onlineBody (now : UInt64) :
    encodeClusterNodesOnlineNotify ⟨true, 0, now⟩ clusterNodesOnlineNotifySize = .ok (onlineBody now) := by
  have emits : Emits (writeClusterNodesOnlineNotify ⟨true, 0, now⟩) (onlineBody now) :=
    ((emits_bool _).seq <| (emits_uint32 _).seq (emits_uint64 _)).mapError
  have fits : (onlineBody now).length ≤ clusterNodesOnlineNotifySize := by
    simp [onlineBody, clusterNodesOnlineNotifySize]
  exact emits.encodeInto fits

/-- A notification that the network takes is sent. -/
theorem sendClusterNodesOnlineNotifyToGame_sent {env : GmEnv} (session : InnerNetworkSession) (now : UInt64)
    (sends : ∀ packet, env.sendOk session.routingId packet = true) :
    ∃ packet, HasMsgId packet innerClusterNodesOnlineNotifyMsgId ∧
      .send session.routingId packet ∈ sendClusterNodesOnlineNotifyToGame env session true now := by
  have short : (onlineBody now).length ≤ 4294967295 := by simp [onlineBody]
  have encoded := @encodePacket_make innerClusterNodesOnlineNotifyMsgId packetSeqNone 0 (onlineBody now) (by decide) short
  have sent : env.send session.routingId innerClusterNodesOnlineNotifyMsgId packetSeqNone 0 (onlineBody now) =
      some (headerBytes (makePacketHeader innerClusterNodesOnlineNotifyMsgId packetSeqNone 0
        (UInt32.ofNat (onlineBody now).length)) ++ onlineBody now) := by
    unfold GmEnv.send
    rw [encoded]
    exact if_pos (sends _)
  refine ⟨_, GmEnv.send_msgId sent, ?_⟩
  simp only [sendClusterNodesOnlineNotifyToGame, encode_onlineBody, sent]
  exact List.mem_singleton_self _

/-- If the step calls the nodes online, every expected node is present, and every
expected Game whose channel takes the notification is sent it. -/
def OnlineComplete (gm : GmNode) (input : Input) : Prop :=
  gm.startup.allNodesOnline = false → (gm.step input).1.startup.allNodesOnline = true →
    (∀ nodeId ∈ gm.startup.expectedGateNodeIds ++ gm.expectedGameNodeIds, LiveNode (gm.step input).1 nodeId) ∧
    ∃ env routingId payload, input = .message env routingId payload ∧
      ∀ nodeId ∈ gm.expectedGameNodeIds, ∃ session, (gm.step input).1.sessions.findByNodeId nodeId = some session ∧
        ((∀ packet, env.sendOk session.routingId packet = true) →
          ∃ packet, HasMsgId packet innerClusterNodesOnlineNotifyMsgId ∧
            .send session.routingId packet ∈ (gm.step input).2)

theorem mem_notifyTargets {gm : GmNode} {nodeIds : List Bytes} {nodeId : Bytes} {session : InnerNetworkSession}
    (listed : nodeId ∈ nodeIds) (found : gm.sessions.findByNodeId nodeId = some session)
    (registered : session.registered = true) (inTime : session.heartbeatTimedOut = false) :
    session ∈ gm.notifyTargets nodeIds := by
  refine List.mem_filterMap.mpr ⟨nodeId, listed, ?_⟩
  rw [found]
  exact Option.filter_some_pos (by simp [registered, inTime])

theorem areAllExpectedNodesOnline_counts {gm : GmNode} (h : gm.areAllExpectedNodesOnline = true) :
    gm.startup.registeredGateNodeIds.length = gm.startup.expectedGateNodeIds.length ∧
      gm.startup.registeredGameNodeIds.length = gm.expectedGameNodeIds.length := by
  simp only [areAllExpectedNodesOnline, Bool.and_eq_true, beq_iff_eq] at h
  rw [expectedGameNodeIds, List.length_map]
  exact h.2

/-- The lists are complete, and their nodes are present. -/
theorem RollInv.all_live {gm : GmNode} (inv : RollInv gm) (closed : gm.startup.allNodesOnline = false)
    (complete : gm.areAllExpectedNodesOnline = true) :
    ∀ nodeId ∈ gm.startup.expectedGateNodeIds ++ gm.expectedGameNodeIds, LiveNode gm nodeId := by
  obtain ⟨gateCount, gameCount⟩ := areAllExpectedNodesOnline_counts complete
  intro nodeId mem
  apply inv.live closed
  rcases List.mem_append.mp mem with gate | game
  · exact List.mem_append_left _ (inv.gates.complete gateCount gate)
  · exact List.mem_append_right _ (inv.games.complete gameCount game)

theorem recorded_expected (gm : GmNode) (env : GmEnv) (registration : InnerNetworkSessionRegistration)
    (sessions : InnerNetworkSessionManager) :
    (gm.recorded env registration sessions).startup.expectedGateNodeIds = gm.startup.expectedGateNodeIds ∧
      (gm.recorded env registration sessions).expectedGameNodeIds = gm.expectedGameNodeIds ∧
      (gm.recorded env registration sessions).startup.allNodesOnline = gm.startup.allNodesOnline := by
  obtain ⟨gates, games, eq⟩ := recordStartupRegistration_eq
    { gm with sessions := grantedSessions env registration sessions } registration.processType registration.nodeId
  unfold recorded
  rw [eq]
  exact ⟨rfl, rfl, rfl⟩

theorem step_onlineComplete (gm : GmNode) (input : Input) (inv : RollInv gm) : OnlineComplete gm input := by
  unfold OnlineComplete
  intro closed opened
  have roll := step_rollStep gm input
  generalize gm.step input = result at roll opened ⊢
  cases roll with
  | kept rolls sessions => exact absurd (opened.symm.trans (rolls.online.trans closed)) nofun
  | refreshed rolls sessions => exact absurd (opened.symm.trans (rolls.online.trans closed)) nofun
  | scanned scan => exact absurd (opened.symm.trans closed) nofun
  | @register env routingId payload result arrived kind outcome =>
    cases outcome with
    | refused none answers => exact absurd (opened.symm.trans closed) nofun
    | unanswered granted unsent => exact absurd (opened.symm.trans closed) nofun
    | answered granted sent =>
      exact absurd (opened.symm.trans ((recorded_expected gm env _ _).2.2.trans closed)) nofun
    | @online seq registration sessions granted sent waiting complete =>
      obtain ⟨-, -, -, -, accepted⟩ := grantRegister_some granted
      obtain ⟨gates, games, -⟩ := recorded_expected gm env registration sessions
      have present := (@recorded_rollInv _ env _ _ inv accepted).all_live waiting complete
      rw [gates, games] at present
      rw [onAllNodeOnline_eq env waiting]
      refine ⟨present, env, routingId, payload, arrived, fun nodeId game => ?_⟩
      obtain ⟨session, found, registered, inTime⟩ := present nodeId (List.mem_append_right _ game)
      refine ⟨session, found, fun sends => ?_⟩
      obtain ⟨packet, kind, sent⟩ := sendClusterNodesOnlineNotifyToGame_sent session env.laterUnixMs sends
      refine ⟨packet, kind, List.mem_cons_of_mem _ ?_⟩
      unfold onAllNodeOnline
      rw [if_neg (by rw [waiting]; nofun)]
      refine List.mem_cons_of_mem _ (List.mem_flatMap.mpr ⟨session, ?_, sent⟩)
      have expected : nodeId ∈ (gm.recorded env registration sessions).expectedGameNodeIds := games.symm ▸ game
      exact mem_notifyTargets expected found registered inTime

/-- **Online means present.** As long as no scan finds a listed node overdue before
the nodes are online, every expected node is present when the GM calls them
online, and no expected Game misses the notification. -/
theorem online_complete (gates games : List Bytes) {is : List Input}
    (along : machine.Along ScanSpares (GmNode.init gates games) is) :
    machine.Along OnlineComplete (GmNode.init gates games) is :=
  Machine.Along.of_invariant step_rollInv (fun gm input inv _ => step_onlineComplete gm input inv)
    (init_rollInv gates games) along

/-- Both nodes register in time. -/
theorem online_complete_sample :
    machine.Along ScanSpares sampleGm [sampleAsk innerProcessTypeGate (text "Gate0") 1000,
        .timeoutScan { nowUnixMs := 2000 }, sampleAsk innerProcessTypeGame (text "Game0") 3000] ∧
      machine.Along OnlineComplete sampleGm [sampleAsk innerProcessTypeGate (text "Gate0") 1000,
        .timeoutScan { nowUnixMs := 2000 }, sampleAsk innerProcessTypeGame (text "Game0") 3000] ∧
      (machine.run sampleGm [sampleAsk innerProcessTypeGate (text "Gate0") 1000,
        .timeoutScan { nowUnixMs := 2000 },
        sampleAsk innerProcessTypeGame (text "Game0") 3000]).1.startup.allNodesOnline = true := by
  have along : machine.Along ScanSpares sampleGm [sampleAsk innerProcessTypeGate (text "Gate0") 1000,
      .timeoutScan { nowUnixMs := 2000 }, sampleAsk innerProcessTypeGame (text "Game0") 3000] := by decide +kernel
  exact ⟨along, online_complete _ _ along, by decide +kernel⟩

/-- The Gate registers and falls silent; the Game registers when the Gate has
timed out, and the GM calls both online. -/
theorem silent_gate_called_online :
    ¬ machine.Along OnlineComplete sampleGm [sampleAsk innerProcessTypeGate (text "Gate0") 1000,
      .timeoutScan { nowUnixMs := 20000 }, sampleAsk innerProcessTypeGame (text "Game0") 20001] := by
  rintro ⟨-, -, complete, -⟩
  obtain ⟨present, -⟩ := complete (by decide +kernel) (by decide +kernel)
  obtain ⟨session, found, registered, -⟩ := present (text "Gate0") (by decide +kernel)
  have expired : ((machine.run sampleGm [sampleAsk innerProcessTypeGate (text "Gate0") 1000,
      .timeoutScan { nowUnixMs := 20000 },
      sampleAsk innerProcessTypeGame (text "Game0") 20001]).1.sessions.findByNodeId (text "Gate0")).map
        (fun session => session.registered) = some false := by decide +kernel
  have still := (congrArg (Option.map fun session => session.registered) found).symm.trans expired
  rw [Option.map_some, registered] at still
  cases still

/-! ## What the lists tell -/

/-- The startup list of a kind of process. -/
def startupList (gm : GmNode) : ProcessType → List Bytes
  | .gate => gm.startup.registeredGateNodeIds
  | .game => gm.startup.registeredGameNodeIds
  | .gm => []

/-- The expected nodes of a kind of process. -/
def expectedList (gm : GmNode) : ProcessType → List Bytes
  | .gate => gm.startup.expectedGateNodeIds
  | .game => gm.expectedGameNodeIds
  | .gm => []

/-- The message is a register request for this node as this kind of process, and the
GM answers it with a grant. -/
def Accepts (processType : ProcessType) (nodeId : Bytes) (gm : GmNode) : Input → Prop
  | .message env routingId payload => HasMsgId payload innerRegisterMsgId ∧ ∃ seq request packet,
      registerOf payload = some (seq, request, processType) ∧ request.nodeId = nodeId ∧
      .send routingId packet ∈ (gm.step (.message env routingId payload)).2 ∧ IsGrant packet seq
  | _ => False

theorem mem_expectedList_game {gm : GmNode} {nodeId : Bytes} :
    nodeId ∈ gm.expectedGameNodeIds ↔ gm.meshReadyEntry nodeId ≠ none := by
  constructor
  · rintro mem missing
    obtain ⟨entry, listed, rfl⟩ := List.mem_map.mp mem
    simpa using List.find?_eq_none.mp missing entry listed
  · intro found
    obtain ⟨entry, found⟩ := Option.ne_none_iff_exists'.mp found
    have named := List.find?_some found
    exact eq_of_beq named ▸ List.mem_map_of_mem (List.mem_of_find?_eq_some found)

/-- Recording a node extends the list of its kind, if it is expected there and new. -/
theorem startupList_record (gm : GmNode) (processType kind : ProcessType) (nodeId : Bytes) :
    (gm.recordStartupRegistration processType nodeId).startupList kind =
      if processType = kind ∧ nodeId ∈ gm.expectedList kind ∧ nodeId ∉ gm.startupList kind then
        gm.startupList kind ++ [nodeId]
      else gm.startupList kind := by
  by_cases same : processType = kind
  · subst same
    cases processType with
    | gm =>
      rw [if_neg (by simp [expectedList])]
      rfl
    | gate =>
      simp only [recordStartupRegistration, true_and, startupList, expectedList]
      split
      · rename_i known
        rw [if_neg (by simpa [Decidable.imp_iff_not_or] using known)]
      · rename_i new
        rw [if_pos (by simpa using new)]
    | game =>
      simp only [recordStartupRegistration, true_and, startupList, expectedList, mem_expectedList_game]
      split
      · rename_i known
        rw [if_neg (by simpa [Decidable.imp_iff_not_or] using known)]
      · rename_i new
        rw [if_pos (by simpa using new)]
  · rw [if_neg fun h => same h.1]
    cases processType with
    | gm => rfl
    | gate =>
      simp only [recordStartupRegistration]
      split
      · rfl
      · cases kind with
        | gate => exact absurd rfl same
        | game => rfl
        | gm => rfl
    | game =>
      simp only [recordStartupRegistration]
      split
      · rfl
      · cases kind with
        | game => exact absurd rfl same
        | gate => rfl
        | gm => rfl

/-- An answer that refuses is no grant. -/
theorem sendRegisterError_notGrant {env : GmEnv} {routingId packet : Bytes} {seq seq' : UInt32} {code : Int32}
    (sent : .send routingId packet ∈ sendRegisterError env routingId seq code) : ¬ IsGrant packet seq' := by
  rintro ⟨header, body, answer, decoded, -, flags, -⟩
  unfold sendRegisterError at sent
  split at sent
  · cases sent
  · simp only [GmEvent.sent, List.mem_map, Option.mem_toList, GmEvent.send.injEq, true_and, exists_eq_right] at sent
    rw [decodePacket_encodePacket (GmEnv.send_some sent)] at decoded
    cases decoded
    have same : flagResponse ||| flagError = flagResponse := flags
    exact absurd same (by decide)

/-- A register request is accepted if the session table takes it and the network
takes the answer. -/
theorem accepts_iff {gm : GmNode} {env : GmEnv} {routingId payload nodeId : Bytes} {kind : ProcessType}
    (register : HasMsgId payload innerRegisterMsgId) :
    Accepts kind nodeId gm (.message env routingId payload) ↔ ∃ seq registration sessions,
      gm.grantRegister env routingId payload = some (seq, registration, sessions) ∧
      env.sendOk routingId (grantPacket env seq) = true ∧ registration.processType = kind ∧ registration.nodeId = nodeId := by
  simp only [Accepts, step_register register]
  have outcome := registerOutcome gm env routingId payload
  generalize gm.handleRegisterMessage env routingId payload = result at outcome ⊢
  -- a granted request whose answer is among the events
  have answered : ∀ {seq registration sessions} {events : List GmEvent},
      gm.grantRegister env routingId payload = some (seq, registration, sessions) →
      env.sendOk routingId (grantPacket env seq) = true → .send routingId (grantPacket env seq) ∈ events →
      ((HasMsgId payload innerRegisterMsgId ∧ ∃ seq request packet, registerOf payload = some (seq, request, kind) ∧
        request.nodeId = nodeId ∧ .send routingId packet ∈ events ∧ IsGrant packet seq) ↔ ∃ seq registration sessions,
          gm.grantRegister env routingId payload = some (seq, registration, sessions) ∧
          env.sendOk routingId (grantPacket env seq) = true ∧ registration.processType = kind ∧
          registration.nodeId = nodeId) := by
    intro seq registration sessions events granted sendable sent
    obtain ⟨request, processType, wellFormed, rfl, -⟩ := grantRegister_some granted
    constructor
    · rintro ⟨-, seq', request', packet, read, rfl, -⟩
      rw [wellFormed] at read
      cases read
      exact ⟨_, _, _, granted, sendable, rfl, rfl⟩
    · rintro ⟨seq', registration', sessions', granted', -, rfl, rfl⟩
      rw [granted] at granted'
      cases granted'
      exact ⟨register, seq, request, _, wellFormed, rfl, sent, grantPacket_isGrant env seq⟩
  cases outcome with
  | refused none answers =>
    refine iff_of_false ?_ ?_
    · rintro ⟨-, seq, request, packet, -, -, sent, isGrant⟩
      obtain ⟨_, _, refusal⟩ := answers _ sent
      exact sendRegisterError_notGrant refusal isGrant
    · rintro ⟨seq, registration, sessions, granted, -⟩
      rw [none] at granted
      cases granted
  | unanswered granted unsent =>
    refine iff_of_false ?_ ?_
    · rintro ⟨-, seq, request, packet, -, -, sent, -⟩
      cases sent
    · rintro ⟨seq, registration, sessions, granted', sent, -⟩
      rw [granted] at granted'
      cases granted'
      rw [unsent] at sent
      cases sent
  | answered granted sent => exact answered granted sent (List.mem_singleton_self _)
  | online granted sent closed complete => exact answered granted sent List.mem_cons_self

/-- What a step does to the list of a kind: it enters the node whose request it
accepts, if that is expected and new. -/
inductive ListStep (kind : ProcessType) (gm : GmNode) (input : Input) (gm' : GmNode) : Prop where
  | kept (same : gm'.startupList kind = gm.startupList kind)
      (known : ∀ nodeId ∈ gm.expectedList kind, Accepts kind nodeId gm input → nodeId ∈ gm.startupList kind)
  | entered {nodeId : Bytes} (accepts : Accepts kind nodeId gm input) (isExpected : nodeId ∈ gm.expectedList kind)
      (new : nodeId ∉ gm.startupList kind) (longer : gm'.startupList kind = gm.startupList kind ++ [nodeId])
      (only : ∀ other, Accepts kind other gm input → other = nodeId)

/-- A granted and answered request. -/
theorem recorded_listStep {kind : ProcessType} {gm : GmNode} {env : GmEnv} {routingId payload : Bytes} {seq : UInt32}
    {registration : InnerNetworkSessionRegistration} {sessions : InnerNetworkSessionManager}
    (register : HasMsgId payload innerRegisterMsgId)
    (granted : gm.grantRegister env routingId payload = some (seq, registration, sessions))
    (sent : env.sendOk routingId (grantPacket env seq) = true) :
    ListStep kind gm (.message env routingId payload) (gm.recorded env registration sessions) := by
  have record := startupList_record { gm with sessions := grantedSessions env registration sessions }
    registration.processType kind registration.nodeId
  have accepted : ∀ other, Accepts kind other gm (.message env routingId payload) →
      registration.processType = kind ∧ other = registration.nodeId := by
    intro other accepts
    obtain ⟨_, _, _, granted', -, rfl, rfl⟩ := (accepts_iff register).mp accepts
    rw [granted] at granted'
    cases granted'
    exact ⟨rfl, rfl⟩
  split at record
  · rename_i new
    exact .entered ((accepts_iff register).mpr ⟨seq, registration, sessions, granted, sent, new.1, rfl⟩) new.2.1 new.2.2
      record fun other accepts => (accepted other accepts).2
  · rename_i known
    refine .kept record fun nodeId isExpected accepts => ?_
    obtain ⟨own, rfl⟩ := accepted nodeId accepts
    by_contra new
    exact known ⟨own, isExpected, new⟩

theorem SameRolls.lists {gm gm' : GmNode} (rolls : SameRolls gm gm') (kind : ProcessType) :
    gm'.startupList kind = gm.startupList kind ∧ gm'.expectedList kind = gm.expectedList kind := by
  cases kind with
  | gm => exact ⟨rfl, rfl⟩
  | gate => exact ⟨rolls.gates, rolls.expectedGates⟩
  | game => exact ⟨rolls.games, rolls.expectedGames⟩

/-- A step that handles no register message leaves the lists alone. -/
theorem RollStep.sameRolls {gm : GmNode} {input : Input} {result : GmNode × List GmEvent} (roll : RollStep gm input result)
    (other : ∀ env routingId payload, input = .message env routingId payload → ¬ HasMsgId payload innerRegisterMsgId) :
    SameRolls gm result.1 := by
  cases roll with
  | kept rolls sessions => exact rolls
  | refreshed rolls sessions => exact rolls
  | scanned scan => exact ⟨rfl, rfl, rfl, rfl, rfl⟩
  | register arrived kind outcome => exact absurd kind (other _ _ _ arrived)

theorem register_listStep (kind : ProcessType) (gm : GmNode) {env : GmEnv} {routingId payload : Bytes}
    (register : HasMsgId payload innerRegisterMsgId) :
    ListStep kind gm (.message env routingId payload) (gm.step (.message env routingId payload)).1 ∧
      (gm.step (.message env routingId payload)).1.expectedList kind = gm.expectedList kind := by
  rw [step_register register]
  have outcome := registerOutcome gm env routingId payload
  generalize gm.handleRegisterMessage env routingId payload = result at outcome ⊢
  have expected : ∀ registration sessions,
      (gm.recorded env registration sessions).expectedList kind = gm.expectedList kind := by
    intro registration sessions
    obtain ⟨gates, games, -⟩ := recorded_expected gm env registration sessions
    cases kind with
    | gm => rfl
    | gate => exact gates
    | game => exact games
  cases outcome with
  | refused none answers =>
    refine ⟨.kept rfl fun nodeId _ accepts => ?_, rfl⟩
    obtain ⟨_, _, _, granted, -⟩ := (accepts_iff register).mp accepts
    rw [none] at granted
    cases granted
  | unanswered granted unsent =>
    refine ⟨.kept (by cases kind <;> rfl) fun nodeId _ accepts => ?_, by cases kind <;> rfl⟩
    obtain ⟨_, _, _, granted', sent, -⟩ := (accepts_iff register).mp accepts
    rw [granted] at granted'
    cases granted'
    rw [unsent] at sent
    cases sent
  | answered granted sent => exact ⟨recorded_listStep register granted sent, expected _ _⟩
  | @online seq registration sessions granted sent closed complete =>
    -- the phase that begins here leaves the lists as they were recorded
    rw [onAllNodeOnline_eq env closed]
    have kept : ((gm.recorded env registration sessions).withNodesOnline env.laterUnixMs).startupList kind =
        (gm.recorded env registration sessions).startupList kind := by cases kind <;> rfl
    refine ⟨?_, Eq.trans (by cases kind <;> rfl) (expected registration sessions)⟩
    cases @recorded_listStep kind _ _ _ _ _ _ _ register granted sent with
    | kept same known => exact .kept (kept.trans same) known
    | entered accepts isExpected new longer only => exact .entered accepts isExpected new (kept.trans longer) only

theorem step_listStep (kind : ProcessType) (gm : GmNode) (input : Input) :
    ListStep kind gm input (gm.step input).1 ∧ (gm.step input).1.expectedList kind = gm.expectedList kind := by
  have other : (∀ env routingId payload, input = .message env routingId payload → ¬ HasMsgId payload innerRegisterMsgId) →
      ListStep kind gm input (gm.step input).1 ∧ (gm.step input).1.expectedList kind = gm.expectedList kind := by
    intro other
    obtain ⟨same, expected⟩ := ((step_rollStep gm input).sameRolls other).lists kind
    refine ⟨.kept same fun nodeId _ accepts => ?_, expected⟩
    cases input with
    | message env routingId payload => exact absurd accepts.1 (other env routingId payload rfl)
    | timeoutScan env => exact accepts.elim
    | peerDisconnected routingId => exact accepts.elim
  cases input with
  | message env routingId payload =>
    by_cases register : HasMsgId payload innerRegisterMsgId
    · exact register_listStep kind gm register
    · exact other fun _ _ _ arrived => by cases arrived; exact register
  | timeoutScan env => exact other nofun
  | peerDisconnected routingId => exact other nofun

/-- The list of a kind is a roll of the given ids. -/
def RollOf (kind : ProcessType) (expected : List Bytes) (gm : GmNode) : Prop :=
  gm.expectedList kind = expected ∧ Roll (gm.startupList kind) expected

theorem step_rollOf {kind : ProcessType} {expected : List Bytes} (gm : GmNode) (input : Input)
    (inv : RollOf kind expected gm) : RollOf kind expected (gm.step input).1 := by
  obtain ⟨change, same⟩ := step_listStep kind gm input
  refine ⟨same.trans inv.1, ?_⟩
  cases change with
  | kept same known => exact same ▸ inv.2
  | entered accepts isExpected new longer only =>
    rw [longer]
    exact inv.2.snoc (inv.1 ▸ isExpected) new

/-- Who is on a list has been accepted as a process of its kind. -/
theorem step_mem_startupList {kind : ProcessType} {expected : List Bytes} {nodeId : Bytes}
    (isExpected : nodeId ∈ expected) (gm : GmNode) (input : Input) (inv : RollOf kind expected gm) :
    nodeId ∈ (gm.step input).1.startupList kind ↔ nodeId ∈ gm.startupList kind ∨ Accepts kind nodeId gm input := by
  cases (step_listStep kind gm input).1 with
  | kept same known =>
    rw [same]
    exact ⟨.inl, fun h => h.elim id (known nodeId (inv.1.symm ▸ isExpected))⟩
  | entered accepts _ new longer only =>
    rw [longer, List.mem_append, List.mem_singleton]
    constructor
    · rintro (before | rfl)
      · exact .inl before
      · exact .inr accepts
    · rintro (before | accepts')
      · exact .inl before
      · exact .inr (only nodeId accepts')

theorem Roll.length_eq_iff {listed expected : List Bytes} (roll : Roll listed expected) (distinct : expected.Nodup) :
    listed.length = expected.length ↔ ∀ nodeId ∈ expected, nodeId ∈ listed := by
  constructor
  · exact fun counted nodeId mem => roll.complete counted mem
  · intro complete
    have perm : listed.Perm expected := (List.perm_ext_iff_of_nodup roll.1 distinct).mpr fun nodeId =>
      ⟨fun mem => roll.2 mem, complete nodeId⟩
    exact perm.length_eq

/-- The list of a kind after a run: no id twice, only expected ones, and as long as
the list of the expected ones exactly if each of those was accepted in the run. -/
def ListExact (kind : ProcessType) (start : GmNode) (is : List Input) : Prop :=
  let listed := (machine.run start is).1.startupList kind
  listed.Nodup ∧ (∀ nodeId ∈ listed, nodeId ∈ start.expectedList kind) ∧
    (listed.length = (start.expectedList kind).length ↔
      ∀ nodeId ∈ start.expectedList kind, machine.Sometime (Accepts kind nodeId) start is)

theorem listExact_of_distinct {kind : ProcessType} {start : GmNode} (empty : start.startupList kind = [])
    (distinct : (start.expectedList kind).Nodup) (is : List Input) : ListExact kind start is := by
  have roll : RollOf kind (start.expectedList kind) start := by
    refine ⟨rfl, ?_⟩
    rw [empty]
    exact ⟨List.nodup_nil, List.nil_subset _⟩
  have after := @Machine.invariant _ _ _ machine (RollOf kind (start.expectedList kind)) step_rollOf _ _ roll ⟨is, rfl⟩
  refine ⟨after.2.1, fun nodeId mem => after.2.2 mem, ?_⟩
  rw [after.2.length_eq_iff distinct]
  refine forall₂_congr fun nodeId isExpected => ?_
  have brought := @Machine.run_iff_sometime _ _ _ machine _ (fun gm => nodeId ∈ gm.startupList kind) _ step_rollOf
    (step_mem_startupList isExpected) start roll is
  rw [brought, empty]
  exact or_iff_right List.not_mem_nil

theorem areAllExpectedNodesOnline_iff {gm : GmNode} :
    gm.areAllExpectedNodesOnline = true ↔ (gm.expectedList .gate ≠ [] ∨ gm.expectedList .game ≠ []) ∧
      (gm.startupList .gate).length = (gm.expectedList .gate).length ∧
      (gm.startupList .game).length = (gm.expectedList .game).length := by
  have some : gm.startup.expectedGateNodeIds.length + gm.startup.expectedGameEntries.length ≠ 0 ↔
      gm.expectedList .gate ≠ [] ∨ gm.expectedList .game ≠ [] := by
    simp only [expectedList, expectedGameNodeIds, ne_eq, Nat.add_eq_zero_iff, List.length_eq_zero_iff, List.map_eq_nil_iff]
    exact not_and_or
  simp only [areAllExpectedNodesOnline, Bool.and_eq_true, bne_iff_ne, beq_iff_eq, some]
  simp only [startupList, expectedList, expectedGameNodeIds, List.length_map]

/-- **Counting is enough.** Over every run of a GM whose expected Gate ids are
distinct, and its expected Game ids too: the startup lists are exact, and the nodes
are called online by count exactly if every expected one was accepted as what it is. -/
theorem startup_lists_exact (gates games : List Bytes) (gatesDistinct : gates.Nodup) (gamesDistinct : games.Nodup)
    (is : List Input) :
    ListExact .gate (GmNode.init gates games) is ∧ ListExact .game (GmNode.init gates games) is ∧
      ((machine.run (GmNode.init gates games) is).1.areAllExpectedNodesOnline = true ↔
        (gates ≠ [] ∨ games ≠ []) ∧
        (∀ nodeId ∈ gates, machine.Sometime (Accepts .gate nodeId) (GmNode.init gates games) is) ∧
        ∀ nodeId ∈ games, machine.Sometime (Accepts .game nodeId) (GmNode.init gates games) is) := by
  have gateIds : (GmNode.init gates games).expectedList .gate = gates := rfl
  have gameIds : (GmNode.init gates games).expectedList .game = games := by
    simp [expectedList, expectedGameNodeIds, GmNode.init, Function.comp_def]
  have gateList : ListExact .gate (GmNode.init gates games) is :=
    listExact_of_distinct rfl (by rw [gateIds]; exact gatesDistinct) is
  have gameList : ListExact .game (GmNode.init gates games) is :=
    listExact_of_distinct rfl (by rw [gameIds]; exact gamesDistinct) is
  refine ⟨gateList, gameList, ?_⟩
  have same : ∀ kind, (machine.run (GmNode.init gates games) is).1.expectedList kind =
      (GmNode.init gates games).expectedList kind := fun kind =>
    @Machine.invariant _ _ _ machine (fun gm => gm.expectedList kind = (GmNode.init gates games).expectedList kind)
      (fun gm input inv => (step_listStep kind gm input).2.trans inv) _ _ rfl ⟨is, rfl⟩
  rw [areAllExpectedNodesOnline_iff, same, same, gateList.2.2, gameList.2.2, gateIds, gameIds]

/-- The Gate and the Game of the small cluster register, the Gate twice. -/
theorem startup_lists_exact_sample :
    ListExact .gate sampleGm [sampleAsk innerProcessTypeGate (text "Gate0") 1000,
        sampleAsk innerProcessTypeGate (text "Gate0") 2000, sampleAsk innerProcessTypeGame (text "Game0") 3000] ∧
      (∀ nodeId ∈ sampleConfig.gateNodeIds, machine.Sometime (Accepts .gate nodeId) sampleGm
        [sampleAsk innerProcessTypeGate (text "Gate0") 1000, sampleAsk innerProcessTypeGate (text "Gate0") 2000,
          sampleAsk innerProcessTypeGame (text "Game0") 3000]) := by
  have exact := startup_lists_exact sampleConfig.gateNodeIds sampleConfig.gameNodeIds (by decide +kernel) (by decide +kernel)
    [sampleAsk innerProcessTypeGate (text "Gate0") 1000, sampleAsk innerProcessTypeGate (text "Gate0") 2000,
      sampleAsk innerProcessTypeGame (text "Game0") 3000]
  exact ⟨exact.1, (exact.2.2.mp (by decide +kernel)).2.1⟩

end GmNode

end XServer.Node
