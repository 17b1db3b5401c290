import XServer.Node.GateTargets

/-!
# The sessions of an account

A Gate keeps one record for each session that it opened, and the index of accounts
names one record of an account. An account may open a second session while the
first has its record: opening clears what stood under the session's own id and
nothing else, so the earlier record stays, and the avatar in it stays taken.
-/

namespace XServer.Node
open XServer.Lib XServer.Lib.Wire XServer.Net XServer.Core

namespace GateClients

/-! ## Opening a session -/

/-- A session of the account is on record, and the account's entry names it; the
records of other sessions are as before. -/
structure Entered (sessionId : UInt64) (account : Bytes) (a b : GateClients) : Prop where
  others : ∀ other : UInt64, other ≠ sessionId → b.clientSessionRecords[other]? = a.clientSessionRecords[other]?
  own : ∃ record, b.clientSessionRecords[sessionId]? = some record ∧ record.accountId = account
  indexed : b.sessionIdsByAccount[account]? = some sessionId

theorem clearClientSessionRecord_others (clients : GateClients) {sessionId other : UInt64} (ne : other ≠ sessionId) :
    (clients.clearClientSessionRecord sessionId).clientSessionRecords[other]? = clients.clientSessionRecords[other]? := by
  unfold clearClientSessionRecord
  split
  · rfl
  · exact Table.get_erase_of_ne _ ne.symm

theorem canOpenClientSession_records (clients : GateClients) (env : GateEnv) (conversation : UInt32) (endpoint : Endpoint) :
    (clients.canOpenClientSession env conversation endpoint).1.clientSessionRecords = clients.clientSessionRecords := by
  unfold canOpenClientSession
  simp only
  split
  · rfl
  split
  · rfl
  split
  · rfl
  · rfl

theorem openClientSession_entered {clients : GateClients} {ctx : GateContext} {env : GateEnv} {conversation c : UInt32}
    {endpoint : Endpoint} {sessionId now : UInt64} {address : Bytes} {reservation : ClientConversationReservation}
    (opened : .opened sessionId c address reservation now ∈ (clients.openClientSession ctx env conversation endpoint).2.1) :
    (clients.openClientSession ctx env conversation endpoint).2.2 = some sessionId ∧
      Entered sessionId reservation.account clients (clients.openClientSession ctx env conversation endpoint).1 := by
  have untouched := canOpenClientSession_records clients env conversation endpoint
  revert opened
  unfold openClientSession
  split
  · exact nofun
  rename_i admitted eq
  rw [eq] at untouched
  split
  · exact nofun
  split
  · exact nofun
  rename_i ok
  intro opened
  obtain ⟨taken, active, record, link, -, -, -, fresh, -, rfl, rfl⟩ := handleClientSessionOpened_ok ok
  cases List.mem_singleton.mp opened
  refine ⟨by rw [link.sessionId], ?_, ⟨record, Table.get_insert_self _ _ _, fresh.accountId⟩,
    Table.get_insert_self _ _ _⟩
  intro other ne
  rw [Table.get_insert_of_ne _ _ ne.symm, clearClientSessionRecord_others _ ne]
  exact congrArg (·[other]?) untouched

theorem datagramSession_entered {clients : GateClients} {ctx : GateContext} {env : GateEnv} {endpoint : Endpoint}
    {datagram : Bytes} {sessionId now : UInt64} {c : UInt32} {address : Bytes} {reservation : ClientConversationReservation}
    (opened : .opened sessionId c address reservation now ∈ (clients.datagramSession ctx env endpoint datagram).2.1) :
    (clients.datagramSession ctx env endpoint datagram).2.2 = some (sessionId, true) ∧
      Entered sessionId reservation.account clients (clients.datagramSession ctx env endpoint datagram).1 := by
  revert opened
  unfold datagramSession
  split
  · exact nofun
  split
  · exact nofun
  split
  · exact nofun
  · intro opened
    obtain ⟨created, entered⟩ := openClientSession_entered opened
    exact ⟨by simp only [created]; rfl, entered⟩

/-! ## The messages after it -/

section Messages

variable {sessionId : UInt64} {account : Bytes} {start clients : GateClients} {ctx : GateContext} {env : GateEnv}

theorem Entered.of_same {result : GateClients} (entered : Entered sessionId account start clients)
    (book : SameBook clients result) : Entered sessionId account start result where
  others := by rw [book.records]; exact entered.others
  own := by rw [book.records]; exact entered.own
  indexed := by rw [book.byAccount]; exact entered.indexed

/-- The record of the session may change as long as it stays with the account. -/
theorem Entered.replace (entered : Entered sessionId account start clients) {next : ClientSessionRecord}
    (same : next.accountId = account) : Entered sessionId account start
      { clients with clientSessionRecords := clients.clientSessionRecords.insert sessionId next } where
  others other ne := (Table.get_insert_of_ne _ _ ne.symm).trans (entered.others other ne)
  own := ⟨next, Table.get_insert_self _ _ _, same⟩
  indexed := entered.indexed

theorem Entered.touchRecord (entered : Entered sessionId account start clients) (env : GateEnv) :
    Entered sessionId account start (clients.touchRecord env sessionId) := by
  obtain ⟨record, found, mine⟩ := entered.own
  unfold GateClients.touchRecord modifyRecord
  rw [found]
  exact entered.replace mine

theorem Entered.bindAvatar (entered : Entered sessionId account start clients) {next : ClientSessionRecord}
    (same : next.accountId = account) : Entered sessionId account start (clients.bindAvatar sessionId next) where
  others := (entered.replace same).others
  own := (entered.replace same).own
  indexed := by
    unfold GateClients.bindAvatar
    rw [same]
    exact Table.get_insert_self _ _ _

theorem Served.entered {result : GateClients × List ClientEvent} (served : Served clients ctx env sessionId result)
    (entered : Entered sessionId account start clients) : Entered sessionId account start result.1 := by
  have touched := entered.touchRecord env
  cases served with
  | quiet book => exact touched.of_same book
  | selected accepted =>
    obtain ⟨-, record, selected⟩ := nextSelectAvatarRecord_ok accepted
    obtain ⟨own, found, mine⟩ := touched.own
    refine touched.bindAvatar (selected.accountId.trans ?_)
    have same := selected.found
    rw [found] at same
    cases same
    exact mine
  | call => exact touched.touchRecord env

theorem touchSession_sameBook (clients : GateClients) (env : GateEnv) (sessionId : UInt64) :
    SameBook clients (clients.touchSession env sessionId) := ⟨rfl, rfl, rfl, rfl⟩

theorem receivePayloads_entered {payloads : List Bytes} (entered : Entered sessionId account start clients) :
    Entered sessionId account start (receivePayloads ctx env sessionId clients payloads).1 := by
  induction payloads generalizing clients with
  | nil => exact entered
  | cons payload rest ih =>
    have touched := entered.of_same (touchSession_sameBook clients env sessionId)
    have next := (payload_served _ ctx env sessionId payload).entered touched
    unfold receivePayloads
    simp only
    split
    · exact next
    · exact ih next

theorem feedDatagram_entered {sessionCreated : Bool} (entered : Entered sessionId account start clients) :
    Entered sessionId account start (clients.feedDatagram ctx env sessionId sessionCreated).1 := by
  have touched := entered.of_same (touchSession_sameBook clients env sessionId)
  unfold feedDatagram
  simp only
  split
  · exact receivePayloads_entered touched
  split
  · exact touched.of_same ⟨rfl, rfl, rfl, rfl⟩
  · exact touched

theorem Served.opens_none {result : GateClients × List ClientEvent} (served : Served clients ctx env sessionId result)
    {id now : UInt64} {c : UInt32} {address : Bytes} {reservation : ClientConversationReservation} :
    .opened id c address reservation now ∉ result.2 := by
  intro mem
  cases served with
  | quiet book answers => exact answers _ mem
  | selected => cases List.mem_singleton.mp mem
  | call => cases List.mem_singleton.mp mem

/-- **A datagram that opens a session** enters it for the account of its
reservation, whatever messages it completes. -/
theorem handleIncomingDatagram_entered {endpoint : Endpoint} {datagram : Bytes} {now : UInt64} {c : UInt32}
    {address : Bytes} {reservation : ClientConversationReservation}
    (opened : .opened sessionId c address reservation now ∈ (clients.handleIncomingDatagram ctx env endpoint datagram).2) :
    Entered sessionId reservation.account clients (clients.handleIncomingDatagram ctx env endpoint datagram).1 := by
  rw [handleIncomingDatagram_events] at opened
  rcases List.mem_append.mp opened with opening | served
  · obtain ⟨created, entered⟩ := datagramSession_entered opening
    unfold handleIncomingDatagram
    generalize clients.datagramSession ctx env endpoint datagram = outcome at created entered
    obtain ⟨clients', events, session⟩ := outcome
    cases created
    exact feedDatagram_entered entered
  · obtain ⟨message, -, mem⟩ := List.mem_flatMap.mp served
    exact absurd mem (payload_served message.clients ctx env message.sessionId message.payload).opens_none

end Messages

/-! ## Accounts of records -/

/-- A record belongs to the account that its session had at the start, or its
session was opened since. -/
def AccountsFrom (start : GateClients) (clients : GateClients) (trace : List ClientEvent) : Prop :=
  ∀ (id : UInt64) (record : ClientSessionRecord), clients.clientSessionRecords[id]? = some record →
    (∃ old, start.clientSessionRecords[id]? = some old ∧ old.accountId = record.accountId) ∨
      ∃ c address reservation now, .opened id c address reservation now ∈ trace

section Accounts

variable {start a b : GateClients} {trace events : List ClientEvent}

theorem AccountsFrom.fewer (from_start : AccountsFrom start a trace)
    (each : ∀ (id : UInt64) (record : ClientSessionRecord), b.clientSessionRecords[id]? = some record →
      ∃ old, a.clientSessionRecords[id]? = some old ∧ old.accountId = record.accountId) :
    AccountsFrom start b (trace ++ events) := by
  intro id record found
  obtain ⟨middle, held, mine⟩ := each id record found
  rcases from_start id middle held with ⟨old, first, his⟩ | ⟨c, address, reservation, now, mem⟩
  · exact .inl ⟨old, first, his.trans mine⟩
  · exact .inr ⟨c, address, reservation, now, List.mem_append_left _ mem⟩

theorem AccountsFrom.of_records (from_start : AccountsFrom start a trace)
    (records : b.clientSessionRecords = a.clientSessionRecords) : AccountsFrom start b (trace ++ events) :=
  from_start.fewer fun id record found => ⟨record, by rwa [records] at found, rfl⟩

theorem AccountsFrom.replace (from_start : AccountsFrom start a trace) {id : UInt64} {record next : ClientSessionRecord}
    (found : a.clientSessionRecords[id]? = some record)
    (records : b.clientSessionRecords = a.clientSessionRecords.insert id next)
    (mine : next.accountId = record.accountId) : AccountsFrom start b (trace ++ events) := by
  refine from_start.fewer fun other held stored => ?_
  rw [records] at stored
  by_cases hit : other = id
  · subst hit
    rw [Table.get_insert_self] at stored
    cases stored
    exact ⟨record, found, mine.symm⟩
  · rw [Table.get_insert_of_ne _ _ (Ne.symm hit)] at stored
    exact ⟨held, stored, rfl⟩

/-- Only an opened session gets a record, and no record changes hands. -/
theorem change_accounts {nodeId : Bytes} {rules : Rules} (from_start : AccountsFrom start a trace)
    (change : Change nodeId rules a events b) : AccountsFrom start b (trace ++ events) := by
  cases change with
  | network book => exact from_start.of_records book.records
  | expire => exact from_start.of_records rfl
  | reserve => exact from_start.of_records rfl
  | remove => exact from_start.of_records rfl
  | @opening _ session fresh reservation now _ _ _ _ _ _ new _ _ records =>
    intro id record found
    rw [records] at found
    by_cases hit : id = session.sessionId
    · subst hit
      exact .inr ⟨_, _, _, _, List.mem_append_right _ (List.mem_singleton.mpr rfl)⟩
    · rw [Table.get_insert_of_ne _ _ (Ne.symm hit)] at found
      exact from_start.of_records rfl id record found
  | touch found binding => exact from_start.replace found rfl binding.accountId
  | bind found _ _ _ _ _ accountId => exact from_start.replace found rfl accountId
  | confirm found _ _ accountId => exact from_start.replace found rfl accountId
  | unbind found => exact from_start.replace found rfl rfl
  | clear sessionId =>
    refine from_start.fewer fun id record found => ⟨record, ?_, rfl⟩
    unfold clearClientSessionRecord at found
    split at found
    · exact found
    · exact (Table.get_erase_some found).2

end Accounts

end GateClients

namespace GateNode

/-! ## Steps -/

/-- Only a datagram opens a session, and it enters it for the account of its
reservation. -/
theorem step_entered {gate : GateNode} {input : Input} {sessionId now : UInt64} {c : UInt32} {address : Bytes}
    {reservation : ClientConversationReservation}
    (opened : .client (.opened sessionId c address reservation now) ∈ (gate.step input).2) :
    GateClients.Entered sessionId reservation.account gate.clients (gate.step input).1.clients := by
  cases input with
  | connectorState env peer state => exact absurd opened (handleConnectorStateChanged_silent gate env peer state _)
  | connectorMessage env peer payload => cases opened
  | gameMessage env source payload =>
    rcases gameMessage_event opened with answer | ⟨_, _, _, _, impossible, -⟩
    · exact answer.elim
    · cases impossible
  | heartbeatTimer env => exact absurd opened (onGmSession_silent gate _ _)
  | authLogin env request =>
    rcases GateClients.login_event (mem_onClients.mp opened) with ⟨_, impossible⟩ | ⟨_, _, impossible⟩
    · cases impossible
    · cases impossible
  | datagram env endpoint datagram => exact GateClients.handleIncomingDatagram_entered (mem_onClients.mp opened)
  | removeSession sessionId => cases opened
  | clearRecord sessionId => cases opened

/-- A step that opens no session leaves every record with its account. -/
theorem step_accounts {gate : GateNode} {input : Input} {id : UInt64} {record : ClientSessionRecord}
    (found : (gate.step input).1.clients.clientSessionRecords[id]? = some record) :
    (∃ old, gate.clients.clientSessionRecords[id]? = some old ∧ old.accountId = record.accountId) ∨
      ∃ c address reservation now, .client (.opened id c address reservation now) ∈ (gate.step input).2 := by
  have start : GateClients.AccountsFrom gate.clients gate.clients [] := fun _ record found => .inl ⟨record, found, rfl⟩
  have from_start : GateClients.AccountsFrom gate.clients (gate.step input).1.clients (clientEvents (gate.step input).2) :=
    (step_clients (admits_all gate input)).2.trace (fun _ _ _ _ inv change => GateClients.change_accounts inv change) start
  rcases from_start id record found with old | ⟨c, address, reservation, now, mem⟩
  · exact .inl old
  · exact .inr ⟨c, address, reservation, now, mem_clientEvents.mp mem⟩

/-! ## Results -/

/-- No two records belong to one account. -/
def OneRecordEach (clients : GateClients) : Prop :=
  ∀ (id id' : UInt64) (record record' : ClientSessionRecord), clients.clientSessionRecords[id]? = some record →
    clients.clientSessionRecords[id']? = some record' → record.accountId = record'.accountId → id = id'

/-- A session that the step opens is the only one of its account on record. -/
def OpensUnrecorded (gate : GateNode) (input : Input) : Prop :=
  ∀ (sessionId : UInt64) (c : UInt32) (address : Bytes) (reservation : ClientConversationReservation) (now : UInt64),
    .client (.opened sessionId c address reservation now) ∈ (gate.step input).2 →
    ∀ (id : UInt64) (record : ClientSessionRecord), gate.clients.clientSessionRecords[id]? = some record →
      record.accountId = reservation.account → id = sessionId

theorem step_oneRecordEach (gate : GateNode) (input : Input) (one : OneRecordEach gate.clients)
    (opens : OpensUnrecorded gate input) : OneRecordEach (gate.step input).1.clients := by
  -- a record that the step entered against one that was there
  have entered {id id' : UInt64} {record record' : ClientSessionRecord} {c : UInt32} {address : Bytes}
      {reservation : ClientConversationReservation} {now : UInt64}
      (opened : .client (.opened id c address reservation now) ∈ (gate.step input).2)
      (found : (gate.step input).1.clients.clientSessionRecords[id]? = some record)
      (found' : (gate.step input).1.clients.clientSessionRecords[id']? = some record')
      (same : record.accountId = record'.accountId) : id' = id := by
    obtain ⟨others, ⟨own, stored, mine⟩, -⟩ := step_entered opened
    rw [stored] at found
    cases found
    by_contra ne
    rw [others id' ne] at found'
    exact ne (opens _ _ _ _ _ opened id' record' found' (same.symm.trans mine))
  intro id id' record record' found found' same
  rcases step_accounts found with ⟨old, held, mine⟩ | ⟨c, address, reservation, now, opened⟩
  · rcases step_accounts found' with ⟨old', held', mine'⟩ | ⟨c, address, reservation, now, opened⟩
    · exact one id id' old old' held held' (mine.trans (same.trans mine'.symm))
    · exact entered opened found' found same.symm
  · exact (entered opened found found' same).symm

/-- A session opened beside another of its account makes two records. -/
theorem opensUnrecorded_of_one {gate : GateNode} {input : Input} (one : OneRecordEach (gate.step input).1.clients) :
    OpensUnrecorded gate input := by
  intro sessionId c address reservation now opened id record found same
  obtain ⟨others, ⟨own, stored, mine⟩, -⟩ := step_entered opened
  by_contra ne
  rw [← others id ne] at found
  exact ne (one id sessionId record own found stored (same.trans mine.symm))

/-- What a Gate does with the sessions of accounts, from the state it is in. -/
structure AccountLaws (gate : GateNode) : Prop where
  indexed : ∀ (account : Bytes) (id : UInt64), gate.clients.sessionIdsByAccount[account]? = some id →
    ∃ record, gate.clients.clientSessionRecords[id]? = some record ∧ record.accountId = account
  entered : ∀ (input : Input) (sessionId : UInt64) (c : UInt32) (address : Bytes)
    (reservation : ClientConversationReservation) (now : UInt64),
    .client (.opened sessionId c address reservation now) ∈ (gate.step input).2 →
    GateClients.Entered sessionId reservation.account gate.clients (gate.step input).1.clients
  recorded : ∀ (input : Input) (id : UInt64) (record : ClientSessionRecord),
    (gate.step input).1.clients.clientSessionRecords[id]? = some record →
    (∃ old, gate.clients.clientSessionRecords[id]? = some old ∧ old.accountId = record.accountId) ∨
      ∃ c address reservation now, .client (.opened id c address reservation now) ∈ (gate.step input).2
  taken : ∀ (env : GateEnv) (sessionId : UInt64) (packet : Packet) (record : ClientSessionRecord) (avatar : Bytes),
    packet.header.flags = 0 → packet.header.seq ≠ packetSeqNone →
    gate.clients.clientSessionRecords[sessionId]? = some record → record.pendingSelectAvatarSeq = 0 →
    record.avatarId = [] → readSelectAvatarRequest env packet.payload = .ok avatar →
    (gate.clients.nextSelectAvatarRecord gate.toGateContext env sessionId packet =
        .error (text "Avatar is already bound to another active session.") ↔
      ∃ id held, id ≠ sessionId ∧ gate.clients.clientSessionRecords[id]? = some held ∧ held.avatarId = avatar)

theorem nextSelectAvatarRecord_taken {clients : GateClients} (consistent : Consistent clients) {ctx : GateContext}
    {env : GateEnv} {sessionId : UInt64} {packet : Packet} {record : ClientSessionRecord} {avatar : Bytes}
    (flags : packet.header.flags = 0) (seq : packet.header.seq ≠ packetSeqNone)
    (found : clients.clientSessionRecords[sessionId]? = some record) (settled : record.pendingSelectAvatarSeq = 0)
    (unbound : record.avatarId = []) (read : readSelectAvatarRequest env packet.payload = .ok avatar) :
    clients.nextSelectAvatarRecord ctx env sessionId packet =
        .error (text "Avatar is already bound to another active session.") ↔
      ∃ id held, id ≠ sessionId ∧ clients.clientSessionRecords[id]? = some held ∧ held.avatarId = avatar := by
  have bound : avatar ≠ [] := GateClients.isCanonicalGuidText_ne (GateClients.readSelectAvatarRequest_canonical read)
  unfold GateClients.nextSelectAvatarRecord
  rw [if_neg (not_or.mpr ⟨not_not.mpr flags, seq⟩), found]
  simp only [settled, unbound, read, ne_eq, not_true_eq_false, if_false]
  split
  · rename_i elsewhere
    obtain ⟨id, indexed, ne⟩ := (Option.any_eq_true _ _).mp elsewhere
    obtain ⟨held, stored, mine, -⟩ := (consistent.avatars avatar id).mp indexed
    exact iff_of_true rfl ⟨id, held, by simpa using ne, stored, mine⟩
  · rename_i nowhere
    refine iff_of_false ?_ ?_
    · split
      · decide +kernel
      · nofun
    · rintro ⟨id, held, ne, stored, mine⟩
      have indexed := (consistent.avatars avatar id).mpr ⟨held, stored, mine, bound⟩
      rw [indexed] at nowhere
      simp [ne] at nowhere

/-- **An account may have several sessions.** In every run a session is entered
beside those its account has, an avatar is refused as long as the record of another
session holds it, and each account has at most one record exactly as long as no
session is opened beside another of its account. -/
theorem account_records {config : ClusterConfig} {self : NodeEntry} {boot : GateBoot} {start : GateNode}
    (init : onInit config self boot = some start) (is : List Input) :
    AccountLaws (machine.run start is).1 ∧
      (machine.Along (fun gate input => OneRecordEach (gate.step input).1.clients) start is ↔
        machine.Along OpensUnrecorded start is) := by
  have consistent := consistent_of_book (run_book_all init is)
  refine ⟨⟨consistent.accounts, fun _ _ _ _ _ _ => step_entered, fun _ _ _ => step_accounts, ?_⟩, ?_, ?_⟩
  · intro env sessionId packet record avatar
    exact nextSelectAvatarRecord_taken consistent
  · exact fun one => one.mono fun gate input => opensUnrecorded_of_one
  · intro opens
    have empty : OneRecordEach start.clients := by
      rw [onInit_clients init]
      intro id id' record record' found
      simp at found
    exact opens.of_invariant step_oneRecordEach step_oneRecordEach empty

def sampleAvatar : Bytes := text "0f8fad5b-d9cb-469f-a165-70867728950e"

/-- The account logs in again, and the client opens a session for the second
conversation. -/
def sampleRelogin : List Input :=
  [.authLogin { nowUnixMs := 2000 } { account := text "alice", remoteAddress := text "10.0.0.1" },
    sampleDatagram {} (sampleProbe 2)]

/-- The small Gate when the first session has its avatar and the second is open. -/
def sampleTwice : GateNode := (machine.run sampleGate (sampleLogin ++ sampleSelect sampleAvatar :: sampleRelogin)).1

theorem account_records_sample : AccountLaws sampleTwice := (account_records sampleGate_init _).1

/-- What the client of the new session sends for the avatar of its first. -/
def sampleRequest : Packet where
  header := makePacketHeader clientSelectAvatarMsgId 1 0 0
  payload := (dump (sampleSelectMembers sampleAvatar)).getD []

def sampleRequestEnv : GateEnv :=
  { parseJson := fun content =>
      if content = sampleRequest.payload then .ok (.object (sampleSelectMembers sampleAvatar)) else .error [] }

/-- After the second login both sessions of the account are on record, and the
second is refused the avatar of the first. -/
theorem second_session_refused_avatar :
    ¬ OneRecordEach sampleTwice.clients ∧
      (sampleTwice.clients.clientSessionRecords[(1 : UInt64)]?).map (fun record => (record.accountId, record.avatarId)) =
        some (text "alice", sampleAvatar) ∧
      (sampleTwice.clients.clientSessionRecords[(2 : UInt64)]?).map (·.accountId) = some (text "alice") ∧
      readSelectAvatarRequest sampleRequestEnv sampleRequest.payload = .ok sampleAvatar ∧
      sampleTwice.clients.nextSelectAvatarRecord sampleTwice.toGateContext sampleRequestEnv 2 sampleRequest =
        .error (text "Avatar is already bound to another active session.") := by
  obtain ⟨first, second, asked⟩ : (sampleTwice.clients.clientSessionRecords[(1 : UInt64)]?).map
        (fun record => (record.accountId, record.avatarId)) = some (text "alice", sampleAvatar) ∧
      (sampleTwice.clients.clientSessionRecords[(2 : UInt64)]?).map (·.accountId) = some (text "alice") ∧
      readSelectAvatarRequest sampleRequestEnv sampleRequest.payload = .ok sampleAvatar ∧
      sampleTwice.clients.nextSelectAvatarRecord sampleTwice.toGateContext sampleRequestEnv 2 sampleRequest =
        .error (text "Avatar is already bound to another active session.") := by decide +kernel
  refine ⟨fun one => ?_, first, second, asked⟩
  obtain ⟨record, found, mine⟩ := Option.map_eq_some_iff.mp first
  obtain ⟨record', found', mine'⟩ := Option.map_eq_some_iff.mp second
  cases one 1 2 record record' found found' ((congrArg Prod.fst mine).trans mine'.symm)

end GateNode

end XServer.Node
