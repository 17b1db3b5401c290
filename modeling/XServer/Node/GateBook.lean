import XServer.Net.Ikcp
import XServer.Node.GateNode

/-!
# The books of a Gate

The avatar index is the inverse of the bindings in the session records, the
account index points to records of its accounts, and a record that waits for a
Game has an avatar and a Game. All of it holds in every state a Gate can reach
(`books_consistent`).

An avatar is identified by its text, not by the GUID it denotes. As long as
every avatar is selected by its lower-case text the two agree
(`avatar_identity_of_lower_case`).
-/

namespace XServer.Node
open XServer.Lib XServer.Lib.Wire XServer.Net XServer.Core

namespace GateClients

/-! ## The invariant -/

/-- The avatar of a record, if it has one. -/
def boundAvatar (record : ClientSessionRecord) : Option Bytes :=
  if record.avatarId = [] then none else some record.avatarId

theorem boundAvatar_some {record : ClientSessionRecord} {avatar : Bytes} :
    boundAvatar record = some avatar ↔ record.avatarId = avatar ∧ avatar ≠ [] := by
  unfold boundAvatar
  split
  · rename_i empty
    constructor
    · nofun
    · rintro ⟨rfl, ne⟩
      exact absurd empty ne
  · rename_i ne
    constructor
    · intro h
      cases h
      exact ⟨rfl, ne⟩
    · rintro ⟨rfl, -⟩
      rfl

/-- What holds of every record of the Gate `nodeId`. -/
structure RecordInv (nodeId : Bytes) (rules : Rules) (record : ClientSessionRecord) : Prop where
  account : record.accountId ≠ []
  gate : record.gateNodeId = nodeId
  closed : record.closed = false
  game : record.avatarId ≠ [] → record.gameNodeId ≠ []
  allowed : record.avatarId ≠ [] → rules.avatar record.avatarId
  pending : record.pendingSelectAvatarSeq ≠ 0 → record.avatarId ≠ []

structure BookInv (nodeId : Bytes) (rules : Rules) (clients : GateClients) : Prop where
  avatars : Inverse clients.clientSessionRecords clients.sessionIdsByAvatar boundAvatar
  accounts : ∀ (account : Bytes) (id : UInt64), clients.sessionIdsByAccount[account]? = some id →
    ∃ record, clients.clientSessionRecords[id]? = some record ∧ record.accountId = account
  records : ∀ (id : UInt64) (record : ClientSessionRecord), clients.clientSessionRecords[id]? = some record →
    RecordInv nodeId rules record

variable {nodeId : Bytes} {rules : Rules}

/-- Only the books matter. -/
theorem BookInv.of_same {a b : GateClients} (inv : BookInv nodeId rules a)
    (records : b.clientSessionRecords = a.clientSessionRecords)
    (byAccount : b.sessionIdsByAccount = a.sessionIdsByAccount)
    (byAvatar : b.sessionIdsByAvatar = a.sessionIdsByAvatar) : BookInv nodeId rules b where
  avatars := by rw [records, byAvatar]; exact inv.avatars
  accounts := by rw [records, byAccount]; exact inv.accounts
  records := by rw [records]; exact inv.records

/-- The account entries survive a change of one record that keeps its account. -/
theorem accounts_insert {clients : GateClients} (inv : BookInv nodeId rules clients) {id : UInt64}
    {record record' : ClientSessionRecord} (found : clients.clientSessionRecords[id]? = some record)
    (accountId : record'.accountId = record.accountId) {account : Bytes} {owner : UInt64}
    (indexed : clients.sessionIdsByAccount[account]? = some owner) :
    ∃ r, (clients.clientSessionRecords.insert id record')[owner]? = some r ∧ r.accountId = account := by
  obtain ⟨r, stored, eq⟩ := inv.accounts account owner indexed
  by_cases same : id = owner
  · subst same
    rw [found] at stored
    cases stored
    exact ⟨record', Table.get_insert_self .., accountId.trans eq⟩
  · exact ⟨r, by rw [Table.get_insert_of_ne _ _ same]; exact stored, eq⟩

theorem records_insert {clients : GateClients} (inv : BookInv nodeId rules clients) {id : UInt64}
    {record : ClientSessionRecord} (new : RecordInv nodeId rules record) {other : UInt64} {r : ClientSessionRecord}
    (stored : (clients.clientSessionRecords.insert id record)[other]? = some r) : RecordInv nodeId rules r := by
  rw [Table.get_insert] at stored
  split at stored
  · cases stored
    exact new
  · exact inv.records other r stored

/-- A record changed in place, with the same account and avatar. -/
theorem BookInv.replace {clients : GateClients} (inv : BookInv nodeId rules clients) {id : UInt64}
    {record record' : ClientSessionRecord} (found : clients.clientSessionRecords[id]? = some record)
    (accountId : record'.accountId = record.accountId) (avatarId : record'.avatarId = record.avatarId)
    (new : RecordInv nodeId rules record') :
    BookInv nodeId rules { clients with clientSessionRecords := clients.clientSessionRecords.insert id record' } where
  avatars := inv.avatars.touch found (by unfold boundAvatar; rw [avatarId])
  accounts _ _ indexed := accounts_insert inv found accountId indexed
  records _ _ stored := records_insert inv new stored

/-! ## Each change keeps it -/

theorem eraseIfAt_self {κ : Type} [Ord κ] [Std.TransOrd κ] [Std.LawfulEqOrd κ] {index : Table κ UInt64} {key : κ}
    {id : UInt64} (at_ : index[key]? = some id) : eraseIfAt index key id = index.erase key := if_pos at_

theorem get_eraseIfAt {κ : Type} [Ord κ] [Std.TransOrd κ] [Std.LawfulEqOrd κ] {index : Table κ UInt64} {key a : κ}
    {id owner : UInt64} (h : (eraseIfAt index key id)[a]? = some owner) :
    index[a]? = some owner ∧ ¬ (a = key ∧ owner = id) := by
  unfold eraseIfAt at h
  split at h
  · obtain ⟨ne, stored⟩ := Table.get_erase_some h
    exact ⟨stored, fun eq => ne eq.1.symm⟩
  · rename_i elsewhere
    refine ⟨h, ?_⟩
    rintro ⟨rfl, rfl⟩
    exact elsewhere h

/-- The avatar entry goes with the record. -/
theorem BookInv.avatars_clear {clients : GateClients} (inv : BookInv nodeId rules clients) {id : UInt64}
    {record : ClientSessionRecord} (found : clients.clientSessionRecords[id]? = some record) :
    Inverse (clients.clientSessionRecords.erase id)
      (if record.avatarId ≠ [] then eraseIfAt clients.sessionIdsByAvatar record.avatarId id
        else clients.sessionIdsByAvatar) boundAvatar := by
  split
  · rename_i bound
    have field : boundAvatar record = some record.avatarId := boundAvatar_some.mpr ⟨rfl, bound⟩
    rw [eraseIfAt_self ((inv.avatars _ _).mpr ⟨record, found, field⟩)]
    exact inv.avatars.eraseBound found field
  · rename_i unbound
    exact inv.avatars.eraseUnbound found (by unfold boundAvatar; rw [if_pos (not_not.mp unbound)])

theorem clear_book {clients : GateClients} (inv : BookInv nodeId rules clients) (id : UInt64) :
    BookInv nodeId rules (clients.clearClientSessionRecord id) := by
  unfold clearClientSessionRecord
  split
  · exact inv
  · rename_i record found
    refine ⟨inv.avatars_clear found, ?_, ?_⟩
    · intro account owner indexed
      simp only at indexed
      rw [if_pos (inv.records id record found).account] at indexed
      obtain ⟨indexed, elsewhere⟩ := get_eraseIfAt indexed
      obtain ⟨r, stored, eq⟩ := inv.accounts account owner indexed
      have other : id ≠ owner := by
        rintro rfl
        rw [found] at stored
        cases stored
        exact elsewhere ⟨eq.symm, rfl⟩
      exact ⟨r, by rw [Table.get_erase_of_ne _ other]; exact stored, eq⟩
    · intro other r stored
      exact inv.records other r (Table.get_erase_some stored).2

theorem isCanonicalGuidText_ne {avatar : Bytes} (h : isCanonicalGuidText avatar = true) : avatar ≠ [] := by
  rintro rfl
  revert h
  decide

theorem bind_book {clients : GateClients} (inv : BookInv nodeId rules clients) {id : UInt64}
    {record next : ClientSessionRecord} (found : clients.clientSessionRecords[id]? = some record)
    (unbound : record.avatarId = [])
    (free : ∀ other : UInt64, clients.sessionIdsByAvatar[next.avatarId]? = some other → other = id)
    (bound : next.avatarId ≠ []) (accountId : next.accountId = record.accountId) (new : RecordInv nodeId rules next) :
    BookInv nodeId rules (clients.bindAvatar id next) := by
  have noField : boundAvatar record = none := by
    unfold boundAvatar
    rw [if_pos unbound]
  have unindexed : clients.sessionIdsByAvatar[next.avatarId]? = none := by
    cases at_ : clients.sessionIdsByAvatar[next.avatarId]? with
    | none => rfl
    | some other =>
      obtain rfl := free other at_
      obtain ⟨r, stored, field⟩ := (inv.avatars _ _).mp at_
      rw [found] at stored
      cases stored
      rw [noField] at field
      cases field
  unfold bindAvatar
  simp only [found, unbound, ne_eq, not_true_eq_false, false_and, if_false]
  refine ⟨inv.avatars.bind found noField unindexed (boundAvatar_some.mpr ⟨rfl, bound⟩), ?_, ?_⟩
  · intro account owner indexed
    simp only [Table.get_insert] at indexed
    split at indexed
    · rename_i same
      cases indexed
      exact ⟨next, Table.get_insert_self .., same⟩
    · exact accounts_insert inv found accountId indexed
  · intro other r stored
    exact records_insert inv new stored

theorem unbind_book {clients : GateClients} (inv : BookInv nodeId rules clients) {id : UInt64}
    {record : ClientSessionRecord} (found : clients.clientSessionRecords[id]? = some record) :
    BookInv nodeId rules (clients.unbindAvatar id record) := by
  have old := inv.records id record found
  have new : RecordInv nodeId rules { record with avatarId := [], gameNodeId := [], pendingSelectAvatarSeq := 0 } :=
    ⟨old.account, old.gate, old.closed, fun h => absurd rfl h, fun h => absurd rfl h, fun h => absurd rfl h⟩
  unfold unbindAvatar
  refine ⟨?_, fun account owner indexed => accounts_insert inv found (by rfl) indexed,
    fun other r stored => records_insert inv new stored⟩
  simp only
  split
  · rename_i bound
    have field : boundAvatar record = some record.avatarId := boundAvatar_some.mpr ⟨rfl, bound⟩
    rw [eraseIfAt_self ((inv.avatars _ _).mpr ⟨record, found, field⟩)]
    exact inv.avatars.unbind found field rfl
  · rename_i unbound
    refine inv.avatars.touch found ?_
    unfold boundAvatar
    rw [if_pos (not_not.mp unbound), if_pos rfl]

theorem opening_book {clients clients' : GateClients} (inv : BookInv nodeId rules clients) {id : UInt64}
    {record : ClientSessionRecord} {account : Bytes} (unrecorded : clients.clientSessionRecords[id]? = none)
    (ne : account ≠ []) (new : FreshRecord nodeId account record)
    (records : clients'.clientSessionRecords = clients.clientSessionRecords.insert id record)
    (byAccount : clients'.sessionIdsByAccount = clients.sessionIdsByAccount.insert account id)
    (byAvatar : clients'.sessionIdsByAvatar = clients.sessionIdsByAvatar) : BookInv nodeId rules clients' := by
  have valid : RecordInv nodeId rules record :=
    ⟨new.accountId ▸ ne, new.gateNodeId, new.closed, fun h => absurd new.avatarId h, fun h => absurd new.avatarId h,
      fun h => absurd new.pending h⟩
  refine ⟨?_, ?_, ?_⟩
  · rw [records, byAvatar]
    exact inv.avatars.insertFresh unrecorded (by unfold boundAvatar; rw [if_pos new.avatarId])
  · intro owner other indexed
    rw [byAccount, Table.get_insert] at indexed
    rw [records]
    split at indexed
    · rename_i same
      cases indexed
      exact ⟨record, Table.get_insert_self .., new.accountId.trans same⟩
    · obtain ⟨r, stored, eq⟩ := inv.accounts owner other indexed
      have distinct : id ≠ other := by
        rintro rfl
        rw [unrecorded] at stored
        cases stored
      exact ⟨r, by rw [Table.get_insert_of_ne _ _ distinct]; exact stored, eq⟩
  · intro other r stored
    rw [records] at stored
    exact records_insert inv valid stored

/-- One change keeps the books. -/
theorem change_book {a b : GateClients} {events : List ClientEvent} (inv : BookInv nodeId rules a)
    (change : Change nodeId rules a events b) : BookInv nodeId rules b := by
  cases change with
  | network book => exact inv.of_same book.records book.byAccount book.byAvatar
  | expire => exact inv.of_same rfl rfl rfl
  | reserve => exact inv.of_same rfl rfl rfl
  | remove => exact inv.of_same rfl rfl rfl
  | opening _ _ unrecorded _ _ account new _ _ records byAccount byAvatar =>
    exact opening_book inv unrecorded account new records byAccount byAvatar
  | touch found same =>
    have old := inv.records _ _ found
    refine inv.replace found same.accountId same.avatarId ⟨?_, ?_, ?_, ?_, ?_, ?_⟩
    · rw [same.accountId]; exact old.account
    · rw [same.gateNodeId]; exact old.gate
    · rw [same.closed]; exact old.closed
    · rw [same.avatarId, same.gameNodeId]; exact old.game
    · rw [same.avatarId]; exact old.allowed
    · rw [same.avatarId, same.pending]; exact old.pending
  | bind found unbound free canonical allowed game accountId gateNodeId closed =>
    have old := inv.records _ _ found
    have bound := isCanonicalGuidText_ne canonical
    refine bind_book inv found unbound free bound accountId ⟨?_, ?_, ?_, fun _ => game, fun _ => allowed, fun _ => bound⟩
    · rw [accountId]; exact old.account
    · rw [gateNodeId]; exact old.gate
    · rw [closed]; exact old.closed
  | confirm found game settled accountId avatarId gateNodeId closed =>
    have old := inv.records _ _ found
    refine inv.replace found accountId avatarId ⟨?_, ?_, ?_, fun _ => game, ?_, fun h => absurd settled h⟩
    · rw [accountId]; exact old.account
    · rw [gateNodeId]; exact old.gate
    · rw [closed]; exact old.closed
    · rw [avatarId]; exact old.allowed
  | unbind found => exact unbind_book inv found
  | clear id => exact clear_book inv id

end GateClients

namespace GateNode

variable {rules : GateClients.Rules}

/-- One step keeps the books of the node. -/
theorem step_book (gate : GateNode) (input : Input) (inv : GateClients.BookInv gate.nodeId rules gate.clients)
    (admits : Admits rules gate input) :
    GateClients.BookInv (gate.step input).1.nodeId rules (gate.step input).1.clients := by
  obtain ⟨nodeId, changes⟩ := step_clients admits
  rw [nodeId]
  exact changes.invariant (fun _ _ _ inv change => GateClients.change_book inv change) inv

theorem init_book {config : ClusterConfig} {self : NodeEntry} {boot : GateBoot} {gate : GateNode}
    (init : onInit config self boot = some gate) : GateClients.BookInv gate.nodeId rules gate.clients := by
  rw [onInit_clients init]
  refine ⟨.empty, ?_, ?_⟩
  · intro account id indexed
    simp at indexed
  · intro id record stored
    simp at stored

/-- The books of a run whose steps obey the rules. -/
theorem run_book {config : ClusterConfig} {self : NodeEntry} {boot : GateBoot} {gate : GateNode}
    (init : onInit config self boot = some gate) {is : List Input} (along : machine.Along (Admits rules) gate is) :
    GateClients.BookInv (machine.run gate is).1.nodeId rules (machine.run gate is).1.clients :=
  Machine.run_invariant (fun gate input inv admits => step_book gate input inv admits) (init_book init) along

/-! ## Results -/

/-- The two indexes and the records fit together. -/
structure Consistent (clients : GateClients) : Prop where
  avatars : ∀ (avatar : Bytes) (id : UInt64), clients.sessionIdsByAvatar[avatar]? = some id ↔
    ∃ record, clients.clientSessionRecords[id]? = some record ∧ record.avatarId = avatar ∧ avatar ≠ []
  accounts : ∀ (account : Bytes) (id : UInt64), clients.sessionIdsByAccount[account]? = some id →
    ∃ record, clients.clientSessionRecords[id]? = some record ∧ record.accountId = account
  pending : ∀ (id : UInt64) (record : ClientSessionRecord), clients.clientSessionRecords[id]? = some record →
    record.pendingSelectAvatarSeq ≠ 0 → record.avatarId ≠ [] ∧ record.gameNodeId ≠ []

theorem consistent_of_book {nodeId : Bytes} {clients : GateClients} (inv : GateClients.BookInv nodeId rules clients) :
    Consistent clients where
  avatars avatar id := by
    rw [inv.avatars avatar id]
    simp only [GateClients.boundAvatar_some]
  accounts := inv.accounts
  pending id record stored waiting :=
    have bound := (inv.records id record stored).pending waiting
    ⟨bound, (inv.records id record stored).game bound⟩

/-- The books of any run. -/
theorem run_book_all {config : ClusterConfig} {self : NodeEntry} {boot : GateBoot} {gate : GateNode}
    (init : onInit config self boot = some gate) (is : List Input) :
    GateClients.BookInv (machine.run gate is).1.nodeId .all (machine.run gate is).1.clients :=
  run_book init ((Machine.along_true gate is).mono fun gate input _ => admits_all gate input)

/-- **The books are consistent** after every sequence of inputs. -/
theorem books_consistent {config : ClusterConfig} {self : NodeEntry} {boot : GateBoot} {gate : GateNode}
    (init : onInit config self boot = some gate) (is : List Input) : Consistent (machine.run gate is).1.clients :=
  consistent_of_book (run_book_all init is)

/-! ## A small Gate -/

theorem sampleGate_isSome : (onInit sampleConfig sampleGateEntry sampleBoot).isSome = true := by decide +kernel

def sampleGate : GateNode := (onInit sampleConfig sampleGateEntry sampleBoot).get sampleGate_isSome

theorem sampleGate_init : onInit sampleConfig sampleGateEntry sampleBoot = some sampleGate :=
  (Option.some_get sampleGate_isSome).symm

/-- The Gate registers with the GM, its Game registers and sends a heartbeat, the
cluster becomes ready, and a client logs in from 10.0.0.1. -/
def sampleLogin : List Input :=
  let env : GateEnv := { nowUnixMs := 1000 }
  [.connectorState env gmRemoteNodeId .connected,
    .connectorMessage env gmRemoteNodeId (samplePacket innerRegisterMsgId 1 flagResponse
      (encodeRegisterSuccessResponse ⟨5000, 15000, 1000⟩ registerSuccessResponseSize)),
    .gameMessage env (text "Game0") (samplePacket innerRegisterMsgId 1 0 (encodeRegisterRequest
      { processType := innerProcessTypeGame, processFlags := 0, nodeId := text "Game0", pid := 1, startedAtUnixMs := 1
        innerNetworkEndpoint := sampleEndpoint 5200, buildVersion := buildVersion, capabilityTags := []
        load := ⟨0, 0, 0, 0, 0⟩ } 200)),
    .gameMessage env (text "Game0") (samplePacket innerHeartbeatMsgId 2 0
      (encodeHeartbeatRequest ⟨1000, 0, ⟨0, 0, 0, 0, 0⟩⟩ heartbeatRequestSize)),
    .connectorMessage env gmRemoteNodeId (samplePacket innerClusterReadyNotifyMsgId 0 0
      (encodeClusterReadyNotify ⟨1, true, 0, 1000⟩ clusterReadyNotifySize)),
    .authLogin env { account := text "alice", remoteAddress := text "10.0.0.1" }]

/-- A datagram of that client, with the messages KCP completes on it. -/
def sampleDatagram (env : GateEnv) (datagram : Bytes) : Input :=
  .datagram { env with nowUnixMs := 2000, admissionUnixMs := 2000, laterUnixMs := 2000 }
    { host := text "10.0.0.1", port := 40000 } datagram

/-- A datagram that asks for the receive window. -/
def sampleProbe (conversation : UInt32) : Bytes := Ikcp.encodeSeg { conv := conversation, cmd := Ikcp.cmdWask }

/-- A datagram that pushes a message of the first conversation. -/
def sampleSegment (sn : UInt32) (message : Bytes) : Bytes :=
  Ikcp.encodeSeg { conv := 1, cmd := Ikcp.cmdPush, sn := sn, data := message }

def sampleSelectMembers (avatar : Bytes) : Table Bytes JsonScalar :=
  jsonObject [(text "action", .string (text "selectAvatar")), (text "avatarId", .string avatar)]

/-- The client selects an avatar. -/
def sampleSelect (avatar : Bytes) : Input :=
  let body := (dump (sampleSelectMembers avatar)).getD []
  let message := samplePacket clientSelectAvatarMsgId 1 0 (.ok body : Except Unit Bytes)
  sampleDatagram {
    received := [message]
    parseJson := fun content => if content = body then .ok (.object (sampleSelectMembers avatar)) else .error [] }
    (sampleSegment 0 message)

/-- The small Gate while its client waits for the avatar. -/
def sampleWaiting : GateNode :=
  (machine.run sampleGate (sampleLogin ++ [sampleSelect (text "0f8fad5b-d9cb-469f-a165-70867728950e")])).1

theorem books_consistent_sample :
    Consistent (machine.run sampleGate
      (sampleLogin ++ [sampleSelect (text "0f8fad5b-d9cb-469f-a165-70867728950e")])).1.clients :=
  books_consistent sampleGate_init _

/-! ## Avatars and GUIDs -/

/-- A hex digit in lower case; other bytes as they are. -/
def toLowerHex (ch : UInt8) : UInt8 := if 65 ≤ ch ∧ ch ≤ 70 then ch + 32 else ch

/-- `Guid.ToString("D")` of the GUID that a canonical text denotes: the same
digits in lower case. Two canonical texts denote one GUID when these agree. -/
def guidText (avatar : Bytes) : Bytes := avatar.map toLowerHex

/-- Avatars are told apart by their GUIDs, and a relayed call that names a bound
avatar's GUID as the managed transport writes it reaches the avatar's session. -/
structure AvatarIdentity (gate : GateNode) : Prop where
  distinct : ∀ (id id' : UInt64) (record record' : ClientSessionRecord),
    gate.clients.clientSessionRecords[id]? = some record → gate.clients.clientSessionRecords[id']? = some record' →
    record.avatarId ≠ [] → record'.avatarId ≠ [] → guidText record.avatarId = guidText record'.avatarId → id = id'
  resolved : ∀ (id : UInt64) (record : ClientSessionRecord), gate.clients.clientSessionRecords[id]? = some record →
    record.avatarId ≠ [] → ∀ (routingId payload : Bytes) (relay : RelayEntityCall),
    GateClients.acceptRelayEntityCall gate.toGateContext decodeRelayPushToClient routingId payload = some relay ∨
      GateClients.acceptRelayEntityCall gate.toGateContext decodeRelayForwardProxyCall routingId payload = some relay →
    relay.targetEntityId = guidText record.avatarId →
    gate.clients.resolveAvatarSession gate.toGateContext relay.targetEntityId = some (id, record) ∧
      record.gameNodeId ≠ []

/-- Every avatar that this step binds is given by its lower-case text. -/
def SelectsLowerCase (gate : GateNode) : Input → Prop
  | .datagram env endpoint datagram =>
    ∀ avatar ∈ gate.clients.datagramAvatars gate.toGateContext env endpoint datagram, guidText avatar = avatar
  | _ => True

instance (gate : GateNode) : ∀ input, Decidable (SelectsLowerCase gate input)
  | .datagram .. => inferInstanceAs (Decidable (∀ avatar ∈ _, guidText avatar = avatar))
  | .connectorState .. | .connectorMessage .. | .gameMessage .. | .heartbeatTimer .. | .authLogin ..
  | .removeSession .. | .clearRecord .. => .isTrue trivial

def lowerCaseRules : GateClients.Rules where
  avatar avatar := guidText avatar = avatar
  removal _ _ := True

theorem admits_lowerCase (gate : GateNode) (input : Input) (h : SelectsLowerCase gate input) :
    Admits lowerCaseRules gate input := by
  cases input with
  | datagram env endpoint datagram => exact ⟨h, fun _ _ _ _ => trivial⟩
  | _ => trivial

theorem resolveAvatarSession_bound {clients : GateClients} {ctx : GateContext}
    (inv : GateClients.BookInv ctx.nodeId rules clients) {id : UInt64} {record : ClientSessionRecord}
    (found : clients.clientSessionRecords[id]? = some record) (bound : record.avatarId ≠ []) :
    clients.resolveAvatarSession ctx record.avatarId = some (id, record) := by
  have indexed : clients.sessionIdsByAvatar[record.avatarId]? = some id :=
    (inv.avatars _ _).mpr ⟨record, found, GateClients.boundAvatar_some.mpr ⟨rfl, bound⟩⟩
  have holds := inv.records id record found
  unfold GateClients.resolveAvatarSession
  simp [indexed, found, holds.closed, holds.gate]

/-- **Avatar identity.** In a run where clients select avatars by lower-case
texts only, every state identifies avatars by their GUIDs. -/
theorem avatar_identity_of_lower_case {config : ClusterConfig} {self : NodeEntry} {boot : GateBoot} {gate : GateNode}
    (init : onInit config self boot = some gate) {is : List Input} (along : machine.Along SelectsLowerCase gate is) :
    AvatarIdentity (machine.run gate is).1 := by
  have inv := run_book init (along.mono admits_lowerCase)
  have lower : ∀ (id : UInt64) (record : ClientSessionRecord),
      (machine.run gate is).1.clients.clientSessionRecords[id]? = some record → record.avatarId ≠ [] →
      guidText record.avatarId = record.avatarId := fun id record found => (inv.records id record found).allowed
  constructor
  · intro id id' record record' found found' bound bound' same
    rw [lower id record found bound, lower id' record' found' bound'] at same
    exact inv.avatars.injective found found' (GateClients.boundAvatar_some.mpr ⟨rfl, bound⟩)
      (GateClients.boundAvatar_some.mpr ⟨same.symm, bound⟩)
  · intro id record found bound routingId payload relay _ target
    rw [target, lower id record found bound]
    exact ⟨resolveAvatarSession_bound inv found bound, (inv.records id record found).game bound⟩

theorem avatar_identity_of_lower_case_sample :
    AvatarIdentity (machine.run sampleGate
      (sampleLogin ++ [sampleSelect (text "0f8fad5b-d9cb-469f-a165-70867728950e")])).1 :=
  avatar_identity_of_lower_case sampleGate_init (by decide +kernel)

/-- A client's avatar in upper case, as the Gate records it. -/
def upperCaseRecord : ClientSessionRecord where
  sessionId := 1
  conversation := 1
  accountId := text "alice"
  avatarId := text "0F8FAD5B-D9CB-469F-A165-70867728950E"
  gameNodeId := text "Game0"
  gateNodeId := text "Gate0"
  pendingSelectAvatarSeq := 1
  authenticatedAtUnixMs := 2000
  lastActiveUnixMs := 2000

/-- A call of the Game for the same avatar. -/
def lowerCaseCall : RelayEntityCall where
  sourceGameNodeId := text "Game0"
  routeGateNodeId := text "Gate0"
  targetEntityId := text "0f8fad5b-d9cb-469f-a165-70867728950e"
  msgId := 7000
  relayFlags := 0
  payload := []

/-- A push for an avatar that was selected in upper case finds no session. -/
theorem upper_case_avatar_unresolved :
    ¬ AvatarIdentity (machine.run sampleGate (sampleLogin ++ [sampleSelect upperCaseRecord.avatarId])).1 := by
  intro identity
  obtain ⟨found, accepted, lost⟩ : (machine.run sampleGate
        (sampleLogin ++ [sampleSelect upperCaseRecord.avatarId])).1.clients.clientSessionRecords[(1 : UInt64)]? =
        some upperCaseRecord ∧
      GateClients.acceptRelayEntityCall (machine.run sampleGate
        (sampleLogin ++ [sampleSelect upperCaseRecord.avatarId])).1.toGateContext decodeRelayPushToClient (text "Game0")
        (samplePacket relayPushToClientMsgId 0 0 (encodeRelayForwardProxyCall lowerCaseCall 68)) = some lowerCaseCall ∧
      (machine.run sampleGate
        (sampleLogin ++ [sampleSelect upperCaseRecord.avatarId])).1.clients.resolveAvatarSession (machine.run sampleGate
        (sampleLogin ++ [sampleSelect upperCaseRecord.avatarId])).1.toGateContext lowerCaseCall.targetEntityId = none := by
    decide +kernel
  have resolved := identity.resolved 1 upperCaseRecord found (by decide +kernel) _ _ lowerCaseCall (.inl accepted)
    (by decide +kernel)
  rw [lost] at resolved
  cases resolved.1

end GateNode

end XServer.Node
