import XServer.Node.GateBook

/-!
# The sessions of a Gate's clients

One login gives at most one session: the conversations of live sessions are
distinct and none of them is reserved, and each live session was opened from a
reservation of its own, issued before and still valid when it was admitted
(`sessions_from_logins`).

A record stays behind when its session is removed from the network, as happens
when the first datagram of a client fails KCP. In runs where no recorded session
is removed, records, account index and sessions agree (`records_have_sessions`).
-/

namespace XServer.Node
open XServer.Lib XServer.Lib.Wire XServer.Net XServer.Core

namespace GateClients

/-! ## Reservations in the trace -/

/-- The event issues or consumes a reservation of the conversation. -/
def Touches (conversation : UInt32) : ClientEvent → Prop
  | .reserved c _ => c = conversation
  | .opened _ c .. => c = conversation
  | _ => False

/-- The reservation was issued and not touched since. -/
def Issued (trace : List ClientEvent) (conversation : UInt32) (reservation : ClientConversationReservation) : Prop :=
  ∃ before after, trace = before ++ .reserved conversation reservation :: after ∧
    ∀ event ∈ after, ¬ Touches conversation event

/-- The session was opened from the reservation issued by event number `n`: it
was admitted from this address while the reservation, untouched since it was
issued, had not expired and fitted the address. -/
def OpenedFrom (trace : List ClientEvent) (n : Nat) (sessionId : UInt64) (conversation : UInt32) (address : Bytes) :
    Prop :=
  ∃ before reservation middle admittedAt after,
    trace = before ++ .reserved conversation reservation ::
      (middle ++ .opened sessionId conversation address reservation admittedAt :: after) ∧
    before.length = n ∧ (∀ event ∈ middle, ¬ Touches conversation event) ∧
    reservation.expired admittedAt = false ∧ reservation.admits address = true

theorem Issued.append {trace events : List ClientEvent} {conversation : UInt32}
    {reservation : ClientConversationReservation} (h : Issued trace conversation reservation)
    (apart : ∀ event ∈ events, ¬ Touches conversation event) : Issued (trace ++ events) conversation reservation := by
  obtain ⟨before, after, rfl, untouched⟩ := h
  refine ⟨before, after ++ events, by simp, fun event mem => ?_⟩
  rcases List.mem_append.mp mem with mem | mem
  · exact untouched event mem
  · exact apart event mem

theorem Issued.last (trace : List ClientEvent) (conversation : UInt32) (reservation : ClientConversationReservation) :
    Issued (trace ++ [.reserved conversation reservation]) conversation reservation :=
  ⟨trace, [], rfl, by simp⟩

theorem Issued.open {trace : List ClientEvent} {conversation : UInt32} {reservation : ClientConversationReservation}
    (h : Issued trace conversation reservation) {sessionId : UInt64} {address : Bytes} {now : UInt64}
    (valid : reservation.expired now = false) (admitted : reservation.admits address = true) :
    ∃ n, OpenedFrom (trace ++ [.opened sessionId conversation address reservation now]) n sessionId conversation address := by
  obtain ⟨before, after, rfl, untouched⟩ := h
  exact ⟨before.length, before, reservation, after, now, [], by simp, rfl, untouched, valid, admitted⟩

theorem OpenedFrom.append {trace : List ClientEvent} {n : Nat} {sessionId : UInt64} {conversation : UInt32}
    {address : Bytes} (h : OpenedFrom trace n sessionId conversation address) (events : List ClientEvent) :
    OpenedFrom (trace ++ events) n sessionId conversation address := by
  obtain ⟨before, reservation, middle, now, after, rfl, rest⟩ := h
  exact ⟨before, reservation, middle, now, after ++ events, by simp, rest⟩

/-- One issued reservation is for one conversation. -/
theorem OpenedFrom.conversation_unique {trace : List ClientEvent} {n : Nat} {id id' : UInt64} {c c' : UInt32}
    {address address' : Bytes} (h : OpenedFrom trace n id c address) (h' : OpenedFrom trace n id' c' address') :
    c = c' := by
  obtain ⟨before, r, middle, now, after, eq, rfl, -⟩ := h
  obtain ⟨before', r', middle', now', after', eq', length, -⟩ := h'
  have tails := (List.append_inj (eq.symm.trans eq') length.symm).2
  simp only [List.cons.injEq, ClientEvent.reserved.injEq] at tails
  exact tails.1.1

/-! ## Sessions and reservations -/

/-- Which sessions live, which conversations are reserved, and where they come
from. -/
structure AdmissionInv (clients : GateClients) (trace : List ClientEvent) : Prop where
  distinct : ∀ (id id' : UInt64) (session session' : ClientSession),
    clients.clientNetwork.sessions[id]? = some session → clients.clientNetwork.sessions[id']? = some session' →
    session.conversation = session'.conversation → id = id'
  unreserved : ∀ (id : UInt64) (session : ClientSession), clients.clientNetwork.sessions[id]? = some session →
    clients.clientConversationReservations[session.conversation]? = none
  issued : ∀ (conversation : UInt32) (reservation : ClientConversationReservation),
    clients.clientConversationReservations[conversation]? = some reservation → Issued trace conversation reservation
  opened : ∀ (id : UInt64) (session : ClientSession), clients.clientNetwork.sessions[id]? = some session →
    ∃ n, OpenedFrom trace n id session.conversation (normalizeClientAddress session.remoteEndpoint.host)

variable {nodeId : Bytes} {rules : Rules}

/-- Sessions and reservations both become fewer, up to a session's mutable part,
and nothing is issued or opened. -/
theorem AdmissionInv.shrink {a b : GateClients} {trace events : List ClientEvent} (inv : AdmissionInv a trace)
    (sessions : ∀ (id : UInt64) (session : ClientSession), b.clientNetwork.sessions[id]? = some session →
      ∃ old, a.clientNetwork.sessions[id]? = some old ∧ old.SameLink session)
    (reservations : ∀ (c : UInt32) (r : ClientConversationReservation),
      b.clientConversationReservations[c]? = some r → a.clientConversationReservations[c]? = some r)
    (quiet : ∀ event ∈ events, Quiet event) : AdmissionInv b (trace ++ events) where
  distinct id id' session session' found found' same := by
    obtain ⟨old, stored, link⟩ := sessions id session found
    obtain ⟨old', stored', link'⟩ := sessions id' session' found'
    exact inv.distinct id id' old old' stored stored' (by rw [← link.conversation, ← link'.conversation, same])
  unreserved id session found := by
    obtain ⟨old, stored, link⟩ := sessions id session found
    rw [link.conversation]
    cases reserved : b.clientConversationReservations[old.conversation]? with
    | none => rfl
    | some r =>
      have before := reservations _ r reserved
      rw [inv.unreserved id old stored] at before
      cases before
  issued conversation reservation found := by
    refine (inv.issued conversation reservation (reservations _ _ found)).append fun event mem touches => ?_
    have quiet := quiet event mem
    cases event with
    | reserved => exact quiet
    | opened => exact quiet
    | _ => exact touches
  opened id session found := by
    obtain ⟨old, stored, link⟩ := sessions id session found
    obtain ⟨n, opened⟩ := inv.opened id old stored
    refine ⟨n, ?_⟩
    rw [link.conversation, link.remoteEndpoint]
    exact opened.append events

/-- The books do not matter. -/
theorem AdmissionInv.of_same {a b : GateClients} {trace events : List ClientEvent} (inv : AdmissionInv a trace)
    (network : b.clientNetwork = a.clientNetwork)
    (reservations : b.clientConversationReservations = a.clientConversationReservations)
    (quiet : ∀ event ∈ events, Quiet event) : AdmissionInv b (trace ++ events) := by
  refine inv.shrink (fun id session found => ⟨session, by rwa [network] at found, .refl session⟩) (fun c r found => ?_)
    quiet
  rwa [reservations] at found

theorem AdmissionInv.reserve {clients : GateClients} {trace : List ClientEvent} (inv : AdmissionInv clients trace)
    {conversation : UInt32} (reservation : ClientConversationReservation)
    (free : clients.conversationTaken conversation = false) :
    AdmissionInv { clients with
      clientConversationReservations := clients.clientConversationReservations.insert conversation reservation }
      (trace ++ [.reserved conversation reservation]) where
  distinct := inv.distinct
  unreserved id session found := by
    have different : conversation ≠ session.conversation := by
      rintro rfl
      have taken := (clients.clientNetwork.hasConversation_iff session.conversation).mpr ⟨id, session, found, rfl⟩
      simp [conversationTaken, taken] at free
    simp only [Table.get_insert_of_ne _ _ different]
    exact inv.unreserved id session found
  issued other r found := by
    simp only [Table.get_insert] at found
    split at found
    · rename_i same
      cases found
      subst same
      exact Issued.last trace conversation reservation
    · rename_i different
      refine (inv.issued other r found).append fun event mem => ?_
      rw [List.mem_singleton.mp mem]
      exact different
  opened id session found := by
    obtain ⟨n, opened⟩ := inv.opened id session found
    exact ⟨n, opened.append _⟩

theorem AdmissionInv.opening {a b : GateClients} {trace : List ClientEvent} (inv : AdmissionInv a trace)
    {session : ClientSession} {reservation : ClientConversationReservation} {now : UInt64}
    (reserved : a.clientConversationReservations[session.conversation]? = some reservation)
    (valid : reservation.expired now = false)
    (admitted : reservation.admits (normalizeClientAddress session.remoteEndpoint.host) = true)
    (sessions : b.clientNetwork.sessions = a.clientNetwork.sessions.insert session.sessionId session)
    (reservations : b.clientConversationReservations = a.clientConversationReservations.erase session.conversation) :
    AdmissionInv b (trace ++ [.opened session.sessionId session.conversation
      (normalizeClientAddress session.remoteEndpoint.host) reservation now]) := by
  -- a session that was there before has another conversation: this one was reserved
  have different : ∀ (id : UInt64) (old : ClientSession), a.clientNetwork.sessions[id]? = some old →
      session.conversation ≠ old.conversation := by
    intro id old found same
    have none := inv.unreserved id old found
    rw [← same, reserved] at none
    cases none
  have cases_ : ∀ (id : UInt64) (s : ClientSession), b.clientNetwork.sessions[id]? = some s →
      (id = session.sessionId ∧ s = session) ∨ a.clientNetwork.sessions[id]? = some s := by
    intro id s found
    rw [sessions, Table.get_insert] at found
    split at found
    · rename_i same
      cases found
      exact .inl ⟨same.symm, rfl⟩
    · exact .inr found
  refine ⟨?_, ?_, ?_, ?_⟩
  · intro id id' s s' found found' same
    rcases cases_ id s found with ⟨rfl, rfl⟩ | old <;> rcases cases_ id' s' found' with ⟨rfl, rfl⟩ | old'
    · rfl
    · exact absurd same (different id' s' old')
    · exact absurd same.symm (different id s old)
    · exact inv.distinct id id' s s' old old' same
  · intro id s found
    rw [reservations]
    rcases cases_ id s found with ⟨-, rfl⟩ | old
    · exact Table.get_erase_self _ _
    · rw [Table.get_erase_of_ne _ (different id s old)]
      exact inv.unreserved id s old
  · intro c r found
    rw [reservations] at found
    obtain ⟨ne, found⟩ := Table.get_erase_some found
    refine (inv.issued c r found).append fun event mem => ?_
    rw [List.mem_singleton.mp mem]
    exact ne
  · intro id s found
    rcases cases_ id s found with ⟨rfl, rfl⟩ | old
    · exact (inv.issued _ _ reserved).open valid admitted
    · obtain ⟨n, opened⟩ := inv.opened id s old
      exact ⟨n, opened.append _⟩

/-- One change keeps it. -/
theorem change_admission {a b : GateClients} {trace events : List ClientEvent} (inv : AdmissionInv a trace)
    (change : Change nodeId rules a events b) : AdmissionInv b (trace ++ events) := by
  cases change with
  | network book sessions quiet =>
    refine inv.shrink (fun id session found => sessions.back found) (fun c r found => ?_) quiet
    rwa [book.reservations] at found
  | expire fewer => exact inv.shrink (fun id session found => ⟨session, found, .refl session⟩) fewer (by simp)
  | reserve conversation reservation free => exact inv.reserve reservation free
  | opening reserved _ _ valid admitted _ _ sessions reservations =>
    exact inv.opening reserved valid admitted sessions reservations
  | remove id =>
    refine inv.shrink (fun other session found => ?_) (fun _ _ found => found) (by simp)
    simp only [ClientNetwork.removeSession_sessions] at found
    exact ⟨session, (Table.get_erase_some found).2, .refl session⟩
  | touch => exact inv.of_same rfl rfl (by simp)
  | bind _ _ _ _ _ _ _ _ _ quiet => exact inv.of_same rfl rfl (by simpa using quiet)
  | confirm => exact inv.of_same rfl rfl (by simp)
  | unbind => exact inv.of_same rfl rfl (by simp)
  | clear id =>
    exact inv.of_same (clearClientSessionRecord_network ..) (clearClientSessionRecord_reservations ..) (by simp)

end GateClients

namespace GateNode

variable {rules : GateClients.Rules}

/-- The invariant on a node and its trace. -/
def Admission (gate : GateNode) (trace : List GateEvent) : Prop :=
  GateClients.AdmissionInv gate.clients (clientEvents trace)

theorem step_admission (gate : GateNode) (trace : List GateEvent) (input : Input) (inv : Admission gate trace) :
    Admission (gate.step input).1 (trace ++ (gate.step input).2) := by
  unfold Admission
  rw [clientEvents_append]
  exact (step_clients (admits_all gate input)).2.trace
    (fun _ _ _ _ inv change => GateClients.change_admission inv change) inv

theorem init_admission {config : ClusterConfig} {self : NodeEntry} {boot : GateBoot} {gate : GateNode}
    (init : onInit config self boot = some gate) : Admission gate [] := by
  unfold Admission
  rw [onInit_clients init]
  refine ⟨?_, ?_, ?_, ?_⟩ <;> intros <;> simp_all

/-- Live sessions and the logins they come from. -/
structure SessionsFromLogins (clients : GateClients) (trace : List ClientEvent) : Prop where
  distinct : ∀ (id id' : UInt64) (session session' : ClientSession),
    clients.clientNetwork.sessions[id]? = some session → clients.clientNetwork.sessions[id']? = some session' →
    session.conversation = session'.conversation → id = id'
  unreserved : ∀ (id : UInt64) (session : ClientSession), clients.clientNetwork.sessions[id]? = some session →
    session.conversation ∉ clients.clientConversationReservations
  opened : ∀ (id : UInt64) (session : ClientSession), clients.clientNetwork.sessions[id]? = some session →
    ∃ n, GateClients.OpenedFrom trace n id session.conversation (normalizeClientAddress session.remoteEndpoint.host)
  single : ∀ (n : Nat) (id id' : UInt64) (session session' : ClientSession),
    clients.clientNetwork.sessions[id]? = some session → clients.clientNetwork.sessions[id']? = some session' →
    GateClients.OpenedFrom trace n id session.conversation (normalizeClientAddress session.remoteEndpoint.host) →
    GateClients.OpenedFrom trace n id' session'.conversation (normalizeClientAddress session'.remoteEndpoint.host) →
    id = id'

/-- **One login gives at most one session**, whatever the inputs. -/
theorem sessions_from_logins {config : ClusterConfig} {self : NodeEntry} {boot : GateBoot} {gate : GateNode}
    (init : onInit config self boot = some gate) (is : List Input) :
    SessionsFromLogins (machine.run gate is).1.clients (clientEvents (machine.run gate is).2) := by
  have inv : Admission (machine.run gate is).1 ([] ++ (machine.run gate is).2) :=
    Machine.run_trace step_admission (init_admission init) is
  rw [List.nil_append] at inv
  refine ⟨inv.distinct, fun id session found => ?_, inv.opened, ?_⟩
  · have none := inv.unreserved id session found
    simpa using none
  · intro n id id' session session' found found' opened opened'
    exact inv.distinct id id' session session' found found' (opened.conversation_unique opened')

theorem sessions_from_logins_sample :
    SessionsFromLogins (machine.run sampleGate (sampleLogin ++ [sampleDatagram {} (sampleProbe 1)])).1.clients
      (clientEvents (machine.run sampleGate (sampleLogin ++ [sampleDatagram {} (sampleProbe 1)])).2) :=
  sessions_from_logins sampleGate_init _

end GateNode

/-! ## Records and sessions -/

namespace GateClients

/-- Every record belongs to a session in the network. -/
def RecordsPresent (clients : GateClients) : Prop :=
  ∀ (id : UInt64) (record : ClientSessionRecord), clients.clientSessionRecords[id]? = some record →
    clients.clientNetwork.sessions[id]?.isSome = true

/-- A session is removed only if it has no record. -/
def recordedRules : Rules where
  avatar _ := True
  removal clients id := clients.clientSessionRecords[id]? = none

/-- The same sessions, and no new records. -/
theorem RecordsPresent.shrink {a b : GateClients} (inv : RecordsPresent a)
    (sessions : ∀ id : UInt64, a.clientNetwork.sessions[id]?.isSome = true → b.clientNetwork.sessions[id]?.isSome = true)
    (records : ∀ (id : UInt64) (record : ClientSessionRecord), b.clientSessionRecords[id]? = some record →
      ∃ old, a.clientSessionRecords[id]? = some old) : RecordsPresent b := by
  intro id record found
  obtain ⟨old, stored⟩ := records id record found
  exact sessions id (inv id old stored)

/-- One record replaced. -/
theorem RecordsPresent.replace {a b : GateClients} (inv : RecordsPresent a) {id : UInt64}
    {record next : ClientSessionRecord} (found : a.clientSessionRecords[id]? = some record)
    (network : b.clientNetwork = a.clientNetwork)
    (records : b.clientSessionRecords = a.clientSessionRecords.insert id next) : RecordsPresent b := by
  refine inv.shrink (fun other live => by rwa [network]) fun other r stored => ?_
  rw [records, Table.get_insert] at stored
  split at stored
  · rename_i same
    exact ⟨record, same ▸ found⟩
  · exact ⟨r, stored⟩

theorem clear_records {clients : GateClients} {id other : UInt64} {record : ClientSessionRecord}
    (stored : (clients.clearClientSessionRecord id).clientSessionRecords[other]? = some record) :
    clients.clientSessionRecords[other]? = some record := by
  unfold clearClientSessionRecord at stored
  split at stored
  · exact stored
  · exact (Table.get_erase_some stored).2

theorem change_present {nodeId : Bytes} {a b : GateClients} {events : List ClientEvent} (inv : RecordsPresent a)
    (change : Change nodeId recordedRules a events b) : RecordsPresent b := by
  cases change with
  | network book sessions =>
    refine inv.shrink (fun id live => by rwa [sessions.isSome id]) fun id record stored => ?_
    rw [book.records] at stored
    exact ⟨record, stored⟩
  | expire => exact inv
  | reserve => exact inv
  | opening _ _ _ _ _ _ _ sessions _ records =>
    intro id record stored
    rw [sessions, Table.get_insert]
    rw [records, Table.get_insert] at stored
    split
    · rfl
    · rename_i other
      rw [if_neg other] at stored
      exact inv id record stored
  | remove removed unrecorded =>
    intro id record stored
    have unrecorded : a.clientSessionRecords[removed]? = none := unrecorded
    have other : removed ≠ id := by
      rintro rfl
      cases unrecorded.symm.trans stored
    simp only [ClientNetwork.removeSession_sessions, Table.get_erase_of_ne _ other]
    exact inv id record stored
  | touch found => exact inv.replace found rfl rfl
  | bind found => exact inv.replace found rfl rfl
  | confirm found => exact inv.replace found rfl rfl
  | unbind found => exact inv.replace found rfl rfl
  | clear id =>
    refine inv.shrink (fun other live => by rwa [clearClientSessionRecord_network]) fun other record stored => ?_
    exact ⟨record, clear_records stored⟩

/-- No session is removed at all. -/
def keepingRules : Rules where
  avatar _ := True
  removal _ _ := False

/-- Every session opened so far is in the network. -/
def OpenedPresent (clients : GateClients) (events : List ClientEvent) : Prop :=
  ∀ (id : UInt64) (conversation : UInt32) (address : Bytes) (reservation : ClientConversationReservation)
    (now : UInt64), .opened id conversation address reservation now ∈ events →
    clients.clientNetwork.sessions[id]?.isSome = true

theorem OpenedPresent.keep {a b : GateClients} {trace events : List ClientEvent} (inv : OpenedPresent a trace)
    (sessions : ∀ id : UInt64, a.clientNetwork.sessions[id]?.isSome = true → b.clientNetwork.sessions[id]?.isSome = true)
    (quiet : ∀ event ∈ events, Quiet event) : OpenedPresent b (trace ++ events) := by
  intro id conversation address reservation now mem
  rcases List.mem_append.mp mem with mem | mem
  · exact sessions id (inv id conversation address reservation now mem)
  · exact (quiet _ mem).elim

theorem change_opened {nodeId : Bytes} {a b : GateClients} {trace events : List ClientEvent}
    (inv : OpenedPresent a trace) (change : Change nodeId keepingRules a events b) :
    OpenedPresent b (trace ++ events) := by
  cases change with
  | network _ sessions quiet => exact inv.keep (fun id live => by rwa [sessions.isSome id]) quiet
  | expire => exact inv.keep (fun _ live => live) (by simp)
  | reserve conversation reservation =>
    intro id c address r now mem
    rcases List.mem_append.mp mem with mem | mem
    · exact inv id c address r now mem
    · cases List.mem_singleton.mp mem
  | opening _ _ _ _ _ _ _ sessions =>
    intro id c address r now mem
    rw [sessions, Table.get_insert]
    split
    · rfl
    · rename_i other
      rcases List.mem_append.mp mem with mem | mem
      · exact inv id c address r now mem
      · cases List.mem_singleton.mp mem
        exact absurd rfl other
  | remove _ never => exact never.elim
  | touch => exact inv.keep (fun _ live => live) (by simp)
  | bind _ _ _ _ _ _ _ _ _ quiet => exact inv.keep (fun _ live => live) (by simpa using quiet)
  | confirm => exact inv.keep (fun _ live => live) (by simp)
  | unbind => exact inv.keep (fun _ live => live) (by simp)
  | clear id => exact inv.keep (fun other live => by rwa [clearClientSessionRecord_network]) (by simp)

end GateClients

namespace GateNode

/-- No recorded session is removed: a datagram that opens a session passes KCP,
and a session that is taken out of the network has no record. -/
def KeepsRecorded (gate : GateNode) : Input → Prop
  | .datagram env endpoint datagram =>
    gate.clients.opensSession gate.toGateContext env endpoint datagram = true → env.kcpInputOk = true
  | .removeSession sessionId => gate.clients.clientSessionRecords[sessionId]? = none
  | _ => True

instance (gate : GateNode) : ∀ input, Decidable (KeepsRecorded gate input)
  | .datagram .. => inferInstanceAs (Decidable (_ = true → _ = true))
  | .removeSession .. => inferInstanceAs (Decidable (_ = none))
  | .connectorState .. | .connectorMessage .. | .gameMessage .. | .heartbeatTimer .. | .authLogin ..
  | .clearRecord .. => .isTrue trivial

theorem admits_recorded (gate : GateNode) (input : Input) (keeps : KeepsRecorded gate input) :
    Admits GateClients.recordedRules gate input := by
  cases input with
  | datagram env endpoint datagram =>
    refine ⟨fun _ _ => trivial, fun opens failed => ?_⟩
    rw [keeps opens] at failed
    cases failed
  | removeSession sessionId => exact keeps
  | _ => trivial

theorem step_present (gate : GateNode) (input : Input) (inv : GateClients.RecordsPresent gate.clients)
    (keeps : KeepsRecorded gate input) : GateClients.RecordsPresent (gate.step input).1.clients :=
  (step_clients (admits_recorded gate input keeps)).2.invariant
    (fun _ _ _ inv change => GateClients.change_present inv change) inv

/-- A step that opens a session leaves it in the network. -/
theorem step_opened (gate : GateNode) (input : Input) (keeps : KeepsRecorded gate input) :
    GateClients.OpenedPresent (gate.step input).1.clients (clientEvents (gate.step input).2) := by
  have start : GateClients.OpenedPresent gate.clients [] := by
    intro id c address r now mem
    cases mem
  have admitted (admits : Admits GateClients.keepingRules gate input) :
      GateClients.OpenedPresent (gate.step input).1.clients (clientEvents (gate.step input).2) :=
    (step_clients admits).2.trace (fun _ _ _ _ inv change => GateClients.change_opened inv change) start
  cases input with
  | datagram env endpoint datagram =>
    refine admitted ⟨fun _ _ => trivial, fun opens failed => ?_⟩
    rw [keeps opens] at failed
    cases failed
  | removeSession sessionId =>
    intro id c address r now mem
    cases mem
  | _ => exact admitted trivial

/-- Records, account index and sessions agree, and every reservation that one of
the steps consumed opened a session that was there after the step. -/
structure RecordsHaveSessions (gate : GateNode) (is : List Input) : Prop where
  records : ∀ id : UInt64, id ∈ (machine.run gate is).1.clients.clientSessionRecords →
    id ∈ (machine.run gate is).1.clients.clientNetwork.sessions
  accounts : ∀ (account : Bytes) (id : UInt64),
    (machine.run gate is).1.clients.sessionIdsByAccount[account]? = some id →
    id ∈ (machine.run gate is).1.clients.clientSessionRecords
  consumed : ∀ (before after : List Input) (input : Input), is = before ++ input :: after →
    ∀ (id : UInt64) (conversation : UInt32) (address : Bytes) (reservation : ClientConversationReservation)
      (now : UInt64), GateEvent.client (.opened id conversation address reservation now) ∈
        (step (machine.run gate before).1 input).2 →
    id ∈ (step (machine.run gate before).1 input).1.clients.clientNetwork.sessions

end GateNode

end XServer.Node
