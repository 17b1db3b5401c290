import XServer.Node.GmControlHttp

/-!
# One broadcast for one success

A `/boardcase` request that is answered with 200 has sent one mailbox call, and any other has
sent none, except where the call went out and the response to it cannot be written: its text
quotes the message and the owner, and a text that is not UTF-8 ends in a 500.
-/

namespace XServer.Node
open XServer.Core XServer.Lib XServer.Lib.Wire XServer.Net

/-! ## The exception's text -/

theorem isDecimalDigit_ascii {ch : UInt8} (digit : isDecimalDigit ch = true) : ch < 0x80 := by
  unfold isDecimalDigit at digit
  simp only [Bool.and_eq_true, decide_eq_true_eq] at digit
  obtain ⟨-, high⟩ := digit
  simp only [UInt8.le_iff_toNat_le, UInt8.lt_iff_toNat_lt] at high ⊢
  have bound : (57 : UInt8).toNat = 57 ∧ (0x80 : UInt8).toNat = 128 := by decide
  omega

theorem repr_valid (n : Nat) : validUtf8 (text n.repr) = true :=
  validUtf8_of_ascii fun ch mem => isDecimalDigit_ascii ((readDecimal_repr n).2.1 ch mem)

theorem hexByte_valid (byte : UInt8) : validUtf8 (hexByte byte) = true := by
  have nibble : ∀ n < 16, (if n < 10 then UInt8.ofNat (48 + n) else UInt8.ofNat (55 + n)) < 0x80 := by decide
  have bound := byte.toNat_lt
  refine validUtf8_of_ascii fun ch mem => ?_
  unfold hexByte at mem
  simp only [List.mem_cons, List.not_mem_nil, or_false] at mem
  obtain rfl | rfl := mem
  · exact nibble _ (by omega)
  · exact nibble _ (by omega)

theorem invalidUtf8What_valid (value : Bytes) : validUtf8 (invalidUtf8What value) = true := by
  unfold invalidUtf8What
  split
  · rw [List.append_assoc, List.append_assoc, validUtf8_append (by decide +kernel), validUtf8_append (repr_valid _),
      validUtf8_append (by decide +kernel)]
    exact hexByte_valid _
  · rw [validUtf8_append (by decide +kernel)]
    exact hexByte_valid _

/-! ## Responses -/

section Responses
variable {statusCode : Nat} {members : List (Bytes × JsonScalar)}

theorem jsonResponse_ok (distinct : (members.map (·.1)).Nodup) (writes : members.all writable = true) :
    ∃ body, jsonResponse statusCode members = .ok { statusCode, body } := by
  rw [← dump_isSome distinct] at writes
  obtain ⟨body, written⟩ := Option.isSome_iff_exists.mp writes
  refine ⟨body, ?_⟩
  unfold jsonResponse tryDump
  rw [written]
  rfl

theorem jsonResponse_error (distinct : (members.map (·.1)).Nodup) (unwritable : members.all writable = false) :
    ∃ what, jsonResponse statusCode members = .error what ∧ validUtf8 what = true := by
  rw [← dump_isSome distinct, Option.isSome_eq_false_iff, Option.isNone_iff_eq_none] at unwritable
  unfold jsonResponse tryDump
  rw [unwritable]
  exact ⟨_, rfl, invalidUtf8What_valid _⟩

/-- A response has the status it was built with, or its text cannot be written. -/
theorem jsonResponse_cases (distinct : (members.map (·.1)).Nodup) :
    (∃ body, jsonResponse statusCode members = .ok { statusCode, body }) ∨
      ∃ what, jsonResponse statusCode members = .error what ∧ validUtf8 what = true := by
  cases writes : members.all writable with
  | true => exact Or.inl (jsonResponse_ok distinct writes)
  | false => exact Or.inr (jsonResponse_error distinct writes)

end Responses

/-- What an attempt that sent nothing leaves: a response other than 200, or an exception whose
text can be written. -/
def Refuses : Except Bytes GmControlHttpResponse → Prop
  | .ok response => response.statusCode ≠ 200
  | .error what => validUtf8 what = true

theorem jsonResponse_refuses {statusCode : Nat} {members : List (Bytes × JsonScalar)} (failure : statusCode ≠ 200)
    (distinct : (members.map (·.1)).Nodup) : Refuses (jsonResponse statusCode members) := by
  obtain ⟨body, written⟩ | ⟨what, thrown, valid⟩ := @jsonResponse_cases statusCode members distinct
  · rw [written]
    exact failure
  · rw [thrown]
    exact valid

theorem distinct_error (message : Bytes) : ([(text "error", JsonScalar.string message)].map (·.1)).Nodup := by
  simp

theorem buildJsonErrorResponse_refuses {statusCode : Nat} (failure : statusCode ≠ 200) (message : Bytes) :
    Refuses (buildJsonErrorResponse statusCode message) :=
  jsonResponse_refuses failure (distinct_error message)

theorem buildJsonErrorResponse_valid (statusCode : Nat) {message : Bytes} (valid : validUtf8 message = true) :
    ∃ body, buildJsonErrorResponse statusCode message = .ok { statusCode, body } := by
  have key : validUtf8 (text "error") = true := by decide +kernel
  apply jsonResponse_ok (distinct_error message)
  simp [writable, key, valid]

/-! ## The call that is sent -/

/-- The call behind a broadcast. -/
def broadcastCall (env : ControlEnv) (stub : ServerStubEntry) (message : Bytes) : RelayForwardMailboxCall where
  sourceGameNodeId := env.nodeId
  targetGameNodeId := stub.ownerGameNodeId
  targetEntityId := GmNode.callEntityId stub
  targetMailboxName := kOnlineStubType
  mailboxCallMsgId := kOnlineStubBroadcastMsgId
  relayFlags := 0
  payload := message

/-- The packet of a call. -/
def callPacket (call : RelayForwardMailboxCall) : Bytes :=
  headerBytes (makePacketHeader relayForwardMailboxCallMsgId packetSeqNone 0
    (UInt32.ofNat (mailboxCallBytes call).length)) ++ mailboxCallBytes call

/-- A call the codecs accept. -/
structure Encodable (call : RelayForwardMailboxCall) : Prop where
  valid : validateRelayForwardMailboxCall call = .ok ()
  bounded : call.Bounded
  short : (mailboxCallBytes call).length ≤ 4294967295

/-- What a packet carries, read back by the codecs. -/
def Carries (packet : Bytes) (call : RelayForwardMailboxCall) : Prop :=
  ∃ header payload, decodePacket packet = .ok { header, payload } ∧ header.msgId = relayForwardMailboxCallMsgId ∧
    decodeRelayForwardMailboxCall payload = .ok call

theorem Encodable.carries {call : RelayForwardMailboxCall} (encodable : Encodable call) :
    Carries (callPacket call) call := by
  have encoded := @encodePacket_make relayForwardMailboxCallMsgId packetSeqNone 0 _ (by decide) encodable.short
  exact ⟨_, _, decodePacket_encodePacket encoded, rfl, (reads_mailboxCall encodable.bounded).decodeExact encodable.valid⟩

namespace GmNode
variable {gm : GmNode} {env : ControlEnv} {stub : ServerStubEntry} {message : Bytes}

/-- The state and the network take the broadcast of a message to the stub's owner. -/
structure Takes (gm : GmNode) (env : ControlEnv) (stub : ServerStubEntry) (session : InnerNetworkSession)
    (message : Bytes) : Prop where
  network : env.hasInnerNetwork = true
  owned : stub.ownerGameNodeId ≠ []
  callable : gm.callableGame stub.ownerGameNodeId = some session
  encodable : Encodable (broadcastCall env stub message)
  accepted : env.sendOk session.routingId (callPacket (broadcastCall env stub message)) = true

theorem sendMailboxCall_ok {routingId : Bytes} {call : RelayForwardMailboxCall} {sent : GmEvent} :
    sendMailboxCall env routingId call = .ok sent ↔
      Encodable call ∧ env.sendOk routingId (callPacket call) = true ∧ sent = .send routingId (callPacket call) := by
  unfold sendMailboxCall
  constructor
  · intro ok
    split at ok
    · cases ok
    · rename_i wireSize size
      obtain ⟨valid, bounded, rfl⟩ := getRelayForwardMailboxCallWireSize_ok size
      rw [encodeRelayForwardMailboxCall_ok valid bounded] at ok
      simp only at ok
      split at ok
      · cases ok
      · rename_i packet encoded
        obtain ⟨-, -, short, rfl⟩ := encodePacket_ok encoded
        split at ok
        · rename_i accepted
          cases ok
          exact ⟨⟨valid, bounded, short⟩, accepted, rfl⟩
        · cases ok
  · rintro ⟨⟨valid, bounded, short⟩, accepted, rfl⟩
    rw [getRelayForwardMailboxCallWireSize_of_bounded valid bounded]
    simp only
    rw [encodeRelayForwardMailboxCall_ok valid bounded]
    simp only
    rw [encodePacket_make (by decide) short]
    exact if_pos accepted

theorem trySendStubCallToGame_ok {sent : GmEvent} :
    gm.trySendStubCallToGame env stub.ownerGameNodeId kOnlineStubType (callEntityId stub) kOnlineStubBroadcastMsgId
        message = .ok sent ↔
      ∃ session, Takes gm env stub session message ∧
        sent = .send session.routingId (callPacket (broadcastCall env stub message)) := by
  have named : kOnlineStubType ≠ [] ∧ kOnlineStubBroadcastMsgId ≠ 0 := by decide +kernel
  unfold trySendStubCallToGame
  constructor
  · intro ok
    split at ok
    · cases ok
    · rename_i arguments
      split at ok
      · cases ok
      · rename_i network
        split at ok
        · cases ok
        · rename_i session callable
          obtain ⟨encodable, accepted, sent⟩ := sendMailboxCall_ok.mp ok
          have present : env.hasInnerNetwork = true := by simpa using network
          exact ⟨session, ⟨present, fun empty => arguments (Or.inl empty), callable, encodable, accepted⟩, sent⟩
  · rintro ⟨session, takes, sent⟩
    have arguments : ¬ (stub.ownerGameNodeId = [] ∨ kOnlineStubType = [] ∨ kOnlineStubBroadcastMsgId = 0) := by
      rintro (empty | empty | zero)
      · exact takes.owned empty
      · exact named.1 empty
      · exact named.2 zero
    have network : ¬ env.hasInnerNetwork = false := by
      rw [takes.network]
      decide
    rw [if_neg arguments, if_neg network, takes.callable]
    exact sendMailboxCall_ok.mpr ⟨takes.encodable, takes.accepted, sent⟩

/-! ## The request -/

def boardcaseTarget (query : Option Bytes) : Bytes :=
  text "/boardcase" ++
    match query with
    | none => []
    | some query => text "?" ++ query

theorem trySplitRequestTarget_boardcase (query : Option Bytes) :
    trySplitRequestTarget (boardcaseTarget query) = some (text "/boardcase", query.getD []) := by
  have letters : text "/boardcase" = [47, 98, 111, 97, 114, 100, 99, 97, 115, 101] ∧ text "?" = [63] := by
    decide +kernel
  have front : ∀ rest, (text "/boardcase" ++ rest).head? = some 47 := by
    intro rest
    rw [letters.1]
    rfl
  have found : ∀ rest, search (text "?") (text "/boardcase" ++ rest) = (search (text "?") rest).map (· + 10) := by
    intro rest
    rw [letters.1, letters.2]
    exact search_skip (by decide)
  unfold trySplitRequestTarget boardcaseTarget
  rw [if_neg (not_not.mpr (front _)), found]
  cases query with
  | none =>
    rw [letters.2]
    simp [search]
  | some query =>
    simp only [Option.getD_some, letters.1, letters.2]
    rfl

theorem routeRequest_undecoded (gm : GmNode) (env : ControlEnv) {query : Option Bytes}
    (undecoded : tryGetDecodedQueryValue (query.getD []) (text "msg") = none) :
    gm.routeRequest env (text "GET") (boardcaseTarget query) =
      (buildJsonErrorResponse 400 (text "Query parameter 'msg' is required for /boardcase."), []) := by
  have paths : text "/boardcase" ≠ text "/healthz" ∧ text "/boardcase" ≠ text "/status" := by decide +kernel
  unfold routeRequest
  rw [trySplitRequestTarget_boardcase]
  simp only [paths.1, paths.2, if_false, if_true, ne_eq, not_true_eq_false, undecoded]

theorem routeRequest_decoded (gm : GmNode) (env : ControlEnv) {query : Option Bytes}
    (decoded : tryGetDecodedQueryValue (query.getD []) (text "msg") = some message) :
    gm.routeRequest env (text "GET") (boardcaseTarget query) =
      if trimAscii message = [] then
        (buildJsonErrorResponse 400 (text "Query parameter 'msg' must not be empty."), [])
      else gm.handleBoardcaseRequest env message := by
  have paths : text "/boardcase" ≠ text "/healthz" ∧ text "/boardcase" ≠ text "/status" := by decide +kernel
  unfold routeRequest
  rw [trySplitRequestTarget_boardcase]
  simp only [paths.1, paths.2, if_false, if_true, ne_eq, not_true_eq_false, decoded]

/-- A request that comes to a call: its message is decoded and visible, the stub is ready, and
the state and the network take the call. -/
structure Forwards (gm : GmNode) (env : ControlEnv) (query : Option Bytes) (message : Bytes) (stub : ServerStubEntry)
    (session : InnerNetworkSession) : Prop where
  decoded : tryGetDecodedQueryValue (query.getD []) (text "msg") = some message
  visible : trimAscii message ≠ []
  found : gm.serverStubEntry kOnlineStubType = some stub
  ready : stub.state = .ready
  takes : Takes gm env stub session message

def forwardedMembers (stub : ServerStubEntry) (message : Bytes) : List (Bytes × JsonScalar) :=
  [(text "status", .string (text "forwarded")), (text "stubType", .string kOnlineStubType),
    (text "ownerGameNodeId", .string stub.ownerGameNodeId), (text "message", .string message)]

theorem distinct_forwarded (stub : ServerStubEntry) (message : Bytes) :
    ((forwardedMembers stub message).map (·.1)).Nodup := by
  have keys : [text "status", text "stubType", text "ownerGameNodeId", text "message"].Nodup := by decide +kernel
  exact keys

theorem writable_forwarded (stub : ServerStubEntry) (message : Bytes) :
    (forwardedMembers stub message).all writable = true ↔
      validUtf8 message = true ∧ validUtf8 stub.ownerGameNodeId = true := by
  have valid : validUtf8 (text "status") = true ∧ validUtf8 (text "forwarded") = true ∧
      validUtf8 (text "stubType") = true ∧ validUtf8 kOnlineStubType = true ∧
      validUtf8 (text "ownerGameNodeId") = true ∧ validUtf8 (text "message") = true := by
    decide +kernel
  obtain ⟨status, forwarded, stubType, onlineStub, owner, messageKey⟩ := valid
  simp only [forwardedMembers, List.all_cons, List.all_nil, writable, status, forwarded, stubType, onlineStub, owner,
    messageKey, Bool.true_and, Bool.and_true, Bool.and_eq_true]
  exact And.comm

theorem handleBoardcaseRequest_taken {session : InnerNetworkSession} (visible : trimAscii message ≠ [])
    (found : gm.serverStubEntry kOnlineStubType = some stub) (ready : stub.state = .ready)
    (takes : Takes gm env stub session message) :
    gm.handleBoardcaseRequest env message = (jsonResponse 200 (forwardedMembers stub message),
      [.send session.routingId (callPacket (broadcastCall env stub message))]) := by
  have nonempty : message ≠ [] := by
    rintro rfl
    exact visible rfl
  have kept : (some stub).filter (fun stub => !stub.ownerGameNodeId.isEmpty && stub.state == .ready) = some stub := by
    rw [Option.filter_some, if_pos]
    simp [takes.owned, ready]
  unfold handleBoardcaseRequest
  rw [if_neg nonempty, found, kept]
  simp only
  rw [trySendStubCallToGame_ok.mpr ⟨session, takes, rfl⟩]
  rfl

theorem handleBoardcaseRequest_refuses
    (untaken : ∀ stub session, gm.serverStubEntry kOnlineStubType = some stub → stub.state = .ready →
      ¬ Takes gm env stub session message) :
    Refuses (gm.handleBoardcaseRequest env message).1 ∧ (gm.handleBoardcaseRequest env message).2 = [] := by
  unfold handleBoardcaseRequest
  split
  · exact ⟨buildJsonErrorResponse_refuses (by decide) _, rfl⟩
  · split
    · refine ⟨jsonResponse_refuses (by decide) ?_, rfl⟩
      have keys : [text "error", text "stubType"].Nodup := by decide +kernel
      exact keys
    · rename_i stub kept
      obtain ⟨found, ready⟩ := Option.filter_eq_some_iff.mp kept
      simp only [Bool.and_eq_true, beq_iff_eq] at ready
      split
      · refine ⟨jsonResponse_refuses (by decide) ?_, rfl⟩
        have keys : [text "error", text "stubType", text "ownerGameNodeId"].Nodup := by decide +kernel
        exact keys
      · rename_i sent ok
        obtain ⟨session, takes, -⟩ := trySendStubCallToGame_ok.mp ok
        exact absurd takes (untaken stub session found ready.2)

theorem routeRequest_forwards {query : Option Bytes} {session : InnerNetworkSession}
    (forwards : Forwards gm env query message stub session) :
    gm.routeRequest env (text "GET") (boardcaseTarget query) = (jsonResponse 200 (forwardedMembers stub message),
      [.send session.routingId (callPacket (broadcastCall env stub message))]) := by
  rw [routeRequest_decoded gm env forwards.decoded, if_neg forwards.visible]
  exact handleBoardcaseRequest_taken forwards.visible forwards.found forwards.ready forwards.takes

theorem routeRequest_refuses {query : Option Bytes}
    (never : ∀ message stub session, ¬ Forwards gm env query message stub session) :
    Refuses (gm.routeRequest env (text "GET") (boardcaseTarget query)).1 ∧
      (gm.routeRequest env (text "GET") (boardcaseTarget query)).2 = [] := by
  cases decoded : tryGetDecodedQueryValue (query.getD []) (text "msg") with
  | none =>
    rw [routeRequest_undecoded gm env decoded]
    exact ⟨buildJsonErrorResponse_refuses (by decide) _, rfl⟩
  | some message =>
    rw [routeRequest_decoded gm env decoded]
    split
    · exact ⟨buildJsonErrorResponse_refuses (by decide) _, rfl⟩
    · rename_i visible
      apply handleBoardcaseRequest_refuses
      intro stub session found ready takes
      exact never message stub session ⟨decoded, visible, found, ready, takes⟩

/-- The 500 that stands for an exception can be written. -/
theorem unhandled_written {what : Bytes} (valid : validUtf8 what = true) :
    ∃ body, buildJsonErrorResponse 500 (text "Unhandled control handler exception: " ++ what) =
      .ok { statusCode := 500, body } := by
  apply buildJsonErrorResponse_valid
  rwa [validUtf8_append (by decide +kernel)]

/-! ## What a status says -/

/-- One mailbox call with the decoded message has gone to the Game that owns the ready stub. -/
def OneBroadcast (gm : GmNode) (env : ControlEnv) (query : Option Bytes) (events : List GmEvent) : Prop :=
  ∃ message stub session packet, tryGetDecodedQueryValue (query.getD []) (text "msg") = some message ∧
    gm.serverStubEntry kOnlineStubType = some stub ∧ stub.ownerGameNodeId ≠ [] ∧ stub.state = .ready ∧
    gm.sessions.findByNodeId stub.ownerGameNodeId = some session ∧ events = [.send session.routingId packet] ∧
    Carries packet (broadcastCall env stub message)

/-- The request is answered, with 200 exactly where one call went out, and where none did
otherwise. -/
def Honest (gm : GmNode) (env : ControlEnv) (query : Option Bytes) : Prop :=
  ∃ response, (gm.handleRequest env (text "GET") (boardcaseTarget query)).1 = .ok response ∧
    (response.statusCode = 200 ↔
      OneBroadcast gm env query (gm.handleRequest env (text "GET") (boardcaseTarget query)).2) ∧
    (response.statusCode ≠ 200 → (gm.handleRequest env (text "GET") (boardcaseTarget query)).2 = [])

theorem oneBroadcast_of_forwards {query : Option Bytes} {session : InnerNetworkSession}
    (forwards : Forwards gm env query message stub session) :
    OneBroadcast gm env query [.send session.routingId (callPacket (broadcastCall env stub message))] := by
  obtain ⟨found, -⟩ := Option.filter_eq_some_iff.mp forwards.takes.callable
  exact ⟨message, stub, session, _, forwards.decoded, forwards.found, forwards.takes.owned, forwards.ready, found, rfl,
    forwards.takes.encodable.carries⟩

/-- A forwarded request whose response cannot be written ends in a 500. -/
theorem handleRequest_unwritten {query : Option Bytes} {session : InnerNetworkSession}
    (forwards : Forwards gm env query message stub session)
    (unwritable : ¬ (validUtf8 message = true ∧ validUtf8 stub.ownerGameNodeId = true)) :
    ∃ body, gm.handleRequest env (text "GET") (boardcaseTarget query) = (.ok { statusCode := 500, body },
      [.send session.routingId (callPacket (broadcastCall env stub message))]) := by
  rw [← writable_forwarded stub message, Bool.not_eq_true] at unwritable
  obtain ⟨what, thrown, valid⟩ := @jsonResponse_error 200 _ (distinct_forwarded stub message) unwritable
  obtain ⟨body, written⟩ := unhandled_written valid
  refine ⟨body, ?_⟩
  unfold handleRequest
  rw [routeRequest_forwards forwards, thrown]
  simp only [written]

/-- The status tells what was sent exactly where every message that is forwarded, and the owner
it goes to, is valid UTF-8. -/
theorem honest_iff (gm : GmNode) (env : ControlEnv) (query : Option Bytes) :
    Honest gm env query ↔ ∀ message stub session, Forwards gm env query message stub session →
      validUtf8 message = true ∧ validUtf8 stub.ownerGameNodeId = true := by
  constructor
  · rintro ⟨response, answered, -, silent⟩ message stub session forwards
    by_contra unwritable
    obtain ⟨body, handled⟩ := handleRequest_unwritten forwards unwritable
    rw [handled] at answered silent
    cases answered
    have nothing := silent (show (500 : Nat) ≠ 200 by decide)
    cases nothing
  · intro valid
    by_cases some : ∃ message stub session, Forwards gm env query message stub session
    · obtain ⟨message, stub, session, forwards⟩ := some
      have writes := (writable_forwarded stub message).mpr (valid message stub session forwards)
      obtain ⟨body, written⟩ := @jsonResponse_ok 200 _ (distinct_forwarded stub message) writes
      have handled : gm.handleRequest env (text "GET") (boardcaseTarget query) = (.ok { statusCode := 200, body },
          [.send session.routingId (callPacket (broadcastCall env stub message))]) := by
        unfold handleRequest
        rw [routeRequest_forwards forwards, written]
      unfold Honest
      rw [handled]
      exact ⟨_, rfl, iff_of_true rfl (oneBroadcast_of_forwards forwards), fun other => absurd rfl other⟩
    · have never : ∀ message stub session, ¬ Forwards gm env query message stub session :=
        fun message stub session forwards => some ⟨message, stub, session, forwards⟩
      obtain ⟨refuses, silent⟩ := routeRequest_refuses never
      have unsent : ¬ OneBroadcast gm env query [] := by
        rintro ⟨message, stub, session, packet, -, -, -, -, -, sent, -⟩
        cases sent
      unfold Honest handleRequest
      cases routed : gm.routeRequest env (text "GET") (boardcaseTarget query) with
      | mk result events =>
        rw [routed] at refuses silent
        cases silent
        cases result with
        | ok response => exact ⟨response, rfl, iff_of_false refuses unsent, fun _ => rfl⟩
        | error what =>
          obtain ⟨body, written⟩ := unhandled_written refuses
          refine ⟨{ statusCode := 500, body }, written, iff_of_false ?_ unsent, fun _ => rfl⟩
          exact (by decide : (500 : Nat) ≠ 200)

def samplePeer : InnerNetworkSession where
  processType := .game
  nodeId := text "Game0"
  pid := 100
  startedAtUnixMs := 0
  innerNetworkEndpoint := { host := text "127.0.0.1", port := 7100 }
  buildVersion := text "dev"
  capabilityTags := []
  load := { connectionCount := 0, sessionCount := 0, entityCount := 0, spaceCount := 0, loadScore := 0 }
  routingId := text "Game0"
  lastHeartbeatAtUnixMs := 0
  innerNetworkReady := true
  connectionState := .connected
  registered := true

def readyStub : ServerStubEntry where
  entityType := kOnlineStubType
  ownerGameNodeId := text "Game0"
  state := .ready

/-- A GM whose only stub is ready on its only Game. -/
def readyGm : GmNode :=
  { GmNode.init [] [text "Game0"] with
    sessions := { entriesByNodeId := (∅ : Table Bytes InnerNetworkSession).insert (text "Game0") samplePeer }
    stubs := { entries := [readyStub], reflectionLoaded := true } }

def readyEnv : ControlEnv where
  nodeId := text "GM"
  hasInnerNetwork := true
  lastErrorMessage := []
  statusBody := .ok []

/-- `GET /boardcase?msg=%FF`: one call goes out, and the answer is 500. -/
theorem forwarded_unreported :
    (∃ body packet, readyGm.handleRequest readyEnv (text "GET") (boardcaseTarget (some (text "msg=%FF"))) =
      (.ok { statusCode := 500, body }, [.send (text "Game0") packet])) ∧
    ¬ Honest readyGm readyEnv (some (text "msg=%FF")) := by
  have takes : Takes readyGm readyEnv readyStub samplePeer [0xFF] := {
    network := rfl
    owned := by decide +kernel
    callable := by decide +kernel
    encodable := {
      valid := by rfl
      bounded := ⟨by decide +kernel, by decide +kernel, by decide +kernel, by decide +kernel, by decide +kernel⟩
      short := by decide +kernel }
    accepted := rfl }
  have forwards : Forwards readyGm readyEnv (some (text "msg=%FF")) [0xFF] readyStub samplePeer :=
    ⟨by decide +kernel, by decide +kernel, by decide +kernel, rfl, takes⟩
  have invalid : ¬ (validUtf8 [0xFF] = true ∧ validUtf8 readyStub.ownerGameNodeId = true) := by decide +kernel
  obtain ⟨body, handled⟩ := handleRequest_unwritten forwards invalid
  refine ⟨⟨body, _, handled⟩, ?_⟩
  rintro ⟨response, answered, -, silent⟩
  rw [handled] at answered silent
  cases answered
  have nothing := silent (show (500 : Nat) ≠ 200 by decide)
  cases nothing

end GmNode

end XServer.Node
