import XServer.Node.GateBook

/-!
# Answers to select-avatar requests

A Gate answers a request it refuses with an error packet. The answer quotes the
session's ids and the reason for the refusal, and writing it as JSON throws when
one of these texts is not valid UTF-8: the reason may quote the bytes that did
not parse. `select_avatar_answered_iff` says exactly which payloads are handled
without an exception and with an answer to every refused request.
-/

namespace XServer.Node
open XServer.Lib XServer.Lib.Wire XServer.Net XServer.Core

namespace GateClients

/-! ## Writing the answer -/

/-- The texts of an answer can be written. -/
def TextsValid (accountId avatarId gameNodeId error : Bytes) : Prop :=
  validUtf8 accountId = true ∧ validUtf8 avatarId = true ∧ validUtf8 gameNodeId = true ∧ validUtf8 error = true

theorem dump_selectAvatarResult (sessionId : UInt64) (accountId avatarId gameNodeId error : Bytes) :
    (dump (jsonObject (selectAvatarResultMembers sessionId false accountId avatarId gameNodeId error))).isSome = true ↔
      TextsValid accountId avatarId gameNodeId error := by
  have keys : ((selectAvatarResultMembers sessionId false accountId avatarId gameNodeId error).map (·.1)).Nodup := by
    simp only [selectAvatarResultMembers, Bool.false_eq_true, if_false, List.cons_append, List.nil_append,
      List.map_cons, List.map_nil]
    decide +kernel
  have literals : validUtf8 (text "action") = true ∧ validUtf8 (text "selectAvatarResult") = true ∧
      validUtf8 (text "success") = true ∧ validUtf8 (text "sessionId") = true ∧ validUtf8 (text "accountId") = true ∧
      validUtf8 (text "avatarId") = true ∧ validUtf8 (text "gameNodeId") = true ∧ validUtf8 (text "error") = true := by
    decide +kernel
  rw [dump_isSome keys]
  simp [selectAvatarResultMembers, writable, literals, TextsValid]

theorem dump_createAvatar (record : ClientSessionRecord) :
    (dump (jsonObject (createAvatarMembers record))).isSome = true ↔
      validUtf8 record.accountId = true ∧ validUtf8 record.avatarId = true ∧ validUtf8 record.gateNodeId = true := by
  have keys : ((createAvatarMembers record).map (·.1)).Nodup := by
    simp only [createAvatarMembers, List.map_cons, List.map_nil]
    decide +kernel
  have literals : validUtf8 (text "accountId") = true ∧ validUtf8 (text "avatarId") = true ∧
      validUtf8 (text "gateNodeId") = true ∧ validUtf8 (text "sessionId") = true := by decide +kernel
  rw [dump_isSome keys]
  simp [createAvatarMembers, writable, literals]

/-- The answer is short enough for a packet. -/
def AnswerFits (sessionId : UInt64) (accountId avatarId gameNodeId error : Bytes) : Prop :=
  ∀ body, dump (jsonObject (selectAvatarResultMembers sessionId false accountId avatarId gameNodeId error)) = some body →
    body.length ≤ 4294967295

/-- An error response to this request was handed to the client network. -/
def Answered (sessionId : UInt64) (seq : UInt32) (events : List ClientEvent) : Prop :=
  ∃ reply ok answer, .sendPayload sessionId reply ok ∈ events ∧ decodePacket reply = .ok answer ∧
    answer.header.msgId = clientSelectAvatarMsgId ∧ answer.header.seq = seq ∧ answer.header.flags = kErrorResponseFlags

/-- An answer is sent, and nothing thrown, exactly if its texts are valid and it
fits. -/
theorem sendClientSelectAvatarResult_answered (clients : GateClients) (env : GateEnv) (sessionId : UInt64)
    {seq : UInt32} (seq_ne : seq ≠ packetSeqNone) (accountId avatarId gameNodeId error : Bytes) :
    (.threw ∉ (clients.sendClientSelectAvatarResult env sessionId seq false accountId avatarId gameNodeId error).2 ∧
        Answered sessionId seq
          (clients.sendClientSelectAvatarResult env sessionId seq false accountId avatarId gameNodeId error).2) ↔
      TextsValid accountId avatarId gameNodeId error ∧ AnswerFits sessionId accountId avatarId gameNodeId error := by
  unfold sendClientSelectAvatarResult AnswerFits
  rw [if_neg seq_ne, ← dump_selectAvatarResult sessionId]
  cases dump (jsonObject (selectAvatarResultMembers sessionId false accountId avatarId gameNodeId error)) with
  | none => simp
  | some body =>
    simp only [Bool.false_eq_true, if_false, Option.isSome_some, true_and, Option.some.injEq]
    by_cases short : body.length ≤ 4294967295
    · rw [encodePacket_make (by decide) short]
      have decoded := decodePacket_encodePacket (@encodePacket_make clientSelectAvatarMsgId seq kErrorResponseFlags body
        (by decide) short)
      refine iff_of_true ⟨by simp [sendPayload], ?_⟩ (fun _ eq => eq ▸ short)
      exact ⟨_, _, _, List.mem_singleton_self _, decoded, rfl, rfl, rfl⟩
    · refine iff_of_false ?_ (fun fits => short (fits body rfl))
      rintro ⟨-, reply, ok, answer, mem, -⟩
      split at mem
      · cases mem
      · rename_i encoded
        exact short (encodePacket_ok encoded).2.2.1

/-! ## Reasons for a refusal -/

theorem tryReadRequiredJsonString_error {members : Table Bytes JsonScalar} {fieldName : String} {e : Bytes}
    (h : tryReadRequiredJsonString members fieldName = .error e) :
    e = text ("JSON field '" ++ fieldName ++ "' must not be empty.") ∨
      e = text ("JSON field '" ++ fieldName ++ "' must be a string.") := by
  unfold tryReadRequiredJsonString requiredJsonString at h
  split at h
  · split at h
    · cases h
      exact .inl rfl
    · cases h
  · cases h
    exact .inr rfl

/-- Only a text that quotes the parser can be invalid. -/
theorem readSelectAvatarRequest_error {env : GateEnv} {payload e : Bytes}
    (h : readSelectAvatarRequest env payload = .error e) :
    validUtf8 e = true ↔ ∀ what, env.parseJson payload = .error what → validUtf8 what = true := by
  unfold readSelectAvatarRequest GateEnv.tryParseJson at h
  cases parsed : env.parseJson payload with
  | error what =>
    rw [parsed] at h
    cases h
    rw [validUtf8_append (by decide +kernel), validUtf8_append (by decide +kernel)]
    simp
  | ok json =>
    rw [parsed] at h
    refine iff_of_true ?_ nofun
    cases json with
    | other =>
      cases h
      decide +kernel
    | object members =>
      simp only at h
      split at h
      · rename_i missing
        cases h
        rcases tryReadRequiredJsonString_error missing with rfl | rfl <;> decide +kernel
      · split at h
        · cases h
          decide +kernel
        · split at h
          · rename_i missing
            cases h
            rcases tryReadRequiredJsonString_error missing with rfl | rfl <;> decide +kernel
          · split at h
            · cases h
            · cases h
              decide +kernel

/-- If the request is read at all and does not parse, the parser's message is
valid UTF-8. -/
def ParserTextValid (clients : GateClients) (env : GateEnv) (sessionId : UInt64) (packet : Packet) : Prop :=
  packet.header.flags = 0 → ∀ record, clients.clientSessionRecords[sessionId]? = some record →
    record.pendingSelectAvatarSeq = 0 → record.avatarId = [] →
    ∀ what, env.parseJson packet.payload = .error what → validUtf8 what = true

theorem nextSelectAvatarRecord_error {clients : GateClients} {ctx : GateContext} {env : GateEnv} {sessionId : UInt64}
    {packet : Packet} {e : Bytes} (seq_ne : packet.header.seq ≠ packetSeqNone)
    (h : clients.nextSelectAvatarRecord ctx env sessionId packet = .error e) :
    validUtf8 e = true ↔ clients.ParserTextValid env sessionId packet := by
  unfold nextSelectAvatarRecord at h
  unfold ParserTextValid
  split at h
  · rename_i envelope
    cases h
    refine iff_of_true (by decide +kernel) fun flags => ?_
    exact (envelope.elim (fun ne => ne flags) seq_ne).elim
  split at h
  · rename_i missing
    cases h
    refine iff_of_true (by decide +kernel) fun _ record found => ?_
    rw [missing] at found
    cases found
  rename_i envelope _ record found
  have flags : packet.header.flags = 0 := not_not.mp fun ne => envelope (.inl ne)
  have only : ∀ other, clients.clientSessionRecords[sessionId]? = some other → other = record := by
    intro other found'
    rw [found] at found'
    exact (Option.some.inj found').symm
  split at h
  · rename_i waiting
    cases h
    refine iff_of_true (by decide +kernel) fun _ other found' idle => ?_
    rw [only other found'] at idle
    exact absurd idle waiting
  split at h
  · rename_i bound
    cases h
    refine iff_of_true (by decide +kernel) fun _ other found' _ unbound => ?_
    rw [only other found'] at unbound
    exact absurd unbound bound
  rename_i idle unbound
  split at h
  · rename_i unread
    cases h
    rw [readSelectAvatarRequest_error unread]
    constructor
    · exact fun valid _ _ _ _ _ => valid
    · exact fun valid => valid flags record found (not_not.mp idle) (not_not.mp unbound)
  · rename_i read
    have parsed : ∀ what, env.parseJson packet.payload ≠ .error what := by
      intro what failed
      unfold readSelectAvatarRequest GateEnv.tryParseJson at read
      rw [failed] at read
      cases read
    refine iff_of_true ?_ fun _ _ _ _ _ what failed => absurd failed (parsed what)
    split at h
    · cases h
      decide +kernel
    · simp only at h
      split at h
      · cases h
        decide +kernel
      · cases h

/-! ## Which payloads are answered -/

/-- The ids an answer quotes: those of the session's record, empty without one. -/
def accountIdOf (clients : GateClients) (sessionId : UInt64) : Bytes :=
  (clients.clientSessionRecords[sessionId]?.map (·.accountId)).getD []

def avatarIdOf (clients : GateClients) (sessionId : UInt64) : Bytes :=
  (clients.clientSessionRecords[sessionId]?.map (·.avatarId)).getD []

def gameNodeIdOf (clients : GateClients) (sessionId : UInt64) : Bytes :=
  (clients.clientSessionRecords[sessionId]?.map (·.gameNodeId)).getD []

/-- What a select-avatar request needs to be handled and answered: the ids that
are quoted are valid UTF-8, and so is what the answer to a refusal quotes of the
parser or of the inner network; and the answer fits a packet. -/
structure Answerable (clients : GateClients) (ctx : GateContext) (env : GateEnv) (sessionId : UInt64)
    (packet : Packet) : Prop where
  refused : ∀ error, clients.nextSelectAvatarRecord ctx env sessionId packet = .error error →
    validUtf8 (clients.accountIdOf sessionId) = true ∧ validUtf8 (clients.avatarIdOf sessionId) = true ∧
      validUtf8 (clients.gameNodeIdOf sessionId) = true
  parser : clients.ParserTextValid env sessionId packet
  forwarded : ∀ next, clients.nextSelectAvatarRecord ctx env sessionId packet = .ok next →
    validUtf8 (clients.accountIdOf sessionId) = true ∧ validUtf8 next.gateNodeId = true ∧
      ∀ error, ctx.sendCreateAvatarEntityRequest env next = .rejected error →
        validUtf8 (clients.gameNodeIdOf sessionId) = true ∧ validUtf8 error = true
  fits : ∀ error, clients.handleClientSelectAvatarPacket ctx env sessionId packet = .rejected error →
    AnswerFits sessionId (clients.accountIdOf sessionId) (clients.avatarIdOf sessionId)
      (clients.gameNodeIdOf sessionId) error

/-- No exception leaves the handler, and a refused select-avatar request with a
sequence number is answered under that number. -/
def Handled (clients : GateClients) (ctx : GateContext) (env : GateEnv) (sessionId : UInt64) (payload : Bytes) : Prop :=
  .threw ∉ (clients.handleClientPayloadReceived ctx env sessionId payload).2 ∧
    ∀ packet error, decodePacket payload = .ok packet → packet.header.msgId = clientSelectAvatarMsgId →
      packet.header.seq ≠ packetSeqNone →
      (clients.touchRecord env sessionId).handleClientSelectAvatarPacket ctx env sessionId packet = .rejected error →
      Answered sessionId packet.header.seq (clients.handleClientPayloadReceived ctx env sessionId payload).2

/-- A request that passed the checks names an avatar that can be written, for the
same account, on a session without one. -/
theorem nextSelectAvatarRecord_texts {clients : GateClients} {ctx : GateContext} {env : GateEnv} {sessionId : UInt64}
    {packet : Packet} {next : ClientSessionRecord}
    (h : clients.nextSelectAvatarRecord ctx env sessionId packet = .ok next) :
    validUtf8 next.avatarId = true ∧ next.accountId = clients.accountIdOf sessionId ∧
      clients.avatarIdOf sessionId = [] ∧
      ∀ what, env.parseJson packet.payload ≠ .error what := by
  obtain ⟨read, record, selected⟩ := nextSelectAvatarRecord_ok h
  refine ⟨validUtf8_of_ascii (isCanonicalGuidText_ascii selected.canonical), ?_, ?_, ?_⟩
  · simp [accountIdOf, selected.found, selected.accountId]
  · simp [avatarIdOf, selected.found, selected.unbound]
  · intro what failed
    unfold readSelectAvatarRequest GateEnv.tryParseJson at read
    rw [failed] at read
    cases read

/-- The Game a request was given is available. -/
theorem resolveAvatarGameNodeId_available {ctx : GateContext} {env : GateEnv}
    (ne : ctx.resolveAvatarGameNodeId env ≠ []) :
    ∃ session, ctx.availableGame (ctx.resolveAvatarGameNodeId env) = some session := by
  have mem : ctx.resolveAvatarGameNodeId env ∈ ctx.readyGameNodeIds := by
    unfold GateContext.resolveAvatarGameNodeId at ne ⊢
    rw [List.getD_eq_getElem?_getD] at ne ⊢
    cases at_ : ctx.readyGameNodeIds[env.draw % ctx.readyGameNodeIds.length]? with
    | none =>
      rw [at_] at ne
      exact absurd rfl ne
    | some gameNodeId => exact List.mem_of_getElem? at_
  exact Option.isSome_iff_exists.mp (List.mem_filter.mp mem).2

theorem nextSelectAvatarRecord_available {clients : GateClients} {ctx : GateContext} {env : GateEnv}
    {sessionId : UInt64} {packet : Packet} {next : ClientSessionRecord}
    (h : clients.nextSelectAvatarRecord ctx env sessionId packet = .ok next) :
    ∃ session, ctx.availableGame next.gameNodeId = some session := by
  unfold nextSelectAvatarRecord at h
  simp only at h
  repeat' split at h
  all_goals try cases h
  rename_i ne
  exact resolveAvatarGameNodeId_available ne

/-- With an available Game, the create request throws exactly over a text it
cannot write. -/
theorem sendCreateAvatarEntityRequest_threw {ctx : GateContext} {env : GateEnv} {record : ClientSessionRecord}
    {session : InnerNetworkSession} (available : ctx.availableGame record.gameNodeId = some session) :
    ctx.sendCreateAvatarEntityRequest env record ≠ .threw ↔
      validUtf8 record.accountId = true ∧ validUtf8 record.avatarId = true ∧ validUtf8 record.gateNodeId = true := by
  unfold GateContext.sendCreateAvatarEntityRequest
  rw [← dump_createAvatar, available]
  cases dump (jsonObject (createAvatarMembers record)) with
  | none => simp
  | some payload =>
    simp only [Option.isSome_some, iff_true]
    split
    · nofun
    · split <;> nofun

/-- What the payload handler does with a select-avatar packet. -/
def selectAvatarEvents (clients : GateClients) (ctx : GateContext) (env : GateEnv) (sessionId : UInt64)
    (packet : Packet) : List ClientEvent :=
  match clients.handleClientSelectAvatarPacket ctx env sessionId packet with
  | .done (_, event) => [event]
  | .threw => [.threw]
  | .rejected error =>
    (clients.sendClientSelectAvatarResult env sessionId packet.header.seq false (clients.accountIdOf sessionId)
      (clients.avatarIdOf sessionId) (clients.gameNodeIdOf sessionId) error).2

theorem selectAvatarEvents_refused {clients : GateClients} {ctx : GateContext} {env : GateEnv} {sessionId : UInt64}
    {packet : Packet} {error : Bytes} (seq_ne : packet.header.seq ≠ packetSeqNone)
    (h : clients.handleClientSelectAvatarPacket ctx env sessionId packet = .rejected error) :
    (.threw ∉ clients.selectAvatarEvents ctx env sessionId packet ∧
        Answered sessionId packet.header.seq (clients.selectAvatarEvents ctx env sessionId packet)) ↔
      TextsValid (clients.accountIdOf sessionId) (clients.avatarIdOf sessionId) (clients.gameNodeIdOf sessionId) error ∧
        AnswerFits sessionId (clients.accountIdOf sessionId) (clients.avatarIdOf sessionId)
          (clients.gameNodeIdOf sessionId) error := by
  unfold selectAvatarEvents
  rw [h]
  exact sendClientSelectAvatarResult_answered clients env sessionId seq_ne _ _ _ error

/-- A packet refused by one of the checks. -/
theorem selectAvatarEvents_checked {clients : GateClients} {ctx : GateContext} {env : GateEnv} {sessionId : UInt64}
    {packet : Packet} {error : Bytes} (seq_ne : packet.header.seq ≠ packetSeqNone)
    (checked : clients.nextSelectAvatarRecord ctx env sessionId packet = .error error) :
    (.threw ∉ clients.selectAvatarEvents ctx env sessionId packet ∧
        ∀ error, clients.handleClientSelectAvatarPacket ctx env sessionId packet = .rejected error →
          Answered sessionId packet.header.seq (clients.selectAvatarEvents ctx env sessionId packet)) ↔
      clients.Answerable ctx env sessionId packet := by
  have rejected : clients.handleClientSelectAvatarPacket ctx env sessionId packet = .rejected error := by
    unfold handleClientSelectAvatarPacket
    rw [checked]
  have reply := selectAvatarEvents_refused seq_ne rejected
  have reason := nextSelectAvatarRecord_error seq_ne checked
  constructor
  · rintro ⟨safe, answered⟩
    obtain ⟨⟨account, avatar, game, valid⟩, fits⟩ := reply.mp ⟨safe, answered error rejected⟩
    refine ⟨fun _ _ => ⟨account, avatar, game⟩, reason.mp valid, fun next ok => ?_, fun other same => ?_⟩
    · rw [checked] at ok
      cases ok
    · rw [rejected] at same
      cases same
      exact fits
  · intro answerable
    obtain ⟨account, avatar, game⟩ := answerable.refused error checked
    obtain ⟨safe, answered⟩ := reply.mpr
      ⟨⟨account, avatar, game, reason.mpr answerable.parser⟩, answerable.fits error rejected⟩
    exact ⟨safe, fun _ _ => answered⟩

/-- A packet that passed the checks and is forwarded, or fails to be. -/
theorem selectAvatarEvents_forwarded {clients : GateClients} {ctx : GateContext} {env : GateEnv} {sessionId : UInt64}
    {packet : Packet} {next : ClientSessionRecord} (seq_ne : packet.header.seq ≠ packetSeqNone)
    (checked : clients.nextSelectAvatarRecord ctx env sessionId packet = .ok next) :
    (.threw ∉ clients.selectAvatarEvents ctx env sessionId packet ∧
        ∀ error, clients.handleClientSelectAvatarPacket ctx env sessionId packet = .rejected error →
          Answered sessionId packet.header.seq (clients.selectAvatarEvents ctx env sessionId packet)) ↔
      clients.Answerable ctx env sessionId packet := by
  obtain ⟨avatarValid, account, noAvatar, parsed⟩ := nextSelectAvatarRecord_texts checked
  obtain ⟨session, available⟩ := nextSelectAvatarRecord_available checked
  have threw := @sendCreateAvatarEntityRequest_threw ctx env next session available
  have refused : ∀ error, clients.nextSelectAvatarRecord ctx env sessionId packet ≠ .error error := by
    intro error failed
    rw [checked] at failed
    cases failed
  have parser : clients.ParserTextValid env sessionId packet := fun _ _ _ _ _ what failed => absurd failed (parsed what)
  cases created : ctx.sendCreateAvatarEntityRequest env next with
  | done result =>
    have done : clients.handleClientSelectAvatarPacket ctx env sessionId packet =
        .done (clients.bindAvatar sessionId next, .toGame result.1 result.2) := by
      unfold handleClientSelectAvatarPacket
      simp only [checked, created]
    have texts := threw.mp (by rw [created]; nofun)
    refine iff_of_true ⟨by simp [selectAvatarEvents, done], fun error failed => ?_⟩
      ⟨fun error failed => absurd failed (refused error), parser, fun other ok => ?_, fun error failed => ?_⟩
    · rw [done] at failed
      cases failed
    · rw [checked] at ok
      cases ok
      refine ⟨account ▸ texts.1, texts.2.2, fun error failed => ?_⟩
      rw [created] at failed
      cases failed
    · rw [done] at failed
      cases failed
  | threw =>
    have thrown : clients.handleClientSelectAvatarPacket ctx env sessionId packet = .threw := by
      unfold handleClientSelectAvatarPacket
      simp only [checked, created]
    refine iff_of_false (fun h => h.1 (by simp [selectAvatarEvents, thrown])) fun answerable => ?_
    obtain ⟨accountValid, gateValid, -⟩ := answerable.forwarded next checked
    exact threw.mpr ⟨account ▸ accountValid, avatarValid, gateValid⟩ created
  | rejected error =>
    have rejected : clients.handleClientSelectAvatarPacket ctx env sessionId packet = .rejected error := by
      unfold handleClientSelectAvatarPacket
      simp only [checked, created]
    have texts := threw.mp (by rw [created]; nofun)
    have reply := selectAvatarEvents_refused seq_ne rejected
    constructor
    · rintro ⟨safe, answered⟩
      obtain ⟨⟨accountValid, -, game, valid⟩, fits⟩ := reply.mp ⟨safe, answered error rejected⟩
      refine ⟨fun error failed => absurd failed (refused error), parser, fun other ok => ?_, fun other same => ?_⟩
      · rw [checked] at ok
        cases ok
        refine ⟨accountValid, texts.2.2, fun other same => ?_⟩
        rw [created] at same
        cases same
        exact ⟨game, valid⟩
      · rw [rejected] at same
        cases same
        exact fits
    · intro answerable
      obtain ⟨accountValid, -, rest⟩ := answerable.forwarded next checked
      obtain ⟨game, valid⟩ := rest error created
      obtain ⟨safe, answered⟩ := reply.mpr
        ⟨⟨accountValid, by rw [noAvatar]; rfl, game, valid⟩, answerable.fits error rejected⟩
      exact ⟨safe, fun _ _ => answered⟩

theorem handleClientPayloadReceived_select {clients : GateClients} {ctx : GateContext} {env : GateEnv}
    {sessionId : UInt64} {payload : Bytes} {packet : Packet} (decoded : decodePacket payload = .ok packet)
    (isSelect : packet.header.msgId = clientSelectAvatarMsgId) :
    (clients.handleClientPayloadReceived ctx env sessionId payload).2 =
      (clients.touchRecord env sessionId).selectAvatarEvents ctx env sessionId packet := by
  unfold handleClientPayloadReceived selectAvatarEvents
  simp only [decoded, isSelect, if_true]
  cases (clients.touchRecord env sessionId).handleClientSelectAvatarPacket ctx env sessionId packet <;> rfl

/-- Other payloads never throw. -/
theorem handleClientPayloadReceived_safe {clients : GateClients} {ctx : GateContext} {env : GateEnv}
    {sessionId : UInt64} {payload : Bytes}
    (other : ∀ packet, decodePacket payload = .ok packet → packet.header.msgId ≠ clientSelectAvatarMsgId) :
    .threw ∉ (clients.handleClientPayloadReceived ctx env sessionId payload).2 := by
  unfold handleClientPayloadReceived
  simp only
  split
  · simp
  · rename_i packet decoded
    rw [if_neg (other packet decoded)]
    split
    · split
      · simp
      · rename_i ok
        obtain ⟨-, -, record, target, sent, -, -, -, eq⟩ := handleClientEntityRpcPacket_ok ok
        cases eq
        simp
    · simp

/-- Without a sequence number a request is refused and there is nothing to answer. -/
theorem selectAvatarEvents_unnumbered (clients : GateClients) (ctx : GateContext) (env : GateEnv) (sessionId : UInt64)
    {packet : Packet} (seq : packet.header.seq = packetSeqNone) :
    clients.selectAvatarEvents ctx env sessionId packet = [] := by
  simp [selectAvatarEvents, handleClientSelectAvatarPacket, nextSelectAvatarRecord, sendClientSelectAvatarResult, seq]

theorem selectAvatarEvents_iff (clients : GateClients) (ctx : GateContext) (env : GateEnv) (sessionId : UInt64)
    {packet : Packet} (seq_ne : packet.header.seq ≠ packetSeqNone) :
    (.threw ∉ clients.selectAvatarEvents ctx env sessionId packet ∧
        ∀ error, clients.handleClientSelectAvatarPacket ctx env sessionId packet = .rejected error →
          Answered sessionId packet.header.seq (clients.selectAvatarEvents ctx env sessionId packet)) ↔
      clients.Answerable ctx env sessionId packet := by
  cases checked : clients.nextSelectAvatarRecord ctx env sessionId packet with
  | error error => exact selectAvatarEvents_checked seq_ne checked
  | ok next => exact selectAvatarEvents_forwarded seq_ne checked

/-- **Which payloads are answered.** For every state and every payload: no
exception leaves the handler and every refused select-avatar request with a
sequence number is answered, exactly if such a request is answerable. -/
theorem select_avatar_answered_iff (clients : GateClients) (ctx : GateContext) (env : GateEnv) (sessionId : UInt64)
    (payload : Bytes) :
    clients.Handled ctx env sessionId payload ↔
      ∀ packet, decodePacket payload = .ok packet → packet.header.msgId = clientSelectAvatarMsgId →
        packet.header.seq ≠ packetSeqNone → (clients.touchRecord env sessionId).Answerable ctx env sessionId packet := by
  unfold Handled
  by_cases isSelect : ∃ packet, decodePacket payload = .ok packet ∧ packet.header.msgId = clientSelectAvatarMsgId
  · obtain ⟨packet, decoded, isSelect⟩ := isSelect
    have only : ∀ other, decodePacket payload = .ok other → other = packet := by
      intro other decoded'
      rw [decoded] at decoded'
      exact (Except.ok.inj decoded').symm
    rw [handleClientPayloadReceived_select decoded isSelect]
    by_cases seq : packet.header.seq = packetSeqNone
    · rw [selectAvatarEvents_unnumbered _ _ _ _ seq]
      refine iff_of_true ⟨by simp, fun other error decoded' _ seq_ne => ?_⟩ fun other decoded' _ seq_ne => ?_
      all_goals exact absurd (only other decoded' ▸ seq) seq_ne
    · have inner := selectAvatarEvents_iff (clients.touchRecord env sessionId) ctx env sessionId seq
      constructor
      · rintro ⟨safe, answered⟩ other decoded' _ _
        rw [only other decoded']
        exact inner.mp ⟨safe, fun error => answered packet error decoded isSelect seq⟩
      · intro answerable
        obtain ⟨safe, answered⟩ := inner.mpr (answerable packet decoded isSelect seq)
        refine ⟨safe, fun other error decoded' _ _ => ?_⟩
        rw [only other decoded']
        exact answered error
  · refine iff_of_true ⟨handleClientPayloadReceived_safe fun packet decoded sel => isSelect ⟨packet, decoded, sel⟩, ?_⟩ ?_
    · exact fun packet _ decoded sel => absurd ⟨packet, decoded, sel⟩ isSelect
    · exact fun packet decoded sel => absurd ⟨packet, decoded, sel⟩ isSelect

/-- What the parser says of a payload that is the single byte 0xFF. -/
def strayByteError : Bytes :=
  text ("[json.exception.parse_error.101] parse error at line 1, column 1: syntax error while parsing value - " ++
    "invalid literal; last read: '") ++ [0xFF] ++ text "'"

/-- A Gate with one logged-in client. -/
def openedGate : GateNode :=
  (GateNode.machine.run GateNode.sampleGate
    (GateNode.sampleLogin ++ [GateNode.sampleDatagram {} (GateNode.sampleProbe 1)])).1

/-- A select-avatar request of that client whose body is the stray byte throws. -/
theorem stray_byte_throws :
    ¬ openedGate.clients.Handled openedGate.toGateContext
      { parseJson := fun content => if content = [0xFF] then .error strayByteError else .error [] } 1
      (samplePacket clientSelectAvatarMsgId 7 0 (.ok [0xFF] : Except Unit Bytes)) := by
  intro handled
  refine handled.1 ?_
  decide +kernel

end GateClients

end XServer.Node
