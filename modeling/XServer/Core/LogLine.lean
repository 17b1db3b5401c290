import XServer.Core.LogFiles
import XServer.Lib.Delimited

/-!
# Lines of the log

`BuildLogLine` of `core/Logging.cpp`: what a line is put together from, that no line breaks
into two, and that a line tells its message and its context.
-/

namespace XServer.Core.Logging
open XServer.Lib XServer.Lib.Wire XServer.Net

/-! ## The line -/

inductive LogLevel where
  | trace
  | debug
  | info
  | warn
  | error
  | fatal

inductive ProcessType where
  | gm
  | gate
  | game

def logLevelName : LogLevel → Bytes
  | .trace => text "Trace"
  | .debug => text "Debug"
  | .info => text "Info"
  | .warn => text "Warn"
  | .error => text "Error"
  | .fatal => text "Fatal"

def processTypeName : ProcessType → Bytes
  | .gm => text "GM"
  | .gate => text "Gate"
  | .game => text "Game"

/-- The `std::tm` of a time point and its milliseconds, which have its sign. -/
structure UtcTime where
  date : UtcDate
  hour : Int
  minute : Int
  second : Int
  milliseconds : Int

def formatUtcTimestamp (time : UtcTime) : Bytes :=
  setw 4 time.date.year ++ text "-" ++ setw 2 time.date.month ++ text "-" ++ setw 2 time.date.day ++ text "T" ++
    setw 2 time.hour ++ text ":" ++ setw 2 time.minute ++ text ":" ++ setw 2 time.second ++ text "." ++
    setw 3 time.milliseconds ++ text "Z"

/-- `std::isspace` of the C locale. -/
def isSpace (ch : UInt8) : Bool := ch == 32 || (9 ≤ ch && ch ≤ 13)

def escapeQuotedByte (ch : UInt8) : Bytes :=
  if ch = 92 then [92, 92]
  else if ch = 34 then [92, 34]
  else if ch = 10 then [92, 110]
  else if ch = 13 then [92, 114]
  else if ch = 9 then [92, 116]
  else [ch]

def escapeQuoted (value : Bytes) : Bytes := value.flatMap escapeQuotedByte

def needsQuotedContextValue (value : Bytes) : Bool :=
  if value.isEmpty then true else value.any fun ch => isSpace ch || ch == 61 || ch == 34 || ch == 92

def formatContextValue (value : Bytes) : Bytes :=
  if needsQuotedContextValue value then 34 :: (escapeQuoted value ++ [34]) else value

structure LogContextField where
  key : Bytes
  value : Bytes

/-- The loop over the context fields; an empty key stops it. -/
def formatContext : List LogContextField → Except String Bytes
  | [] => .ok []
  | field :: fields =>
    if field.key.isEmpty then .error "Log context key must not be empty."
    else
      match formatContext fields with
      | .error what => .error what
      | .ok rest => .ok (text " " ++ field.key ++ text "=" ++ formatContextValue field.value ++ rest)

def formatError (errorCode : Option Int32) (errorName : Bytes) : Bytes :=
  match errorCode with
  | none => []
  | some code => text " errorCode=" ++ text code.toInt.repr ++ text " errorName=" ++ errorName

def formatHeader (now : UtcTime) (processType : ProcessType) (instanceId : Bytes) (processId : UInt32) (level : LogLevel)
    (category : Bytes) : Bytes :=
  formatUtcTimestamp now ++ text " " ++ logLevelName level ++ text " " ++ processTypeName processType ++ text " " ++
    instanceId ++ text " pid=" ++ text processId.toNat.repr ++ text " cat=" ++ category ++ text " msg=\""

/-- `BuildLogLine` at the time `now`; an error is the text of the exception. -/
def buildLogLine (now : UtcTime) (processType : ProcessType) (instanceId : Bytes) (processId : UInt32) (level : LogLevel)
    (category message : Bytes) (context : List LogContextField) (errorCode : Option Int32) (errorName : Bytes) :
    Except String Bytes :=
  if instanceId.isEmpty then .error "Logger instance_id must not be empty."
  else if category.isEmpty then .error "Log category must not be empty."
  else if errorCode.isSome ≠ !errorName.isEmpty then .error "errorCode and errorName must be provided together."
  else
    match formatContext context with
    | .error what => .error what
    | .ok fields => .ok (formatHeader now processType instanceId processId level category ++ escapeQuoted message ++
        text "\"" ++ formatError errorCode errorName ++ fields)

/-! ## Codes of bytes -/

/-- The byte that an escape stands for. -/
def unescape (mark : UInt8) : UInt8 :=
  if mark = 110 then 10 else if mark = 114 then 13 else if mark = 116 then 9 else mark

def readEscaped : Bytes → Option (UInt8 × Bytes)
  | [] => none
  | ch :: rest =>
    if ch = 92 then
      match rest with
      | [] => none
      | mark :: rest => some (unescape mark, rest)
    else some (ch, rest)

/-- A byte stands for itself, or for an escape of two. -/
theorem escapeQuotedByte_cases (ch : UInt8) :
    (ch ≠ 92 ∧ ch ≠ 34 ∧ ch ≠ 10 ∧ ch ≠ 13 ∧ escapeQuotedByte ch = [ch]) ∨
      ∃ mark, escapeQuotedByte ch = [92, mark] ∧ unescape mark = ch ∧ mark ≠ 10 ∧ mark ≠ 13 := by
  unfold escapeQuotedByte
  by_cases backslash : ch = 92
  · exact .inr ⟨92, by rw [if_pos backslash], by rw [backslash]; rfl, by decide, by decide⟩
  by_cases quote : ch = 34
  · exact .inr ⟨34, by rw [if_neg backslash, if_pos quote], by rw [quote]; rfl, by decide, by decide⟩
  by_cases newline : ch = 10
  · exact .inr ⟨110, by rw [if_neg backslash, if_neg quote, if_pos newline], by rw [newline]; rfl, by decide, by decide⟩
  by_cases carriage : ch = 13
  · exact .inr ⟨114, by rw [if_neg backslash, if_neg quote, if_neg newline, if_pos carriage], by rw [carriage]; rfl,
      by decide, by decide⟩
  by_cases tab : ch = 9
  · exact .inr ⟨116, by rw [if_neg backslash, if_neg quote, if_neg newline, if_neg carriage, if_pos tab],
      by rw [tab]; rfl, by decide, by decide⟩
  · exact .inl ⟨backslash, quote, newline, carriage,
      by rw [if_neg backslash, if_neg quote, if_neg newline, if_neg carriage, if_neg tab]⟩

theorem escapeQuotedByte_free : PrefixFree escapeQuotedByte := by
  refine PrefixFree.of_read readEscaped fun ch rest => ?_
  rcases escapeQuotedByte_cases ch with ⟨plain, -, -, -, code⟩ | ⟨mark, code, stands, -, -⟩
  · rw [code]
    exact if_neg plain
  · rw [code, ← stands]
    rfl

theorem escapeQuotedByte_apart (ch : UInt8) (rest tail : Bytes) : escapeQuotedByte ch ++ rest ≠ 34 :: tail := by
  intro same
  rcases escapeQuotedByte_cases ch with ⟨-, quote, -, -, code⟩ | ⟨mark, code, -, -, -⟩
  · rw [code] at same
    exact quote (List.cons.inj same).1
  · rw [code] at same
    exact absurd (List.cons.inj same).1 (by decide)

/-- What is escaped ends at the quote behind it. -/
theorem escapeQuoted_ends {value value' rest rest' : Bytes}
    (same : escapeQuoted value ++ 34 :: rest = escapeQuoted value' ++ 34 :: rest') : value = value' ∧ rest = rest' :=
  escapeQuotedByte_free.terminated escapeQuotedByte_apart same

/-! ## Context fields -/

theorem bare_spec {value : Bytes} (bare : needsQuotedContextValue value = false) :
    value ≠ [] ∧ ∀ ch ∈ value, isSpace ch = false ∧ ch ≠ 34 := by
  unfold needsQuotedContextValue at bare
  cases value with
  | nil => cases bare
  | cons first value =>
    rw [List.isEmpty_cons, if_neg Bool.false_ne_true, List.any_eq_false] at bare
    refine ⟨List.cons_ne_nil first value, fun ch listed => ?_⟩
    have not_ := bare ch listed
    simp only [Bool.or_eq_true, beq_iff_eq, not_or] at not_
    exact ⟨Bool.eq_false_iff.mpr not_.1.1.1, not_.1.2⟩

theorem space_isSpace : isSpace 32 = true := rfl

theorem formatContextValue_told (value value' : Bytes) {rest rest' : Bytes} (ends : Ends 32 rest) (ends' : Ends 32 rest')
    (same : formatContextValue value ++ rest = formatContextValue value' ++ rest') : value = value' ∧ rest = rest' := by
  have told : ∀ {bare quoted tail tail' : Bytes}, needsQuotedContextValue bare = false →
      bare ++ tail ≠ 34 :: (escapeQuoted quoted ++ [34]) ++ tail' := by
    intro bare quoted tail tail' isBare same
    obtain ⟨nonempty, plain⟩ := bare_spec isBare
    cases bare with
    | nil => exact nonempty rfl
    | cons first bare => exact (plain first List.mem_cons_self).2 (List.cons.inj same).1
  have spaceless : ∀ {bare : Bytes}, needsQuotedContextValue bare = false → 32 ∉ bare := fun isBare listed =>
    Bool.noConfusion (((bare_spec isBare).2 32 listed).1.symm.trans space_isSpace)
  unfold formatContextValue at same
  cases quoted : needsQuotedContextValue value <;> cases quoted' : needsQuotedContextValue value' <;>
    rw [quoted, quoted'] at same
  · exact word_ends (spaceless quoted) (spaceless quoted') ends ends' same
  · exact absurd same (told quoted)
  · exact absurd same.symm (told quoted')
  · have inside : escapeQuoted value ++ 34 :: rest = escapeQuoted value' ++ 34 :: rest' := by
      have behind : escapeQuoted value ++ [34] ++ rest = escapeQuoted value' ++ [34] ++ rest' := (List.cons.inj same).2
      rwa [List.append_assoc, List.append_assoc] at behind
    exact escapeQuoted_ends inside

/-- A key that a context may have. -/
def CleanKey (key : Bytes) : Prop := key ≠ [] ∧ ∀ ch ∈ key, isSpace ch = false ∧ ch ≠ 61 ∧ ch ≠ 34

def CleanKeys (context : List LogContextField) : Prop := ∀ field ∈ context, CleanKey field.key

/-- A field behind its blank. -/
def formatField (field : LogContextField) : Bytes := field.key ++ 61 :: formatContextValue field.value

theorem formatField_told (field field' : LogContextField) (rest rest' : Bytes) (clean : CleanKey field.key)
    (clean' : CleanKey field'.key) (ends : Ends 32 rest) (ends' : Ends 32 rest')
    (same : formatField field ++ rest = formatField field' ++ rest') : field = field' ∧ rest = rest' := by
  unfold formatField at same
  rw [List.append_assoc, List.append_assoc] at same
  obtain ⟨keys, behind⟩ := split_first (fun listed => (clean.2 61 listed).2.1 rfl)
    (fun listed => (clean'.2 61 listed).2.1 rfl) same
  obtain ⟨values, tails⟩ := formatContextValue_told field.value field'.value ends ends' behind
  obtain ⟨key, value⟩ := field
  obtain ⟨key', value'⟩ := field'
  cases keys
  cases values
  exact ⟨rfl, tails⟩

theorem formatContext_clean {context : List LogContextField} (clean : CleanKeys context) :
    formatContext context = .ok (entries 32 formatField context) := by
  induction context with
  | nil => rfl
  | cons field fields ih =>
    have nonempty : field.key.isEmpty = false := by
      rw [Bool.eq_false_iff, ne_eq, List.isEmpty_iff]
      exact (clean field List.mem_cons_self).1
    rw [formatContext, nonempty, if_neg Bool.false_ne_true,
      ih fun other listed => clean other (List.mem_cons_of_mem field listed)]
    show Except.ok (text " " ++ field.key ++ text "=" ++ formatContextValue field.value ++
      entries 32 formatField fields) = _
    have whole : text " " ++ field.key ++ text "=" ++ formatContextValue field.value ++ entries 32 formatField fields =
        32 :: (field.key ++ 61 :: formatContextValue field.value) ++ entries 32 formatField fields := by
      simp only [List.append_assoc, List.cons_append]
      rfl
    rw [whole]
    rfl

/-! ## Lines -/

/-- The bytes between two lines. -/
def Unbroken (bytes : Bytes) : Prop := 10 ∉ bytes ∧ 13 ∉ bytes

instance decidableUnbroken (bytes : Bytes) : Decidable (Unbroken bytes) :=
  inferInstanceAs (Decidable (10 ∉ bytes ∧ 13 ∉ bytes))

theorem unbroken_append {a b : Bytes} : Unbroken (a ++ b) ↔ Unbroken a ∧ Unbroken b := by
  simp only [Unbroken, List.mem_append, not_or]
  exact and_and_and_comm

theorem Unbroken.of_spaceless {bytes : Bytes} (spaceless : ∀ ch ∈ bytes, isSpace ch = false) : Unbroken bytes :=
  ⟨fun listed => Bool.noConfusion (spaceless 10 listed), fun listed => Bool.noConfusion (spaceless 13 listed)⟩

theorem Unbroken.of_number {bytes : Bytes} (number : ∀ ch ∈ bytes, isDecimalDigit ch = true ∨ ch = 45) :
    Unbroken bytes := by
  constructor
  · intro listed
    exact absurd (number 10 listed) (by decide)
  · intro listed
    exact absurd (number 13 listed) (by decide)

theorem escapeQuoted_unbroken (value : Bytes) : Unbroken (escapeQuoted value) := by
  have each : ∀ ch, 10 ∉ escapeQuotedByte ch ∧ 13 ∉ escapeQuotedByte ch := by
    intro ch
    rcases escapeQuotedByte_cases ch with ⟨-, -, newline, carriage, code⟩ | ⟨mark, code, -, newline, carriage⟩
    · rw [code]
      exact ⟨fun listed => newline (List.mem_singleton.mp listed).symm,
        fun listed => carriage (List.mem_singleton.mp listed).symm⟩
    · rw [code]
      simp only [List.mem_cons, List.not_mem_nil, or_false, not_or]
      exact ⟨⟨by decide, fun same => newline same.symm⟩, by decide, fun same => carriage same.symm⟩
  constructor
  · intro listed
    obtain ⟨ch, -, inside⟩ := List.mem_flatMap.mp listed
    exact (each ch).1 inside
  · intro listed
    obtain ⟨ch, -, inside⟩ := List.mem_flatMap.mp listed
    exact (each ch).2 inside

theorem formatContextValue_unbroken (value : Bytes) : Unbroken (formatContextValue value) := by
  unfold formatContextValue
  cases quoted : needsQuotedContextValue value with
  | true =>
    show Unbroken ([34] ++ (escapeQuoted value ++ [34]))
    rw [unbroken_append, unbroken_append]
    exact ⟨by decide, escapeQuoted_unbroken value, by decide⟩
  | false => exact Unbroken.of_spaceless fun ch listed => ((bare_spec quoted).2 ch listed).1

theorem setw_unbroken (width : Nat) (value : Int) : Unbroken (setw width value) :=
  Unbroken.of_number fun _ listed => setw_chars listed

theorem repr_unbroken (value : Int) : Unbroken (text value.repr) :=
  Unbroken.of_number fun _ listed => digits_of_repr listed

theorem formatUtcTimestamp_unbroken (time : UtcTime) : Unbroken (formatUtcTimestamp time) := by
  unfold formatUtcTimestamp
  simp only [unbroken_append, setw_unbroken, true_and, and_true]
  decide

theorem field_unbroken {field : LogContextField} (clean : CleanKey field.key) : Unbroken (32 :: formatField field) := by
  have key : Unbroken field.key := Unbroken.of_spaceless fun ch listed => (clean.2 ch listed).1
  show Unbroken ([32] ++ (field.key ++ ([61] ++ formatContextValue field.value)))
  simp only [unbroken_append]
  exact ⟨by decide, key, by decide, formatContextValue_unbroken field.value⟩

theorem entries_unbroken {context : List LogContextField} (clean : CleanKeys context) :
    Unbroken (entries 32 formatField context) := by
  constructor
  · intro listed
    obtain ⟨field, mem, inside⟩ := List.mem_flatMap.mp listed
    exact (field_unbroken (clean field mem)).1 inside
  · intro listed
    obtain ⟨field, mem, inside⟩ := List.mem_flatMap.mp listed
    exact (field_unbroken (clean field mem)).2 inside

/-- Where a line comes from: what the caller of `BuildLogLine` fixes, free of blanks and such
as the function does not refuse. -/
structure LogSource where
  now : UtcTime
  processType : ProcessType
  instanceId : Bytes
  processId : UInt32
  level : LogLevel
  category : Bytes
  errorCode : Option Int32
  errorName : Bytes
  named : instanceId ≠ []
  sorted : category ≠ []
  together : errorCode.isSome = !errorName.isEmpty
  spaceless : (∀ ch ∈ instanceId, isSpace ch = false) ∧ (∀ ch ∈ category, isSpace ch = false) ∧
    ∀ ch ∈ errorName, isSpace ch = false

namespace LogSource
variable (source : LogSource)

def line (message : Bytes) (context : List LogContextField) : Except String Bytes :=
  buildLogLine source.now source.processType source.instanceId source.processId source.level source.category message
    context source.errorCode source.errorName

def header : Bytes :=
  formatHeader source.now source.processType source.instanceId source.processId source.level source.category

theorem header_unbroken : Unbroken source.header := by
  have level : Unbroken (logLevelName source.level) := by cases source.level <;> decide
  have process : Unbroken (processTypeName source.processType) := by cases source.processType <;> decide
  have pid : Unbroken (text source.processId.toNat.repr) := repr_unbroken (.ofNat source.processId.toNat)
  unfold header formatHeader
  simp only [unbroken_append, formatUtcTimestamp_unbroken, level, process, pid, Unbroken.of_spaceless source.spaceless.1,
    Unbroken.of_spaceless source.spaceless.2.1, true_and, and_true]
  decide

theorem error_unbroken : Unbroken (formatError source.errorCode source.errorName) := by
  cases source.errorCode with
  | none => exact (by decide : Unbroken [])
  | some code =>
    unfold formatError
    simp only [unbroken_append, repr_unbroken, Unbroken.of_spaceless source.spaceless.2.2, and_true]
    decide

theorem line_clean (message : Bytes) {context : List LogContextField} (clean : CleanKeys context) :
    source.line message context = .ok (source.header ++ escapeQuoted message ++ text "\"" ++
      formatError source.errorCode source.errorName ++ entries 32 formatField context) := by
  have named : source.instanceId.isEmpty = false := by
    rw [Bool.eq_false_iff, ne_eq, List.isEmpty_iff]
    exact source.named
  have sorted : source.category.isEmpty = false := by
    rw [Bool.eq_false_iff, ne_eq, List.isEmpty_iff]
    exact source.sorted
  unfold line buildLogLine
  rw [named, sorted, if_neg Bool.false_ne_true, if_neg Bool.false_ne_true, if_neg (not_not.mpr source.together),
    formatContext_clean clean]
  rfl

end LogSource

/-- A source writes a line for every message and every context with clean keys, the line does
not break, and no other message or context has it. -/
theorem lines_unforgeable (source : LogSource) :
    (∀ (message : Bytes) (context : List LogContextField), CleanKeys context →
      ∃ line, source.line message context = .ok line ∧ 10 ∉ line ∧ 13 ∉ line) ∧
    ∀ (message message' : Bytes) (context context' : List LogContextField), CleanKeys context → CleanKeys context' →
      source.line message context = source.line message' context' → message = message' ∧ context = context' := by
  constructor
  · intro message context clean
    refine ⟨_, source.line_clean message clean, ?_⟩
    show Unbroken _
    simp only [unbroken_append, source.header_unbroken, source.error_unbroken, escapeQuoted_unbroken,
      entries_unbroken clean, true_and, and_true]
    decide
  · intro message message' context context' clean clean' same
    rw [source.line_clean message clean, source.line_clean message' clean'] at same
    have lines := Except.ok.inj same
    simp only [List.append_assoc] at lines
    obtain ⟨messages, behind⟩ := escapeQuoted_ends (List.append_cancel_left lines)
    refine ⟨messages, entries_injective (fun a b rest rest' => formatField_told a b rest rest') clean clean' ?_⟩
    exact List.append_cancel_left behind

/-- The first Game, with an error. -/
def sampleSource : LogSource where
  now := { date := ⟨2026, 3, 14⟩, hour := 9, minute := 26, second := 53, milliseconds := 589 }
  processType := .game
  instanceId := text "Game0"
  processId := 4711
  level := .error
  category := text "inner"
  errorCode := some 3001
  errorName := text "NodeIdConflict"
  named := by decide +kernel
  sorted := by decide +kernel
  together := by decide +kernel
  spaceless := by decide +kernel

def sampleContext : List LogContextField := [⟨text "gate", text "Gate 0"⟩]

theorem sampleContext_clean : CleanKeys sampleContext := by
  intro field mem
  rw [List.mem_singleton.mp mem]
  unfold CleanKey
  decide +kernel

/-- A message that looks like a field, and one that looks like another line. -/
theorem lines_unforgeable_sample :
    sampleSource.line (text "lost") sampleContext ≠ sampleSource.line (text "lost\" gate=\"Gate 0") [] ∧
      ∃ line, sampleSource.line (text "lost\r\n2026-03-14T09:26:54.000Z") sampleContext = .ok line ∧ 10 ∉ line ∧ 13 ∉ line := by
  refine ⟨fun same => ?_, (lines_unforgeable sampleSource).1 _ _ sampleContext_clean⟩
  obtain ⟨-, context⟩ := (lines_unforgeable sampleSource).2 _ _ _ _ sampleContext_clean (List.forall_mem_nil _) same
  cases context

end XServer.Core.Logging
