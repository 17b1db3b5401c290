import Mathlib.Data.List.TakeWhile
import XServer.Core.ConfigSound
import XServer.Core.JsonText
import XServer.Lib.Phrase

/-!
# The code of a rejected configuration

`ClassifyConfigError` finds the code of a report in its text, and the text quotes what the
document says. The code is the one of the first broken rule unless a quoted name contains
the phrase that is looked for first, "must be an object.".
-/

namespace XServer.Core.Config
open XServer.Lib XServer.Lib.Wire XServer.Net

/-- The code of a broken rule. An empty or a zero setting of the logging section has a code of its own. -/
def Violation.code : Violation → ConfigErrorCode
  | .expectedObject _ => .expectedObject
  | .unknownField _ _ => .unknownField
  | .missingRequiredField _ => .missingRequiredField
  | .invalidNodeId _ _ => .invalidNodeId
  | .emptyCollection _ => .emptyCollection
  | .invalidLogLevel _ => .invalidLogLevel
  | .invalidEndpointPort _ => .invalidEndpointPort
  | .invalidString _ => .invalidString
  | .emptyString path => if text "logging." <+: path then .loggingConfigInvalid else .emptyString
  | .invalidBoolean _ => .invalidBoolean
  | .invalidUnsignedInteger _ => .invalidUnsignedInteger
  | .outOfRange _ => .valueOutOfRange
  | .notPositive path => if text "logging." <+: path then .loggingConfigInvalid else .valueOutOfRange
  | .invalidArray _ => .unknown

/-- A name of the document that its report quotes contains the phrase that is looked for first. -/
def Violation.quotesObject : Violation → Bool
  | .unknownField field path => contains field "must be an object." || contains (path ++ text ".") "must be an object."
  | .invalidNodeId _ nodeId => contains nodeId "must be an object."
  | _ => false

/-! ## Phrases in a report -/

theorem contains_iff {message : Bytes} {phrase : String} : contains message phrase = true ↔ text phrase <:+: message :=
  search_isSome_iff

theorem contains_congr {message message' : Bytes} {phrase : String}
    (same : text phrase <:+: message ↔ text phrase <:+: message') : contains message phrase = contains message' phrase := by
  rw [Bool.eq_iff_iff, contains_iff, contains_iff]
  exact same

/-- The first word of a phrase, and what is behind it. -/
def splitWord (phrase : Bytes) : Bytes × Bytes := (phrase.takeWhile (· != 32), (phrase.dropWhile (· != 32)).tail)

theorem splitWord_eq {phrase : Bytes} (spaced : 32 ∈ phrase) :
    phrase = (splitWord phrase).1 ++ 32 :: (splitWord phrase).2 ∧ 32 ∉ (splitWord phrase).1 := by
  unfold splitWord
  constructor
  · have parts := List.takeWhile_append_dropWhile (p := (· != 32)) (l := phrase)
    cases rest : phrase.dropWhile (· != 32) with
    | nil =>
      rw [rest, List.append_nil] at parts
      rw [← parts] at spaced
      have different := List.mem_takeWhile_imp spaced
      exact absurd rfl (bne_iff_ne.mp different)
    | cons a tail =>
      have stops : a = 32 := by
        have first := List.head?_dropWhile_not (· != (32 : UInt8)) phrase
        rw [rest] at first
        simpa using first
      rw [rest, stops] at parts
      exact parts.symm
  · intro mem
    have different := List.mem_takeWhile_imp mem
    exact absurd rfl (bne_iff_ne.mp different)

/-- The other words of a phrase do not stand where a report goes on behind its path. -/
def standsApart (phrase report : Bytes) : Bool :=
  phrase.contains 32 && report.head? == some 32 && !(splitWord phrase).2.isPrefixOf report.tail

section Report
variable {path : Bytes} {phrase report : String}

theorem standsApart_iff (apart : standsApart (text phrase) (text report) = true) :
    ∃ word others rest, text phrase = word ++ 32 :: others ∧ 32 ∉ word ∧ text report = 32 :: rest ∧ ¬ others <+: rest := by
  unfold standsApart at apart
  rw [Bool.and_eq_true, Bool.and_eq_true, Bool.not_eq_true', List.contains_iff_mem, beq_iff_eq] at apart
  obtain ⟨⟨spaced, first⟩, behind⟩ := apart
  obtain ⟨split, single⟩ := splitWord_eq spaced
  refine ⟨_, _, (text report).tail, split, single, ?_, fun starts => ?_⟩
  · exact (List.eq_cons_of_mem_head? (Option.mem_def.mpr first))
  · rw [List.isPrefixOf_iff_prefix.mpr starts] at behind
    cases behind

/-- A phrase of several words is not found in a path without spaces. -/
theorem contains_report (free : 32 ∉ path) (apart : standsApart (text phrase) (text report) = true) :
    contains (path ++ text report) phrase = contains (text report) phrase := by
  obtain ⟨word, others, rest, split, single, begins, behind⟩ := standsApart_iff apart
  apply contains_congr
  rw [split, begins]
  constructor
  · intro found
    rcases infix_first_word single free found with inReport | starts
    · exact inReport
    · exact absurd starts behind
  · exact List.infix_append_of_infix_right

theorem startsWith_report (free : 32 ∉ path) (apart : standsApart (text phrase) (text report) = true) :
    startsWith (path ++ text report) phrase = false := by
  obtain ⟨word, others, rest, split, single, begins, behind⟩ := standsApart_iff apart
  rw [Bool.eq_false_iff]
  intro starts
  have found : text phrase <+: path ++ text report := List.isPrefixOf_iff_prefix.mp starts
  rw [split, begins] at found
  exact behind (prefix_first_word single free found)

theorem mentions_report (begins : (text report).head? = some 32) (other : ¬ text "logging." <:+: (text report).tail) :
    contains (path ++ text report) "logging." = contains path "logging." := by
  apply contains_congr
  have split : text report = 32 :: (text report).tail := List.eq_cons_of_mem_head? (Option.mem_def.mpr begins)
  rw [split, infix_separated (by decide +kernel), or_iff_left other]

end Report

/-- The phrases of several words that `ClassifyConfigError` looks for. -/
def phrases : List String :=
  ["must be an object.", "Unknown field '", "Missing required field '", " has invalid nodeId '",
    "nodeId must be one of GM, Gate<index>, or Game<index>.", "Missing gate instance for nodeId '",
    "Missing game instance for nodeId '", "must contain at least one instance.",
    "must be one of Trace, Debug, Info, Warn, Error, Fatal.", "must be in the range 1-65535.", "must not be empty.",
    "must be greater than zero.", "must be a string.", "must be a boolean.", "must be an unsigned integer.",
    "is out of range."]

/-- What is said about a path, behind it. -/
def isReport (report : String) : Bool :=
  phrases.all (fun phrase => standsApart (text phrase) (text report)) && (text report).head? == some 32 &&
    !decide (text "logging." <:+: (text report).tail)

section Classify
variable {path path' : Bytes} {report : String}

/-- Of a path without spaces, the code depends on no more than whether it mentions the logging section. -/
theorem classify_congr (free : 32 ∉ path) (free' : 32 ∉ path') (isReport : isReport report = true)
    (same : contains path "logging." = contains path' "logging.") :
    classifyConfigError (path ++ text report) = classifyConfigError (path' ++ text report) := by
  unfold Config.isReport at isReport
  rw [Bool.and_eq_true, Bool.and_eq_true, beq_iff_eq, Bool.not_eq_true', decide_eq_false_iff_not] at isReport
  obtain ⟨⟨apart, begins⟩, other⟩ := isReport
  rw [List.all_eq_true] at apart
  have found : ∀ phrase ∈ phrases, contains (path ++ text report) phrase = contains (path' ++ text report) phrase := by
    intro phrase listed
    rw [contains_report free (apart phrase listed), contains_report free' (apart phrase listed)]
  have starts : ∀ phrase ∈ phrases, startsWith (path ++ text report) phrase = startsWith (path' ++ text report) phrase := by
    intro phrase listed
    rw [startsWith_report free (apart phrase listed), startsWith_report free' (apart phrase listed)]
  have mentions : messageMentionsLoggingPath (path ++ text report) = messageMentionsLoggingPath (path' ++ text report) := by
    unfold messageMentionsLoggingPath
    rw [mentions_report begins other, mentions_report begins other, same]
  have whole : ∀ p : Bytes, 32 ∉ p → p ++ text report ≠ text "nodeId must be one of GM, Gate<index>, or Game<index>." := by
    intro p single equal
    have none := startsWith_report single (apart "nodeId must be one of GM, Gate<index>, or Game<index>." (by simp [phrases]))
    rw [equal] at none
    revert none
    decide +kernel
  unfold classifyConfigError
  rw [mentions, found "must be an object." (by simp [phrases]), found " has invalid nodeId '" (by simp [phrases]),
    found "must contain at least one instance." (by simp [phrases]),
    found "must be one of Trace, Debug, Info, Warn, Error, Fatal." (by simp [phrases]),
    found "must be in the range 1-65535." (by simp [phrases]), found "must not be empty." (by simp [phrases]),
    found "must be greater than zero." (by simp [phrases]), found "must be a string." (by simp [phrases]),
    found "must be a boolean." (by simp [phrases]), found "must be an unsigned integer." (by simp [phrases]),
    found "is out of range." (by simp [phrases]), starts "Unknown field '" (by simp [phrases]),
    starts "Missing required field '" (by simp [phrases]), starts "Missing gate instance for nodeId '" (by simp [phrases]),
    starts "Missing game instance for nodeId '" (by simp [phrases])]
  simp only [whole path free, whole path' free']

/-- The reports about a path, each with its code inside the logging section and elsewhere. -/
def reports : List (String × ConfigErrorCode × ConfigErrorCode) := [
  (" must contain at least one instance.", .emptyCollection, .emptyCollection),
  (" must be one of Trace, Debug, Info, Warn, Error, Fatal.", .invalidLogLevel, .invalidLogLevel),
  (" must be in the range 1-65535.", .invalidEndpointPort, .invalidEndpointPort),
  (" must be a string.", .invalidString, .invalidString),
  (" must be a boolean.", .invalidBoolean, .invalidBoolean),
  (" must be an unsigned integer.", .invalidUnsignedInteger, .invalidUnsignedInteger),
  (" is out of range.", .valueOutOfRange, .valueOutOfRange),
  (" must be an array.", .unknown, .unknown),
  (" must not be empty.", .loggingConfigInvalid, .emptyString),
  (" must be greater than zero.", .loggingConfigInvalid, .valueOutOfRange)]

theorem reports_classified : ∀ entry ∈ reports, isReport entry.1 = true ∧
    classifyConfigError (text "logging." ++ text entry.1) = entry.2.1 ∧
    classifyConfigError ([] ++ text entry.1) = entry.2.2 := by
  decide +kernel

theorem classify_report {inside outside : ConfigErrorCode} (free : 32 ∉ path)
    (listed : (report, inside, outside) ∈ reports) :
    classifyConfigError (path ++ text report) = if contains path "logging." then inside else outside := by
  have classified := reports_classified _ listed
  simp only at classified
  obtain ⟨isReport, mentioned, otherwise⟩ := classified
  split
  · rename_i mentions
    rw [← mentioned]
    refine classify_congr free (by decide +kernel) isReport ?_
    rw [mentions]
    decide +kernel
  · rename_i other
    rw [← otherwise]
    refine classify_congr free List.not_mem_nil isReport ?_
    rw [Bool.eq_false_iff.mpr other]
    decide +kernel

/-- A report whose code is the same in every section. -/
theorem classify_elsewhere {code : ConfigErrorCode} (free : 32 ∉ path) (listed : (report, code, code) ∈ reports) :
    classifyConfigError (path ++ text report) = code := by
  rw [classify_report free listed, ite_self]

end Classify

/-! ## The code of one report -/

/-- A path of the schema: no spaces, and it mentions the logging section only if it lies there. -/
structure PathOk (path : Bytes) : Prop where
  single : 32 ∉ path
  logging : text "logging." <:+: path ++ text "." → text "logging." <+: path ++ text "."

instance (path : Bytes) : Decidable (PathOk path) :=
  decidable_of_iff (32 ∉ path ∧ (text "logging." <:+: path ++ text "." → text "logging." <+: path ++ text "."))
    ⟨fun h => ⟨h.1, h.2⟩, fun h => ⟨h.single, h.logging⟩⟩

/-- What a report quotes besides paths of the schema: a field that is unknown, a node id that is none. -/
def Violation.Tame : Violation → Prop
  | .expectedObject _ => True
  | .unknownField _ _ => True
  | .invalidNodeId path nodeId => path = text "gate." ++ nodeId ∨ path = text "game." ++ nodeId
  | .missingRequiredField path => 32 ∉ path
  | .emptyCollection path => PathOk path
  | .invalidLogLevel path => PathOk path
  | .invalidEndpointPort path => PathOk path
  | .invalidString path => PathOk path
  | .emptyString path => PathOk path
  | .invalidBoolean path => PathOk path
  | .invalidUnsignedInteger path => PathOk path
  | .outOfRange path => PathOk path
  | .notPositive path => PathOk path
  | .invalidArray path => PathOk path

theorem PathOk.mentions_iff {path : Bytes} (ok : PathOk path) : contains path "logging." = true ↔ text "logging." <+: path := by
  rw [contains_iff]
  constructor
  · intro found
    have long : (text "logging.").length ≤ path.length := found.length_le
    have starts := ok.logging (List.infix_append_of_infix_left found)
    exact List.prefix_of_prefix_length_le starts (List.prefix_append path _) long
  · exact List.IsPrefix.isInfix

theorem startsWith_literal {start phrase : String} {rest : Bytes} (enough : (text phrase).length ≤ (text start).length) :
    startsWith (text start ++ rest) phrase = startsWith (text start) phrase := by
  unfold startsWith
  rw [Bool.eq_iff_iff, List.isPrefixOf_iff_prefix, List.isPrefixOf_iff_prefix]
  constructor
  · exact fun starts => List.prefix_of_prefix_length_le starts (List.prefix_append _ rest) enough
  · exact fun starts => starts.trans (List.prefix_append _ rest)

theorem classify_expectedObject (path : Bytes) : classifyConfigError (path ++ text " must be an object.") = .expectedObject := by
  unfold classifyConfigError
  have found : contains (path ++ text " must be an object.") "must be an object." = true := by
    rw [contains_iff]
    apply List.infix_append_of_infix_right
    decide +kernel
  rw [if_pos found]

/-- The phrase that is looked for first has no quotation mark: it lies between two of them. -/
theorem object_between {left right : Bytes} :
    text "must be an object." <:+: left ++ 39 :: right ↔
      text "must be an object." <:+: left ∨ text "must be an object." <:+: right :=
  infix_separated (by decide +kernel)

theorem contains_unknownField (field path : Bytes) :
    contains (Violation.unknownField field path).message "must be an object." =
      (Violation.unknownField field path).quotesObject := by
  have split : (Violation.unknownField field path).message =
      text "Unknown field " ++ 39 :: (field ++ 39 :: (text " at " ++ (path ++ text "."))) := by
    show text "Unknown field '" ++ field ++ text "' at " ++ path ++ text "." = _
    rw [show text "Unknown field '" = text "Unknown field " ++ [39] by decide +kernel,
      show text "' at " = 39 :: text " at " by decide +kernel]
    simp only [List.append_assoc, List.cons_append, List.nil_append]
  have begin_ : ¬ text "must be an object." <:+: text "Unknown field " := by decide +kernel
  have middle : ¬ text "must be an object." <:+: text " at " := by decide +kernel
  rw [Bool.eq_iff_iff, contains_iff, split, object_between, object_between, infix_behind (by decide +kernel), or_iff_right begin_,
    or_iff_right middle]
  show _ ↔ (contains field "must be an object." || contains (path ++ text ".") "must be an object.") = true
  rw [Bool.or_eq_true, contains_iff, contains_iff]

theorem classify_unknownField (field path : Bytes) :
    classifyConfigError (Violation.unknownField field path).message =
      if (Violation.unknownField field path).quotesObject then .expectedObject else .unknownField := by
  have starts : startsWith (Violation.unknownField field path).message "Unknown field '" = true := by
    show startsWith (text "Unknown field '" ++ field ++ text "' at " ++ path ++ text ".") _ = true
    simp only [List.append_assoc]
    rw [startsWith_literal (Nat.le_refl _)]
    decide +kernel
  unfold classifyConfigError
  rw [contains_unknownField, if_pos starts]

theorem classify_missingRequiredField {path : Bytes} (single : 32 ∉ path) :
    classifyConfigError (Violation.missingRequiredField path).message = .missingRequiredField := by
  have split : (Violation.missingRequiredField path).message =
      text "Missing required field " ++ 39 :: (path ++ 39 :: text ".") := by
    show text "Missing required field '" ++ path ++ text "'." = _
    rw [show text "Missing required field '" = text "Missing required field " ++ [39] by decide +kernel,
      show text "'." = 39 :: text "." by decide +kernel]
    simp only [List.append_assoc, List.cons_append, List.nil_append]
  have absent : contains (Violation.missingRequiredField path).message "must be an object." = false := by
    rw [Bool.eq_false_iff, ne_eq, contains_iff, split, object_between, object_between]
    rintro (found | found | found)
    · exact absurd found (by decide +kernel)
    · have spaced : (32 : UInt8) ∈ text "must be an object." := by decide +kernel
      exact single (found.subset spaced)
    · exact absurd found (by decide +kernel)
  have starts : ∀ phrase : String, (text phrase).length ≤ 24 →
      startsWith (Violation.missingRequiredField path).message phrase = startsWith (text "Missing required field '") phrase := by
    intro phrase short
    show startsWith (text "Missing required field '" ++ path ++ text "'.") phrase = _
    rw [List.append_assoc]
    exact startsWith_literal (Nat.le_trans short (by decide +kernel))
  have unknown : startsWith (Violation.missingRequiredField path).message "Unknown field '" = false := by
    rw [starts _ (by decide +kernel)]
    decide +kernel
  have missing : startsWith (Violation.missingRequiredField path).message "Missing required field '" = true := by
    rw [starts _ (by decide +kernel)]
    decide +kernel
  unfold classifyConfigError
  rw [absent, unknown, if_neg Bool.false_ne_true, if_neg Bool.false_ne_true, if_pos missing]

theorem startsWith_other {start phrase : String} {rest : Bytes} {a b : UInt8} (first : (text start).head? = some a)
    (wanted : (text phrase).head? = some b) (different : a ≠ b) : startsWith (text start ++ rest) phrase = false := by
  unfold startsWith
  rw [Bool.eq_false_iff, ne_eq, List.isPrefixOf_iff_prefix, List.eq_cons_of_mem_head? (Option.mem_def.mpr first),
    List.eq_cons_of_mem_head? (Option.mem_def.mpr wanted), List.cons_append, List.cons_prefix_cons]
  exact fun starts => different starts.1.symm

/-- A node that is none, in a collection whose word does not run into the phrase. -/
theorem classify_invalidNodeId {word : String} {nodeId : Bytes} (first : (text word).head? = some 103)
    (apart : ∀ tail ∈ (text word).tails, tail ≠ [] → ¬ tail <+: text "must be an object.")
    (other : ¬ text "must be an object." <:+: text word) :
    classifyConfigError (Violation.invalidNodeId (text word ++ nodeId) nodeId).message =
      if (Violation.invalidNodeId (text word ++ nodeId) nodeId).quotesObject then .expectedObject else .invalidNodeId := by
  have split : (Violation.invalidNodeId (text word ++ nodeId) nodeId).message =
      (text word ++ (nodeId ++ text " has invalid nodeId ")) ++ 39 :: (nodeId ++ 39 :: text ".") := by
    show text word ++ nodeId ++ text " has invalid nodeId '" ++ nodeId ++ text "'." = _
    rw [show text " has invalid nodeId '" = text " has invalid nodeId " ++ [39] by decide +kernel,
      show text "'." = 39 :: text "." by decide +kernel]
    simp only [List.append_assoc, List.cons_append, List.nil_append]
  have quoted : contains (Violation.invalidNodeId (text word ++ nodeId) nodeId).message "must be an object." =
      (Violation.invalidNodeId (text word ++ nodeId) nodeId).quotesObject := by
    have middle : ¬ text "must be an object." <:+: text " has invalid nodeId " := by decide +kernel
    have last : ¬ text "must be an object." <:+: text "." := by decide +kernel
    show _ = contains nodeId "must be an object."
    rw [Bool.eq_iff_iff, contains_iff, contains_iff, split, object_between, object_between, infix_behind apart,
      infix_before (by decide +kernel), or_iff_right other, or_iff_left middle, or_iff_left last, or_self]
  have begins : ∀ {phrase : String} {b : UInt8}, (text phrase).head? = some b → 103 ≠ b →
      startsWith (Violation.invalidNodeId (text word ++ nodeId) nodeId).message phrase = false := by
    intro phrase b wanted different
    rw [split, List.append_assoc]
    exact startsWith_other first wanted different
  have unknown := @begins "Unknown field '" 85 (by decide +kernel) (by decide)
  have missing := @begins "Missing required field '" 77 (by decide +kernel) (by decide)
  have invalid : contains (Violation.invalidNodeId (text word ++ nodeId) nodeId).message " has invalid nodeId '" = true := by
    rw [contains_iff]
    show _ <:+: text word ++ nodeId ++ text " has invalid nodeId '" ++ nodeId ++ text "'."
    rw [List.append_assoc _ nodeId]
    exact List.infix_append _ _ _
  unfold classifyConfigError
  simp only [quoted, unknown, missing, invalid, Bool.false_eq_true, if_false, true_or, if_true]

/-- The code of a report is the code of its rule, unless a quoted name contains the phrase that is looked for first. -/
theorem classify_violation {violation : Violation} (tame : violation.Tame) :
    classifyConfigError violation.message = if violation.quotesObject then .expectedObject else violation.code := by
  cases violation with
  | expectedObject path => exact classify_expectedObject path
  | unknownField field path => exact classify_unknownField field path
  | missingRequiredField path => exact classify_missingRequiredField tame
  | invalidNodeId path nodeId =>
    rcases tame with rfl | rfl
    · exact classify_invalidNodeId (by decide +kernel) (by decide +kernel) (by decide +kernel)
    · exact classify_invalidNodeId (by decide +kernel) (by decide +kernel) (by decide +kernel)
  | emptyCollection path =>
    show classifyConfigError (path ++ text " must contain at least one instance.") = .emptyCollection
    exact classify_elsewhere tame.single (by simp [reports])
  | invalidLogLevel path =>
    show classifyConfigError (path ++ text " must be one of Trace, Debug, Info, Warn, Error, Fatal.") = .invalidLogLevel
    exact classify_elsewhere tame.single (by simp [reports])
  | invalidEndpointPort path =>
    show classifyConfigError (path ++ text " must be in the range 1-65535.") = .invalidEndpointPort
    exact classify_elsewhere tame.single (by simp [reports])
  | invalidString path =>
    show classifyConfigError (path ++ text " must be a string.") = .invalidString
    exact classify_elsewhere tame.single (by simp [reports])
  | invalidBoolean path =>
    show classifyConfigError (path ++ text " must be a boolean.") = .invalidBoolean
    exact classify_elsewhere tame.single (by simp [reports])
  | invalidUnsignedInteger path =>
    show classifyConfigError (path ++ text " must be an unsigned integer.") = .invalidUnsignedInteger
    exact classify_elsewhere tame.single (by simp [reports])
  | outOfRange path =>
    show classifyConfigError (path ++ text " is out of range.") = .valueOutOfRange
    exact classify_elsewhere tame.single (by simp [reports])
  | invalidArray path =>
    show classifyConfigError (path ++ text " must be an array.") = .unknown
    exact classify_elsewhere tame.single (by simp [reports])
  | emptyString path =>
    have report : classifyConfigError (path ++ text " must not be empty.") =
        if contains path "logging." then .loggingConfigInvalid else .emptyString :=
      classify_report tame.single (by simp [reports])
    simp only [tame.mentions_iff] at report
    exact report
  | notPositive path =>
    have report : classifyConfigError (path ++ text " must be greater than zero.") =
        if contains path "logging." then .loggingConfigInvalid else .valueOutOfRange :=
      classify_report tame.single (by simp [reports])
    simp only [tame.mentions_iff] at report
    exact report

/-! ## What the reports of a document quote -/

/-- A name that a path may go on with. -/
def plainName (name : Bytes) : Bool := !name.contains 32 && !contains (name ++ text ".") "logging."

mutual

/-- Every field below a schema has a plain name, and no nodes stand there. -/
def Schema.plain : Schema → Bool
  | .leaf _ => true
  | .array _ => true
  | .record fields => fields.plain
  | .collection _ _ => false

def Fields.plain : Fields → Bool
  | .nil => true
  | .cons name _ schema rest => plainName (text name) && schema.plain && rest.plain

end

theorem PathOk.join {path name : Bytes} (ok : PathOk path) (nonempty : path ≠ []) (plain : plainName name = true) :
    PathOk (joinPath path name) := by
  unfold plainName at plain
  rw [Bool.and_eq_true, Bool.not_eq_true', Bool.not_eq_true', ← Bool.not_eq_true, ← Bool.not_eq_true, contains_iff,
    List.contains_iff_mem] at plain
  have dot : text "." = [46] := by decide +kernel
  have joined : joinPath path name = path ++ [46] ++ name := by
    rw [← dot]
    exact if_neg nonempty
  constructor
  · rw [joined, List.mem_append, List.mem_append]
    rintro ((inPath | inDot) | inName)
    · exact ok.single inPath
    · exact absurd inDot (by decide)
    · exact plain.1 inName
  · rw [joined, List.append_assoc _ name, infix_terminated (by decide +kernel)]
    rintro (inPath | inName)
    · exact (ok.logging (dot.symm ▸ inPath)).trans (dot ▸ List.prefix_append _ _)
    · exact absurd inName plain.2

/-- Nothing is quoted by a name without a space and without the first letter of the logging section. -/
theorem plainName_of_letters {name : Bytes} (letters : ∀ ch ∈ name, ch ≠ 32 ∧ ch ≠ 108) : plainName name = true := by
  unfold plainName
  rw [Bool.and_eq_true, Bool.not_eq_true', Bool.not_eq_true', ← Bool.not_eq_true, ← Bool.not_eq_true, contains_iff,
    List.contains_iff_mem]
  constructor
  · intro space
    exact (letters 32 space).1 rfl
  · intro found
    have letter : (108 : UInt8) ∈ name ++ text "." := found.subset (by decide +kernel)
    rcases List.mem_append.mp letter with inName | inDot
    · exact (letters 108 inName).2 rfl
    · exact absurd inDot (by decide +kernel)

theorem letters_of_digit {ch : UInt8} (digit : 48 ≤ ch ∧ ch ≤ 57) : ch ≠ 32 ∧ ch ≠ 108 := by
  constructor
  · rintro rfl
    exact absurd digit.1 (by decide)
  · rintro rfl
    exact absurd digit.2 (by decide)

theorem plainName_of_nodeId {word : String} {id : Bytes} (letters : ∀ ch ∈ text word, ch ≠ 32 ∧ ch ≠ 108)
    (named : NodeId word id) : plainName id = true := by
  obtain ⟨digits, -, all, rfl⟩ := named
  apply plainName_of_letters
  intro ch mem
  rcases List.mem_append.mp mem with inWord | inDigits
  · exact letters ch inWord
  · exact letters_of_digit (all ch inDigits)

section Tame
variable {path : Bytes} {value : JsonValue}

theorem numberViolations_tame {rules : Nat → List Violation} (ok : PathOk path) (inner : ∀ n, ∀ v ∈ rules n, v.Tame) :
    ∀ v ∈ numberViolations rules value path, v.Tame := by
  intro v listed
  unfold numberViolations at listed
  split at listed
  · split at listed
    · rw [List.mem_singleton.mp listed]
      exact ok
    · exact inner _ v listed
  · rw [List.mem_singleton.mp listed]
    exact ok

theorem stringViolations_tame {rules : Bytes → List Violation} (ok : PathOk path) (inner : ∀ a, ∀ v ∈ rules a, v.Tame) :
    ∀ v ∈ stringViolations rules value path, v.Tame := by
  intro v listed
  unfold stringViolations at listed
  split at listed
  · exact inner _ v listed
  · rw [List.mem_singleton.mp listed]
    exact ok

theorem tame_of_ite {p : Prop} [Decidable p] {violation : Violation} {rest : List Violation} (here : violation.Tame)
    (others : ∀ v ∈ rest, v.Tame) : ∀ v ∈ (if p then [violation] else rest), v.Tame := by
  intro v listed
  split at listed
  · rw [List.mem_singleton.mp listed]
    exact here
  · exact others v listed

theorem tame_nil : ∀ v ∈ ([] : List Violation), v.Tame := by
  intro v listed
  cases listed

theorem Leaf.violations_tame (rule : Leaf) (ok : PathOk path) : ∀ v ∈ rule.violations value path, v.Tame := by
  have empty : (Violation.emptyString path).Tame := ok
  cases rule with
  | string => exact stringViolations_tame ok fun _ => tame_nil
  | nonEmptyString => exact stringViolations_tame ok fun _ => tame_of_ite empty tame_nil
  | logLevel => exact stringViolations_tame ok fun _ => tame_of_ite empty (tame_of_ite ok tame_nil)
  | boolean =>
    intro v listed
    change v ∈ booleanViolations value path at listed
    unfold booleanViolations at listed
    split at listed
    · exact tame_nil v listed
    · rw [List.mem_singleton.mp listed]
      exact ok
  | unsignedInteger => exact numberViolations_tame ok fun _ => tame_nil
  | port => exact numberViolations_tame ok fun _ => tame_of_ite ok tame_nil

theorem boundViolations_tame (ok : PathOk path) : ∀ v ∈ boundViolations value path, v.Tame := by
  unfold boundViolations
  split
  · have empty : (Violation.emptyString path).Tame := ok
    exact tame_of_ite empty tame_nil
  · have zero : (Violation.notPositive path).Tame := ok
    exact tame_of_ite zero tame_nil

theorem elementViolations_tame (rule : Leaf) (ok : PathOk path) (nonempty : path ≠ []) (elements : List JsonValue)
    (index : Nat) : ∀ v ∈ elementViolations rule path index elements, v.Tame := by
  induction elements generalizing index with
  | nil => exact tame_nil
  | cons first rest ih =>
    intro v listed
    unfold elementViolations at listed
    rcases List.mem_append.mp listed with here | later
    · have digits : plainName (text (toString index)) = true := by
        apply plainName_of_letters
        intro ch mem
        rw [Nat.toString_eq_repr] at mem
        have digit := (readDecimal_repr index).2.1 ch mem
        rw [isDecimalDigit, Bool.and_eq_true, decide_eq_true_eq, decide_eq_true_eq] at digit
        exact letters_of_digit digit
      exact rule.violations_tame (ok.join nonempty digits) v here
    · exact ih (index + 1) v later

theorem memberViolations_tame {members : Members} {name : String} {rules : JsonValue → Bytes → List Violation}
    (tame : ∀ value, ∀ v ∈ rules value (joinPath path (text name)), v.Tame) :
    ∀ v ∈ memberViolations members path name rules, v.Tame := by
  unfold memberViolations
  split
  · exact tame _
  · exact tame_nil

theorem Fields.plain_named (presence : Presence) : (fields : Fields) → fields.plain = true →
    ∀ name ∈ fields.named presence, plainName (text name) = true
  | .nil, _, name, listed => by cases listed
  | .cons first own schema rest, plain, name, listed => by
    rw [Fields.plain, Bool.and_eq_true, Bool.and_eq_true] at plain
    rw [Fields.named] at listed
    split at listed
    · rcases List.mem_cons.mp listed with rfl | later
      · exact plain.1.1
      · exact rest.plain_named presence plain.2 name later
    · exact rest.plain_named presence plain.2 name listed

/-- The reports of an object are tame if those of its values are. -/
theorem objectViolations_tame {fields : Fields} {identity : Option Violation} {values : Members → List Violation}
    (plain : fields.plain = true) (nonempty : path ≠ []) (named : ∀ v, identity = some v → v.Tame)
    (ok : identity = none → PathOk path) (inner : identity = none → ∀ members, ∀ v ∈ values members, v.Tame) :
    ∀ v ∈ objectViolations fields identity values value path, v.Tame := by
  intro v listed
  unfold objectViolations at listed
  split at listed
  · rename_i members
    rcases List.mem_append.mp listed with unknown | known
    · obtain ⟨member, -, rfl⟩ := List.mem_map.mp unknown
      trivial
    cases identity with
    | some violation =>
      rw [List.mem_singleton.mp known]
      exact named violation rfl
    | none =>
      rcases List.mem_append.mp known with missing | rest
      · obtain ⟨name, required, missing⟩ := List.mem_flatMap.mp missing
        refine @tame_of_ite _ _ _ [] ?_ tame_nil v missing
        exact ((ok rfl).join nonempty (fields.plain_named .required plain name required)).single
      rcases List.mem_append.mp rest with below | bounds
      · exact inner rfl members v below
      · obtain ⟨name, bounded, bound⟩ := List.mem_flatMap.mp bounds
        have pathOk := (ok rfl).join nonempty (fields.plain_named .bounded plain name bounded)
        exact memberViolations_tame (fun _ => boundViolations_tame pathOk) v bound
  · rw [List.mem_singleton.mp listed]
    trivial

end Tame

theorem joinPath_ne_nil {path name : Bytes} (nonempty : path ≠ []) : joinPath path name ≠ [] := by
  rw [joinPath, if_neg nonempty, List.append_assoc]
  exact fun empty => nonempty (List.append_eq_nil_iff.mp empty).1

mutual

theorem Schema.violations_tame : (schema : Schema) → schema.plain = true → {value : JsonValue} → {path : Bytes} →
    PathOk path → path ≠ [] → ∀ v ∈ schema.violations value path, v.Tame
  | .leaf rule, _, value, path, ok, _ => by
    rw [Schema.violations]
    exact rule.violations_tame ok
  | .array rule, _, value, path, ok, nonempty => by
    unfold Schema.violations
    split
    · exact elementViolations_tame rule ok nonempty _ 0
    · intro v listed
      rw [List.mem_singleton.mp listed]
      exact ok
  | .record fields, plain, value, path, ok, nonempty => by
    rw [Schema.violations]
    rw [Schema.plain] at plain
    refine objectViolations_tame plain nonempty (fun v impossible => by cases impossible) (fun _ => ok) fun _ members => ?_
    exact Fields.violations_tame fields plain ok nonempty
  | .collection _ _, plain, _, _, _, _ => by
    rw [Schema.plain] at plain
    cases plain

theorem Fields.violations_tame : (fields : Fields) → fields.plain = true → {path : Bytes} → {members : Members} →
    PathOk path → path ≠ [] → ∀ v ∈ fields.violations path members, v.Tame
  | .nil, _, _, _, _, _ => by
    rw [Fields.violations]
    exact tame_nil
  | .cons name presence schema rest, plain, path, members, ok, nonempty => by
    rw [Fields.plain, Bool.and_eq_true, Bool.and_eq_true] at plain
    rw [Fields.violations]
    intro v listed
    rcases List.mem_append.mp listed with here | later
    · refine memberViolations_tame (fun value => ?_) v here
      exact schema.violations_tame plain.1.2 (ok.join nonempty plain.1.1) (joinPath_ne_nil nonempty)
    · exact rest.violations_tame plain.2 ok nonempty v later

end

theorem collection_tame {kind : ParsedNodeKind} {node : Fields} {word : String} {value : JsonValue}
    (plain : node.plain = true) (ok : PathOk (text word)) (nonempty : text word ≠ [])
    (dotted : text word ++ text "." = text "gate." ∨ text word ++ text "." = text "game.")
    (known : ∀ id, parseNodeId id = some kind → plainName id = true) :
    ∀ v ∈ (Schema.collection kind node).violations value (text word), v.Tame := by
  intro v listed
  unfold Schema.violations at listed
  split at listed
  · rename_i members
    split at listed
    · rw [List.mem_singleton.mp listed]
      exact ok
    · obtain ⟨member, -, inNode⟩ := List.mem_flatMap.mp listed
      have joined : joinPath (text word) member.1 = text word ++ text "." ++ member.1 := if_neg nonempty
      have named : ∀ violation, identityViolation kind member.1 (joinPath (text word) member.1) = some violation →
          violation.Tame := by
        intro violation refused
        unfold identityViolation at refused
        split at refused
        · cases refused
        · cases refused
          show joinPath _ _ = _ ∨ joinPath _ _ = _
          rw [joined]
          rcases dotted with same | same
          · exact .inl (by rw [same])
          · exact .inr (by rw [same])
      have nodeOk : identityViolation kind member.1 (joinPath (text word) member.1) = none →
          PathOk (joinPath (text word) member.1) := by
        intro accepted
        unfold identityViolation at accepted
        split at accepted
        · rename_i isKind
          exact ok.join nonempty (known member.1 isKind)
        · cases accepted
      refine objectViolations_tame plain (joinPath_ne_nil nonempty) named nodeOk (fun id members => ?_) v inNode
      exact Fields.violations_tame node plain (nodeOk id) (joinPath_ne_nil nonempty)
  · rw [List.mem_singleton.mp listed]
    trivial

/-- What the reports of a document quote. -/
theorem violations_tame (document : JsonValue) : ∀ v ∈ violations document, v.Tame := by
  have record : ∀ {word : String} {fields : Fields} {value : JsonValue}, fields.plain = true → PathOk (text word) →
      text word ≠ [] → ∀ v ∈ (Schema.record fields).violations value (text word), v.Tame := by
    intro word fields value plain ok nonempty
    exact Schema.violations_tame (.record fields) (by rwa [Schema.plain]) ok nonempty
  intro v listed
  unfold violations objectViolations at listed
  split at listed
  · rename_i members
    rcases List.mem_append.mp listed with unknown | known
    · obtain ⟨member, -, rfl⟩ := List.mem_map.mp unknown
      trivial
    rcases List.mem_append.mp known with missing | rest
    · obtain ⟨name, required, missing⟩ := List.mem_flatMap.mp missing
      refine @tame_of_ite _ _ _ [] ?_ tame_nil v missing
      have all : ∀ name ∈ rootFields.named .required, 32 ∉ joinPath (text "root") (text name) := by decide +kernel
      exact all name required
    rcases List.mem_append.mp rest with below | bounds
    · simp only [rootFields, Fields.violations, List.append_nil, List.mem_append] at below
      rcases below with env | logging | kcp | managed | gm | gate | game
      · exact memberViolations_tame (fun _ => record (by decide +kernel) (by decide +kernel) (by decide +kernel)) v env
      · exact memberViolations_tame (fun _ => record (by decide +kernel) (by decide +kernel) (by decide +kernel)) v logging
      · exact memberViolations_tame (fun _ => record (by decide +kernel) (by decide +kernel) (by decide +kernel)) v kcp
      · exact memberViolations_tame (fun _ => record (by decide +kernel) (by decide +kernel) (by decide +kernel)) v managed
      · exact memberViolations_tame (fun _ => record (by decide +kernel) (by decide +kernel) (by decide +kernel)) v gm
      · exact memberViolations_tame (fun _ => collection_tame (by decide +kernel) (by decide +kernel) (by decide +kernel)
          (by decide +kernel) fun id isGate => plainName_of_nodeId (by decide +kernel) (nodeId_of_gate isGate)) v gate
      · exact memberViolations_tame (fun _ => collection_tame (by decide +kernel) (by decide +kernel) (by decide +kernel)
          (by decide +kernel) fun id isGame => plainName_of_nodeId (by decide +kernel) (nodeId_of_game isGame)) v game
    · have none : rootFields.named .bounded = [] := by decide +kernel
      rw [none] at bounds
      cases bounds
  · rw [List.mem_singleton.mp listed]
    trivial

/-! ## The code of a document -/

/-- The code of the first rule that a document breaks. -/
def firstCode (document : JsonValue) : ConfigErrorCode :=
  match (violations document).head? with
  | some violation => violation.code
  | none => .none

/-- The report of the first broken rule quotes a name with the phrase that is looked for first. -/
def quotesObject (document : JsonValue) : Bool :=
  match (violations document).head? with
  | some violation => violation.quotesObject
  | none => false

/-- A document's code is the one of the first rule it breaks just if no name in the report of that rule contains
"must be an object.". -/
theorem load_code_iff (document : JsonValue) (configBasePath : Bytes) (before : ClusterConfig) :
    (loadClusterConfigFile (.ok document) configBasePath (some before)).code = firstCode document ↔
      quotesObject document = false := by
  have checked := parseClusterConfig_checks document configBasePath
  unfold loadClusterConfigFile firstCode quotesObject
  rw [if_neg (by exact Bool.false_ne_true)]
  cases parsed : parseClusterConfig document configBasePath with
  | ok config =>
    have clean := (checked.result parsed).1
    rw [clean]
    simp only [parsed]
    exact iff_of_true rfl rfl
  | error violation =>
    have first := checked.error_iff.mp parsed
    have tame : violation.Tame := violations_tame document violation (List.mem_of_mem_head? first)
    simp only [parsed, first]
    show classifyConfigError violation.message = violation.code ↔ _
    rw [classify_violation tame]
    cases quotes : violation.quotesObject with
    | false => exact iff_of_true rfl rfl
    | true =>
      refine iff_of_false ?_ (by decide)
      cases violation with
      | unknownField field path => exact fun same => ConfigErrorCode.noConfusion same
      | invalidNodeId path nodeId => exact fun same => ConfigErrorCode.noConfusion same
      | _ => cases quotes

/-- An unknown field of the root whose name is the phrase. -/
def misleadingDocument : JsonValue := .object [(text "must be an object.", .null)]

def unsetEndpoint : EndpointConfig := { host := [], port := 0 }

/-- A configuration before anything is loaded into it. -/
def unsetConfig : ClusterConfig where
  env := { id := [], environment := [] }
  logging := {}
  kcp := {}
  managed := {}
  gm := { innerNetworkListenEndpoint := unsetEndpoint, controlNetworkListenEndpoint := unsetEndpoint }
  gates := ∅
  games := ∅

/-- The first broken rule is that the field is unknown; the code says that the value is no object. -/
theorem load_code_misled :
    (loadClusterConfigFile (.ok misleadingDocument) [] (some unsetConfig)).code = .expectedObject ∧
      firstCode misleadingDocument = .unknownField := by
  decide +kernel

end XServer.Core.Config
