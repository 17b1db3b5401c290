import XServer.Core.ConfigLoad

/-!
# What a configuration file has to look like

The rules of the file as data: which fields an object may have, which of them it must
have, and what may stand under each. Two readings of a schema: the rules that a document
breaks, in the order in which the file is read, and that no object of a document has a
field that the schema does not list for it.
-/

namespace XServer.Core.Config
open XServer.Lib XServer.Lib.Wire XServer.Net

/-! ## Looking into a document -/

namespace JsonValue

/-- The whole number that a value is, if it is one and not negative. -/
def number : JsonValue → Option Nat
  | .unsigned value => some value.toNat
  | .integer value => if value < 0 then none else some value.toInt.toNat
  | _ => none

def member? (value : JsonValue) (key : Bytes) : Option JsonValue :=
  match value with
  | .object members => members.lookup key
  | _ => none

/-- What stands at the end of a way of keys. -/
def get? : JsonValue → List Bytes → Option JsonValue
  | value, [] => some value
  | value, key :: keys => (value.member? key).bind fun child => child.get? keys

def isScalar : JsonValue → Bool
  | .array _ => false
  | .object _ => false
  | _ => true

end JsonValue

/-! ## Schemas -/

/-- What a single value has to be. -/
inductive Leaf where
  | string
  | nonEmptyString
  | logLevel
  | boolean
  | unsignedInteger
  | port
  deriving DecidableEq, Repr

/-- Whether a field may be left out, and whether it may be empty or zero if it may. -/
inductive Presence where
  | required
  | optional
  | bounded
  deriving DecidableEq, Repr

mutual

inductive Schema where
  | leaf (rule : Leaf)
  | array (rule : Leaf)
  | record (fields : Fields)
  | collection (kind : ParsedNodeKind) (node : Fields)

inductive Fields where
  | nil
  | cons (name : String) (presence : Presence) (schema : Schema) (rest : Fields)

end

def Fields.names : Fields → List String
  | .nil => []
  | .cons name _ _ rest => name :: rest.names

def Fields.find? : Fields → Bytes → Option Schema
  | .nil, _ => none
  | .cons name _ schema rest, key => if key = text name then some schema else rest.find? key

def Fields.named : Fields → Presence → List String
  | .nil, _ => []
  | .cons name presence _ rest, wanted => if presence = wanted then name :: rest.named wanted else rest.named wanted

theorem Fields.find?_isNone : (fields : Fields) → (key : Bytes) →
    (fields.find? key).isNone = !(fields.names.map text).contains key
  | .nil, _ => rfl
  | .cons name _ _ rest, key => by
    have others := rest.find?_isNone key
    rw [Fields.find?, Fields.names, List.map_cons, List.contains_cons]
    by_cases same : key = text name
    · rw [if_pos same]
      simp [same]
    · rw [if_neg same, others]
      simp [same]

/-! ## The rules that are broken -/

def stringViolations (rules : Bytes → List Violation) (value : JsonValue) (path : Bytes) : List Violation :=
  match value with
  | .string value => rules value
  | _ => [.invalidString path]

def booleanViolations (value : JsonValue) (path : Bytes) : List Violation :=
  match value with
  | .boolean _ => []
  | _ => [.invalidBoolean path]

def numberViolations (rules : Nat → List Violation) (value : JsonValue) (path : Bytes) : List Violation :=
  match value.number with
  | some n => if 4294967295 < n then [.outOfRange path] else rules n
  | none => [.invalidUnsignedInteger path]

def Leaf.violations (rule : Leaf) (value : JsonValue) (path : Bytes) : List Violation :=
  match rule with
  | .string => stringViolations (fun _ => []) value path
  | .nonEmptyString => stringViolations (fun a => if a = [] then [.emptyString path] else []) value path
  | .logLevel =>
    stringViolations
      (fun a => if a = [] then [.emptyString path] else if parseLogLevel a = none then [.invalidLogLevel path] else [])
      value path
  | .boolean => booleanViolations value path
  | .unsignedInteger => numberViolations (fun _ => []) value path
  | .port => numberViolations (fun n => if n = 0 ∨ 65535 < n then [.invalidEndpointPort path] else []) value path

/-- The rules for the elements of an array, from an index on. -/
def elementViolations (rule : Leaf) (path : Bytes) : Nat → List JsonValue → List Violation
  | _, [] => []
  | index, value :: rest =>
    rule.violations value (joinPath path (text (toString index))) ++ elementViolations rule path (index + 1) rest

/-- A value that is given where an empty or a zero one is not allowed. -/
def boundViolations (value : JsonValue) (path : Bytes) : List Violation :=
  match value with
  | .string value => if value = [] then [.emptyString path] else []
  | value => if value.number = some 0 then [.notPositive path] else []

/-- The rules for a field, if it is given. -/
def memberViolations (members : Members) (path : Bytes) (name : String) (rules : JsonValue → Bytes → List Violation) :
    List Violation :=
  match members.lookup (text name) with
  | some value => rules value (joinPath path (text name))
  | none => []

def missingViolations (members : Members) (path : Bytes) (name : String) : List Violation :=
  if members.lookup (text name) = none then [.missingRequiredField (joinPath path (text name))] else []

/-- The rules for an object: its fields are known, it is what `identity` asks for, it has the fields it must
have, the values under its fields keep their own rules, and no bounded one is empty or zero. -/
def objectViolations (fields : Fields) (identity : Option Violation) (values : Members → List Violation)
    (value : JsonValue) (path : Bytes) : List Violation :=
  match value with
  | .object members =>
    (members.filter fun member => (fields.find? member.1).isNone).map (fun member => .unknownField member.1 path) ++
      match identity with
      | some violation => [violation]
      | none =>
        (fields.named .required).flatMap (missingViolations members path) ++
          (values members ++
            (fields.named .bounded).flatMap fun name => memberViolations members path name boundViolations)
  | _ => [.expectedObject path]

/-- Whether the key of a node is an id of its kind. -/
def identityViolation (kind : ParsedNodeKind) (nodeId path : Bytes) : Option Violation :=
  if parseNodeId nodeId = some kind then none else some (.invalidNodeId path nodeId)

mutual

def Schema.violations : Schema → JsonValue → Bytes → List Violation
  | .leaf rule, value, path => rule.violations value path
  | .array rule, value, path =>
    match value with
    | .array elements => elementViolations rule path 0 elements
    | _ => [.invalidArray path]
  | .record fields, value, path => objectViolations fields none (fields.violations path) value path
  | .collection kind node, value, path =>
    match value with
    | .object members =>
      if members = [] then [.emptyCollection path]
      else
        members.flatMap fun member =>
          let nodePath := joinPath path member.1
          objectViolations node (identityViolation kind member.1 nodePath) (node.violations nodePath) member.2 nodePath
    | _ => [.expectedObject path]

/-- The rules for the values under the fields of an object. -/
def Fields.violations : Fields → Bytes → Members → List Violation
  | .nil, _, _ => []
  | .cons name _ schema rest, path, members =>
    memberViolations members path name (fun value path => schema.violations value path) ++ rest.violations path members

end

/-! ## Known fields only -/

/-- No object of the value has a field that the schema does not list for it. -/
inductive Schema.Fits : Schema → JsonValue → Prop where
  | leaf {rule : Leaf} {value : JsonValue} (scalar : value.isScalar = true) : Schema.Fits (.leaf rule) value
  | array {rule : Leaf} {elements : List JsonValue} (scalars : ∀ value ∈ elements, value.isScalar = true) :
    Schema.Fits (.array rule) (.array elements)
  | record {fields : Fields} {members : Members} (known : ∀ member ∈ members, fields.find? member.1 ≠ none)
    (fits : ∀ key value schema, members.lookup key = some value → fields.find? key = some schema → schema.Fits value) :
    Schema.Fits (.record fields) (.object members)
  | collection {kind : ParsedNodeKind} {node : Fields} {members : Members} (nonempty : members ≠ [])
    (fits : ∀ member ∈ members, (Schema.record node).Fits member.2) : Schema.Fits (.collection kind node) (.object members)

theorem Leaf.scalar_of_clean {rule : Leaf} {value : JsonValue} {path : Bytes} (clean : rule.violations value path = []) :
    value.isScalar = true := by
  cases value with
  | array elements => cases rule <;> cases clean
  | object members => cases rule <;> cases clean
  | _ => rfl

theorem scalars_of_clean {rule : Leaf} {path : Bytes} {elements : List JsonValue} {index : Nat}
    (clean : elementViolations rule path index elements = []) : ∀ value ∈ elements, value.isScalar = true := by
  induction elements generalizing index with
  | nil =>
    intro value listed
    cases listed
  | cons first rest ih =>
    unfold elementViolations at clean
    obtain ⟨here, after⟩ := List.append_eq_nil_iff.mp clean
    intro value listed
    rcases List.mem_cons.mp listed with rfl | later
    · exact Leaf.scalar_of_clean here
    · exact ih after value later

/-- An object that breaks no rule: all its fields are known, and what stands under them breaks none either. -/
theorem object_of_clean {fields : Fields} {identity : Option Violation} {values : Members → List Violation}
    {value : JsonValue} {path : Bytes} (clean : objectViolations fields identity values value path = []) :
    ∃ members, value = .object members ∧ (∀ member ∈ members, fields.find? member.1 ≠ none) ∧ values members = [] := by
  unfold objectViolations at clean
  split at clean
  · rename_i members
    obtain ⟨known, rest⟩ := List.append_eq_nil_iff.mp clean
    split at rest
    · cases rest
    · obtain ⟨-, inner⟩ := List.append_eq_nil_iff.mp rest
      refine ⟨members, rfl, fun member listed unknown => ?_, (List.append_eq_nil_iff.mp inner).1⟩
      have none : members.filter (fun member => (fields.find? member.1).isNone) = [] := List.map_eq_nil_iff.mp known
      apply List.filter_eq_nil_iff.mp none member listed
      rw [unknown]
      rfl
  · cases clean

mutual

theorem Schema.fits_of_clean : (schema : Schema) → {value : JsonValue} → {path : Bytes} →
    schema.violations value path = [] → schema.Fits value
  | .leaf rule, value, path, clean => by
    rw [Schema.violations] at clean
    exact .leaf (Leaf.scalar_of_clean clean)
  | .array rule, value, path, clean => by
    unfold Schema.violations at clean
    split at clean
    · exact .array (scalars_of_clean clean)
    · cases clean
  | .record fields, value, path, clean => by
    rw [Schema.violations] at clean
    obtain ⟨members, rfl, known, inner⟩ := object_of_clean clean
    exact .record known fun key value schema given listed => Fields.fits_of_clean fields inner given listed
  | .collection kind node, value, path, clean => by
    unfold Schema.violations at clean
    split at clean
    · rename_i members
      split at clean
      · cases clean
      · rename_i nonempty
        refine .collection nonempty fun member listed => ?_
        obtain ⟨inside, same, known, inner⟩ := object_of_clean (List.flatMap_eq_nil_iff.mp clean member listed)
        rw [same]
        exact .record known fun key value schema given found => Fields.fits_of_clean node inner given found
    · cases clean

theorem Fields.fits_of_clean : (fields : Fields) → {path : Bytes} → {members : Members} →
    fields.violations path members = [] → {key : Bytes} → {value : JsonValue} → {schema : Schema} →
    members.lookup key = some value → fields.find? key = some schema → schema.Fits value
  | .nil, _, _, _, _, _, _, _, found => by
    rw [Fields.find?] at found
    cases found
  | .cons name presence schema rest, path, members, clean, key, value, wanted, given, found => by
    rw [Fields.violations] at clean
    obtain ⟨here, after⟩ := List.append_eq_nil_iff.mp clean
    rw [Fields.find?] at found
    split at found
    · rename_i same
      cases found
      unfold memberViolations at here
      rw [← same, given] at here
      exact Schema.fits_of_clean schema here
    · exact Fields.fits_of_clean rest after given found

end

/-! ## The schema of the file -/

def endpointFields : Fields :=
  .cons "host" .required (.leaf .nonEmptyString) <| .cons "port" .required (.leaf .port) .nil

def containerFields : Fields := .cons "listenEndpoint" .required (.record endpointFields) .nil

def envFields : Fields :=
  .cons "id" .required (.leaf .nonEmptyString) <| .cons "environment" .required (.leaf .nonEmptyString) .nil

def loggingFields : Fields :=
  .cons "rootDir" .bounded (.leaf .string) <|
  .cons "minLevel" .optional (.leaf .logLevel) <|
  .cons "flushIntervalMs" .bounded (.leaf .unsignedInteger) <|
  .cons "rotateDaily" .optional (.leaf .boolean) <|
  .cons "maxFileSizeMB" .bounded (.leaf .unsignedInteger) <|
  .cons "maxRetainedFiles" .bounded (.leaf .unsignedInteger) .nil

def kcpFields : Fields :=
  .cons "mtu" .bounded (.leaf .unsignedInteger) <|
  .cons "sndwnd" .bounded (.leaf .unsignedInteger) <|
  .cons "rcvwnd" .bounded (.leaf .unsignedInteger) <|
  .cons "nodelay" .optional (.leaf .boolean) <|
  .cons "intervalMs" .bounded (.leaf .unsignedInteger) <|
  .cons "fastResend" .optional (.leaf .unsignedInteger) <|
  .cons "noCongestionWindow" .optional (.leaf .boolean) <|
  .cons "minRtoMs" .bounded (.leaf .unsignedInteger) <|
  .cons "deadLinkCount" .bounded (.leaf .unsignedInteger) <|
  .cons "streamMode" .optional (.leaf .boolean) .nil

def managedFields : Fields :=
  .cons "assemblyName" .optional (.leaf .nonEmptyString) <|
  .cons "assemblyPath" .optional (.leaf .nonEmptyString) <|
  .cons "runtimeConfigPath" .optional (.leaf .nonEmptyString) <|
  .cons "searchAssemblyPaths" .optional (.array .nonEmptyString) .nil

def gmFields : Fields :=
  .cons "innerNetwork" .required (.record containerFields) <|
  .cons "controlNetwork" .required (.record containerFields) .nil

def gateFields : Fields :=
  .cons "innerNetwork" .required (.record containerFields) <|
  .cons "authNetwork" .required (.record containerFields) <|
  .cons "clientNetwork" .required (.record containerFields) .nil

def gameFields : Fields := .cons "innerNetwork" .required (.record containerFields) .nil

def rootFields : Fields :=
  .cons "env" .required (.record envFields) <|
  .cons "logging" .required (.record loggingFields) <|
  .cons "kcp" .required (.record kcpFields) <|
  .cons "managed" .required (.record managedFields) <|
  .cons "gm" .required (.record gmFields) <|
  .cons "gate" .required (.collection .gate gateFields) <|
  .cons "game" .required (.collection .game gameFields) .nil

def clusterSchema : Schema := .record rootFields

/-- The rules that a document breaks, in the order in which the file is read. The sections of the root are named
without it. -/
def violations (document : JsonValue) : List Violation :=
  objectViolations rootFields none (rootFields.violations []) document (text "root")

theorem fits_of_clean {document : JsonValue} (clean : violations document = []) : clusterSchema.Fits document := by
  obtain ⟨members, rfl, known, inner⟩ := object_of_clean clean
  exact .record known fun key value schema given listed => Fields.fits_of_clean rootFields inner given listed

end XServer.Core.Config
