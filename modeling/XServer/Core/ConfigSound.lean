import XServer.Core.ConfigSchema
import XServer.Lib.Checking

/-!
# What a loaded configuration guarantees

Every reader reports the first rule that its part of the document breaks; what it yields
is what the document says. From the readers follows what holds of a configuration once
`LoadClusterConfigFile` succeeds, and which nodes `SelectNodeConfig` then finds.
-/

namespace XServer.Core.Config
open XServer.Lib XServer.Lib.Wire XServer.Net

/-! ## Single values -/

section Values
variable (value : JsonValue) (path : Bytes)

theorem parseString_checks :
    Checks (parseString value path) (Leaf.violations .string value path) (fun a => value = .string a) := by
  cases value with
  | string a => exact .pure rfl
  | _ => exact .error _ []

theorem parseNonEmptyString_checks :
    Checks (parseNonEmptyString value path) (Leaf.violations .nonEmptyString value path)
      (fun a => value = .string a ∧ a ≠ []) := by
  cases value with
  | string a =>
    show Checks (if a = [] then _ else _) (if a = [] then _ else _) _
    split
    · exact .error _ []
    · rename_i nonempty
      exact .pure ⟨rfl, nonempty⟩
  | _ => exact .error _ []

theorem parseMinLevel_checks :
    Checks (parseMinLevel value path) (Leaf.violations .logLevel value path) (fun _ => True) := by
  unfold parseMinLevel
  cases value with
  | string a =>
    by_cases empty : a = []
    · subst empty
      exact .error _ []
    · have named : parseNonEmptyString (.string a) path = .ok a := if_neg empty
      have rules : Leaf.violations .logLevel (.string a) path =
          if parseLogLevel a = none then [Violation.invalidLogLevel path] else [] := if_neg empty
      rw [named, rules, Checks.ok_bind]
      cases parseLogLevel a with
      | some level => exact .pure trivial
      | none => exact .error _ []
  | _ => exact .error _ []

theorem parseBool_checks :
    Checks (parseBool value path) (Leaf.violations .boolean value path) (fun a => value = .boolean a) := by
  cases value with
  | boolean a => exact .pure rfl
  | _ => exact .error _ []

/-- `parseUnsignedInteger` in terms of the number that the value is. -/
theorem parseUnsignedInteger_eq :
    parseUnsignedInteger value path =
      match value.number with
      | none => .error (.invalidUnsignedInteger path)
      | some n => if 4294967295 < n then .error (.outOfRange path) else .ok (UInt32.ofNat n) := by
  cases value with
  | integer a =>
    unfold parseUnsignedInteger JsonValue.number
    by_cases negative : a < 0
    · simp only [if_pos negative]
    · simp only [if_neg negative]
  | _ => rfl

variable {value path} in
/-- A number is read and then judged. -/
theorem parseUnsignedInteger_bind {α : Type} {f : UInt32 → Reading α} {rules : Nat → List Violation} {post : α → Prop}
    (judged : ∀ a : UInt32, value.number = some a.toNat → Checks (f a) (rules a.toNat) post) :
    Checks (parseUnsignedInteger value path >>= f) (numberViolations rules value path) post := by
  unfold numberViolations
  rw [parseUnsignedInteger_eq]
  cases found : value.number with
  | none => exact .error _ []
  | some n =>
    by_cases beyond : 4294967295 < n
    · simp only [if_pos beyond]
      exact .error _ []
    · have same : (UInt32.ofNat n).toNat = n := UInt32.toNat_ofNat_of_lt' (by rw [UInt32.size]; omega)
      have rest : Checks (f (UInt32.ofNat n)) (rules (UInt32.ofNat n).toNat) post := judged _ (by rw [same, found])
      simp only [if_neg beyond]
      rwa [same] at rest

theorem parseUnsignedInteger_checks :
    Checks (parseUnsignedInteger value path) (Leaf.violations .unsignedInteger value path)
      (fun a => value.number = some a.toNat) := by
  have read : Checks (parseUnsignedInteger value path >>= .ok) (numberViolations (fun _ => []) value path)
      (fun a => value.number = some a.toNat) := parseUnsignedInteger_bind fun a same => .pure same
  rwa [show (Except.ok : UInt32 → Reading UInt32) = Pure.pure from rfl, bind_pure] at read

theorem parsePort_checks :
    Checks (parsePort value path) (Leaf.violations .port value path)
      (fun a => value.number = some a.toNat ∧ 1 ≤ a.toNat ∧ a.toNat ≤ 65535) := by
  apply parseUnsignedInteger_bind
  intro port same
  have zero : port = 0 ↔ port.toNat = 0 := by rw [← UInt32.toNat_inj]; rfl
  have above : port > 65535 ↔ 65535 < port.toNat := UInt32.lt_iff_toNat_lt
  show Checks (if port = 0 ∨ port > 65535 then .error (Violation.invalidEndpointPort path) else .ok port.toUInt16) _ _
  simp only [zero, above]
  split
  · exact .error _ []
  · rename_i within
    have small : port.toUInt16.toNat = port.toNat := by
      rw [UInt32.toNat_toUInt16]
      omega
    apply Checks.pure
    rw [small]
    exact ⟨same, by omega, by omega⟩

end Values

/-! ## Fields of an object -/

/-- A field that may be left out: what its value means if it is given, its default if it is not. -/
structure Given {α : Type} (members : Members) (key : String) (unset : α) (meaning : JsonValue → α → Prop) (a : α) : Prop where
  given : ∀ value, members.lookup (text key) = some value → meaning value a
  left : members.lookup (text key) = none → a = unset

section Fields
variable {α : Type} {members : Members} {path : Bytes} {next : List Violation} {post : α → Prop}

theorem getRequiredMember_checks (key : String) :
    Checks (getRequiredMember members key path) (missingViolations members path key)
      (fun value => members.lookup (text key) = some value) := by
  unfold getRequiredMember missingViolations
  cases found : members.lookup (text key) with
  | some value => exact .pure rfl
  | none => exact .error _ []

theorem parseOptional_checks {parse : JsonValue → Bytes → Reading α} {rules : JsonValue → Bytes → List Violation}
    {meaning : JsonValue → α → Prop} (key : String) {unset : α}
    (reads : ∀ value path, Checks (parse value path) (rules value path) (meaning value)) :
    Checks (parseOptional members key path parse unset) (memberViolations members path key rules)
      (Given members key unset meaning) := by
  unfold parseOptional memberViolations
  cases found : members.lookup (text key) with
  | some value =>
    refine (reads value _).weaken fun a means => ⟨fun other same => ?_, fun absent => ?_⟩
    · rw [found] at same
      cases same
      exact means
    · rw [found] at absent
      cases absent
  | none =>
    refine .pure ⟨fun value same => ?_, fun _ => rfl⟩
    rw [found] at same
    cases same

/-- The check of one bounded number, whose default is positive. -/
theorem positive_checks {rest : Reading α} {key : String} {unset a : UInt32}
    (read : Given members key unset (fun value a => value.number = some a.toNat) a) (positive : unset ≠ 0)
    (after : a ≠ 0 → Checks rest next post) :
    Checks (if a = 0 then .error (.notPositive (joinPath path (text key))) else rest)
      (memberViolations members path key boundViolations ++ next) post := by
  unfold memberViolations
  cases found : members.lookup (text key) with
  | some value =>
    have same : value.number = some a.toNat := read.given value found
    have bound : boundViolations value (joinPath path (text key)) =
        if value.number = some 0 then [.notPositive (joinPath path (text key))] else [] := by
      cases value with
      | string _ => cases same
      | _ => rfl
    have zero : value.number = some 0 ↔ a = 0 := by
      rw [same, Option.some_inj, ← UInt32.toNat_inj]
      rfl
    simp only [bound, zero]
    split
    · exact .error _ next
    · rename_i nonzero
      exact after nonzero
  | none =>
    have kept : a = unset := read.left found
    rw [if_neg (kept ▸ positive)]
    exact after (kept ▸ positive)

/-- The check of a bounded text, whose default is not empty. -/
theorem nonEmpty_checks {rest : Reading α} {key : String} {unset a : Bytes}
    (read : Given members key unset (fun value a => value = .string a) a) (nonempty : unset ≠ [])
    (after : Checks rest next post) :
    Checks (if a = [] then .error (.emptyString (joinPath path (text key))) else rest)
      (memberViolations members path key boundViolations ++ next) post := by
  unfold memberViolations
  cases found : members.lookup (text key) with
  | some value =>
    have same : value = .string a := read.given value found
    subst same
    show Checks _ ((if a = [] then _ else _) ++ next) post
    split
    · exact .error _ next
    · exact after
  | none =>
    rw [if_neg ((read.left found).symm ▸ nonempty)]
    exact after

end Fields

/-! ## Objects -/

theorem record_violations (fields : Fields) (value : JsonValue) (path : Bytes) :
    (Schema.record fields).violations value path = objectViolations fields none (fields.violations path) value path := by
  rw [Schema.violations]

/-- The rules for an object whose fields are known and which is what it should be. -/
def insideViolations (fields : Fields) (values : Members → List Violation) (members : Members) (path : Bytes) :
    List Violation :=
  (fields.named .required).flatMap (missingViolations members path) ++
    (values members ++ (fields.named .bounded).flatMap fun name => memberViolations members path name boundViolations)

section Objects
variable {α : Type} {value : JsonValue} {path : Bytes} {post : α → Prop}

theorem rejectUnknownFields_checks (fields : Fields) {members : Members} :
    Checks (rejectUnknownFields members fields.names path)
      ((members.filter fun member => (fields.find? member.1).isNone).map fun member => .unknownField member.1 path)
      (fun _ => True) := by
  unfold rejectUnknownFields
  simp only [← Fields.find?_isNone]
  cases found : members.find? fun member => (fields.find? member.1).isNone with
  | some member =>
    show List.head? _ = _
    rw [List.head?_map, List.head?_filter, found]
    rfl
  | none =>
    have known : members.filter (fun member => (fields.find? member.1).isNone) = [] := by
      rw [List.filter_eq_nil_iff]
      exact List.find?_eq_none.mp found
    rw [known]
    exact .pure trivial

/-- How every reader of an object begins. -/
theorem object_checks (fields : Fields) {identity : Option Violation} {values : Members → List Violation}
    {inside : Members → Reading α}
    (reads : ∀ members, value = .object members →
      Checks (inside members)
        (match identity with
          | some violation => [violation]
          | none => insideViolations fields values members path) post) :
    Checks (expectObject value path >>= fun members => rejectUnknownFields members fields.names path >>= fun _ =>
      inside members) (objectViolations fields identity values value path) post := by
  unfold objectViolations
  cases value with
  | object members => exact (rejectUnknownFields_checks fields).bind fun _ _ => reads members rfl
  | _ => exact .error _ []

theorem record_checks (fields : Fields) {inside : Members → Reading α}
    (reads : ∀ members, value = .object members →
      Checks (inside members) (insideViolations fields (fields.violations path) members path) post) :
    Checks (expectObject value path >>= fun members => rejectUnknownFields members fields.names path >>= fun _ =>
      inside members) ((Schema.record fields).violations value path) post := by
  rw [record_violations]
  exact object_checks fields reads

end Objects

/-! ## Endpoints -/

/-- The endpoint that stands behind a way of keys, and that it can be listened on. -/
structure EndpointAt (value : JsonValue) (keys : List Bytes) (endpoint : EndpointConfig) : Prop where
  host : value.get? (keys ++ [text "host"]) = some (.string endpoint.host)
  hostNonempty : endpoint.host ≠ []
  port : (value.get? (keys ++ [text "port"])).bind JsonValue.number = some endpoint.port.toNat
  portPositive : 1 ≤ endpoint.port.toNat
  portWithin : endpoint.port.toNat ≤ 65535

theorem get?_below {value child : JsonValue} {key : Bytes} (found : value.member? key = some child) (keys : List Bytes) :
    value.get? (key :: keys) = child.get? keys := by
  rw [JsonValue.get?, found]
  rfl

theorem get?_single (value : JsonValue) (key : Bytes) : value.get? [key] = value.member? key := by
  rw [JsonValue.get?]
  cases value.member? key with
  | none => rfl
  | some child => rfl

theorem EndpointAt.below {value child : JsonValue} {key : Bytes} {keys : List Bytes} {endpoint : EndpointConfig}
    (found : value.member? key = some child) (h : EndpointAt child keys endpoint) :
    EndpointAt value (key :: keys) endpoint := by
  constructor
  · rw [List.cons_append, get?_below found]
    exact h.host
  · exact h.hostNonempty
  · rw [List.cons_append, get?_below found]
    exact h.port
  · exact h.portPositive
  · exact h.portWithin

theorem leaf_violations (rule : Leaf) (value : JsonValue) (path : Bytes) :
    (Schema.leaf rule).violations value path = rule.violations value path := by
  rw [Schema.violations]

theorem memberViolations_given {members : Members} {path : Bytes} {key : String}
    {rules : JsonValue → Bytes → List Violation} {value : JsonValue} (found : members.lookup (text key) = some value) :
    memberViolations members path key rules = rules value (joinPath path (text key)) := by
  unfold memberViolations
  rw [found]

section Readers
variable (value : JsonValue) (path : Bytes)

theorem parseEndpointConfig_checks :
    Checks (parseEndpointConfig value path) ((Schema.record endpointFields).violations value path)
      (EndpointAt value []) := by
  apply record_checks endpointFields
  intro members same
  subst same
  simp only [insideViolations, endpointFields, Fields.named, Fields.violations, List.flatMap_cons, List.flatMap_nil,
    if_true, reduceCtorEq, if_false, List.append_nil, List.append_assoc, leaf_violations]
  refine (getRequiredMember_checks "host").bind fun host hostGiven => ?_
  refine (getRequiredMember_checks "port").bind fun port portGiven => ?_
  rw [memberViolations_given hostGiven, memberViolations_given portGiven]
  refine (parseNonEmptyString_checks _ _).bind fun hostName isHost => ?_
  refine (parsePort_checks _ _).map fun portNumber isPort => ?_
  constructor
  · show ((List.lookup (text "host") members).bind fun child => some child) = _
    rw [hostGiven, isHost.1]
    rfl
  · exact isHost.2
  · show ((List.lookup (text "port") members).bind fun child => some child).bind JsonValue.number = _
    rw [portGiven]
    exact isPort.1
  · exact isPort.2.1
  · exact isPort.2.2

theorem parseListenEndpointContainer_checks :
    Checks (parseListenEndpointContainer value path) ((Schema.record containerFields).violations value path)
      (EndpointAt value [text "listenEndpoint"]) := by
  apply record_checks containerFields
  intro members same
  subst same
  simp only [insideViolations, containerFields, Fields.named, Fields.violations, List.flatMap_cons, List.flatMap_nil,
    if_true, reduceCtorEq, if_false, List.append_nil]
  refine (getRequiredMember_checks "listenEndpoint").bind fun endpoint endpointGiven => ?_
  rw [memberViolations_given endpointGiven]
  exact (parseEndpointConfig_checks _ _).weaken fun config sound => sound.below endpointGiven

theorem parseEnvConfig_checks :
    Checks (parseEnvConfig value path) ((Schema.record envFields).violations value path) (fun _ => True) := by
  apply record_checks envFields
  intro members same
  simp only [insideViolations, envFields, Fields.named, Fields.violations, List.flatMap_cons, List.flatMap_nil,
    if_true, reduceCtorEq, if_false, List.append_nil, List.append_assoc, leaf_violations]
  refine (getRequiredMember_checks "id").bind fun id idGiven => ?_
  refine (getRequiredMember_checks "environment").bind fun environment environmentGiven => ?_
  rw [memberViolations_given idGiven, memberViolations_given environmentGiven]
  refine (parseNonEmptyString_checks _ _).bind fun _ _ => ?_
  exact (parseNonEmptyString_checks _ _).map fun _ _ => trivial

/-! ## Settings -/

/-- A setting of the section behind a way of keys: it is positive, and the document's where the document gives it. -/
structure Setting (value : JsonValue) (keys : List Bytes) (setting : String × UInt32) : Prop where
  positive : 0 < setting.2.toNat
  given : ∀ child, value.get? (keys ++ [text setting.1]) = some child → child.number = some setting.2.toNat

def LoggingConfig.settings (config : LoggingConfig) : List (String × UInt32) :=
  [("flushIntervalMs", config.flushIntervalMs), ("maxFileSizeMB", config.maxFileSizeMb),
    ("maxRetainedFiles", config.maxRetainedFiles)]

theorem setting_of {members : Members} {key : String} {unset a : UInt32}
    (read : Given members key unset (fun value a => value.number = some a.toNat) a) (nonzero : a ≠ 0) :
    Setting (.object members) [] (key, a) := by
  constructor
  · have : a.toNat ≠ 0 := fun zero => nonzero (UInt32.toNat_inj.mp zero)
    exact Nat.pos_of_ne_zero this
  · intro child found
    rw [List.nil_append, get?_single] at found
    exact read.given child found

theorem Setting.below {value child : JsonValue} {key : Bytes} {keys : List Bytes} {setting : String × UInt32}
    (found : value.member? key = some child) (h : Setting child keys setting) : Setting value (key :: keys) setting := by
  constructor
  · exact h.positive
  · intro given here
    rw [List.cons_append, get?_below found] at here
    exact h.given given here

theorem parseLoggingBlock_checks :
    Checks (parseLoggingBlock value {} path) ((Schema.record loggingFields).violations value path)
      (fun config => ∀ setting ∈ config.settings, Setting value [] setting) := by
  apply record_checks loggingFields
  intro members same
  subst same
  simp only [insideViolations, loggingFields, Fields.named, Fields.violations, List.flatMap_cons, List.flatMap_nil,
    if_true, reduceCtorEq, if_false, List.append_nil, List.append_assoc, List.nil_append, leaf_violations]
  refine (parseOptional_checks "rootDir" parseString_checks).bind fun rootDir rootDirRead => ?_
  refine (parseOptional_checks "minLevel" parseMinLevel_checks).bind fun minLevel _ => ?_
  refine (parseOptional_checks "flushIntervalMs" parseUnsignedInteger_checks).bind fun flushIntervalMs flushRead => ?_
  refine (parseOptional_checks "rotateDaily" parseBool_checks).bind fun rotateDaily _ => ?_
  refine (parseOptional_checks "maxFileSizeMB" parseUnsignedInteger_checks).bind fun maxFileSizeMb sizeRead => ?_
  refine (parseOptional_checks "maxRetainedFiles" parseUnsignedInteger_checks).bind fun maxRetainedFiles filesRead => ?_
  let config : LoggingConfig := { rootDir, minLevel, flushIntervalMs, rotateDaily, maxFileSizeMb, maxRetainedFiles }
  have validated : Checks (validateLoggingConfigAtPath config path)
      (memberViolations members path "rootDir" boundViolations ++
        (memberViolations members path "flushIntervalMs" boundViolations ++
          (memberViolations members path "maxFileSizeMB" boundViolations ++
            (memberViolations members path "maxRetainedFiles" boundViolations ++ []))))
      (fun _ => ∀ setting ∈ config.settings, Setting (.object members) [] setting) := by
    refine nonEmpty_checks rootDirRead (by decide +kernel) ?_
    refine positive_checks flushRead (by decide) fun flushPositive => ?_
    refine positive_checks sizeRead (by decide) fun sizePositive => ?_
    refine positive_checks filesRead (by decide) fun filesPositive => ?_
    refine .pure fun setting listed => ?_
    simp only [LoggingConfig.settings, List.mem_cons, List.not_mem_nil, or_false] at listed
    rcases listed with rfl | rfl | rfl
    · exact setting_of flushRead flushPositive
    · exact setting_of sizeRead sizePositive
    · exact setting_of filesRead filesPositive
  rw [List.append_nil] at validated
  exact validated.map fun _ positive => positive

def KcpConfig.settings (config : KcpConfig) : List (String × UInt32) :=
  [("mtu", config.mtu), ("sndwnd", config.sndwnd), ("rcvwnd", config.rcvwnd), ("intervalMs", config.intervalMs),
    ("minRtoMs", config.minRtoMs), ("deadLinkCount", config.deadLinkCount)]

theorem parseKcpConfig_checks :
    Checks (parseKcpConfig value {} path) ((Schema.record kcpFields).violations value path)
      (fun config => ∀ setting ∈ config.settings, Setting value [] setting) := by
  apply record_checks kcpFields
  intro members same
  subst same
  simp only [insideViolations, kcpFields, Fields.named, Fields.violations, List.flatMap_cons, List.flatMap_nil,
    if_true, reduceCtorEq, if_false, List.append_nil, List.append_assoc, List.nil_append, leaf_violations]
  refine (parseOptional_checks "mtu" parseUnsignedInteger_checks).bind fun mtu mtuRead => ?_
  refine (parseOptional_checks "sndwnd" parseUnsignedInteger_checks).bind fun sndwnd sndwndRead => ?_
  refine (parseOptional_checks "rcvwnd" parseUnsignedInteger_checks).bind fun rcvwnd rcvwndRead => ?_
  refine (parseOptional_checks "nodelay" parseBool_checks).bind fun nodelay _ => ?_
  refine (parseOptional_checks "intervalMs" parseUnsignedInteger_checks).bind fun intervalMs intervalRead => ?_
  refine (parseOptional_checks "fastResend" parseUnsignedInteger_checks).bind fun fastResend _ => ?_
  refine (parseOptional_checks "noCongestionWindow" parseBool_checks).bind fun noCongestionWindow _ => ?_
  refine (parseOptional_checks "minRtoMs" parseUnsignedInteger_checks).bind fun minRtoMs minRtoRead => ?_
  refine (parseOptional_checks "deadLinkCount" parseUnsignedInteger_checks).bind fun deadLinkCount deadLinkRead => ?_
  refine (parseOptional_checks "streamMode" parseBool_checks).bind fun streamMode _ => ?_
  let config : KcpConfig :=
    { mtu, sndwnd, rcvwnd, nodelay, intervalMs, fastResend, noCongestionWindow, minRtoMs, deadLinkCount, streamMode }
  have validated : Checks (validateKcpConfig config path)
      (memberViolations members path "mtu" boundViolations ++
        (memberViolations members path "sndwnd" boundViolations ++
          (memberViolations members path "rcvwnd" boundViolations ++
            (memberViolations members path "intervalMs" boundViolations ++
              (memberViolations members path "minRtoMs" boundViolations ++
                (memberViolations members path "deadLinkCount" boundViolations ++ []))))))
      (fun _ => ∀ setting ∈ config.settings, Setting (.object members) [] setting) := by
    refine positive_checks mtuRead (by decide) fun mtuPositive => ?_
    refine positive_checks sndwndRead (by decide) fun sndwndPositive => ?_
    refine positive_checks rcvwndRead (by decide) fun rcvwndPositive => ?_
    refine positive_checks intervalRead (by decide) fun intervalPositive => ?_
    refine positive_checks minRtoRead (by decide) fun minRtoPositive => ?_
    refine positive_checks deadLinkRead (by decide) fun deadLinkPositive => ?_
    refine .pure fun setting listed => ?_
    simp only [KcpConfig.settings, List.mem_cons, List.not_mem_nil, or_false] at listed
    rcases listed with rfl | rfl | rfl | rfl | rfl | rfl
    · exact setting_of mtuRead mtuPositive
    · exact setting_of sndwndRead sndwndPositive
    · exact setting_of rcvwndRead rcvwndPositive
    · exact setting_of intervalRead intervalPositive
    · exact setting_of minRtoRead minRtoPositive
    · exact setting_of deadLinkRead deadLinkPositive
  rw [List.append_nil] at validated
  exact validated.map fun _ positive => positive

/-! ## Managed code -/

theorem parseAssetPath_checks (configBasePath : Bytes) :
    Checks (parseAssetPath configBasePath value path) (Leaf.violations .nonEmptyString value path) (fun _ => True) :=
  (parseNonEmptyString_checks _ _).map fun _ _ => trivial

theorem parseSearchPaths_checks (configBasePath : Bytes) (elements : List JsonValue) (index : Nat) :
    Checks (parseSearchPaths configBasePath path index elements) (elementViolations .nonEmptyString path index elements)
      (fun _ => True) := by
  induction elements generalizing index with
  | nil => exact .pure trivial
  | cons value rest ih =>
    refine (parseAssetPath_checks value _ configBasePath).bind fun entry _ => ?_
    exact (ih (index + 1)).map fun _ _ => trivial

theorem parseSearchAssemblyPaths_checks (configBasePath : Bytes) :
    Checks (parseSearchAssemblyPaths configBasePath value path) ((Schema.array .nonEmptyString).violations value path)
      (fun _ => True) := by
  unfold Schema.violations
  cases value with
  | array elements => exact parseSearchPaths_checks path configBasePath elements 0
  | _ => exact .error _ []

theorem parseManagedConfig_checks (configBasePath : Bytes) :
    Checks (parseManagedConfig value {} configBasePath path) ((Schema.record managedFields).violations value path)
      (fun _ => True) := by
  apply record_checks managedFields
  intro members same
  simp only [insideViolations, managedFields, Fields.named, Fields.violations, List.flatMap_nil, reduceCtorEq, if_false,
    List.append_nil, List.nil_append, leaf_violations]
  refine (parseOptional_checks "assemblyName" parseNonEmptyString_checks).bind fun _ _ => ?_
  refine (parseOptional_checks "assemblyPath" fun value path =>
    parseAssetPath_checks value path configBasePath).bind fun _ _ => ?_
  refine (parseOptional_checks "runtimeConfigPath" fun value path =>
    parseAssetPath_checks value path configBasePath).bind fun _ _ => ?_
  exact (parseOptional_checks "searchAssemblyPaths" fun value path =>
    parseSearchAssemblyPaths_checks value path configBasePath).map fun _ _ => trivial

/-! ## Nodes -/

/-- The listening endpoint under a field of a node. -/
abbrev ListenAt (value : JsonValue) (keys : List Bytes) (field : String) (endpoint : EndpointConfig) : Prop :=
  EndpointAt value (keys ++ [text field, text "listenEndpoint"]) endpoint

structure GmAt (value : JsonValue) (keys : List Bytes) (gm : GmConfig) : Prop where
  inner : ListenAt value keys "innerNetwork" gm.innerNetworkListenEndpoint
  control : ListenAt value keys "controlNetwork" gm.controlNetworkListenEndpoint

structure GateAt (value : JsonValue) (keys : List Bytes) (gate : GateConfig) : Prop where
  inner : ListenAt value keys "innerNetwork" gate.innerNetworkListenEndpoint
  auth : ListenAt value keys "authNetwork" gate.authNetworkListenEndpoint
  client : ListenAt value keys "clientNetwork" gate.clientNetworkListenEndpoint

structure GameAt (value : JsonValue) (keys : List Bytes) (game : GameConfig) : Prop where
  inner : ListenAt value keys "innerNetwork" game.innerNetworkListenEndpoint

theorem parseGmConfig_checks :
    Checks (parseGmConfig value path) ((Schema.record gmFields).violations value path) (GmAt value []) := by
  apply record_checks gmFields
  intro members same
  subst same
  simp only [insideViolations, gmFields, Fields.named, Fields.violations, List.flatMap_cons, List.flatMap_nil,
    if_true, reduceCtorEq, if_false, List.append_nil, List.append_assoc]
  refine (getRequiredMember_checks "innerNetwork").bind fun inner innerGiven => ?_
  refine (getRequiredMember_checks "controlNetwork").bind fun control controlGiven => ?_
  rw [memberViolations_given innerGiven, memberViolations_given controlGiven]
  refine (parseListenEndpointContainer_checks _ _).bind fun _ innerAt => ?_
  refine (parseListenEndpointContainer_checks _ _).map fun _ controlAt => ?_
  constructor
  · exact innerAt.below innerGiven
  · exact controlAt.below controlGiven

/-- What a node's key has to be, before its fields are looked for. -/
theorem identity_checks {α : Type} {nodeId : Bytes} {kind : ParsedNodeKind} {rest : Reading α} {rules : List Violation}
    {post : α → Prop} (named : parseNodeId nodeId = some kind → Checks rest rules post) :
    Checks (validateNodeIdKind nodeId kind path >>= fun _ => rest)
      (match identityViolation kind nodeId path with
        | some violation => [violation]
        | none => rules) (fun a => parseNodeId nodeId = some kind ∧ post a) := by
  unfold validateNodeIdKind identityViolation
  by_cases same : parseNodeId nodeId = some kind
  · simp only [if_pos same]
    exact (named same).weaken fun a h => ⟨same, h⟩
  · simp only [if_neg same]
    exact .error _ []

theorem parseGateConfig_checks (nodeId : Bytes) :
    Checks (parseGateConfig value nodeId path)
      (objectViolations gateFields (identityViolation .gate nodeId path) (gateFields.violations path) value path)
      (fun gate => parseNodeId nodeId = some .gate ∧ GateAt value [] gate) := by
  apply object_checks gateFields
  intro members same
  subst same
  apply identity_checks
  intro _
  simp only [insideViolations, gateFields, Fields.named, Fields.violations, List.flatMap_cons, List.flatMap_nil,
    if_true, reduceCtorEq, if_false, List.append_nil, List.append_assoc]
  refine (getRequiredMember_checks "innerNetwork").bind fun inner innerGiven => ?_
  refine (getRequiredMember_checks "authNetwork").bind fun auth authGiven => ?_
  refine (getRequiredMember_checks "clientNetwork").bind fun client clientGiven => ?_
  rw [memberViolations_given innerGiven, memberViolations_given authGiven, memberViolations_given clientGiven]
  refine (parseListenEndpointContainer_checks _ _).bind fun _ innerAt => ?_
  refine (parseListenEndpointContainer_checks _ _).bind fun _ authAt => ?_
  refine (parseListenEndpointContainer_checks _ _).map fun _ clientAt => ?_
  constructor
  · exact innerAt.below innerGiven
  · exact authAt.below authGiven
  · exact clientAt.below clientGiven

theorem parseGameConfig_checks (nodeId : Bytes) :
    Checks (parseGameConfig value nodeId path)
      (objectViolations gameFields (identityViolation .game nodeId path) (gameFields.violations path) value path)
      (fun game => parseNodeId nodeId = some .game ∧ GameAt value [] game) := by
  apply object_checks gameFields
  intro members same
  subst same
  apply identity_checks
  intro _
  simp only [insideViolations, gameFields, Fields.named, Fields.violations, List.flatMap_cons, List.flatMap_nil,
    if_true, reduceCtorEq, if_false, List.append_nil]
  refine (getRequiredMember_checks "innerNetwork").bind fun inner innerGiven => ?_
  rw [memberViolations_given innerGiven]
  refine (parseListenEndpointContainer_checks _ _).map fun _ innerAt => ?_
  constructor
  exact innerAt.below innerGiven

end Readers

/-! ## Collections -/

/-- What became of one key of a collection that is read into `nodes`. -/
structure Collected {α : Type} (members : Members) (meaning : Bytes → JsonValue → α → Prop) (nodes after : Table Bytes α)
    (id : Bytes) : Prop where
  kept : ∀ config, nodes[id]? = some config → after[id]? = some config
  absent : nodes[id]? = none → members.lookup id = none → after[id]? = none
  read : nodes[id]? = none → ∀ value, members.lookup id = some value → ∃ config, after[id]? = some config ∧ meaning id value config

section Collections
variable {α : Type} {parseNode : JsonValue → Bytes → Bytes → Reading α} {meaning : Bytes → JsonValue → α → Prop}
  {rules : Bytes → JsonValue → Bytes → List Violation}

theorem emplace_other (nodes : Table Bytes α) {key id : Bytes} (config : α) (other : key ≠ id) :
    (if nodes.contains key then nodes else nodes.insert key config)[id]? = nodes[id]? := by
  split
  · rfl
  · exact Table.get_insert_of_ne nodes config other

theorem emplace_fresh {nodes : Table Bytes α} {key : Bytes} (config : α) (fresh : nodes[key]? = none) :
    (if nodes.contains key then nodes else nodes.insert key config)[key]? = some config := by
  have absent : nodes.contains key = false := by
    rw [Std.ExtTreeMap.contains_eq_isSome_getElem?, fresh]
    rfl
  rw [if_neg (by rw [absent]; exact Bool.false_ne_true)]
  exact Table.get_insert_self nodes key config

theorem parseNodes_checks
    (reads : ∀ key value path, Checks (parseNode value key path) (rules key value path) (meaning key value))
    (path : Bytes) (members : Members) (nodes : Table Bytes α) :
    Checks (parseNodes parseNode path nodes members)
      (members.flatMap fun member => rules member.1 member.2 (joinPath path member.1))
      (fun after => ∀ id, Collected members meaning nodes after id) := by
  induction members generalizing nodes with
  | nil =>
    refine .pure fun id => ⟨fun config here => here, fun absent _ => absent, fun _ value found => ?_⟩
    cases found
  | cons member rest ih =>
    obtain ⟨key, value⟩ := member
    rw [List.flatMap_cons]
    refine (reads key value (joinPath path key)).bind fun config means => ?_
    refine (ih _).weaken fun after collected id => ?_
    obtain ⟨kept, absent, read⟩ := collected id
    by_cases same : id = key
    · subst same
      have found : List.lookup id ((id, value) :: rest) = some value := List.lookup_cons_self
      constructor
      · intro earlier here
        apply kept
        rw [if_pos (by rw [Std.ExtTreeMap.contains_eq_isSome_getElem?, here]; rfl)]
        exact here
      · intro _ missing
        rw [found] at missing
        cases missing
      · intro fresh other given
        rw [found] at given
        cases given
        exact ⟨config, kept config (emplace_fresh config fresh), means⟩
    · have skipped : List.lookup id ((key, value) :: rest) = rest.lookup id := by
        rw [List.lookup_cons, beq_false_of_ne same]
      have same' := emplace_other nodes config (Ne.symm same)
      rw [same'] at kept absent read
      rw [← skipped] at absent read
      exact ⟨kept, absent, read⟩

/-- A collection has a node for each of its keys, and for no other. -/
structure CollectionAt (value : JsonValue) (meaning : Bytes → JsonValue → α → Prop) (nodes : Table Bytes α) : Prop where
  known : ∀ id : Bytes, nodes[id]? = none ↔ value.member? id = none
  read : ∀ (id : Bytes) config, nodes[id]? = some config → ∃ node, value.member? id = some node ∧ meaning id node config
  nonempty : ∃ id : Bytes, nodes[id]? ≠ none

theorem parseCollection_checks
    (reads : ∀ key value path, Checks (parseNode value key path) (rules key value path) (meaning key value))
    (value : JsonValue) (path : Bytes) :
    Checks (parseCollection parseNode value path)
      (match value with
        | .object members =>
          if members = [] then [.emptyCollection path]
          else members.flatMap fun member => rules member.1 member.2 (joinPath path member.1)
        | _ => [.expectedObject path])
      (CollectionAt value meaning) := by
  cases value with
  | object members =>
    show Checks (if members = [] then .error (.emptyCollection path) else parseNodes parseNode path ∅ members) _ _
    by_cases empty : members = []
    · simp only [if_pos empty]
      exact .error _ []
    · simp only [if_neg empty]
      refine (parseNodes_checks reads path members ∅).weaken fun nodes collected => ?_
      have fresh : ∀ id : Bytes, (∅ : Table Bytes α)[id]? = none := fun _ => Std.ExtTreeMap.getElem?_empty
      have present : ∀ id child, members.lookup id = some child → ∃ config, nodes[id]? = some config ∧ meaning id child config :=
        fun id => (collected id).read (fresh id)
      constructor
      · intro id
        constructor
        · intro absent
          cases found : members.lookup id with
          | none => exact found
          | some child =>
            obtain ⟨config, here, -⟩ := present id child found
            rw [absent] at here
            cases here
        · exact (collected id).absent (fresh id)
      · intro id config here
        cases found : members.lookup id with
        | none =>
          rw [(collected id).absent (fresh id) found] at here
          cases here
        | some child =>
          obtain ⟨other, there, means⟩ := present id child found
          rw [here] at there
          cases there
          exact ⟨child, found, means⟩
      · obtain ⟨first, rest, rfl⟩ := List.exists_cons_of_ne_nil empty
        obtain ⟨config, here, -⟩ := present first.1 first.2 List.lookup_cons_self
        refine ⟨first.1, fun absent => ?_⟩
        rw [here] at absent
        cases absent
  | _ => exact .error _ []

end Collections

theorem parseGateCollection_checks (value : JsonValue) (path : Bytes) :
    Checks (parseGateCollection value path) ((Schema.collection .gate gateFields).violations value path)
      (CollectionAt value fun id node gate => parseNodeId id = some .gate ∧ GateAt node [] gate) := by
  have read := parseCollection_checks (fun key value path => parseGateConfig_checks value path key) value path
  unfold Schema.violations
  exact read

theorem parseGameCollection_checks (value : JsonValue) (path : Bytes) :
    Checks (parseGameCollection value path) ((Schema.collection .game gameFields).violations value path)
      (CollectionAt value fun id node game => parseNodeId id = some .game ∧ GameAt node [] game) := by
  have read := parseCollection_checks (fun key value path => parseGameConfig_checks value path key) value path
  unfold Schema.violations
  exact read

/-! ## The whole file -/

/-- An id of a collection: its word, and digits after it. -/
def NodeId (word : String) (id : Bytes) : Prop :=
  ∃ digits : Bytes, digits ≠ [] ∧ (∀ ch ∈ digits, 48 ≤ ch ∧ ch ≤ 57) ∧ id = text word ++ digits

theorem digits_of_suffix {id : Bytes} {word : String} (starts : id.take 4 = text word)
    (suffix : hasDigitsSuffix id 4 = true) : NodeId word id := by
  unfold hasDigitsSuffix at suffix
  rw [Bool.and_eq_true, decide_eq_true_eq, List.all_eq_true] at suffix
  refine ⟨id.drop 4, ?_, fun ch listed => ?_, ?_⟩
  · intro nothing
    have short : id.length ≤ 4 := List.drop_eq_nil_iff.mp nothing
    omega
  · have digit := suffix.2 ch listed
    rwa [Bool.and_eq_true, decide_eq_true_eq, decide_eq_true_eq] at digit
  · rw [← starts, List.take_append_drop]

theorem nodeId_of_gate {id : Bytes} (h : parseNodeId id = some .gate) : NodeId "Gate" id := by
  unfold parseNodeId at h
  split at h
  · cases h
  split at h
  · rename_i gate
    rw [Bool.and_eq_true, decide_eq_true_eq] at gate
    exact digits_of_suffix gate.1 gate.2
  split at h <;> cases h

theorem nodeId_of_game {id : Bytes} (h : parseNodeId id = some .game) : NodeId "Game" id := by
  unfold parseNodeId at h
  split at h
  · cases h
  split at h
  · cases h
  split at h
  · rename_i game
    rw [Bool.and_eq_true, decide_eq_true_eq] at game
    exact digits_of_suffix game.1 game.2
  · cases h

/-- A configuration that says what the document says, and that the nodes can be started with. -/
structure ConfigAt (document : JsonValue) (config : ClusterConfig) : Prop where
  logging : ∀ setting ∈ config.logging.settings, Setting document [text "logging"] setting
  kcp : ∀ setting ∈ config.kcp.settings, Setting document [text "kcp"] setting
  gm : GmAt document [text "gm"] config.gm
  gateKeys : ∀ id : Bytes, config.gates[id]? = none ↔ document.get? [text "gate", id] = none
  gates : ∀ (id : Bytes) gate, config.gates[id]? = some gate →
    parseNodeId id = some .gate ∧ GateAt document [text "gate", id] gate
  gatesNonempty : ∃ id : Bytes, config.gates[id]? ≠ none
  gameKeys : ∀ id : Bytes, config.games[id]? = none ↔ document.get? [text "game", id] = none
  games : ∀ (id : Bytes) game, config.games[id]? = some game →
    parseNodeId id = some .game ∧ GameAt document [text "game", id] game
  gamesNonempty : ∃ id : Bytes, config.games[id]? ≠ none

theorem parseClusterConfig_checks (document : JsonValue) (configBasePath : Bytes) :
    Checks (parseClusterConfig document configBasePath) (violations document) (ConfigAt document) := by
  apply object_checks rootFields
  intro members same
  subst same
  simp only [insideViolations, rootFields, Fields.named, Fields.violations, List.flatMap_cons, List.flatMap_nil,
    if_true, reduceCtorEq, if_false, List.append_nil, List.append_assoc]
  refine (getRequiredMember_checks "env").bind fun env envGiven => ?_
  refine (getRequiredMember_checks "logging").bind fun logging loggingGiven => ?_
  refine (getRequiredMember_checks "kcp").bind fun kcp kcpGiven => ?_
  refine (getRequiredMember_checks "managed").bind fun managed managedGiven => ?_
  refine (getRequiredMember_checks "gm").bind fun gm gmGiven => ?_
  refine (getRequiredMember_checks "gate").bind fun gate gateGiven => ?_
  refine (getRequiredMember_checks "game").bind fun game gameGiven => ?_
  rw [memberViolations_given envGiven, memberViolations_given loggingGiven, memberViolations_given kcpGiven,
    memberViolations_given managedGiven, memberViolations_given gmGiven, memberViolations_given gateGiven,
    memberViolations_given gameGiven]
  refine (parseEnvConfig_checks _ _).bind fun _ _ => ?_
  refine (parseLoggingBlock_checks _ _).bind fun loggingConfig loggingAt => ?_
  refine (parseKcpConfig_checks _ _).bind fun kcpConfig kcpAt => ?_
  refine (parseManagedConfig_checks _ _ configBasePath).bind fun _ _ => ?_
  refine (parseGmConfig_checks _ _).bind fun gmConfig gmAt => ?_
  refine (parseGateCollection_checks _ _).bind fun gates gatesAt => ?_
  refine (parseGameCollection_checks _ _).map fun games gamesAt => ?_
  have inGate : ∀ keys, (JsonValue.object members).get? (text "gate" :: keys) = gate.get? keys := get?_below gateGiven
  have inGame : ∀ keys, (JsonValue.object members).get? (text "game" :: keys) = game.get? keys := get?_below gameGiven
  constructor
  · intro setting listed
    exact (loggingAt setting listed).below loggingGiven
  · intro setting listed
    exact (kcpAt setting listed).below kcpGiven
  · constructor
    · exact gmAt.inner.below gmGiven
    · exact gmAt.control.below gmGiven
  · intro id
    rw [inGate, get?_single]
    exact gatesAt.known id
  · intro id config here
    obtain ⟨node, found, kind, nodeAt⟩ := gatesAt.read id config here
    refine ⟨kind, ?_, ?_, ?_⟩
    · exact (nodeAt.inner.below found).below gateGiven
    · exact (nodeAt.auth.below found).below gateGiven
    · exact (nodeAt.client.below found).below gateGiven
  · exact gatesAt.nonempty
  · intro id
    rw [inGame, get?_single]
    exact gamesAt.known id
  · intro id config here
    obtain ⟨node, found, kind, nodeAt⟩ := gamesAt.read id config here
    refine ⟨kind, ?_⟩
    constructor
    exact (nodeAt.inner.below found).below gameGiven
  · exact gamesAt.nonempty

/-! ## Loading and selecting -/

theorem ite_ne {α : Type} {p : Prop} [Decidable p] {a b c : α} (ha : a ≠ c) (hb : b ≠ c) : (if p then a else b) ≠ c := by
  split
  · exact ha
  · exact hb

theorem classifyConfigError_ne_none (message : Bytes) : classifyConfigError message ≠ .none := by
  unfold classifyConfigError
  iterate 14 refine ite_ne (by decide) ?_
  decide

/-- A call that succeeds has read the document; any other leaves the output as it was. -/
theorem load_cases (load : Except Bytes JsonValue) (configBasePath : Bytes) (output : Option ClusterConfig) :
    ((loadClusterConfigFile load configBasePath output).code ≠ .none ∧
        (loadClusterConfigFile load configBasePath output).output = output) ∨
      ∃ document config, load = .ok document ∧ parseClusterConfig document configBasePath = .ok config ∧
        loadClusterConfigFile load configBasePath output = { code := .none, output := some config, errorMessage := [] } := by
  unfold loadClusterConfigFile
  split
  · left
    constructor
    · intro impossible
      cases impossible
    · rfl
  cases load with
  | error detail =>
    left
    constructor
    · intro impossible
      cases impossible
    · rfl
  | ok document =>
    cases parsed : parseClusterConfig document configBasePath with
    | error violation =>
      left
      simp only [parsed]
      exact ⟨classifyConfigError_ne_none _, rfl⟩
    | ok config =>
      right
      refine ⟨document, config, rfl, parsed, ?_⟩
      simp only [parsed]

/-- Every id of a configuration selects its own node. -/
structure Selects (config : ClusterConfig) : Prop where
  gate : ∀ (id : Bytes) gate, config.gates[id]? = some gate → ∀ before,
    selectNodeConfig config id (some before) =
      { code := .none
        output := some (some
          (.gate gate.innerNetworkListenEndpoint gate.authNetworkListenEndpoint gate.clientNetworkListenEndpoint))
        errorMessage := [] }
  game : ∀ (id : Bytes) game, config.games[id]? = some game → ∀ before,
    selectNodeConfig config id (some before) =
      { code := .none
        output := some (some (.game game.innerNetworkListenEndpoint config.managed))
        errorMessage := [] }

theorem ConfigAt.selects {document : JsonValue} {config : ClusterConfig} (h : ConfigAt document config) : Selects config := by
  constructor
  · intro id gate here before
    unfold selectNodeConfig
    simp only [Option.isNone_some, Bool.false_eq_true, if_false, (h.gates id gate here).1, here]
  · intro id game here before
    unfold selectNodeConfig
    simp only [Option.isNone_some, Bool.false_eq_true, if_false, (h.games id game here).1, here]

/-! ## The parts that the inner network reads -/

def EndpointConfig.endpoint (config : EndpointConfig) : Endpoint := { host := config.host, port := config.port }

theorem distinct_keys {ν : Type} (table : Table Bytes ν) : (table.toList.map (·.1)).Nodup := by
  have apart := Std.ExtTreeMap.distinct_keys_toList (t := table)
  rw [List.Nodup, List.pairwise_map]
  exact apart.imp fun {a b} different same => different (Std.LawfulEqCmp.compare_eq_iff_eq.mpr same)

/-- The cluster that a loaded configuration describes. -/
def ConfigAt.cluster {document : JsonValue} {config : ClusterConfig} (h : ConfigAt document config) : Core.ClusterConfig where
  gmEndpoint := config.gm.innerNetworkListenEndpoint.endpoint
  gates := config.gates.toList.map fun e => ⟨e.1, e.2.innerNetworkListenEndpoint.endpoint⟩
  games := config.games.toList.map fun e => ⟨e.1, e.2.innerNetworkListenEndpoint.endpoint⟩
  gateIds := by
    intro entry listed
    obtain ⟨e, mem, rfl⟩ := List.mem_map.mp listed
    exact (h.gates e.1 e.2 (Std.ExtTreeMap.mem_toList_iff_getElem?_eq_some.mp mem)).1
  gameIds := by
    intro entry listed
    obtain ⟨e, mem, rfl⟩ := List.mem_map.mp listed
    exact (h.games e.1 e.2 (Std.ExtTreeMap.mem_toList_iff_getElem?_eq_some.mp mem)).1
  gatesDistinct := by
    rw [List.map_map]
    exact distinct_keys config.gates
  gamesDistinct := by
    rw [List.map_map]
    exact distinct_keys config.games

/-- A configuration is handed out only if the document it was read from breaks no rule, and then it is the
document's; every id of it selects its node, and a call that fails hands out nothing. -/
theorem load_sound (load : Except Bytes JsonValue) (configBasePath : Bytes) (output : Option ClusterConfig) :
    let after := loadClusterConfigFile load configBasePath output
    (after.code = .none → ∃ document config, load = .ok document ∧ after.output = some config ∧
      ConfigAt document config ∧
      (∀ id : Bytes, config.gates[id]? ≠ none → NodeId "Gate" id) ∧
      (∀ id : Bytes, config.games[id]? ≠ none → NodeId "Game" id) ∧
      clusterSchema.Fits document ∧ Selects config) ∧
    (after.code ≠ .none → after.output = output) := by
  intro after
  rcases load_cases load configBasePath output with ⟨failed, kept⟩ | ⟨document, config, loaded, parsed, ended⟩
  · constructor
    · intro success
      exact absurd success failed
    · intro _
      exact kept
  · have outcome : after = { code := .none, output := some config, errorMessage := [] } := ended
    constructor
    · intro _
      obtain ⟨clean, sound⟩ := (parseClusterConfig_checks document configBasePath).result parsed
      refine ⟨document, config, loaded, by rw [outcome], sound, fun id present => ?_, fun id present => ?_,
        fits_of_clean clean, sound.selects⟩
      · obtain ⟨gate, here⟩ := Option.ne_none_iff_exists'.mp present
        exact nodeId_of_gate (sound.gates id gate here).1
      · obtain ⟨game, here⟩ := Option.ne_none_iff_exists'.mp present
        exact nodeId_of_game (sound.games id game here).1
    · intro failed
      rw [outcome] at failed
      exact absurd rfl failed

end XServer.Core.Config
