import XServer.Lib.Fallible
import XServer.Managed.RelayCodec

/-!
# Entity RPC payloads

`shared/EntityRpc/EntityRpcJsonCodec.cs` and the dispatcher of
`Framework/Rpc/ServerEntityRpcDispatcher.cs`, which hands it what a remote peer has
sent. A parsed document keeps its strings and numbers as they are written, and the
calls that read them are the library's: `GetString` and the numeric `TryGet`
methods throw `InvalidOperationException` where the codec catches `FormatException`
and `JsonException`.
-/

namespace XServer.Managed
open XServer.Lib XServer.Lib.Wire XServer.Net XServer.Core

/-! ## Types and values -/

inductive IntegralType where
  | byte
  | sbyte
  | int16
  | uint16
  | int32
  | uint32
  | int64
  | uint64
  deriving DecidableEq, Repr

namespace IntegralType

def minValue : IntegralType → Int
  | byte | uint16 | uint32 | uint64 => 0
  | sbyte => -2 ^ 7
  | int16 => -2 ^ 15
  | int32 => -2 ^ 31
  | int64 => -2 ^ 63

def maxValue : IntegralType → Int
  | byte => 2 ^ 8 - 1
  | sbyte => 2 ^ 7 - 1
  | int16 => 2 ^ 15 - 1
  | uint16 => 2 ^ 16 - 1
  | int32 => 2 ^ 31 - 1
  | uint32 => 2 ^ 32 - 1
  | int64 => 2 ^ 63 - 1
  | uint64 => 2 ^ 64 - 1

def fullName : IntegralType → Bytes
  | byte => text "System.Byte"
  | sbyte => text "System.SByte"
  | int16 => text "System.Int16"
  | uint16 => text "System.UInt16"
  | int32 => text "System.Int32"
  | uint32 => text "System.UInt32"
  | int64 => text "System.Int64"
  | uint64 => text "System.UInt64"

end IntegralType

/-- A value of an integral type. -/
structure Integral where
  type : IntegralType
  value : Int
  inRange : type.minValue ≤ value ∧ value ≤ type.maxValue
  deriving DecidableEq, Repr

/-- `System.Decimal`: a sign, an integer of 96 bits and a power of ten that divides it. -/
structure Decimal where
  negative : Bool
  coefficient : BitVec 96
  scale : Fin 29
  deriving DecidableEq, Repr

/-- A type that is not `Nullable<T>`. -/
inductive ClrType where
  | string
  | guid
  | boolean
  | integral (type : IntegralType)
  | single
  | double
  | decimal
  | enum (fullName : Bytes) (underlying : IntegralType)
  | other (fullName : Bytes) (isValueType : Bool)
  deriving DecidableEq, Repr

/-- The codes that the codec tells apart; `object` stands for the rest. -/
inductive TypeCode where
  | object
  | boolean
  | integral (type : IntegralType)
  | single
  | double
  | decimal
  | string
  deriving DecidableEq, Repr

namespace ClrType

def isValueType : ClrType → Bool
  | string => false
  | other _ isValueType => isValueType
  | _ => true

/-- `Type.GetTypeCode`: that of an enumeration is the one of its underlying type. -/
def typeCode : ClrType → TypeCode
  | string => .string
  | boolean => .boolean
  | integral type => .integral type
  | single => .single
  | double => .double
  | decimal => .decimal
  | enum _ underlying => .integral underlying
  | guid | other .. => .object

def fullName : ClrType → Bytes
  | string => text "System.String"
  | guid => text "System.Guid"
  | boolean => text "System.Boolean"
  | integral type => type.fullName
  | single => text "System.Single"
  | double => text "System.Double"
  | decimal => text "System.Decimal"
  | enum fullName _ | other fullName _ => fullName

end ClrType

/-- The type of a parameter; `Nullable<T>` is taken of value types only. -/
inductive ParameterType where
  | plain (type : ClrType)
  | nullable (fullName : Bytes) (type : ClrType) (isValue : type.isValueType = true)

namespace ParameterType

def effectiveType : ParameterType → ClrType
  | plain type | nullable _ type _ => type

def isNullable : ParameterType → Bool
  | plain _ => false
  | nullable .. => true

def fullName : ParameterType → Bytes
  | plain type => type.fullName
  | nullable fullName .. => fullName

end ParameterType

/-- An `object?`. Strings are their UTF-8 text and floating values their bits. -/
inductive Argument where
  | null
  | string (value : Bytes)
  | guid (value : Guid)
  | boolean (value : Bool)
  | integral (value : Integral)
  | single (bits : UInt32)
  | double (bits : UInt64)
  | decimal (value : Decimal)
  | enum (fullName : Bytes) (value : Integral)
  | other (fullName : Bytes) (isValueType : Bool)
  deriving DecidableEq, Repr

/-- `GetType`, of what is not null. -/
def Argument.getType : Argument → Option ClrType
  | null => none
  | string _ => some .string
  | guid _ => some .guid
  | boolean _ => some .boolean
  | integral value => some (.integral value.type)
  | single _ => some .single
  | double _ => some .double
  | decimal _ => some .decimal
  | enum fullName value => some (.enum fullName value.type)
  | other fullName isValueType => some (.other fullName isValueType)

/-! ## Documents -/

/-- `JsonElement`. Strings and property names are what stands between the quotes. -/
inductive JsonElement where
  | null
  | true
  | false
  | number (raw : Bytes)
  | string (raw : Bytes)
  | array (elements : List JsonElement)
  | object (members : List (Bytes × JsonElement))

inductive InvalidOperationException where
  | readInvalidUTF16
  | readInvalidUTF8
  | expectedNumber
  deriving DecidableEq, Repr

def hexDigitValue (ch : UInt8) : Nat :=
  if ch ≤ 57 then ch.toNat - 48 else if ch ≤ 70 then ch.toNat - 55 else ch.toNat - 87

def codeUnit (a b c d : UInt8) : Nat :=
  ((hexDigitValue a * 16 + hexDigitValue b) * 16 + hexDigitValue c) * 16 + hexDigitValue d

def encodeScalar (scalar : Nat) : Bytes := String.utf8EncodeChar (Char.ofNat scalar)

def escapedCharacter (ch : UInt8) : UInt8 :=
  if ch = 98 then 8 else if ch = 102 then 12 else if ch = 110 then 10 else if ch = 114 then 13
  else if ch = 116 then 9 else ch

/-- `JsonReaderHelper.Unescape` on a string that the reader has accepted; `none` at a surrogate
without its other half. -/
def unescape : Bytes → Option Bytes
  | [] => some []
  | 92 :: 117 :: a :: b :: c :: d :: rest =>
    let unit := codeUnit a b c d
    if unit < 0xD800 ∨ 0xDFFF < unit then (unescape rest).map (encodeScalar unit ++ ·)
    else
      match rest with
      | 92 :: 117 :: e :: f :: g :: h :: rest =>
        let low := codeUnit e f g h
        if unit ≤ 0xDBFF ∧ 0xDC00 ≤ low ∧ low ≤ 0xDFFF then
          (unescape rest).map (encodeScalar (0x10000 + (unit - 0xD800) * 0x400 + (low - 0xDC00)) ++ ·)
        else none
      | _ => none
  | 92 :: ch :: rest => (unescape rest).map (escapedCharacter ch :: ·)
  | ch :: rest => (unescape rest).map (ch :: ·)

/-- `GetString`, on a string element. -/
def getString (raw : Bytes) : Except InvalidOperationException Bytes :=
  match unescape raw with
  | some value => if validUtf8 value = true then .ok value else .error .readInvalidUTF8
  | none => .error .readInvalidUTF16

/-- Whether a property name, as it is written, spells `name`: an escaped one is longer, and undone only
from its first escape on. -/
def spellsName (name raw : Bytes) : Except InvalidOperationException Bool :=
  match raw.findIdx? (· == 92) with
  | none => .ok (raw == name)
  | some index =>
    if raw.length > name.length ∧ name.length > index ∧ raw.take index = name.take index then
      match unescape (raw.drop index) with
      | some rest => .ok (rest == name.drop index)
      | none => .error .readInvalidUTF16
    else .ok false

def toUpperAscii (ch : UInt8) : UInt8 := if 97 ≤ ch ∧ ch ≤ 122 then ch - 32 else ch

/-- `StringComparison.OrdinalIgnoreCase` of a property's name and an ASCII one. -/
def equalsIgnoreCase (name raw : Bytes) : Except InvalidOperationException Bool :=
  (getString raw).map fun value => value.map toUpperAscii == name.map toUpperAscii

/-- `EntityRpcJsonCodec.TryGetProperty`: the last member of that very name, else the first one that differs
in case only. -/
def tryGetProperty (members : List (Bytes × JsonElement)) (name : Bytes) :
    Except InvalidOperationException (Option JsonElement) := do
  match ← firstThat (spellsName name) members.reverse with
  | some value => return some value
  | none => firstThat (equalsIgnoreCase name) members

/-! ## Numbers -/

def readDigits (digits : Bytes) : Option Nat :=
  if digits ≠ [] ∧ digits.all (fun ch => decide (48 ≤ ch) && decide (ch ≤ 57)) = true then
    some (digits.foldl (fun value ch => value * 10 + (ch.toNat - 48)) 0)
  else none

/-- A number without fraction and exponent; a sign is read for the signed types only. -/
def readInteger (type : IntegralType) (raw : Bytes) : Option Int :=
  match raw with
  | 45 :: digits => if type.minValue < 0 then (readDigits digits).map fun n => -(n : Int) else none
  | digits => (readDigits digits).map fun n => (n : Int)

def Integral.ofInt? (type : IntegralType) (value : Int) : Option Integral :=
  if inRange : type.minValue ≤ value ∧ value ≤ type.maxValue then some ⟨type, value, inRange⟩ else none

/-- What `TryGetByte`, …, `TryGetUInt64` make of a number's text. -/
def tryGetIntegral (type : IntegralType) (raw : Bytes) : Option Integral :=
  (readInteger type raw).bind (Integral.ofInt? type)

structure SerializableEntityRpcEnvelope where
  entityId : Bytes
  rpcName : Bytes
  arguments : List Argument
  deriving DecidableEq, Repr

/-- What the codec calls of the libraries: `JsonDocument.Parse` with the message of its `JsonException`,
`JsonSerializer.SerializeToUtf8Bytes`, and the floating and decimal readings of a number element and of a text. -/
structure SystemTextJson where
  parse : Bytes → Except Bytes JsonElement
  serializeToUtf8Bytes : SerializableEntityRpcEnvelope → Bytes
  tryGetSingle : Bytes → Option UInt32
  tryGetDouble : Bytes → Option UInt64
  tryGetDecimal : Bytes → Option Decimal
  tryParseSingle : Bytes → Option UInt32
  tryParseDouble : Bytes → Option UInt64
  tryParseDecimal : Bytes → Option Decimal

/-- A numeric `TryGet` method: it throws on what is not a number. -/
def tryGetNumber {α : Type} (tryGet : Bytes → Option α) : JsonElement → Except InvalidOperationException (Option α)
  | .number raw => .ok (tryGet raw)
  | _ => .error .expectedNumber

/-! ## Codec -/

inductive EntityRpcDispatchErrorCode where
  | none
  | invalidPayload
  | unsupportedTargetType
  | unknownRpc
  | invalidArgumentCount
  | unsupportedParameterType
  | invalidArgumentType
  | entityNotFound
  | targetInvocationFailed
  | targetUnavailable
  deriving DecidableEq, Repr

structure EntityRpcInvocationEnvelope where
  entityId : Guid
  rpcName : Bytes
  arguments : List JsonElement

/-- The error code and message of a method that returns false. -/
abbrev RpcFailure := EntityRpcDispatchErrorCode × Bytes

/-- A method that returns true with `α`, returns false, or throws. -/
abbrev Rpc (α : Type) := Fallible InvalidOperationException RpcFailure α

structure ArgumentException where
  message : Bytes
  paramName : Bytes
  deriving DecidableEq, Repr

def isSupportedParameterType (parameterType : ParameterType) : Bool :=
  match parameterType.effectiveType with
  | .string | .guid => true
  | type =>
    match type.typeCode with
    | .boolean | .integral _ | .single | .double | .decimal => true
    | .object | .string => false

namespace EntityRpcJsonCodec

def checkArguments : List Argument → Except ArgumentException Unit
  | [] => .ok ()
  | argument :: rest =>
    match argument.getType with
    | none => checkArguments rest
    | some type =>
      if isSupportedParameterType (.plain type) = true then checkArguments rest
      else .error ⟨text "RPC argument type '" ++ type.fullName ++ text "' is not supported by the JSON RPC codec.",
        text "arguments"⟩

def encode (json : SystemTextJson) (entityId : Guid) (rpcName : Bytes) (arguments : List Argument) :
    Except ArgumentException Bytes := do
  if entityId = guidEmpty then throw ⟨text "RPC entityId must not be empty.", text "entityId"⟩
  if isNullOrWhiteSpace rpcName = true then
    throw ⟨text "The value cannot be an empty string or composed entirely of whitespace.", text "rpcName"⟩
  checkArguments arguments
  return json.serializeToUtf8Bytes ⟨entityId, rpcName, arguments⟩

/-- A member that must be a string of which `accept` makes a value. -/
def readText {α : Type} (members : List (Bytes × JsonElement)) (name : Bytes) (accept : Bytes → Option α)
    (message : Bytes) : Rpc α := do
  match ← liftCall (tryGetProperty members name) with
  | some (.string raw) =>
    match accept (← liftCall (getString raw)) with
    | some value => return value
    | none => throw (.invalidPayload, message)
  | _ => throw (.invalidPayload, message)

def acceptEntityId (value : Bytes) : Option Guid := (guidTryParse value).filter (· ≠ guidEmpty)

def acceptRpcName (value : Bytes) : Option Bytes := if isNullOrWhiteSpace value = true then none else some value

def readArguments (members : List (Bytes × JsonElement)) : Rpc (List JsonElement) := do
  match ← liftCall (tryGetProperty members (text "arguments")) with
  | none => return []
  | some (.array elements) => return elements
  | some _ => throw (.invalidPayload, text "RPC payload arguments must be a JSON array.")

def readRoot (members : List (Bytes × JsonElement)) : Rpc EntityRpcInvocationEnvelope := do
  let entityId ← readText members (text "entityId") acceptEntityId
    (text "RPC payload entityId must be a non-empty GUID string.")
  let rpcName ← readText members (text "rpcName") acceptRpcName (text "RPC payload rpcName must not be empty.")
  let arguments ← readArguments members
  return ⟨entityId, rpcName, arguments⟩

def tryDecode (json : SystemTextJson) (payload : Bytes) : Rpc EntityRpcInvocationEnvelope :=
  if payload = [] then throw (.invalidPayload, text "RPC payload must not be empty.")
  else
    match json.parse payload with
    | .error message => throw (.invalidPayload, text "RPC payload JSON decode failed: " ++ message)
    | .ok (.object members) => readRoot members
    | .ok _ => throw (.invalidPayload, text "RPC payload root must be a JSON object.")

/-- The `float`, `double` and `decimal` branches: as a number, else as a text. -/
def tryConvertFloating {α : Type} (tryGet tryParse : Bytes → Option α) (box : α → Argument) (element : JsonElement) :
    Except InvalidOperationException (Option Argument) := do
  match ← tryGetNumber tryGet element with
  | some value => return some (box value)
  | none =>
    match element with
    | .string raw => return (tryParse (← getString raw)).map box
    | _ => return none

/-- No branch is taken for an enumeration. -/
def tryConvertArgument (json : SystemTextJson) (element : JsonElement) (parameterType : ParameterType) :
    Except InvalidOperationException (Option Argument) :=
  match element with
  | .null =>
    .ok (if parameterType.effectiveType.isValueType = false ∨ parameterType.isNullable = true then some .null else none)
  | element =>
    match parameterType.effectiveType with
    | .string =>
      match element with
      | .string raw => (getString raw).map fun value => some (.string value)
      | _ => .ok none
    | .guid =>
      match element with
      | .string raw => (getString raw).map fun value => (guidTryParse value).map .guid
      | _ => .ok none
    | .boolean =>
      match element with
      | .true => .ok (some (.boolean true))
      | .false => .ok (some (.boolean false))
      | _ => .ok none
    | .integral type => (tryGetNumber (tryGetIntegral type) element).map (·.map .integral)
    | .single => tryConvertFloating json.tryGetSingle json.tryParseSingle .single element
    | .double => tryConvertFloating json.tryGetDouble json.tryParseDouble .double element
    | .decimal => tryConvertFloating json.tryGetDecimal json.tryParseDecimal .decimal element
    | .enum .. | .other .. => .ok none

/-- The loop of `TryBindArguments`, from an index on. -/
def bindFrom (json : SystemTextJson) (rpcName : Bytes) (index : Nat) :
    List JsonElement → List ParameterType → Rpc (List Argument)
  | element :: elements, parameterType :: parameterTypes => do
    if isSupportedParameterType parameterType = false then
      throw (.unsupportedParameterType,
        text "RPC '" ++ rpcName ++ text "' parameter type '" ++ parameterType.fullName ++ text "' is not supported.")
    match ← liftCall (tryConvertArgument json element parameterType) with
    | none =>
      throw (.invalidArgumentType,
        text "RPC '" ++ rpcName ++ text "' argument " ++ text (toString index) ++ text " could not be converted to '" ++
          parameterType.fullName ++ text "'.")
    | some value => do
      let rest ← bindFrom json rpcName (index + 1) elements parameterTypes
      return value :: rest
  | _, _ => return []

def tryBindArguments (json : SystemTextJson) (envelope : EntityRpcInvocationEnvelope)
    (parameterTypes : List ParameterType) : Rpc (List Argument) :=
  if parameterTypes.length ≠ envelope.arguments.length then
    throw (.invalidArgumentCount,
      text "RPC '" ++ envelope.rpcName ++ text "' expected " ++ text (toString parameterTypes.length) ++
        text " arguments but received " ++ text (toString envelope.arguments.length) ++ text ".")
  else bindFrom json envelope.rpcName 0 envelope.arguments parameterTypes

/-- `TryDecode`, and `TryBindArguments` where it returned true. -/
def decodeAndBind (json : SystemTextJson) (payload : Bytes) (parameterTypes : List ParameterType) :
    Rpc (EntityRpcInvocationEnvelope × List Argument) := do
  let envelope ← tryDecode json payload
  let arguments ← tryBindArguments json envelope parameterTypes
  return (envelope, arguments)

end EntityRpcJsonCodec

/-! ## When the library calls return -/

/-- `GetString` does not throw. -/
def Readable (raw : Bytes) : Prop := ∃ value, getString raw = .ok value

/-- A lookup gets through the names: through those after the last that spells `name`, and where none does
through those before the first that differs in case only. -/
def LooksUp (members : List (Bytes × JsonElement)) (name : Bytes) : Prop :=
  ScansThrough (spellsName name) members.reverse ∧
    ((∀ member ∈ members, spellsName name member.1 = .ok false) → ScansThrough (equalsIgnoreCase name) members)

theorem tryGetProperty_ok {members : List (Bytes × JsonElement)} {name : Bytes} :
    (∃ found, tryGetProperty members name = .ok found) ↔ LooksUp members name := by
  have none_iff : firstThat (spellsName name) members.reverse = .ok none ↔
      ∀ member ∈ members, spellsName name member.1 = .ok false := by
    rw [firstThat_none]
    simp only [List.mem_reverse]
  unfold LooksUp
  rw [← firstThat_ok, ← firstThat_ok, ← none_iff]
  unfold tryGetProperty
  cases firstThat (spellsName name) members.reverse with
  | error thrown => simp [bind, Except.bind]
  | ok found =>
    cases found with
    | none => simp [bind, Except.bind]
    | some value => simp [bind, Except.bind, pure, Except.pure]

namespace EntityRpcJsonCodec

/-- The member can be looked up, and read where it is a string. -/
def ReadsText (members : List (Bytes × JsonElement)) (name : Bytes) : Prop :=
  LooksUp members name ∧ ∀ raw, tryGetProperty members name = .ok (some (.string raw)) → Readable raw

/-- The member is a string that is accepted. -/
def HasText {α : Type} (members : List (Bytes × JsonElement)) (name : Bytes) (accept : Bytes → Option α) (a : α) : Prop :=
  ∃ raw value, tryGetProperty members name = .ok (some (.string raw)) ∧ getString raw = .ok value ∧
    accept value = some a

def HasArguments (members : List (Bytes × JsonElement)) (elements : List JsonElement) : Prop :=
  tryGetProperty members (text "arguments") = .ok (some (.array elements)) ∨
    tryGetProperty members (text "arguments") = .ok none ∧ elements = []

section
variable {α : Type} {members : List (Bytes × JsonElement)} {name message : Bytes} {accept : Bytes → Option α}

theorem returns_readText : Returns (readText members name accept message) ↔ ReadsText members name := by
  unfold readText ReadsText Readable
  rw [returns_bind, returns_liftCall, tryGetProperty_ok]
  refine and_congr_right fun _ => ?_
  simp only [yields_liftCall]
  constructor
  · intro h raw found
    have read := h _ found
    rw [returns_bind, returns_liftCall] at read
    exact read.1
  · intro h found looked
    cases found with
    | none => exact returns_throw _
    | some element =>
      cases element with
      | string raw =>
        rw [returns_bind, returns_liftCall]
        refine ⟨h raw looked, fun value _ => ?_⟩
        cases accept value with
        | none => exact returns_throw _
        | some a => exact returns_pure a
      | _ => exact returns_throw _

theorem yields_readText {a : α} : Yields (readText members name accept message) a ↔ HasText members name accept a := by
  unfold readText HasText
  rw [yields_bind]
  simp only [yields_liftCall]
  constructor
  · rintro ⟨found, looked, taken⟩
    cases found with
    | none => exact absurd taken not_yields_throw
    | some element =>
      cases element with
      | string raw =>
        obtain ⟨value, read, taken⟩ := yields_bind.mp taken
        refine ⟨raw, value, looked, yields_liftCall.mp read, ?_⟩
        cases accepted : accept value with
        | none =>
          rw [accepted] at taken
          exact absurd taken not_yields_throw
        | some b =>
          rw [accepted] at taken
          rw [yields_pure.mp taken]
      | _ => exact absurd taken not_yields_throw
  · rintro ⟨raw, value, looked, read, accepted⟩
    refine ⟨some (.string raw), looked, yields_bind.mpr ⟨value, yields_liftCall.mpr read, ?_⟩⟩
    rw [accepted]
    exact yields_pure.mpr rfl

theorem returns_readArguments : Returns (readArguments members) ↔ LooksUp members (text "arguments") := by
  unfold readArguments
  rw [returns_bind, returns_liftCall, tryGetProperty_ok]
  refine and_iff_left fun found _ => ?_
  cases found with
  | none => exact returns_pure _
  | some element => cases element <;> first | exact returns_pure _ | exact returns_throw _

theorem yields_readArguments {elements : List JsonElement} :
    Yields (readArguments members) elements ↔ HasArguments members elements := by
  unfold readArguments HasArguments
  rw [yields_bind]
  simp only [yields_liftCall]
  constructor
  · rintro ⟨found, looked, taken⟩
    cases found with
    | none => exact .inr ⟨looked, (yields_pure.mp taken).symm⟩
    | some element =>
      cases element with
      | array others =>
        rw [← yields_pure.mp taken]
        exact .inl looked
      | _ => exact absurd taken not_yields_throw
  · rintro (looked | ⟨looked, rfl⟩)
    · exact ⟨_, looked, yields_pure.mpr rfl⟩
    · exact ⟨_, looked, yields_pure.mpr rfl⟩

end

/-! ## When the conversions return -/

/-- An argument that the conversion to a type gets through: a string that can be read for `string` and `Guid`, a
number or null for the numeric types. -/
def SafeArgument (element : JsonElement) (parameterType : ParameterType) : Prop :=
  match parameterType.effectiveType with
  | .string | .guid => ∀ raw, element = .string raw → Readable raw
  | .integral _ | .single | .double | .decimal => element = .null ∨ ∃ raw, element = .number raw
  | .boolean | .enum .. | .other .. => True

/-- Every argument up to the first that is refused is safe. -/
def SafeArguments (json : SystemTextJson) : List JsonElement → List ParameterType → Prop
  | element :: elements, parameterType :: parameterTypes =>
    isSupportedParameterType parameterType = true →
      SafeArgument element parameterType ∧
        ((∃ value, tryConvertArgument json element parameterType = .ok (some value)) →
          SafeArguments json elements parameterTypes)
  | _, _ => True

theorem getString_map {α : Type} {raw : Bytes} {f : Bytes → α} :
    (∃ a, (getString raw).map f = .ok a) ↔ Readable raw := by
  unfold Readable
  cases getString raw with
  | error thrown => simp [Except.map]
  | ok value => simp [Except.map]

theorem tryConvertFloating_ok {α : Type} {tryGet tryParse : Bytes → Option α} {box : α → Argument}
    {element : JsonElement} :
    (∃ value, tryConvertFloating tryGet tryParse box element = .ok value) ↔ ∃ raw, element = .number raw := by
  unfold tryConvertFloating
  cases element with
  | number raw =>
    rw [tryGetNumber]
    cases tryGet raw with
    | none => exact iff_of_true ⟨_, rfl⟩ ⟨_, rfl⟩
    | some value => exact iff_of_true ⟨_, rfl⟩ ⟨_, rfl⟩
  | _ => simp [tryGetNumber, bind, Except.bind]

theorem tryConvertArgument_ok {json : SystemTextJson} {element : JsonElement} {parameterType : ParameterType} :
    (∃ value, tryConvertArgument json element parameterType = .ok value) ↔ SafeArgument element parameterType := by
  unfold tryConvertArgument SafeArgument
  cases parameterType.effectiveType with
  | string => cases element <;> simp [getString_map]
  | guid => cases element <;> simp [getString_map]
  | boolean => cases element <;> simp
  | integral type => cases element <;> simp [tryGetNumber, Except.map]
  | single => cases element <;> simp [tryConvertFloating_ok]
  | double => cases element <;> simp [tryConvertFloating_ok]
  | decimal => cases element <;> simp [tryConvertFloating_ok]
  | enum fullName underlying => cases element <;> simp
  | other fullName isValueType => cases element <;> simp

theorem returns_bindFrom {json : SystemTextJson} {rpcName : Bytes} {index : Nat} {elements : List JsonElement}
    {parameterTypes : List ParameterType} :
    Returns (bindFrom json rpcName index elements parameterTypes) ↔ SafeArguments json elements parameterTypes := by
  induction elements generalizing index parameterTypes with
  | nil => exact iff_of_true (returns_pure _) trivial
  | cons element elements ih =>
    cases parameterTypes with
    | nil => exact iff_of_true (returns_pure _) trivial
    | cons parameterType parameterTypes =>
      unfold bindFrom SafeArguments
      cases supported : isSupportedParameterType parameterType with
      | false => exact iff_of_true (returns_throw _) (by simp)
      | true =>
        simp only [Bool.true_eq_false, if_false, forall_const]
        rw [returns_bind, returns_liftCall, tryConvertArgument_ok]
        refine and_congr_right fun _ => ?_
        simp only [yields_liftCall]
        constructor
        · rintro h ⟨value, converted⟩
          have later := h _ converted
          rw [returns_bind, ih] at later
          exact later.1
        · intro h found converted
          cases found with
          | none => exact returns_throw _
          | some value =>
            rw [returns_bind, ih]
            exact ⟨h ⟨value, converted⟩, fun rest _ => returns_pure _⟩

theorem returns_tryBindArguments {json : SystemTextJson} {envelope : EntityRpcInvocationEnvelope}
    {parameterTypes : List ParameterType} :
    Returns (tryBindArguments json envelope parameterTypes) ↔
      (parameterTypes.length = envelope.arguments.length → SafeArguments json envelope.arguments parameterTypes) := by
  unfold tryBindArguments
  split
  · rename_i differ
    exact iff_of_true (returns_throw _) fun same => absurd same differ
  · rename_i same
    rw [returns_bindFrom]
    exact ⟨fun h _ => h, fun h => h (not_not.mp same)⟩

/-! ## Totality -/

/-- What is read of an object's members, in this order: each part is read only where the ones before were accepted. -/
def SafeRoot (json : SystemTextJson) (members : List (Bytes × JsonElement)) (parameterTypes : List ParameterType) : Prop :=
  ReadsText members (text "entityId") ∧
    ((∃ entityId, HasText members (text "entityId") acceptEntityId entityId) →
      ReadsText members (text "rpcName") ∧
        ((∃ rpcName, HasText members (text "rpcName") acceptRpcName rpcName) →
          LooksUp members (text "arguments") ∧
            ∀ elements, HasArguments members elements → parameterTypes.length = elements.length →
              SafeArguments json elements parameterTypes))

/-- A payload that no read of it throws on. -/
def SafePayload (json : SystemTextJson) (payload : Bytes) (parameterTypes : List ParameterType) : Prop :=
  payload ≠ [] → ∀ members, json.parse payload = .ok (.object members) → SafeRoot json members parameterTypes

/-- The method returns true, or false with an error code that is not `None`. -/
def Decides {α : Type} (m : Rpc α) : Prop :=
  (∃ a, Yields m a) ∨ ∃ code message, m.run = .ok (.error (code, message)) ∧ code ≠ .none

/-- A failure that names an error. -/
def Coded (failure : RpcFailure) : Prop := failure.1 ≠ .none

theorem decides_of_coded {α : Type} {m : Rpc α} (coded : FailsOnly Coded m) : Decides m ↔ Returns m := by
  constructor
  · rintro (⟨a, yields⟩ | ⟨code, message, reported, _⟩)
    · exact ⟨_, yields⟩
    · exact ⟨_, reported⟩
  · rintro ⟨result, returned⟩
    cases result with
    | ok a => exact .inl ⟨a, returned⟩
    | error failure => exact .inr ⟨failure.1, failure.2, returned, coded _ returned⟩

theorem readText_coded {α : Type} (members : List (Bytes × JsonElement)) (name : Bytes) (accept : Bytes → Option α)
    (message : Bytes) : FailsOnly Coded (readText members name accept message) := by
  have refused : FailsOnly Coded (throw (.invalidPayload, message) : Rpc α) := .throw (by simp [Coded])
  refine (FailsOnly.liftCall _).bind fun found => ?_
  cases found with
  | none => exact refused
  | some element =>
    cases element with
    | string raw =>
      refine (FailsOnly.liftCall _).bind fun value => ?_
      cases accept value with
      | none => exact refused
      | some a => exact .pure a
    | _ => exact refused

theorem readArguments_coded (members : List (Bytes × JsonElement)) : FailsOnly Coded (readArguments members) := by
  refine (FailsOnly.liftCall _).bind fun found => ?_
  cases found with
  | none => exact .pure _
  | some element =>
    cases element with
    | array elements => exact .pure _
    | _ => exact .throw (by simp [Coded])

theorem tryDecode_coded (json : SystemTextJson) (payload : Bytes) : FailsOnly Coded (tryDecode json payload) := by
  unfold tryDecode
  split
  · exact .throw (by simp [Coded])
  · split
    · exact .throw (by simp [Coded])
    · refine (readText_coded _ _ _ _).bind fun entityId => (readText_coded _ _ _ _).bind fun rpcName => ?_
      exact (readArguments_coded _).bind fun arguments => .pure _
    · exact .throw (by simp [Coded])

theorem bindFrom_coded (json : SystemTextJson) (rpcName : Bytes) (index : Nat) (elements : List JsonElement)
    (parameterTypes : List ParameterType) : FailsOnly Coded (bindFrom json rpcName index elements parameterTypes) := by
  induction elements generalizing index parameterTypes with
  | nil => exact .pure _
  | cons element elements ih =>
    cases parameterTypes with
    | nil => exact .pure _
    | cons parameterType parameterTypes =>
      unfold bindFrom
      split
      · exact FailsOnly.throw (by simp [Coded])
      · refine (FailsOnly.liftCall _).bind fun found => ?_
        cases found with
        | none => exact .throw (by simp [Coded])
        | some value => exact (ih _ _).bind fun rest => .pure _

theorem tryBindArguments_coded (json : SystemTextJson) (envelope : EntityRpcInvocationEnvelope)
    (parameterTypes : List ParameterType) : FailsOnly Coded (tryBindArguments json envelope parameterTypes) := by
  unfold tryBindArguments
  split
  · exact .throw (by simp [Coded])
  · exact bindFrom_coded _ _ _ _ _

theorem returns_readRoot {json : SystemTextJson} {members : List (Bytes × JsonElement)}
    {parameterTypes : List ParameterType} :
    Returns (readRoot members >>= fun envelope => tryBindArguments json envelope parameterTypes) ↔
      SafeRoot json members parameterTypes := by
  unfold readRoot SafeRoot
  simp only [bind_assoc, pure_bind, returns_bind, returns_readText, yields_readText, returns_readArguments,
    yields_readArguments, returns_tryBindArguments]
  constructor
  · rintro ⟨entity, rest⟩
    refine ⟨entity, fun ⟨entityId, hasEntity⟩ => ?_⟩
    obtain ⟨name, rest⟩ := rest entityId hasEntity
    exact ⟨name, fun ⟨rpcName, hasName⟩ => rest rpcName hasName⟩
  · rintro ⟨entity, rest⟩
    refine ⟨entity, fun entityId hasEntity => ?_⟩
    obtain ⟨name, rest⟩ := rest ⟨entityId, hasEntity⟩
    exact ⟨name, fun rpcName hasName => rest ⟨rpcName, hasName⟩⟩

theorem returns_decodeAndBind {json : SystemTextJson} {payload : Bytes} {parameterTypes : List ParameterType} :
    Returns (decodeAndBind json payload parameterTypes) ↔ SafePayload json payload parameterTypes := by
  have paired : Returns (decodeAndBind json payload parameterTypes) ↔
      Returns (tryDecode json payload >>= fun envelope => tryBindArguments json envelope parameterTypes) := by
    unfold decodeAndBind
    simp only [returns_bind, returns_pure, implies_true, and_true]
  rw [paired]
  unfold tryDecode SafePayload
  by_cases empty : payload = []
  · rw [if_pos empty]
    exact iff_of_true (returns_bind.mpr ⟨returns_throw _, by simp⟩) fun filled => absurd empty filled
  · rw [if_neg empty]
    cases parsed : json.parse payload with
    | error message => exact iff_of_true (returns_bind.mpr ⟨returns_throw _, by simp⟩) (by simp)
    | ok root =>
      cases root with
      | object members => simp [empty, returns_readRoot]
      | _ => exact iff_of_true (returns_bind.mpr ⟨returns_throw _, by simp⟩) (by simp)

end EntityRpcJsonCodec

/-! ## Dispatch -/

/-- What the dispatcher uses of an entity: its id, the name of its type, and the methods that the scanner has found
on it. -/
structure ServerEntity where
  entityId : Guid
  typeName : Bytes
  bindings : List (Bytes × List ParameterType)

structure DispatchResult where
  errorCode : EntityRpcDispatchErrorCode
  rpcName : Bytes
  errorMessage : Bytes
  deriving DecidableEq, Repr

open EntityRpcJsonCodec

/-- `ServerEntityRpcDispatcher.Dispatch`; `invoke` runs the method, and an error is the message of what it threw. -/
def dispatch (json : SystemTextJson) (invoke : Bytes → List Argument → Except Bytes Unit) (entity : ServerEntity)
    (payload : Bytes) : Except InvalidOperationException DispatchResult := do
  match ← (tryDecode json payload).run with
  | .error (decodeError, errorMessage) => return ⟨decodeError, [], errorMessage⟩
  | .ok envelope =>
    if envelope.entityId ≠ entity.entityId then
      return ⟨.entityNotFound, envelope.rpcName,
        text "Server RPC target entity '" ++ envelope.entityId ++ text "' does not match '" ++ entity.entityId ++ text "'."⟩
    match entity.bindings.lookup envelope.rpcName with
    | none =>
      return ⟨.unknownRpc, envelope.rpcName,
        text "Server RPC '" ++ envelope.rpcName ++ text "' is not defined on '" ++ entity.typeName ++ text "'."⟩
    | some parameterTypes =>
      match ← (tryBindArguments json envelope parameterTypes).run with
      | .error (bindError, errorMessage) => return ⟨bindError, envelope.rpcName, errorMessage⟩
      | .ok arguments =>
        match invoke envelope.rpcName arguments with
        | .ok () => return ⟨.none, envelope.rpcName, []⟩
        | .error message =>
          return ⟨.targetInvocationFailed, envelope.rpcName,
            text "Server RPC '" ++ envelope.rpcName ++ text "' failed on '" ++ entity.typeName ++ text "': " ++ message⟩

/-- No payload that is safe for the entity's methods raises an exception in the dispatcher. -/
theorem dispatch_returns {json : SystemTextJson} {entity : ServerEntity} {payload : Bytes}
    (invoke : Bytes → List Argument → Except Bytes Unit)
    (safe : ∀ parameterTypes, SafePayload json payload parameterTypes) :
    ∃ result, dispatch json invoke entity payload = .ok result := by
  have returned (parameterTypes : List ParameterType) := returns_bind.mp (returns_decodeAndBind.mpr (safe parameterTypes))
  unfold dispatch
  obtain ⟨decoded, decodes⟩ := (returned []).1
  rw [decodes]
  cases decoded with
  | error failure => exact ⟨_, rfl⟩
  | ok envelope =>
    simp only [bind, Except.bind]
    split
    · exact ⟨_, rfl⟩
    · split
      · exact ⟨_, rfl⟩
      · rename_i parameterTypes _
        obtain ⟨bound, binds⟩ := (returns_bind.mp ((returned parameterTypes).2 envelope decodes)).1
        rw [binds]
        cases bound with
        | error failure => exact ⟨_, rfl⟩
        | ok arguments =>
          simp only
          split <;> exact ⟨_, rfl⟩

/-! ### A payload that raises one -/

def sampleEntityId : Guid := text "11111111-1111-1111-1111-111111111111"

/-- The text of a call of `Move` on the sample entity. -/
def sampleText (arguments : Bytes) : Bytes :=
  text "\x7b\"entityId\":\"11111111-1111-1111-1111-111111111111\",\"rpcName\":\"Move\",\"arguments\":[" ++ arguments ++
    text "]\x7d"

def sampleMembers (elements : List JsonElement) : List (Bytes × JsonElement) :=
  [(text "entityId", .string sampleEntityId), (text "rpcName", .string (text "Move")), (text "arguments", .array elements)]

/-- The libraries on one document. -/
def sampleJson (arguments : Bytes) (elements : List JsonElement) : SystemTextJson where
  parse payload :=
    if payload = sampleText arguments then .ok (.object (sampleMembers elements)) else .error (text "invalid document")
  serializeToUtf8Bytes _ := sampleText arguments
  tryGetSingle _ := none
  tryGetDouble _ := none
  tryGetDecimal raw := if raw = text "2.5" then some ⟨false, 25, 1⟩ else none
  tryParseSingle _ := none
  tryParseDouble _ := none
  tryParseDecimal _ := none

def sampleEntity : ServerEntity where
  entityId := sampleEntityId
  typeName := text "Sample"
  bindings := [(text "Move", [.plain (.integral .int32)])]

end XServer.Managed
