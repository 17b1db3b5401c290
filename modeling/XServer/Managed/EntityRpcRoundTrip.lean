import XServer.Managed.EntityRpc

/-!
# Round trip of entity RPC payloads

What `Encode` takes, the form in which the serializer writes it, and which of it
`TryConvertArgument` takes back. `IsSupportedParameterType` asks for a type code and
an enumeration has that of its underlying type, but no branch of the conversion is
for one.
-/

namespace XServer.Managed
open XServer.Lib XServer.Lib.Wire XServer.Net XServer.Core

/-! ## What the serializer writes -/

namespace Argument

def isFloating : Argument → Bool
  | single _ | double _ => true
  | _ => false

def isEnum : Argument → Bool
  | enum .. => true
  | _ => false

/-- A GUID stands as the text that `ToString` prints. -/
def GuidPrinted (argument : Argument) : Prop := ∀ value, argument = guid value → IsPrintedGuid value

end Argument

namespace EntityRpcJsonCodec

/-- The type to bind an argument with: its own, and `string` for null. -/
def ownType (argument : Argument) : ParameterType := .plain (argument.getType.getD .string)

/-- The element that an argument is written as is one that reads back as it; an enumeration value is written as its
number. Nothing is assumed of floating values. -/
inductive Writes (json : SystemTextJson) : Argument → JsonElement → Prop where
  | null : Writes json .null .null
  | string {value raw : Bytes} (read : getString raw = .ok value) : Writes json (.string value) (.string raw)
  | guid {value : Guid} {raw : Bytes} (read : getString raw = .ok value) : Writes json (.guid value) (.string raw)
  | true : Writes json (.boolean true) .true
  | false : Writes json (.boolean false) .false
  | integral {value : Integral} {raw : Bytes} (read : tryGetIntegral value.type raw = some value) :
    Writes json (.integral value) (.number raw)
  | decimal {value : Decimal} {raw : Bytes} (read : json.tryGetDecimal raw = some value) :
    Writes json (.decimal value) (.number raw)
  | enum {fullName raw : Bytes} {value : Integral} (read : tryGetIntegral value.type raw = some value) :
    Writes json (.enum fullName value) (.number raw)
  | floating {argument : Argument} {element : JsonElement} (floating : argument.isFloating = true) :
    Writes json argument element

/-- The serializer's text of an envelope parses, to an object with the three members in the order of their
declaration. -/
def WritesEnvelope (json : SystemTextJson) (envelope : SerializableEntityRpcEnvelope) : Prop :=
  json.serializeToUtf8Bytes envelope ≠ [] ∧ ∃ entityId rpcName elements,
    json.parse (json.serializeToUtf8Bytes envelope) = .ok (.object
      [(text "entityId", .string entityId), (text "rpcName", .string rpcName), (text "arguments", .array elements)]) ∧
    getString entityId = .ok envelope.entityId ∧ getString rpcName = .ok envelope.rpcName ∧
    List.Forall₂ (Writes json) envelope.arguments elements

/-- Decoding what was encoded and binding with the arguments' own types gives the call back. -/
def RoundTrip (json : SystemTextJson) (entityId : Guid) (rpcName : Bytes) (arguments : List Argument)
    (payload : Bytes) : Prop :=
  ∃ envelope, Yields (tryDecode json payload) envelope ∧ envelope.entityId = entityId ∧ envelope.rpcName = rpcName ∧
    envelope.arguments.length = arguments.length ∧
    Yields (tryBindArguments json envelope (arguments.map ownType)) arguments

/-! ## Encoding -/

/-- Null, or of a type that the filter lets through. -/
def Encodable (argument : Argument) : Prop := ∀ type, argument.getType = some type → isSupportedParameterType (.plain type) = true

theorem checkArguments_ok {arguments : List Argument} (ok : checkArguments arguments = .ok ()) :
    ∀ argument ∈ arguments, Encodable argument := by
  induction arguments with
  | nil => simp
  | cons argument rest ih =>
    unfold checkArguments at ok
    rw [List.forall_mem_cons]
    cases typed : argument.getType with
    | none =>
      rw [typed] at ok
      refine ⟨fun type same => ?_, ih ok⟩
      rw [typed] at same
      cases same
    | some type =>
      simp only [typed] at ok
      split at ok
      · rename_i supported
        refine ⟨fun other same => ?_, ih ok⟩
        rw [typed] at same
        cases same
        exact supported
      · cases ok

theorem encode_ok {json : SystemTextJson} {entityId : Guid} {rpcName payload : Bytes} {arguments : List Argument}
    (encoded : encode json entityId rpcName arguments = .ok payload) :
    entityId ≠ guidEmpty ∧ isNullOrWhiteSpace rpcName = false ∧ (∀ argument ∈ arguments, Encodable argument) ∧
      payload = json.serializeToUtf8Bytes ⟨entityId, rpcName, arguments⟩ := by
  unfold encode at encoded
  by_cases empty : entityId = guidEmpty
  · rw [if_pos empty] at encoded
    cases encoded
  · rw [if_neg empty] at encoded
    by_cases blank : isNullOrWhiteSpace rpcName = true
    · rw [if_pos blank] at encoded
      cases encoded
    · rw [if_neg blank] at encoded
      cases checked : checkArguments arguments with
      | error thrown =>
        rw [checked] at encoded
        cases encoded
      | ok _ =>
        rw [checked] at encoded
        cases encoded
        exact ⟨empty, Bool.eq_false_iff.mpr blank, checkArguments_ok checked, rfl⟩

/-! ## Decoding -/

section
variable {json : SystemTextJson} {entityId rpcName : Bytes} {elements : List JsonElement}

theorem tryGetProperty_written {name : Bytes} {element : JsonElement}
    (mem : (name, element) ∈ [(text "entityId", JsonElement.string entityId), (text "rpcName", .string rpcName),
      (text "arguments", .array elements)]) :
    tryGetProperty [(text "entityId", .string entityId), (text "rpcName", .string rpcName),
      (text "arguments", .array elements)] name = .ok (some element) := by
  simp only [List.mem_cons, Prod.mk.injEq, List.not_mem_nil, or_false] at mem
  rcases mem with ⟨rfl, rfl⟩ | ⟨rfl, rfl⟩ | ⟨rfl, rfl⟩ <;> rfl

theorem yields_readRoot (printed : IsPrintedGuid entityId) (notEmpty : entityId ≠ guidEmpty)
    (visible : isNullOrWhiteSpace rpcName = false) {idRaw nameRaw : Bytes} (readId : getString idRaw = .ok entityId)
    (readName : getString nameRaw = .ok rpcName) :
    Yields (readRoot [(text "entityId", .string idRaw), (text "rpcName", .string nameRaw),
      (text "arguments", .array elements)]) ⟨entityId, rpcName, elements⟩ := by
  have acceptedId : acceptEntityId entityId = some entityId := by
    unfold acceptEntityId
    rw [guidTryParse_of_printed printed, Option.filter_some, if_pos (decide_eq_true notEmpty)]
  have acceptedName : acceptRpcName rpcName = some rpcName := by
    unfold acceptRpcName
    rw [visible]
    rfl
  unfold readRoot
  refine yields_bind.mpr ⟨entityId, yields_readText.mpr ⟨idRaw, entityId, ?_, readId, acceptedId⟩, ?_⟩
  · exact tryGetProperty_written (by simp)
  refine yields_bind.mpr ⟨rpcName, yields_readText.mpr ⟨nameRaw, rpcName, ?_, readName, acceptedName⟩, ?_⟩
  · exact tryGetProperty_written (by simp)
  refine yields_bind.mpr ⟨elements, yields_readArguments.mpr (.inl ?_), yields_pure.mpr rfl⟩
  exact tryGetProperty_written (by simp)

/-! ## Binding -/

/-- What a written argument converts to. -/
theorem convert_written {argument : Argument} {element : JsonElement} (writes : Writes json argument element)
    (printed : argument.GuidPrinted) (nonFloating : argument.isFloating = false) :
    tryConvertArgument json element (ownType argument) =
      .ok (if argument.isEnum = true then none else some argument) := by
  cases writes with
  | null => rfl
  | string read => simp [tryConvertArgument, ownType, Argument.getType, ParameterType.effectiveType, read, Except.map,
      Argument.isEnum]
  | guid read =>
    simp [tryConvertArgument, ownType, Argument.getType, ParameterType.effectiveType, read, Except.map,
      guidTryParse_of_printed (printed _ rfl), Argument.isEnum]
  | true => rfl
  | false => rfl
  | integral read => simp [tryConvertArgument, ownType, Argument.getType, ParameterType.effectiveType, tryGetNumber, read,
      Except.map, Argument.isEnum]
  | decimal read => simp [tryConvertArgument, ownType, Argument.getType, ParameterType.effectiveType, tryConvertFloating,
      tryGetNumber, read, bind, Except.bind, pure, Except.pure, Argument.isEnum]
  | enum read => rfl
  | floating floating =>
    rw [nonFloating] at floating
    cases floating

theorem ownType_supported {argument : Argument} (encodable : Encodable argument) :
    isSupportedParameterType (ownType argument) = true := by
  unfold ownType
  cases typed : argument.getType with
  | none => rfl
  | some type => exact encodable type typed

theorem yields_bindFrom {arguments : List Argument} {index : Nat} (writes : List.Forall₂ (Writes json) arguments elements)
    (encodable : ∀ argument ∈ arguments, Encodable argument)
    (printed : ∀ argument ∈ arguments, argument.GuidPrinted)
    (nonFloating : ∀ argument ∈ arguments, argument.isFloating = false) :
    Yields (bindFrom json rpcName index elements (arguments.map ownType)) arguments ↔
      ∀ argument ∈ arguments, argument.isEnum = false := by
  induction writes generalizing index with
  | nil => simp [bindFrom]
  | cons first later ih =>
    rename_i argument element arguments elements
    rw [List.forall_mem_cons] at encodable printed nonFloating ⊢
    rw [List.map_cons]
    unfold bindFrom
    rw [← @ih (index + 1) encodable.2 printed.2 nonFloating.2]
    simp only [ownType_supported encodable.1, Bool.true_eq_false, if_false, yields_bind, yields_liftCall,
      convert_written first printed.1 nonFloating.1]
    cases argument.isEnum with
    | true =>
      refine iff_of_false ?_ (by simp)
      rintro ⟨found, converted, taken⟩
      cases converted
      exact not_yields_throw taken
    | false =>
      constructor
      · rintro ⟨found, converted, taken⟩
        cases converted
        obtain ⟨rest, bound, paired⟩ := yields_bind.mp taken
        cases yields_pure.mp paired
        exact ⟨rfl, bound⟩
      · rintro ⟨-, bound⟩
        exact ⟨some argument, rfl, yields_bind.mpr ⟨arguments, bound, yields_pure.mpr rfl⟩⟩

theorem yields_tryDecode {payload : Bytes} {members : List (Bytes × JsonElement)} (filled : payload ≠ [])
    (parsed : json.parse payload = .ok (.object members)) {envelope : EntityRpcInvocationEnvelope}
    (read : Yields (readRoot members) envelope) : Yields (tryDecode json payload) envelope := by
  unfold tryDecode
  rw [if_neg filled, parsed]
  exact read

/-- The round trip holds of the calls without an enumeration value. -/
theorem round_trip_iff (json : SystemTextJson) {entityId : Guid} {rpcName payload : Bytes} {arguments : List Argument}
    (printed : IsPrintedGuid entityId) (guids : ∀ argument ∈ arguments, argument.GuidPrinted)
    (nonFloating : ∀ argument ∈ arguments, argument.isFloating = false)
    (encoded : encode json entityId rpcName arguments = .ok payload)
    (writes : WritesEnvelope json ⟨entityId, rpcName, arguments⟩) :
    RoundTrip json entityId rpcName arguments payload ↔ ∀ argument ∈ arguments, argument.isEnum = false := by
  obtain ⟨notEmpty, visible, encodable, rfl⟩ := encode_ok encoded
  obtain ⟨filled, idRaw, nameRaw, elements, parsed, readId, readName, written⟩ := writes
  have decoded := yields_tryDecode filled parsed (yields_readRoot printed notEmpty visible readId readName)
  have lengths : (arguments.map ownType).length = elements.length := by
    rw [List.length_map]
    exact written.length_eq
  have bound := @yields_bindFrom json rpcName elements arguments 0 written encodable guids nonFloating
  rw [← bound]
  constructor
  · rintro ⟨envelope, decodes, -, -, -, binds⟩
    cases decoded.symm.trans decodes
    unfold tryBindArguments at binds
    rw [if_neg (not_not.mpr lengths)] at binds
    exact binds
  · intro binds
    refine ⟨_, decoded, rfl, rfl, written.length_eq.symm, ?_⟩
    unfold tryBindArguments
    rw [if_neg (not_not.mpr lengths)]
    exact binds

end

/-! ### Samples -/

theorem one_lt_scales : 1 < 29 := by decide

theorem seven_inRange : IntegralType.byte.minValue ≤ 7 ∧ 7 ≤ IntegralType.byte.maxValue := by decide

theorem minusOne_inRange : IntegralType.int64.minValue ≤ -1 ∧ -1 ≤ IntegralType.int64.maxValue := by decide

theorem one_inRange : IntegralType.int32.minValue ≤ 1 ∧ 1 ≤ IntegralType.int32.maxValue := by decide

/-- The arguments null, "a", a GUID, true, 7, -1 and 2.5. -/
def sampleArguments : List Argument :=
  [.null, .string (text "a"), .guid sampleEntityId, .boolean true, .integral ⟨.byte, 7, seven_inRange⟩,
    .integral ⟨.int64, -1, minusOne_inRange⟩, .decimal ⟨false, 25, ⟨1, one_lt_scales⟩⟩]

def sampleElements : List JsonElement :=
  [.null, .string (text "a"), .string sampleEntityId, .true, .number (text "7"), .number (text "-1"), .number (text "2.5")]

def sampleArgumentText : Bytes := text "null,\"a\",\"11111111-1111-1111-1111-111111111111\",true,7,-1,2.5"

theorem getString_sampleEntityId : getString sampleEntityId = .ok sampleEntityId := by decide +kernel

theorem writesEnvelope_sample {arguments : List Argument} {elements : List JsonElement} {argumentText : Bytes}
    (written : List.Forall₂ (Writes (sampleJson argumentText elements)) arguments elements) :
    WritesEnvelope (sampleJson argumentText elements) ⟨sampleEntityId, text "Move", arguments⟩ := by
  have filled : sampleText argumentText ≠ [] := by
    unfold sampleText
    rw [List.append_assoc]
    exact List.append_ne_nil_of_left_ne_nil (by decide +kernel) _
  have readName : getString (text "Move") = .ok (text "Move") := by decide +kernel
  exact ⟨filled, _, _, elements, if_pos rfl, getString_sampleEntityId, readName, written⟩

theorem sampleElements_written :
    List.Forall₂ (Writes (sampleJson sampleArgumentText sampleElements)) sampleArguments sampleElements := by
  have readText : getString (text "a") = .ok (text "a") := by decide +kernel
  refine .cons .null (.cons (.string readText) (.cons (.guid getString_sampleEntityId) (.cons .true ?_)))
  refine .cons (.integral (by decide +kernel)) (.cons (.integral (by decide +kernel)) (.cons (.decimal ?_) .nil))
  decide +kernel

theorem round_trip_sample :
    RoundTrip (sampleJson sampleArgumentText sampleElements) sampleEntityId (text "Move") sampleArguments
      (sampleText sampleArgumentText) := by
  have printed : IsPrintedGuid sampleEntityId := by decide +kernel
  have guids : ∀ argument ∈ sampleArguments, argument.GuidPrinted := by
    simp [sampleArguments, Argument.GuidPrinted, printed]
  have encoded : encode (sampleJson sampleArgumentText sampleElements) sampleEntityId (text "Move") sampleArguments =
      .ok (sampleText sampleArgumentText) := by
    decide +kernel
  exact (round_trip_iff _ printed guids (by decide) encoded (writesEnvelope_sample sampleElements_written)).mpr (by decide)

def sampleDirection : Argument := .enum (text "Direction") ⟨.int32, 1, one_inRange⟩

def sampleDirectionJson : SystemTextJson := sampleJson (text "1") [.number (text "1")]

/-- A value of an enumeration is encoded, and refused where it is bound. -/
theorem enum_refused :
    encode sampleDirectionJson sampleEntityId (text "Move") [sampleDirection] = .ok (sampleText (text "1")) ∧
      WritesEnvelope sampleDirectionJson ⟨sampleEntityId, text "Move", [sampleDirection]⟩ ∧
      (tryDecode sampleDirectionJson (sampleText (text "1")) >>= fun envelope =>
          tryBindArguments sampleDirectionJson envelope [ownType sampleDirection]).run =
        .ok (.error (.invalidArgumentType, text "RPC 'Move' argument 0 could not be converted to 'Direction'.")) ∧
      ¬ RoundTrip sampleDirectionJson sampleEntityId (text "Move") [sampleDirection] (sampleText (text "1")) := by
  have refused : (tryDecode sampleDirectionJson (sampleText (text "1")) >>= fun envelope =>
      tryBindArguments sampleDirectionJson envelope [ownType sampleDirection]).run =
        .ok (.error (.invalidArgumentType, text "RPC 'Move' argument 0 could not be converted to 'Direction'.")) := by
    decide +kernel
  have written : WritesEnvelope sampleDirectionJson ⟨sampleEntityId, text "Move", [sampleDirection]⟩ :=
    writesEnvelope_sample (.cons (.enum (by decide +kernel)) .nil)
  refine ⟨by decide +kernel, written, refused, ?_⟩
  rintro ⟨envelope, decodes, -, -, -, binds⟩
  have both : Yields (tryDecode sampleDirectionJson (sampleText (text "1")) >>= fun envelope =>
      tryBindArguments sampleDirectionJson envelope [ownType sampleDirection]) [sampleDirection] :=
    yields_bind.mpr ⟨envelope, decodes, binds⟩
  cases refused.symm.trans both

end EntityRpcJsonCodec
end XServer.Managed
