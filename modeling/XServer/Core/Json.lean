import XServer.Lib.Table
import XServer.Net.Serialization

/-!
# JSON texts

What the Gate uses of the JSON library. A parsed document is described as far as
the code looks into it: an object with scalar members, or anything else. Parsing
is a parameter of the callers; writing is `serializer::dump` for such objects,
which throws on a string that is not valid UTF-8.
-/

namespace XServer.Core
open XServer.Lib XServer.Lib.Wire XServer.Net

inductive JsonScalar where
  | string (value : Bytes)
  | unsigned (value : UInt64)
  | boolean (value : Bool)
  | other
  deriving DecidableEq, Repr

/-- An object, as `std::map` keeps it, or some other document. -/
inductive Json where
  | object (members : Table Bytes JsonScalar)
  | other

/-! ## UTF-8 -/

/-- The states of the library's `decode`. -/
inductive Utf8State where
  | accept
  | reject
  | tail1
  | tail2
  | tail3
  | afterE0
  | afterED
  | afterF0
  | afterF4
  deriving DecidableEq, Repr

def inRange (low high byte : UInt8) : Bool := decide (low ≤ byte) && decide (byte ≤ high)

def Utf8State.decode : Utf8State → UInt8 → Utf8State
  | .accept, byte =>
    if byte < 0x80 then .accept
    else if inRange 0xC2 0xDF byte then .tail1
    else if byte = 0xE0 then .afterE0
    else if byte = 0xED then .afterED
    else if inRange 0xE1 0xEF byte then .tail2
    else if byte = 0xF0 then .afterF0
    else if inRange 0xF1 0xF3 byte then .tail3
    else if byte = 0xF4 then .afterF4
    else .reject
  | .tail1, byte => if inRange 0x80 0xBF byte then .accept else .reject
  | .tail2, byte => if inRange 0x80 0xBF byte then .tail1 else .reject
  | .tail3, byte => if inRange 0x80 0xBF byte then .tail2 else .reject
  | .afterE0, byte => if inRange 0xA0 0xBF byte then .tail1 else .reject
  | .afterED, byte => if inRange 0x80 0x9F byte then .tail1 else .reject
  | .afterF0, byte => if inRange 0x90 0xBF byte then .tail2 else .reject
  | .afterF4, byte => if inRange 0x80 0x8F byte then .tail2 else .reject
  | .reject, _ => .reject

def validUtf8 (value : Bytes) : Bool := value.foldl Utf8State.decode .accept == .accept

theorem validUtf8_append {a : Bytes} (valid : validUtf8 a = true) (b : Bytes) :
    validUtf8 (a ++ b) = validUtf8 b := by
  unfold validUtf8 at valid ⊢
  rw [List.foldl_append, beq_iff_eq.mp valid]

theorem validUtf8_of_ascii {value : Bytes} (ascii : ∀ byte ∈ value, byte < 0x80) : validUtf8 value = true := by
  induction value with
  | nil => rfl
  | cons byte rest ih =>
    have one : validUtf8 [byte] = true := by
      unfold validUtf8
      simp [Utf8State.decode, ascii byte List.mem_cons_self]
    rw [← List.singleton_append, validUtf8_append one]
    exact ih fun b mem => ascii b (List.mem_cons_of_mem _ mem)

/-! ## Writing -/

def hexDigit (n : Nat) : UInt8 := if n < 10 then UInt8.ofNat (48 + n) else UInt8.ofNat (87 + n)

/-- `dump_escaped` on one byte of a valid string. -/
def escapeByte (byte : UInt8) : Bytes :=
  if byte = 0x08 then text "\\b"
  else if byte = 0x09 then text "\\t"
  else if byte = 0x0A then text "\\n"
  else if byte = 0x0C then text "\\f"
  else if byte = 0x0D then text "\\r"
  else if byte = 0x22 then text "\\\""
  else if byte = 0x5C then text "\\\\"
  else if byte < 0x20 then text "\\u00" ++ [hexDigit (byte.toNat / 16), hexDigit (byte.toNat % 16)]
  else [byte]

def dumpString (value : Bytes) : Bytes := text "\"" ++ value.flatMap escapeByte ++ text "\""

def dumpScalar : JsonScalar → Bytes
  | .string value => dumpString value
  | .unsigned value => text (toString value.toNat)
  | .boolean value => if value then text "true" else text "false"
  | .other => text "null"

/-- A member whose key and value can be written. -/
def writable (member : Bytes × JsonScalar) : Bool :=
  validUtf8 member.1 &&
    match member.2 with
    | .string value => validUtf8 value
    | _ => true

/-- `dump()` of an object: members in key order, no blanks; `none` when it throws. -/
def dump (members : Table Bytes JsonScalar) : Option Bytes :=
  if members.toList.all writable then
    some (text "\x7b" ++ (text ",").intercalate (members.toList.map fun (key, value) =>
      dumpString key ++ text ":" ++ dumpScalar value) ++ text "\x7d")
  else none

/-- The object of a member list, later members over earlier ones. -/
def jsonObject (members : List (Bytes × JsonScalar)) : Table Bytes JsonScalar :=
  members.foldl (fun table member => table.insert member.1 member.2) ∅

theorem mem_foldl_insert {members : List (Bytes × JsonScalar)} {table : Table Bytes JsonScalar} {key : Bytes}
    {value : JsonScalar}
    (h : (members.foldl (fun table member => table.insert member.1 member.2) table)[key]? = some value) :
    (key, value) ∈ members ∨ table[key]? = some value := by
  induction members generalizing table with
  | nil => exact .inr h
  | cons member rest ih =>
    rcases ih h with mem | stored
    · exact .inl (List.mem_cons_of_mem _ mem)
    · rw [Table.get_insert] at stored
      split at stored
      · rename_i same
        cases stored
        exact .inl (by rw [← same]; exact List.mem_cons_self)
      · exact .inr stored

theorem foldl_insert_of_notMem {members : List (Bytes × JsonScalar)} {table : Table Bytes JsonScalar} {key : Bytes}
    (absent : key ∉ members.map (·.1)) :
    (members.foldl (fun table member => table.insert member.1 member.2) table)[key]? = table[key]? := by
  induction members generalizing table with
  | nil => rfl
  | cons member rest ih =>
    simp only [List.map_cons, List.mem_cons, not_or] at absent
    rw [List.foldl_cons, ih absent.2, Table.get_insert_of_ne _ _ (Ne.symm absent.1)]

theorem get_foldl_insert {members : List (Bytes × JsonScalar)} (distinct : (members.map (·.1)).Nodup)
    {table : Table Bytes JsonScalar} {key : Bytes} {value : JsonScalar} (mem : (key, value) ∈ members) :
    (members.foldl (fun table member => table.insert member.1 member.2) table)[key]? = some value := by
  induction members generalizing table with
  | nil => cases mem
  | cons member rest ih =>
    simp only [List.map_cons, List.nodup_cons] at distinct
    rw [List.foldl_cons]
    rcases List.mem_cons.mp mem with rfl | mem
    · rw [foldl_insert_of_notMem distinct.1, Table.get_insert_self]
    · exact ih distinct.2 mem

/-- An object built from distinct keys can be written exactly when every member can. -/
theorem dump_isSome {members : List (Bytes × JsonScalar)} (distinct : (members.map (·.1)).Nodup) :
    (dump (jsonObject members)).isSome = members.all writable := by
  have same : (jsonObject members).toList.all writable = members.all writable := by
    rw [Bool.eq_iff_iff, List.all_eq_true, List.all_eq_true]
    constructor
    · intro all member mem
      refine all member (Std.ExtTreeMap.mem_toList_iff_getElem?_eq_some.mpr ?_)
      exact get_foldl_insert distinct mem
    · intro all member mem
      have stored := Std.ExtTreeMap.mem_toList_iff_getElem?_eq_some.mp mem
      rcases mem_foldl_insert stored with mem | impossible
      · exact all _ mem
      · simp at impossible
  unfold dump
  rw [same]
  split
  · rename_i all
    rw [all]
    rfl
  · rename_i notAll
    rw [Bool.eq_false_iff.mpr notAll]
    rfl

end XServer.Core
