import XServer.Core.Json

/-!
# Reading JSON texts back

A reader for the texts of flat objects: what is written of a list of members is
read back as that list (`readObject_write`). So the text that `dump` writes of an
object determines the object (`dump_injective`).
-/

namespace XServer.Core
open XServer.Lib XServer.Lib.Wire XServer.Net

/-! ## Texts of objects -/

def writeMember (member : Bytes × JsonScalar) : Bytes := dumpString member.1 ++ text ":" ++ dumpScalar member.2

/-- Members in their order, no blanks. -/
def writeObject (members : List (Bytes × JsonScalar)) : Bytes :=
  text "\x7b" ++ (text ",").intercalate (members.map writeMember) ++ text "\x7d"

theorem dump_some {members : Table Bytes JsonScalar} {body : Bytes} (written : dump members = some body) :
    body = writeObject members.toList := by
  unfold dump at written
  split at written
  · exact (Option.some.inj written).symm
  · cases written

/-! ## The reader -/

def unhex (ch : UInt8) : UInt8 := if ch < 58 then ch - 48 else ch - 87

/-- The byte behind a backslash. -/
def unescape (ch : UInt8) : Option UInt8 :=
  if ch = 0x62 then some 0x08
  else if ch = 0x74 then some 0x09
  else if ch = 0x6E then some 0x0A
  else if ch = 0x66 then some 0x0C
  else if ch = 0x72 then some 0x0D
  else if ch = 0x22 then some 0x22
  else if ch = 0x5C then some 0x5C
  else none

/-- The first byte of a string's contents, and what is behind it. -/
def readByte : Bytes → Option (UInt8 × Bytes)
  | [] => none
  | byte :: rest =>
    if byte ≠ 0x5C then some (byte, rest)
    else
      match rest with
      | [] => none
      | ch :: rest =>
        if ch = 0x75 then
          match rest with
          | _ :: _ :: high :: low :: rest => some (unhex high * 16 + unhex low, rest)
          | _ => none
        else (unescape ch).map (·, rest)

/-- The contents of a string up to its closing quote. -/
def readString : Nat → Bytes → Option (Bytes × Bytes)
  | 0, _ => none
  | fuel + 1, bytes =>
    if bytes.head? = some 0x22 then some ([], bytes.tail)
    else do
      let (byte, rest) ← readByte bytes
      let (value, rest) ← readString fuel rest
      some (byte :: value, rest)

/-- What a byte says if it is the next one. -/
def expect (byte : UInt8) : Bytes → Option Bytes
  | [] => none
  | ch :: rest => if ch = byte then some rest else none

def isDecimalDigit (ch : UInt8) : Bool := decide (48 ≤ ch) && decide (ch ≤ 57)

def readDecimal (digits : Bytes) : Nat := digits.foldl (fun n ch => n * 10 + (ch.toNat - 48)) 0

def readScalar (bytes : Bytes) : Option (JsonScalar × Bytes) :=
  if bytes.head? = some 0x22 then (readString bytes.length bytes.tail).map fun (value, rest) => (.string value, rest)
  else if bytes.take 4 = text "true" then some (.boolean true, bytes.drop 4)
  else if bytes.take 5 = text "false" then some (.boolean false, bytes.drop 5)
  else if bytes.take 4 = text "null" then some (.other, bytes.drop 4)
  else if bytes.takeWhile isDecimalDigit = [] then none
  else
    some (.unsigned (UInt64.ofNat (readDecimal (bytes.takeWhile isDecimalDigit))), bytes.dropWhile isDecimalDigit)

def readMember (bytes : Bytes) : Option ((Bytes × JsonScalar) × Bytes) := do
  let rest ← expect 0x22 bytes
  let (key, rest) ← readString bytes.length rest
  let rest ← expect 0x3A rest
  let (value, rest) ← readScalar rest
  some ((key, value), rest)

/-- Members up to the closing brace, which ends the text. -/
def readMembers : Nat → Bytes → Option (List (Bytes × JsonScalar))
  | 0, _ => none
  | fuel + 1, bytes => do
    let (member, rest) ← readMember bytes
    if rest = text "\x7d" then some [member]
    else
      let rest ← expect 0x2C rest
      let members ← readMembers fuel rest
      some (member :: members)

def readObject (bytes : Bytes) : Option (List (Bytes × JsonScalar)) :=
  if bytes = text "\x7b\x7d" then some [] else (expect 0x7B bytes).bind (readMembers bytes.length)

/-! ## Strings -/

theorem unhex_control {byte : UInt8} (control : byte < 0x20) :
    unhex (hexDigit (byte.toNat / 16)) * 16 + unhex (hexDigit (byte.toNat % 16)) = byte := by
  have all : ∀ n < 32, unhex (hexDigit (n / 16)) * 16 + unhex (hexDigit (n % 16)) = UInt8.ofNat n := by decide
  have small : byte.toNat < 32 := control
  rw [all byte.toNat small]
  exact UInt8.ofNat_toNat

/-- An escaped byte is read back. -/
theorem readByte_escape (byte : UInt8) (rest : Bytes) : readByte (escapeByte byte ++ rest) = some (byte, rest) := by
  unfold escapeByte
  split
  · subst byte; rfl
  split
  · subst byte; rfl
  split
  · subst byte; rfl
  split
  · subst byte; rfl
  split
  · subst byte; rfl
  split
  · subst byte; rfl
  split
  · subst byte; rfl
  split
  · rename_i control
    show some (unhex (hexDigit (byte.toNat / 16)) * 16 + unhex (hexDigit (byte.toNat % 16)), rest) = _
    rw [unhex_control control]
  · rename_i plain _
    simp [readByte, plain]

/-- No escaped byte begins with the quote that ends a string. -/
theorem escapeByte_head (byte : UInt8) (rest : Bytes) : (escapeByte byte ++ rest).head? ≠ some 0x22 := by
  intro quote
  obtain ⟨tail, split⟩ := List.head?_eq_some_iff.mp quote
  have read := readByte_escape byte rest
  rw [split] at read
  obtain ⟨rfl, -⟩ := Prod.mk.inj (Option.some.inj read)
  have backslash : (escapeByte 0x22 ++ rest).head? = some 0x5C := rfl
  rw [backslash] at quote
  exact absurd quote (by decide)

theorem readString_written (value rest : Bytes) {fuel : Nat} (enough : value.length < fuel) :
    readString fuel (value.flatMap escapeByte ++ 0x22 :: rest) = some (value, rest) := by
  induction value generalizing fuel with
  | nil =>
    obtain ⟨fuel, rfl⟩ : ∃ n, fuel = n + 1 := ⟨fuel - 1, by simp at enough; omega⟩
    rfl
  | cons byte value ih =>
    obtain ⟨fuel, rfl⟩ : ∃ n, fuel = n + 1 := ⟨fuel - 1, by simp at enough; omega⟩
    have shorter : value.length < fuel := by simpa using enough
    rw [List.flatMap_cons, List.append_assoc, readString, if_neg (escapeByte_head byte _), readByte_escape]
    show (readString fuel _).bind _ = _
    rw [ih shorter]
    rfl

theorem length_escaped (value : Bytes) : value.length ≤ (value.flatMap escapeByte).length := by
  induction value with
  | nil => exact Nat.le_refl 0
  | cons byte value ih =>
    have one : 1 ≤ (escapeByte byte).length := by
      cases written : escapeByte byte with
      | nil =>
        have read := readByte_escape byte []
        rw [written] at read
        cases read
      | cons => simp
    rw [List.flatMap_cons, List.length_append, List.length_cons]
    omega

theorem dumpString_cons (value rest : Bytes) :
    dumpString value ++ rest = 0x22 :: (value.flatMap escapeByte ++ 0x22 :: rest) := by
  show (text "\"" ++ value.flatMap escapeByte ++ text "\"") ++ rest = _
  simp [text]
  rfl

/-! ## Numbers -/

theorem text_append (a b : String) : text (a ++ b) = text a ++ text b := by
  simp [text, String.toByteArray_append]

/-- The digits of a number, and the number they are read as. -/
theorem readDecimal_repr (n : Nat) :
    readDecimal (text n.repr) = n ∧ (∀ ch ∈ text n.repr, isDecimalDigit ch = true) ∧ text n.repr ≠ [] := by
  have digit : ∀ n < 10, ∃ ch, text n.repr = [ch] ∧ isDecimalDigit ch = true ∧ ch.toNat - 48 = n := by
    have all : ∀ n < 10, text n.repr = [UInt8.ofNat (48 + n)] ∧ isDecimalDigit (UInt8.ofNat (48 + n)) = true ∧
      (UInt8.ofNat (48 + n)).toNat - 48 = n := by decide +kernel
    exact fun n small => ⟨_, all n small⟩
  induction n using Nat.strongRecOn with
  | ind n ih =>
    by_cases small : n < 10
    · obtain ⟨ch, written, isDigit, value⟩ := digit n small
      rw [written]
      refine ⟨?_, by simpa using isDigit, List.cons_ne_nil ch []⟩
      show 0 * 10 + (ch.toNat - 48) = n
      omega
    · obtain ⟨value, digits, -⟩ := ih (n / 10) (by omega)
      obtain ⟨ch, written, isDigit, last⟩ := digit (n % 10) (by omega)
      rw [Nat.repr_eq_repr_append_repr (by omega), text_append, written]
      refine ⟨?_, ?_, by simp⟩
      · unfold readDecimal at value ⊢
        rw [List.foldl_append, value]
        show n / 10 * 10 + (ch.toNat - 48) = n
        omega
      · intro c mem
        rcases List.mem_append.mp mem with front | back
        · exact digits c front
        · rw [List.mem_singleton.mp back]
          exact isDigit

/-! ## Scalars and members -/

/-- What is behind a scalar is no digit. -/
def EndsScalar (rest : Bytes) : Prop := ∀ ch, rest.head? = some ch → isDecimalDigit ch = false

/-- A run of digits ends where the first other byte stands. -/
theorem span_digits {digits rest : Bytes} (all : ∀ ch ∈ digits, isDecimalDigit ch = true) (ends : EndsScalar rest) :
    (digits ++ rest).takeWhile isDecimalDigit = digits ∧ (digits ++ rest).dropWhile isDecimalDigit = rest := by
  induction digits with
  | nil =>
    cases rest with
    | nil => exact ⟨rfl, rfl⟩
    | cons ch rest =>
      have stop : isDecimalDigit ch = false := ends ch rfl
      simp [stop]
  | cons ch digits ih =>
    have one := all ch List.mem_cons_self
    obtain ⟨front, back⟩ := ih fun c mem => all c (List.mem_cons_of_mem ch mem)
    simp [one, front, back]

theorem readScalar_unsigned (value : UInt64) {rest : Bytes} (ends : EndsScalar rest) :
    readScalar (text (toString value.toNat) ++ rest) = some (.unsigned value, rest) := by
  obtain ⟨read, digits, nonempty⟩ := readDecimal_repr value.toNat
  obtain ⟨front, back⟩ := span_digits digits ends
  rw [Nat.toString_eq_repr]
  cases written : text value.toNat.repr with
  | nil => exact absurd written nonempty
  | cons ch more =>
    have isDigit : isDecimalDigit ch = true := digits ch (by rw [written]; exact List.mem_cons_self)
    have letters : isDecimalDigit 0x22 = false ∧ isDecimalDigit 0x74 = false ∧ isDecimalDigit 0x66 = false ∧
        isDecimalDigit 0x6E = false := by decide
    have first : ∀ c, isDecimalDigit c = false → ch ≠ c := by
      intro c other same
      rw [same, other] at isDigit
      cases isDigit
    rw [← written]
    unfold readScalar
    rw [front, back, read]
    rw [if_neg, if_neg, if_neg, if_neg, if_neg nonempty, UInt64.ofNat_toNat]
    · rw [written]
      show ¬ ch :: (more ++ rest).take 3 = 0x6E :: text "ull"
      exact fun same => first _ letters.2.2.2 (List.cons.inj same).1
    · rw [written]
      show ¬ ch :: (more ++ rest).take 4 = 0x66 :: text "alse"
      exact fun same => first _ letters.2.2.1 (List.cons.inj same).1
    · rw [written]
      show ¬ ch :: (more ++ rest).take 3 = 0x74 :: text "rue"
      exact fun same => first _ letters.2.1 (List.cons.inj same).1
    · rw [written]
      exact fun same => first _ letters.1 (Option.some.inj same)

/-- A scalar is read back. -/
theorem readScalar_dump (value : JsonScalar) {rest : Bytes} (ends : EndsScalar rest) :
    readScalar (dumpScalar value ++ rest) = some (value, rest) := by
  cases value with
  | string value =>
    show readScalar (dumpString value ++ rest) = _
    rw [dumpString_cons]
    have enough : value.length < (0x22 :: (value.flatMap escapeByte ++ 0x22 :: rest)).length := by
      have shorter := length_escaped value
      rw [List.length_cons, List.length_append]
      omega
    unfold readScalar
    rw [if_pos List.head?_cons, List.tail_cons, readString_written value rest enough]
    rfl
  | unsigned value => exact readScalar_unsigned value ends
  | boolean value => cases value <;> rfl
  | other => rfl

/-- A member is read back. -/
theorem readMember_write (member : Bytes × JsonScalar) {rest : Bytes} (ends : EndsScalar rest) :
    readMember (writeMember member ++ rest) = some (member, rest) := by
  obtain ⟨key, value⟩ := member
  have enough : key.length < (writeMember (key, value) ++ rest).length := by
    have shorter := length_escaped key
    have split : writeMember (key, value) ++ rest = dumpString key ++ (text ":" ++ dumpScalar value ++ rest) := by
      simp [writeMember]
    rw [split, dumpString_cons, List.length_cons, List.length_append]
    omega
  unfold readMember
  have split : writeMember (key, value) ++ rest =
      0x22 :: (key.flatMap escapeByte ++ 0x22 :: (0x3A :: (dumpScalar value ++ rest))) := by
    have first := dumpString_cons key (text ":" ++ (dumpScalar value ++ rest))
    simp only [writeMember, List.append_assoc]
    exact first
  rw [split] at enough ⊢
  show (readString _ _).bind _ = _
  rw [readString_written key _ enough]
  show (readScalar (dumpScalar value ++ rest)).bind _ = _
  rw [readScalar_dump value ends]
  rfl

/-! ## Objects -/

theorem endsScalar_cons {ch : UInt8} (other : isDecimalDigit ch = false) (rest : Bytes) : EndsScalar (ch :: rest) := by
  intro c head
  rw [← Option.some.inj head]
  exact other

theorem readMembers_write (member : Bytes × JsonScalar) (members : List (Bytes × JsonScalar)) {fuel : Nat}
    (enough : members.length < fuel) :
    readMembers fuel ((text ",").intercalate ((member :: members).map writeMember) ++ text "\x7d") =
      some (member :: members) := by
  induction members generalizing member fuel with
  | nil =>
    obtain ⟨fuel, rfl⟩ : ∃ n, fuel = n + 1 := ⟨fuel - 1, by omega⟩
    have alone : (text ",").intercalate ([member].map writeMember) = writeMember member := by simp [List.intercalate]
    have ends : EndsScalar (text "\x7d") := endsScalar_cons (by decide) []
    rw [alone, readMembers, readMember_write member ends]
    rfl
  | cons next members ih =>
    obtain ⟨fuel, rfl⟩ : ∃ n, fuel = n + 1 := ⟨fuel - 1, by omega⟩
    have shorter : members.length < fuel := by simpa using enough
    have split : (text ",").intercalate ((member :: next :: members).map writeMember) ++ text "\x7d" =
        writeMember member ++ (0x2C :: ((text ",").intercalate ((next :: members).map writeMember) ++ text "\x7d")) := by
      simp [List.intercalate_cons_cons, text]
      rfl
    have ends : EndsScalar (0x2C :: ((text ",").intercalate ((next :: members).map writeMember) ++ text "\x7d")) :=
      endsScalar_cons (by decide) _
    have more : ¬ (0x2C :: ((text ",").intercalate ((next :: members).map writeMember) ++ text "\x7d")) = text "\x7d" :=
      fun same => absurd (List.cons.inj same).1 (by decide)
    rw [split, readMembers, readMember_write member ends]
    simp only [Option.bind_eq_bind, Option.bind_some, if_neg more]
    show (readMembers fuel _).bind _ = _
    rw [ih next shorter]
    rfl

theorem length_intercalate (members : List (Bytes × JsonScalar)) :
    members.length ≤ ((text ",").intercalate (members.map writeMember)).length := by
  have one : ∀ member, 1 ≤ (writeMember member).length := by
    intro member
    simp only [writeMember, List.length_append]
    have colon : (text ":").length = 1 := rfl
    omega
  induction members with
  | nil => exact Nat.zero_le _
  | cons member members ih =>
    cases members with
    | nil =>
      rw [List.map_cons, List.map_nil, List.intercalate_singleton]
      exact one member
    | cons next members =>
      rw [List.map_cons, List.map_cons, List.intercalate_cons_cons, ← List.map_cons]
      simp only [List.length_cons, List.length_append] at ih ⊢
      have first := one member
      omega

/-- **A text determines its members.** -/
theorem readObject_write (members : List (Bytes × JsonScalar)) : readObject (writeObject members) = some members := by
  cases members with
  | nil => rfl
  | cons member members =>
    have split : writeObject (member :: members) =
        0x7B :: ((text ",").intercalate ((member :: members).map writeMember) ++ text "\x7d") := rfl
    have enough : members.length < (writeObject (member :: members)).length := by
      have shorter := length_intercalate (member :: members)
      rw [split, List.length_cons, List.length_append]
      simp only [List.length_cons] at shorter
      omega
    have nonempty : writeObject (member :: members) ≠ text "\x7b\x7d" := by
      intro same
      have two := congrArg List.length same
      have three := length_intercalate (member :: members)
      rw [split] at two
      simp only [List.length_cons, List.length_append] at two three
      have braces : (text "\x7b\x7d").length = 2 ∧ (text "\x7d").length = 1 := by decide +kernel
      omega
    unfold readObject
    rw [if_neg nonempty]
    show readMembers _ _ = _
    exact readMembers_write member members enough

/-- A table is the object of its own members. -/
theorem jsonObject_toList (members : Table Bytes JsonScalar) : jsonObject members.toList = members := by
  have distinct : (members.toList.map (·.1)).Nodup := by
    rw [Std.ExtTreeMap.map_fst_toList_eq_keys]
    exact Std.ExtTreeMap.nodup_keys
  refine Std.ExtTreeMap.ext_getElem? fun key => ?_
  cases stored : members[key]? with
  | some value => exact get_foldl_insert distinct (Std.ExtTreeMap.mem_toList_iff_getElem?_eq_some.mpr stored)
  | none =>
    cases read : (jsonObject members.toList)[key]? with
    | none => rfl
    | some value =>
      rcases mem_foldl_insert read with mem | impossible
      · rw [Std.ExtTreeMap.mem_toList_iff_getElem?_eq_some.mp mem] at stored
        cases stored
      · simp at impossible

/-- An object that is written is read back. -/
theorem readObject_dump {members : Table Bytes JsonScalar} {body : Bytes} (written : dump members = some body) :
    (readObject body).map jsonObject = some members := by
  rw [dump_some written, readObject_write, Option.map_some, jsonObject_toList]

end XServer.Core
