import XServer.Node.GmControlHttp

/-!
# The loops that decode a query

`TryUrlDecode` and `TryGetDecodedQueryValue` of `node/GmControlHttpService.cpp` with their
indices. The loops compute the recursive functions that the routes use (`tryUrlDecode_eq`,
`tryGetDecodedQueryValue_eq`). These invert every encoding of a text, and look a key up
among the segments of a query.
-/

namespace XServer.Node
open XServer.Lib XServer.Lib.Wire XServer.Net

/-! ## The loops -/

namespace QueryLoops

/-- The loop of `TryUrlDecode` from an index, behind what is decoded already. -/
def urlDecodeFrom (encoded : Bytes) (index : Nat) (decoded : Bytes) : Option Bytes :=
  if inside : index < encoded.length then
    let ch := encoded[index]
    if ch = 43 then urlDecodeFrom encoded (index + 1) (decoded ++ [32])
    else if ch ≠ 37 then urlDecodeFrom encoded (index + 1) (decoded ++ [ch])
    else if short : index + 2 ≥ encoded.length then none
    else
      match tryHexNibble encoded[index + 1], tryHexNibble encoded[index + 2] with
      | some high, some low => urlDecodeFrom encoded (index + 3) (decoded ++ [(high <<< 4) ||| low])
      | _, _ => none
  else some decoded
termination_by encoded.length - index

def tryUrlDecode (encoded : Bytes) : Option Bytes := urlDecodeFrom encoded 0 []

/-- `query.find('&', position)`. -/
def findAmpersand (query : Bytes) (position : Nat) : Option Nat :=
  (search (text "&") (query.drop position)).map (position + ·)

theorem findAmpersand_le {query : Bytes} {position found : Nat} (h : findAmpersand query position = some found) :
    position ≤ found := by
  obtain ⟨length, -, rfl⟩ := Option.map_eq_some_iff.mp h
  exact Nat.le_add_right position length

/-- The loop of `TryGetDecodedQueryValue` from the start of a segment. -/
def queryValueFrom (query key : Bytes) (segmentBegin : Nat) : Option Bytes :=
  if segmentBegin ≤ query.length then
    let segment := (findAmpersand query segmentBegin).elim (query.drop segmentBegin) fun segmentEnd =>
      (query.drop segmentBegin).take (segmentEnd - segmentBegin)
    if segment ≠ [] ∧ segmentKey segment = key then tryUrlDecode (segmentValue segment)
    else
      match found : findAmpersand query segmentBegin with
      | none => none
      | some segmentEnd => queryValueFrom query key (segmentEnd + 1)
  else none
termination_by query.length + 1 - segmentBegin
decreasing_by
  have after := findAmpersand_le found
  omega

def tryGetDecodedQueryValue (query key : Bytes) : Option Bytes := queryValueFrom query key 0

end QueryLoops

/-! ## Decoding a text -/

theorem tryUrlDecode_plus (rest : Bytes) : tryUrlDecode (43 :: rest) = (tryUrlDecode rest).map (32 :: ·) := by
  match rest with
  | [] => rfl
  | [_] => rfl
  | _ :: _ :: _ => rfl

theorem tryUrlDecode_plain {ch : UInt8} (escape : ch ≠ 37) (plus : ch ≠ 43) (rest : Bytes) :
    tryUrlDecode (ch :: rest) = (tryUrlDecode rest).map (ch :: ·) := by
  conv_lhs => unfold tryUrlDecode
  rw [if_neg plus, if_pos escape]

theorem tryUrlDecode_escape (high low : UInt8) (rest : Bytes) :
    tryUrlDecode (37 :: high :: low :: rest) =
      (tryHexNibble high).bind fun h => (tryHexNibble low).bind fun l =>
        (tryUrlDecode rest).map (((h <<< 4) ||| l) :: ·) := rfl

theorem tryUrlDecode_short {rest : Bytes} (short : rest.length < 2) : tryUrlDecode (37 :: rest) = none := by
  match rest with
  | [] => rfl
  | [_] => rfl
  | _ :: _ :: _ =>
    simp only [List.length_cons] at short
    omega

theorem drop_three {encoded : Bytes} {index : Nat} (enough : index + 2 < encoded.length) :
    encoded.drop index = encoded[index] :: encoded[index + 1] :: encoded[index + 2] :: encoded.drop (index + 3) := by
  rw [List.drop_eq_getElem_cons (show index < encoded.length by omega),
    List.drop_eq_getElem_cons (show index + 1 < encoded.length by omega), List.drop_eq_getElem_cons enough]

theorem urlDecodeFrom_eq (encoded : Bytes) (index : Nat) (decoded : Bytes) :
    QueryLoops.urlDecodeFrom encoded index decoded = (tryUrlDecode (encoded.drop index)).map (decoded ++ ·) := by
  fun_induction QueryLoops.urlDecodeFrom encoded index decoded with
  | case1 index decoded inside ch plus ih =>
    have here : encoded.drop index = 43 :: encoded.drop (index + 1) := by
      rw [List.drop_eq_getElem_cons inside, ← plus]
    rw [ih, here, tryUrlDecode_plus, Option.map_map]
    congr 1
    funext rest
    simp
  | case2 index decoded inside ch plus plain ih =>
    rw [ih, List.drop_eq_getElem_cons inside, tryUrlDecode_plain plain plus, Option.map_map]
    congr 1
    funext rest
    simp [ch]
  | case3 index decoded inside ch plus escape short =>
    have here : encoded.drop index = 37 :: encoded.drop (index + 1) := by
      rw [List.drop_eq_getElem_cons inside, ← not_not.mp escape]
    rw [here, tryUrlDecode_short, Option.map_none]
    rw [List.length_drop]
    omega
  | case4 index decoded inside ch plus escape enough high low isHigh isLow ih =>
    have here := drop_three (Nat.lt_of_not_ge enough)
    rw [show encoded[index] = 37 from not_not.mp escape] at here
    rw [ih, here, tryUrlDecode_escape, isHigh, isLow]
    simp only [Option.bind_some, Option.map_map]
    congr 1
    funext rest
    simp
  | case5 index decoded inside ch plus escape enough malformed =>
    have here := drop_three (Nat.lt_of_not_ge enough)
    rw [show encoded[index] = 37 from not_not.mp escape] at here
    rw [here, tryUrlDecode_escape]
    cases isHigh : tryHexNibble encoded[index + 1] with
    | none => rfl
    | some high =>
      cases isLow : tryHexNibble encoded[index + 2] with
      | none => rfl
      | some low => exact (malformed high low isHigh isLow).elim
  | case6 index decoded outside =>
    rw [List.drop_eq_nil_of_le (by omega)]
    simp [tryUrlDecode]

theorem tryUrlDecode_eq (encoded : Bytes) : QueryLoops.tryUrlDecode encoded = tryUrlDecode encoded := by
  rw [QueryLoops.tryUrlDecode, urlDecodeFrom_eq, List.drop_zero]
  simp

/-! ### What is encoded -/

/-- The digits of a number below sixteen, of either case. -/
def WritesNibble (nibble : Nat) (digit : UInt8) : Prop :=
  (text "0123456789abcdef")[nibble]? = some digit ∨ (text "0123456789ABCDEF")[nibble]? = some digit

/-- An encoding of a text: each byte as itself, as an escape, or a space as a plus. -/
inductive UrlEncodes : Bytes → Bytes → Prop
  | nil : UrlEncodes [] []
  | plain {ch : UInt8} {decoded encoded : Bytes} (escape : ch ≠ 37) (plus : ch ≠ 43) (rest : UrlEncodes decoded encoded) :
      UrlEncodes (ch :: decoded) (ch :: encoded)
  | escaped {ch high low : UInt8} {decoded encoded : Bytes} (isHigh : WritesNibble (ch.toNat / 16) high)
      (isLow : WritesNibble (ch.toNat % 16) low) (rest : UrlEncodes decoded encoded) :
      UrlEncodes (ch :: decoded) (37 :: high :: low :: encoded)
  | space {decoded encoded : Bytes} (rest : UrlEncodes decoded encoded) : UrlEncodes (32 :: decoded) (43 :: encoded)

theorem tryHexNibble_of_writes {nibble : Nat} {digit : UInt8} (writes : WritesNibble nibble digit) :
    tryHexNibble digit = some (UInt8.ofNat nibble) := by
  have lower : ∀ n < 16, ((text "0123456789abcdef")[n]?.bind tryHexNibble) = some (UInt8.ofNat n) := by decide +kernel
  have upper : ∀ n < 16, ((text "0123456789ABCDEF")[n]?.bind tryHexNibble) = some (UInt8.ofNat n) := by decide +kernel
  rcases writes with writes | writes
  · have below := (List.getElem?_eq_some_iff.mp writes).1
    have read := lower nibble below
    rwa [writes] at read
  · have below := (List.getElem?_eq_some_iff.mp writes).1
    have read := upper nibble below
    rwa [writes] at read

/-- The two digits of a byte, put together. -/
theorem nibbles_or (ch : UInt8) : (UInt8.ofNat (ch.toNat / 16) <<< 4) ||| UInt8.ofNat (ch.toNat % 16) = ch := by
  have all : ∀ n < 256, (UInt8.ofNat (n / 16) <<< 4) ||| UInt8.ofNat (n % 16) = UInt8.ofNat n := by decide +kernel
  rw [all ch.toNat ch.toNat_lt, UInt8.ofNat_toNat]

theorem tryUrlDecode_of_encodes {decoded encoded : Bytes} (encodes : UrlEncodes decoded encoded) :
    tryUrlDecode encoded = some decoded := by
  induction encodes with
  | nil => rfl
  | plain escape plus _ ih => rw [tryUrlDecode_plain escape plus, ih, Option.map_some]
  | escaped isHigh isLow _ ih =>
    rw [tryUrlDecode_escape, tryHexNibble_of_writes isHigh, tryHexNibble_of_writes isLow, ih]
    simp only [Option.bind_some, Option.map_some, nibbles_or]
  | space _ ih => rw [tryUrlDecode_plus, ih, Option.map_some]

/-! ### What is refused -/

def IsHexDigit (ch : UInt8) : Prop := ch ∈ text "0123456789abcdefABCDEF"

/-- What stands at an index is followed by two hex digits. -/
def FollowedByDigits (encoded : Bytes) (index : Nat) : Prop :=
  ∃ high low, encoded[index + 1]? = some high ∧ encoded[index + 2]? = some low ∧ IsHexDigit high ∧ IsHexDigit low

/-- Some percent sign is not followed by two hex digits. -/
def Malformed (encoded : Bytes) : Prop := ∃ index, encoded[index]? = some 37 ∧ ¬ FollowedByDigits encoded index

theorem malformed_cons (ch : UInt8) (rest : Bytes) :
    Malformed (ch :: rest) ↔ (ch = 37 ∧ ¬ FollowedByDigits (ch :: rest) 0) ∨ Malformed rest := by
  constructor
  · rintro ⟨index, sign, lacking⟩
    cases index with
    | zero => exact .inl ⟨by simpa using sign, lacking⟩
    | succ index => exact .inr ⟨index, sign, lacking⟩
  · rintro (⟨rfl, lacking⟩ | ⟨index, sign, lacking⟩)
    · exact ⟨0, rfl, lacking⟩
    · exact ⟨index + 1, sign, lacking⟩

theorem malformed_other {ch : UInt8} (other : ch ≠ 37) (rest : Bytes) : Malformed (ch :: rest) ↔ Malformed rest := by
  rw [malformed_cons]
  exact or_iff_right fun sign => other sign.1

/-- The hexadecimal digits are three ranges. -/
theorem isHexDigit_iff (ch : UInt8) : IsHexDigit ch ↔ 48 ≤ ch ∧ ch ≤ 57 ∨ 97 ≤ ch ∧ ch ≤ 102 ∨ 65 ≤ ch ∧ ch ≤ 70 := by
  have digits : text "0123456789abcdefABCDEF" =
      [48, 49, 50, 51, 52, 53, 54, 55, 56, 57, 97, 98, 99, 100, 101, 102, 65, 66, 67, 68, 69, 70] := by decide +kernel
  unfold IsHexDigit
  rw [digits]
  simp only [List.mem_cons, List.not_mem_nil, or_false, ← UInt8.toNat_inj, UInt8.le_iff_toNat_le, UInt8.reduceToNat]
  omega

theorem tryHexNibble_isSome (ch : UInt8) : (tryHexNibble ch).isSome ↔ IsHexDigit ch := by
  rw [isHexDigit_iff]
  unfold tryHexNibble
  split
  · rename_i decimal
    simp [decimal]
  rename_i notDecimal
  split
  · rename_i lower
    simp [lower]
  rename_i notLower
  split
  · rename_i upper
    simp [upper]
  · rename_i notUpper
    simp [notDecimal, notLower, notUpper]

/-- A digit is no percent sign: what follows an escape is looked at alone. -/
theorem malformed_digit {ch : UInt8} (digit : IsHexDigit ch) (rest : Bytes) : Malformed (ch :: rest) ↔ Malformed rest := by
  refine malformed_other ?_ rest
  rintro rfl
  exact absurd digit (by unfold IsHexDigit; decide +kernel)

theorem tryUrlDecode_none (encoded : Bytes) : tryUrlDecode encoded = none ↔ Malformed encoded := by
  induction encoded using tryUrlDecode.induct with
  | case1 =>
    refine iff_of_false (fun none => nomatch none) ?_
    rintro ⟨index, sign, -⟩
    cases sign
  | case2 rest ih => rw [tryUrlDecode_plus, Option.map_eq_none_iff, ih, malformed_other (by decide)]
  | case3 ch rest plus escape ih =>
    rw [tryUrlDecode_plain escape plus, Option.map_eq_none_iff, ih, malformed_other escape]
  | case4 ch plus escape high low rest ih =>
    obtain rfl := not_not.mp escape
    rw [tryUrlDecode_escape, malformed_cons]
    by_cases digits : IsHexDigit high ∧ IsHexDigit low
    · obtain ⟨isHigh, isLow⟩ := digits
      obtain ⟨h, readHigh⟩ := Option.isSome_iff_exists.mp ((tryHexNibble_isSome high).mpr isHigh)
      obtain ⟨l, readLow⟩ := Option.isSome_iff_exists.mp ((tryHexNibble_isSome low).mpr isLow)
      have followed : FollowedByDigits (37 :: high :: low :: rest) 0 := ⟨high, low, rfl, rfl, isHigh, isLow⟩
      rw [readHigh, readLow, malformed_digit isHigh, malformed_digit isLow, ← ih]
      simp [followed]
    · have lacking : ¬ FollowedByDigits (37 :: high :: low :: rest) 0 := by
        rintro ⟨high', low', here, next, isHigh, isLow⟩
        cases here
        cases next
        exact digits ⟨isHigh, isLow⟩
      refine iff_of_true ?_ (.inl ⟨rfl, lacking⟩)
      cases readHigh : tryHexNibble high with
      | none => rfl
      | some h =>
        cases readLow : tryHexNibble low with
        | none => rfl
        | some l =>
          have isHigh := (tryHexNibble_isSome high).mp (by rw [readHigh]; rfl)
          have isLow := (tryHexNibble_isSome low).mp (by rw [readLow]; rfl)
          exact absurd ⟨isHigh, isLow⟩ digits
  | case5 ch rest plus escape few =>
    obtain rfl := not_not.mp escape
    have short : rest.length < 2 := by
      match rest with
      | [] => decide
      | [_] => exact Nat.lt_succ_self 1
      | high :: low :: rest => exact (few high low rest rfl).elim
    refine iff_of_true (tryUrlDecode_short short) ((malformed_cons 37 rest).mpr (.inl ⟨rfl, ?_⟩))
    rintro ⟨high, low, -, next, -, -⟩
    have inside := (List.getElem?_eq_some_iff.mp next).1
    simp only [List.length_cons] at inside
    omega

/-! ## Looking up a key -/

theorem ampersand : text "&" = [38] := by decide +kernel

theorem equalsSign : text "=" = [61] := by decide +kernel

theorem segmentKey_eq (segment : Bytes) : segmentKey segment = segment.takeWhile (· != 61) := by
  unfold segmentKey
  rw [equalsSign]
  split
  · rename_i absent
    have others := search_singleton_none.mp absent
    rw [List.takeWhile_eq_self_iff.mpr]
    intro ch mem
    exact bne_iff_ne.mpr fun same => others (same ▸ mem)
  · rename_i found
    exact (search_singleton_takeWhile found).1

theorem segmentValue_eq (segment : Bytes) : segmentValue segment = (segment.dropWhile (· != 61)).drop 1 := by
  unfold segmentValue
  rw [equalsSign]
  split
  · rename_i absent
    have others := search_singleton_none.mp absent
    rw [List.dropWhile_eq_nil_iff.mpr, List.drop_nil]
    intro ch mem
    exact bne_iff_ne.mpr fun same => others (same ▸ mem)
  · rename_i found
    exact (search_singleton_takeWhile found).2

/-- The decoding of the value behind a key, among segments. -/
def lookup (segments : List Bytes) (key : Bytes) : Option Bytes :=
  (segments.find? fun segment => !segment.isEmpty && segmentKey segment == key).bind fun segment =>
    tryUrlDecode (segmentValue segment)

theorem tryGetDecodedQueryValue_lookup (query key : Bytes) :
    tryGetDecodedQueryValue query key = lookup (query.splitOn 38) key := by
  unfold tryGetDecodedQueryValue lookup
  split
  · rename_i absent
    rw [absent]
    rfl
  · rename_i found
    rw [found]
    rfl

theorem lookup_cons (segment : Bytes) (segments : List Bytes) (key : Bytes) :
    lookup (segment :: segments) key =
      if segment ≠ [] ∧ segmentKey segment = key then tryUrlDecode (segmentValue segment) else lookup segments key := by
  unfold lookup
  rw [List.find?_cons]
  by_cases here : segment ≠ [] ∧ segmentKey segment = key
  · rw [if_pos here]
    obtain ⟨nonempty, same⟩ := here
    have holds : (!segment.isEmpty && segmentKey segment == key) = true := by simp [nonempty, same]
    rw [holds]
    rfl
  · rw [if_neg here]
    have passed : (!segment.isEmpty && segmentKey segment == key) = false := by
      rw [Bool.eq_false_iff]
      intro both
      simp only [Bool.and_eq_true, Bool.not_eq_true', List.isEmpty_eq_false_iff, beq_iff_eq] at both
      exact here both
    rw [passed]

theorem splitOn_last {query : Bytes} {position : Nat} (absent : QueryLoops.findAmpersand query position = none) :
    (query.drop position).splitOn 38 = [query.drop position] := by
  unfold QueryLoops.findAmpersand at absent
  rw [Option.map_eq_none_iff, ampersand, search_singleton_none] at absent
  exact List.splitOn_eq_singleton absent

theorem splitOn_next {query : Bytes} {position segmentEnd : Nat}
    (found : QueryLoops.findAmpersand query position = some segmentEnd) :
    segmentEnd + 1 ≤ query.length ∧
      (query.drop position).splitOn 38 =
        (query.drop position).take (segmentEnd - position) :: (query.drop (segmentEnd + 1)).splitOn 38 := by
  obtain ⟨length, here, rfl⟩ := Option.map_eq_some_iff.mp found
  rw [ampersand] at here
  have within := search_within here
  have absent := search_singleton_take here
  have split := search_split here
  rw [List.length_singleton, List.length_drop] at within
  rw [List.length_singleton, List.drop_drop, ← Nat.add_assoc] at split
  constructor
  · omega
  · rw [Nat.add_sub_cancel_left]
    conv_lhs => rw [split]
    exact List.splitOn_append_cons_self_of_not_mem absent _

/-- The segment that the loop is at, and those behind it. -/
theorem lookup_segment (query key : Bytes) (position : Nat) :
    let segment := (QueryLoops.findAmpersand query position).elim (query.drop position) fun segmentEnd =>
      (query.drop position).take (segmentEnd - position)
    lookup ((query.drop position).splitOn 38) key =
      if segment ≠ [] ∧ segmentKey segment = key then tryUrlDecode (segmentValue segment)
      else (QueryLoops.findAmpersand query position).bind fun segmentEnd =>
        lookup ((query.drop (segmentEnd + 1)).splitOn 38) key := by
  cases found : QueryLoops.findAmpersand query position with
  | none =>
    rw [splitOn_last found, lookup_cons]
    rfl
  | some segmentEnd =>
    obtain ⟨-, split⟩ := splitOn_next found
    rw [split, lookup_cons]
    rfl

/-- The loop goes through the segments from one on. -/
theorem queryValueFrom_eq (query key : Bytes) (segmentBegin : Nat) :
    QueryLoops.queryValueFrom query key segmentBegin =
      if segmentBegin ≤ query.length then lookup ((query.drop segmentBegin).splitOn 38) key else none := by
  fun_induction QueryLoops.queryValueFrom query key segmentBegin with
  | case1 b inside segment here => rw [if_pos inside, lookup_segment, if_pos here, tryUrlDecode_eq]
  | case2 b inside segment other absent =>
    rw [if_pos inside, lookup_segment, if_neg other, absent]
    rfl
  | case3 b inside segment other segmentEnd found ih =>
    rw [if_pos inside, lookup_segment, if_neg other, found, ih, if_pos (splitOn_next found).1]
    rfl
  | case4 b outside => rw [if_neg outside]

theorem tryGetDecodedQueryValue_eq (query key : Bytes) :
    QueryLoops.tryGetDecodedQueryValue query key = tryGetDecodedQueryValue query key := by
  rw [QueryLoops.tryGetDecodedQueryValue, queryValueFrom_eq, if_pos (Nat.zero_le _), List.drop_zero,
    tryGetDecodedQueryValue_lookup]

/-! ## Queries -/

/-- What stands before the first equals sign. -/
def beforeEquals (segment : Bytes) : Bytes := segment.takeWhile (· != 61)

def afterEquals (segment : Bytes) : Bytes := (segment.dropWhile (· != 61)).drop 1

theorem lookup_eq {key : Bytes} (nonempty : key ≠ []) (segments : List Bytes) :
    lookup segments key =
      (segments.find? fun segment => beforeEquals segment == key).bind fun segment => tryUrlDecode (afterEquals segment) := by
  have same : (fun segment : Bytes => !segment.isEmpty && segmentKey segment == key) =
      fun segment => beforeEquals segment == key := by
    funext segment
    rw [segmentKey_eq, beforeEquals]
    cases segment with
    | nil =>
      have other : (([] : Bytes) == key) = false := beq_eq_false_iff_ne.mpr (Ne.symm nonempty)
      simp [other]
    | cons ch rest => simp
  unfold lookup
  rw [same]
  congr 1
  funext segment
  rw [segmentValue_eq, afterEquals]

/-- **Query decoding.** The decoder inverts every encoding and refuses exactly the malformed
texts; a query gives the decoding of what its first segment with the key has behind it. -/
theorem query_decoding :
    (∀ decoded encoded, UrlEncodes decoded encoded → QueryLoops.tryUrlDecode encoded = some decoded) ∧
      (∀ encoded, QueryLoops.tryUrlDecode encoded = none ↔ Malformed encoded) ∧
      ∀ (key : Bytes) (segments : List Bytes), key ≠ [] → 38 ∉ key → 61 ∉ key → (∀ segment ∈ segments, 38 ∉ segment) →
        QueryLoops.tryGetDecodedQueryValue ([38].intercalate segments) key =
          (segments.find? fun segment => beforeEquals segment == key).bind fun segment =>
            QueryLoops.tryUrlDecode (afterEquals segment) := by
  refine ⟨fun decoded encoded encodes => ?_, fun encoded => ?_, fun key segments nonempty _ _ free => ?_⟩
  · rw [tryUrlDecode_eq]
    exact tryUrlDecode_of_encodes encodes
  · rw [tryUrlDecode_eq]
    exact tryUrlDecode_none encoded
  · simp only [tryUrlDecode_eq]
    rw [tryGetDecodedQueryValue_eq, tryGetDecodedQueryValue_lookup, ← lookup_eq nonempty]
    by_cases empty : segments = []
    · -- No segments give the empty query, which has one segment, an empty one.
      rw [empty, List.intercalate_nil, List.splitOn_nil, lookup_cons, if_neg fun both => both.1 rfl]
    · rw [List.splitOn_intercalate 38 free empty]

example : QueryLoops.tryGetDecodedQueryValue (text "&a=1&msg=%41+b&msg=") (text "msg") = some (text "A b") := by
  rw [tryGetDecodedQueryValue_eq]
  decide +kernel

end XServer.Node
