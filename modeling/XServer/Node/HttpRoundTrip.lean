import XServer.Node.HttpRequest

/-!
# Requests written out and read back

`HttpRequest` is what a well-behaved client writes: the words of its request line, header
lines, and a body announced by `Content-Length`. The parser gets it back, and waits while it
is cut off, exactly when there is a header line: without one the text before the blank line
has no line end in it, and the parser takes the request line for incomplete.
-/

namespace XServer.Node
open XServer.Core XServer.Lib XServer.Lib.Wire XServer.Net

/-! ## The requests -/

def IsWord (word : Bytes) : Prop := word ≠ [] ∧ ∀ ch ∈ word, isSpace ch = false

structure IsHeaderLine (line : Bytes) : Prop where
  colon : 58 ∈ line
  cr : 13 ∉ line
  lf : 10 ∉ line

def namesLength (line : Bytes) : Bool :=
  match search (text ":") line with
  | none => false
  | some colon => headerName line colon = text "content-length"

/-- The line's value is `length` in decimal digits. -/
def CarriesLength (line : Bytes) (length : Nat) : Prop :=
  ∃ colon, search (text ":") line = some colon ∧ headerValue line colon ≠ [] ∧
    (∀ ch ∈ headerValue line colon, isDecimalDigit ch = true) ∧ readDecimal (headerValue line colon) = length

/-- The lines named `Content-Length` announce the body. -/
def Announces (body : Bytes) : List Bytes → Prop
  | [] => body = []
  | [line] => CarriesLength line body.length
  | _ :: _ :: _ => False

structure HttpRequest where
  method : Bytes
  target : Bytes
  version : Bytes
  headers : List Bytes
  body : Bytes
  method_word : IsWord method
  target_word : IsWord target
  supported : version = text "HTTP/1.1" ∨ version = text "HTTP/1.0"
  header_lines : ∀ line ∈ headers, IsHeaderLine line
  announced : Announces body (headers.filter namesLength)
  bounded : body.length ≤ kMaxBodyBytes

namespace HttpRequest

def requestLine (request : HttpRequest) : Bytes :=
  request.method ++ (32 :: (request.target ++ (32 :: request.version)))

/-- The request through its blank line. -/
def headerPart (request : HttpRequest) : Bytes :=
  request.requestLine ++ crlf ++ request.headers.flatMap (fun line => line ++ crlf) ++ crlf

def serialize (request : HttpRequest) : Bytes := request.headerPart ++ request.body

/-- What parsing owes a request: it is found whatever follows it, and while it is cut off with
no more than the supported size of its header there, the parser waits. -/
structure Inverts (request : HttpRequest) : Prop where
  complete : ∀ rest, tryParseRequest (request.serialize ++ rest) =
    .complete request.method request.target request.body
  incomplete : ∀ n < request.serialize.length, (request.headerPart.take n).length ≤ kMaxHeaderBytes →
    tryParseRequest (request.serialize.take n) = .incomplete

end HttpRequest

/-! ## Words -/

theorem isWord_version {version : Bytes} (supported : version = text "HTTP/1.1" ∨ version = text "HTTP/1.0") :
    IsWord version := by
  have words : (∀ ch ∈ text "HTTP/1.1", isSpace ch = false) ∧ ∀ ch ∈ text "HTTP/1.0", isSpace ch = false := by
    decide +kernel
  have nonempty : text "HTTP/1.1" ≠ [] ∧ text "HTTP/1.0" ≠ [] := by decide +kernel
  obtain rfl | rfl := supported
  · exact ⟨nonempty.1, words.1⟩
  · exact ⟨nonempty.2, words.2⟩

/-- A word of a stream is read up to the blank or the end behind it. -/
theorem nextWord_word {blanks word left : Bytes} (blank : ∀ ch ∈ blanks, isSpace ch = true) (isWord : IsWord word)
    (ends : ∀ ch, left.head? = some ch → isSpace ch = true) :
    nextWord (blanks ++ (word ++ left), false) = some (word, (left, left.isEmpty)) := by
  obtain ⟨nonempty, graphic⟩ := isWord
  have skipped : (blanks ++ (word ++ left)).dropWhile isSpace = word ++ left := by
    rw [List.dropWhile_append_of_pos blank]
    cases word with
    | nil => exact absurd rfl nonempty
    | cons ch word =>
      rw [List.cons_append, List.dropWhile_cons, graphic ch List.mem_cons_self, if_neg (by decide)]
  have visible : ∀ ch ∈ word, (!isSpace ch) = true := by
    intro ch mem
    rw [graphic ch mem]
    rfl
  have stops : left.takeWhile (fun ch => !isSpace ch) = [] ∧ left.dropWhile (fun ch => !isSpace ch) = left := by
    cases left with
    | nil => exact ⟨rfl, rfl⟩
    | cons ch left =>
      have space : isSpace ch = true := ends ch rfl
      rw [List.takeWhile_cons, List.dropWhile_cons, space]
      exact ⟨rfl, rfl⟩
  unfold nextWord
  rw [if_neg Bool.false_ne_true]
  dsimp only
  rw [skipped, if_neg (by simp [nonempty]), List.takeWhile_append_of_pos visible,
    List.dropWhile_append_of_pos visible, stops.1, stops.2, List.append_nil]

theorem parseRequestLine_words (request : HttpRequest) :
    parseRequestLine request.requestLine = .ok (request.method, request.target) := by
  have one : nextWord (request.requestLine, false) =
      some (request.method, (32 :: (request.target ++ (32 :: request.version)), false)) :=
    @nextWord_word [] _ _ (by simp) request.method_word (by simp [isSpace])
  have two : nextWord (32 :: (request.target ++ (32 :: request.version)), false) =
      some (request.target, (32 :: request.version, false)) :=
    @nextWord_word [32] _ _ (by simp [isSpace]) request.target_word (by simp [isSpace])
  have three : nextWord (32 :: request.version, false) = some (request.version, ([], true)) := by
    have read := @nextWord_word [32] _ [] (by simp [isSpace])
      (isWord_version request.supported) (by simp)
    rwa [List.append_nil] at read
  have supported := request.supported
  unfold parseRequestLine
  simp only [one, two, three, Option.bind_eq_bind, Option.bind_some, if_pos]
  rw [if_neg (by tauto)]

/-! ## Header lines -/

/-- Lines that are not empty and have no carriage return are read one after the other. -/
theorem parseHeaderLines_lines {line : Bytes} {lines : List Bytes} {count : Nat} {contentLength : Nat}
    (clean : ∀ l ∈ line :: lines, l ≠ [] ∧ 13 ∉ l)
    (enough : (line ++ lines.flatMap fun l => crlf ++ l).length ≤ count) :
    parseHeaderLines count (line ++ lines.flatMap fun l => crlf ++ l) contentLength =
      (line :: lines).foldlM (fun length l => parseHeaderLine l length) contentLength := by
  induction lines generalizing line count contentLength with
  | nil =>
    obtain ⟨nonempty, plain⟩ := clean line List.mem_cons_self
    have absent : search crlf line = none := by
      have skipped := @search_skip _ _ [10] 13 line [] plain
      rw [List.append_nil] at skipped
      exact skipped
    rw [List.flatMap_nil, List.append_nil] at enough ⊢
    cases count with
    | zero => exact absurd (List.length_eq_zero_iff.mp (Nat.le_zero.mp enough)) nonempty
    | succ count =>
      unfold parseHeaderLines
      rw [if_neg nonempty, absent]
      simp
  | cons next lines ih =>
    obtain ⟨nonempty, plain⟩ := clean line List.mem_cons_self
    rw [List.flatMap_cons] at enough ⊢
    have found : search crlf (line ++ (crlf ++ next ++ lines.flatMap fun l => crlf ++ l)) = some line.length := by
      have skipped := @search_skip _ _ [10] 13 line (crlf ++ next ++ lines.flatMap fun l => crlf ++ l) plain
      refine skipped.trans ?_
      have here : search [13, 10] (crlf ++ next ++ lines.flatMap fun l => crlf ++ l) = some 0 := by
        unfold crlf search
        simp
      rw [here]
      simp
    cases count with
    | zero =>
      rw [List.length_append] at enough
      exact absurd (List.length_eq_zero_iff.mp (by omega)) nonempty
    | succ count =>
      have rest : (line ++ (crlf ++ next ++ lines.flatMap fun l => crlf ++ l)).drop (line.length + 2) =
          next ++ lines.flatMap fun l => crlf ++ l := by
        rw [← List.drop_drop, List.drop_left, List.append_assoc]
        rfl
      have shorter : (next ++ lines.flatMap fun l => crlf ++ l).length ≤ count := by
        simp only [List.length_append, crlf, List.length_cons, List.length_nil] at enough ⊢
        omega
      unfold parseHeaderLines
      rw [if_neg (by simp [nonempty]), found]
      simp only [List.take_left, rest, List.foldlM_cons]
      cases parseHeaderLine line contentLength with
      | error message => rfl
      | ok length => exact ih (fun l mem => clean l (List.mem_cons_of_mem line mem)) shorter

theorem parseHeaderLine_other {line : Bytes} (header : IsHeaderLine line) (other : namesLength line = false)
    (contentLength : Nat) : parseHeaderLine line contentLength = .ok contentLength := by
  have nonempty : line ≠ [] := List.ne_nil_of_mem header.colon
  unfold parseHeaderLine
  rw [if_neg nonempty]
  unfold namesLength at other
  cases found : search (text ":") line with
  | none =>
    obtain ⟨before, after, split⟩ := List.append_of_mem header.colon
    refine absurd ?_ ((search_none_iff (by decide +kernel)).mp found before.length)
    rw [split, List.drop_left]
    exact ⟨after, rfl⟩
  | some colon =>
    rw [found] at other
    simp only [decide_eq_false_iff_not] at other
    exact if_neg other

theorem parseHeaderLine_length {line : Bytes} {length : Nat} (named : namesLength line = true)
    (carries : CarriesLength line length) (bounded : length ≤ kMaxBodyBytes) (contentLength : Nat) :
    parseHeaderLine line contentLength = .ok length := by
  obtain ⟨colon, found, nonempty, digits, value⟩ := carries
  have lineNonempty : line ≠ [] := by
    rintro rfl
    have nowhere : search (text ":") [] = none := by decide +kernel
    rw [nowhere] at found
    cases found
  have named : headerName line colon = text "content-length" := by
    unfold namesLength at named
    rw [found] at named
    exact of_decide_eq_true named
  have small : readDecimal (headerValue line colon) < 2 ^ 64 := by
    unfold kMaxBodyBytes at bounded
    omega
  have read : fromChars (headerValue line colon) = some length := by
    unfold fromChars
    rw [if_pos ⟨nonempty, List.all_eq_true.mpr digits, small⟩, value]
  unfold parseHeaderLine
  rw [if_neg lineNonempty, found]
  simp only [named, if_pos, read]
  rw [if_neg (by omega)]

/-- Only the lines named `Content-Length` count. -/
theorem foldlM_filter {lines : List Bytes} (header : ∀ line ∈ lines, IsHeaderLine line) (contentLength : Nat) :
    lines.foldlM (fun length line => parseHeaderLine line length) contentLength =
      (lines.filter namesLength).foldlM (fun length line => parseHeaderLine line length) contentLength := by
  induction lines generalizing contentLength with
  | nil => rfl
  | cons line lines ih =>
    have later := ih fun l mem => header l (List.mem_cons_of_mem line mem)
    rw [List.foldlM_cons]
    cases named : namesLength line with
    | false =>
      rw [List.filter_cons_of_neg (by simp [named]),
        parseHeaderLine_other (header line List.mem_cons_self) named]
      exact later contentLength
    | true =>
      rw [List.filter_cons_of_pos named, List.foldlM_cons]
      congr 1
      funext length
      exact later length

namespace HttpRequest

theorem lengths_read (request : HttpRequest) :
    request.headers.foldlM (fun length line => parseHeaderLine line length) 0 = .ok request.body.length := by
  rw [foldlM_filter request.header_lines]
  have announced := request.announced
  cases kept : request.headers.filter namesLength with
  | nil =>
    rw [kept] at announced
    have empty : request.body = [] := announced
    rw [empty]
    rfl
  | cons line lines =>
    rw [kept] at announced
    cases lines with
    | cons next lines => exact absurd announced id
    | nil =>
      have named : namesLength line = true := by
        have mem : line ∈ request.headers.filter namesLength := by
          rw [kept]
          exact List.mem_cons_self
        exact (List.mem_filter.mp mem).2
      rw [List.foldlM_cons, parseHeaderLine_length named announced request.bounded]
      rfl

/-- The request through its last header line, the line ends between the lines. -/
def headerText (request : HttpRequest) : Bytes :=
  request.requestLine ++ request.headers.flatMap fun line => crlf ++ line

theorem headerPart_eq (request : HttpRequest) : request.headerPart = request.headerText ++ blankLine := by
  have shifted : ∀ lines : List Bytes,
      crlf ++ lines.flatMap (fun line => line ++ crlf) = lines.flatMap (fun line => crlf ++ line) ++ crlf := by
    intro lines
    induction lines with
    | nil => rfl
    | cons line lines ih =>
      rw [List.flatMap_cons, List.flatMap_cons, List.append_assoc line, ih]
      simp only [List.append_assoc]
  unfold headerPart headerText
  rw [List.append_assoc request.requestLine, shifted]
  simp only [List.append_assoc]
  rfl

theorem requestLine_plain (request : HttpRequest) : 13 ∉ request.requestLine := by
  have plain : ∀ word, IsWord word → 13 ∉ word := by
    intro word isWord mem
    exact absurd (isWord.2 13 mem) (by decide)
  have method := plain _ request.method_word
  have target := plain _ request.target_word
  have version := plain _ (isWord_version request.supported)
  unfold requestLine
  simp only [List.mem_append, List.mem_cons, not_or]
  exact ⟨method, by decide, target, by decide, version⟩

theorem header_clean (request : HttpRequest) : ∀ line ∈ request.headers, line ≠ [] ∧ 13 ∉ line := by
  intro line mem
  have header := request.header_lines line mem
  exact ⟨List.ne_nil_of_mem header.colon, header.cr⟩

end HttpRequest

/-- The first blank line is the one behind lines that are not empty. -/
theorem search_blankLine {line : Bytes} {lines : List Bytes} (plain : 13 ∉ line)
    (clean : ∀ l ∈ lines, l ≠ [] ∧ 13 ∉ l) (rest : Bytes) :
    search blankLine (line ++ (lines.flatMap (fun l => crlf ++ l) ++ (blankLine ++ rest))) =
      some (line.length + (lines.flatMap fun l => crlf ++ l).length) := by
  induction lines generalizing line with
  | nil =>
    refine (search_skip plain).trans ?_
    have here : search blankLine (blankLine ++ rest) = some 0 := by
      unfold blankLine search
      simp
    rw [List.flatMap_nil, List.nil_append]
    change Option.map _ (search blankLine _) = _
    rw [here]
    simp
  | cons next lines ih =>
    obtain ⟨nonempty, nextPlain⟩ := clean next List.mem_cons_self
    have later := ih nextPlain fun l mem => clean l (List.mem_cons_of_mem next mem)
    refine (search_skip plain).trans ?_
    -- the line behind this line end is not empty, so this line end starts no blank line
    have passed : ∀ after, search blankLine (crlf ++ (next ++ after)) = (search blankLine (next ++ after)).map (· + 2) := by
      intro after
      obtain ⟨ch, next, rfl⟩ := List.exists_cons_of_ne_nil nonempty
      have other : 13 ≠ ch := fun same => nextPlain (same ▸ List.mem_cons_self)
      have first : ¬ blankLine <+: 13 :: 10 :: (ch :: next ++ after) := by
        unfold blankLine
        simp [List.cons_prefix_cons, other]
      have second : ¬ blankLine <+: 10 :: (ch :: next ++ after) := by
        unfold blankLine
        simp [List.cons_prefix_cons]
      change search blankLine (13 :: 10 :: (ch :: next ++ after)) = _
      rw [search, if_neg first, search, if_neg second, Option.map_map]
      rfl
    rw [List.flatMap_cons, List.append_assoc, List.append_assoc]
    change Option.map _ (search blankLine _) = _
    rw [passed, later]
    simp only [Option.map_some, List.length_append, crlf, List.length_cons, List.length_nil]
    congr 1
    omega

namespace HttpRequest

/-- The end of the request line is found where a header line follows it. -/
theorem search_requestLine (request : HttpRequest) :
    search crlf request.headerText = if request.headers = [] then none else some request.requestLine.length := by
  have skipped := @search_skip _ _ [10] 13 request.requestLine (request.headers.flatMap fun line => crlf ++ line)
    request.requestLine_plain
  refine skipped.trans ?_
  cases request.headers with
  | nil => rfl
  | cons line lines =>
    have here : search [13, 10] ((line :: lines).flatMap fun line => crlf ++ line) = some 0 := by
      rw [List.flatMap_cons]
      unfold crlf search
      simp
    rw [here, if_neg (List.cons_ne_nil line lines)]
    simp

theorem parseHeader_text (request : HttpRequest) (listed : request.headers ≠ []) :
    parseHeader request.headerText = .ok (request.method, request.target, request.body.length) := by
  have lines : parseHeaderLines request.headerText.length (request.headerText.drop (request.requestLine.length + 2)) 0 =
      .ok request.body.length := by
    have clean := request.header_clean
    have read := request.lengths_read
    obtain ⟨line, lines, split⟩ := List.exists_cons_of_ne_nil listed
    rw [split] at clean read
    have dropped : request.headerText.drop (request.requestLine.length + 2) =
        line ++ lines.flatMap fun l => crlf ++ l := by
      unfold headerText
      rw [← List.drop_drop, List.drop_left, split, List.flatMap_cons, List.append_assoc]
      rfl
    have shorter := congrArg List.length dropped
    rw [List.length_drop] at shorter
    rw [dropped, parseHeaderLines_lines clean (by omega), read]
  unfold parseHeader
  rw [search_requestLine, if_neg listed]
  have taken : request.headerText.take request.requestLine.length = request.requestLine := List.take_left
  simp only [taken, parseRequestLine_words, lines]

theorem search_serialize (request : HttpRequest) (rest : Bytes) :
    search blankLine (request.serialize ++ rest) = some request.headerText.length := by
  have found := search_blankLine request.requestLine_plain request.header_clean (request.body ++ rest)
  have same : request.serialize ++ rest = request.requestLine ++ ((request.headers.flatMap fun l => crlf ++ l) ++
      (blankLine ++ (request.body ++ rest))) := by
    unfold serialize
    rw [headerPart_eq, headerText]
    simp only [List.append_assoc]
  rw [same, found, headerText, List.length_append]

theorem serialize_eq (request : HttpRequest) :
    request.serialize = request.headerText ++ (blankLine ++ request.body) := by
  unfold serialize
  rw [headerPart_eq, List.append_assoc]

theorem complete_of_listed (request : HttpRequest) (listed : request.headers ≠ []) (rest : Bytes) :
    tryParseRequest (request.serialize ++ rest) = .complete request.method request.target request.body := by
  have taken : (request.serialize ++ rest).take request.headerText.length = request.headerText := by
    rw [serialize_eq, List.append_assoc, List.take_left]
  have dropped : (request.serialize ++ rest).drop (request.headerText.length + 4) = request.body ++ rest := by
    rw [serialize_eq, ← List.drop_drop, List.append_assoc, List.drop_left, List.append_assoc]
    rfl
  have long : ¬ (request.serialize ++ rest).length < request.headerText.length + 4 + request.body.length := by
    rw [serialize_eq]
    simp only [List.length_append, blankLine, List.length_cons, List.length_nil]
    omega
  unfold tryParseRequest
  rw [search_serialize]
  simp only [taken, parseHeader_text request listed]
  rw [if_neg long, dropped, List.take_left]

theorem incomplete_of_listed (request : HttpRequest) (listed : request.headers ≠ []) {n : Nat}
    (short : n < request.serialize.length) (supported : (request.headerPart.take n).length ≤ kMaxHeaderBytes) :
    tryParseRequest (request.serialize.take n) = .incomplete := by
  have found := request.search_serialize []
  rw [List.append_nil] at found
  have cut : search blankLine (request.serialize.take n) =
      if request.headerText.length + 4 ≤ n then some request.headerText.length else none :=
    search_take (by decide) found
  have length : (request.serialize.take n).length = n := by
    rw [List.length_take]
    omega
  have total : request.serialize.length = request.headerText.length + 4 + request.body.length := by
    rw [serialize_eq]
    simp only [List.length_append, blankLine, List.length_cons, List.length_nil]
    omega
  unfold tryParseRequest
  by_cases header : request.headerText.length + 4 ≤ n
  · have taken : (request.serialize.take n).take request.headerText.length = request.headerText := by
      rw [List.take_take, Nat.min_eq_left (by omega), serialize_eq, List.take_left]
    rw [cut, if_pos header]
    simp only [taken, parseHeader_text request listed, length]
    rw [if_pos (by omega)]
  · have part : (request.headerPart.take n).length = n := by
      rw [headerPart_eq, List.length_take]
      simp only [List.length_append, blankLine, List.length_cons, List.length_nil]
      omega
    rw [part] at supported
    rw [cut, if_neg header]
    simp only [length]
    rw [if_neg (by omega)]

theorem invalid_of_bare (request : HttpRequest) (bare : request.headers = []) (rest : Bytes) :
    tryParseRequest (request.serialize ++ rest) = .invalid "HTTP request line is incomplete." := by
  have taken : (request.serialize ++ rest).take request.headerText.length = request.headerText := by
    rw [serialize_eq, List.append_assoc, List.take_left]
  unfold tryParseRequest parseHeader
  rw [search_serialize]
  simp only [taken, search_requestLine, if_pos bare]

/-- Parsing inverts writing, and waits for what is cut off, where there is a header line. -/
theorem inverts_iff (request : HttpRequest) : request.Inverts ↔ request.headers ≠ [] := by
  constructor
  · intro inverts bare
    have complete := inverts.complete []
    rw [request.invalid_of_bare bare] at complete
    cases complete
  · intro listed
    exact {
      complete := request.complete_of_listed listed
      incomplete := fun n short supported => request.incomplete_of_listed listed short supported }

/-- `GET / HTTP/1.0` and nothing else. -/
def bare : HttpRequest where
  method := text "GET"
  target := text "/"
  version := text "HTTP/1.0"
  headers := []
  body := []
  method_word := ⟨by decide +kernel, by decide +kernel⟩
  target_word := ⟨by decide +kernel, by decide +kernel⟩
  supported := Or.inr rfl
  header_lines := List.forall_mem_nil _
  announced := rfl
  bounded := Nat.zero_le _

theorem bare_not_inverted :
    bare.serialize = text "GET / HTTP/1.0\r\n\r\n" ∧
    tryParseRequest bare.serialize = .invalid "HTTP request line is incomplete." ∧ ¬ bare.Inverts := by
  have written : bare.serialize = text "GET / HTTP/1.0\r\n\r\n" := by decide +kernel
  have refused := bare.invalid_of_bare rfl []
  rw [List.append_nil] at refused
  refine ⟨written, refused, fun inverts => ?_⟩
  have complete := inverts.complete []
  rw [List.append_nil, refused] at complete
  cases complete

end HttpRequest

end XServer.Node
