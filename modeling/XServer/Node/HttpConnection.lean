import XServer.Lib.Reads
import XServer.Node.HttpRoundTrip

/-!
# A connection's reads

`GmControlHttpService::Impl::Connection` of `node/GmControlHttpService.cpp`: `HandleRead`
appends what was read and parses the buffer; what it answers with ends the reading. The
size limits are tested against the buffer at hand, so how the bytes were cut can decide
between two answers, in two ranges of places that are named here.
-/

namespace XServer.Node
open XServer.Core XServer.Lib XServer.Lib.Wire XServer.Net

/-- The size of `read_buffer_`. -/
def kReadBufferBytes : Nat := 2048

/-- What a connection answers with: an error response, or the answer of `HandleRequest` to a
parsed request. -/
inductive HttpAnswer where
  | error (statusCode : Nat) (message : String)
  | handled (method path body : Bytes)
  deriving DecidableEq, Repr

/-- `HandleRead` behind the append: without an answer it reads on. -/
def answerBuffer (requestBuffer : Bytes) : Option HttpAnswer :=
  if requestBuffer.length > kMaxHeaderBytes + kMaxBodyBytes then
    some (.error 413 "HTTP request exceeded the supported size.")
  else
    match tryParseRequest requestBuffer with
    | .incomplete => none
    | .invalid errorMessage => some (.error 400 errorMessage)
    | .complete method path body => some (.handled method path body)

structure HttpConnection where
  requestBuffer : Bytes
  answer : Option HttpAnswer
  deriving DecidableEq, Repr

namespace HttpConnection

def start : HttpConnection := { requestBuffer := [], answer := none }

/-- A connection that has answered issues no further read. -/
def handleRead (connection : HttpConnection) (read : Bytes) : HttpConnection :=
  if connection.answer.isSome then connection
  else
    let requestBuffer := connection.requestBuffer ++ read
    { requestBuffer, answer := answerBuffer requestBuffer }

def run (reads : List Bytes) : HttpConnection := reads.foldl handleRead start

/-- However the bytes are cut into reads, the connection ends with the same answer. -/
def Segmentless (bytes : Bytes) : Prop :=
  ∀ one other, CutInto kReadBufferBytes bytes one → CutInto kReadBufferBytes bytes other →
    (run one).answer = (run other).answer

theorem foldl_answered {connection : HttpConnection} (answered : connection.answer.isSome = true)
    (reads : List Bytes) : reads.foldl handleRead connection = connection := by
  induction reads with
  | nil => rfl
  | cons read reads ih =>
    have stays : handleRead connection read = connection := if_pos answered
    rw [List.foldl_cons, stays, ih]

theorem foldl_answer (buffer : Bytes) (reads : List Bytes) :
    (reads.foldl handleRead { requestBuffer := buffer, answer := none }).answer =
      firstAnswer answerBuffer buffer reads := by
  induction reads generalizing buffer with
  | nil => rfl
  | cons read reads ih =>
    have step : handleRead { requestBuffer := buffer, answer := none } read =
        { requestBuffer := buffer ++ read, answer := answerBuffer (buffer ++ read) } := rfl
    rw [List.foldl_cons, step]
    unfold firstAnswer
    cases answerBuffer (buffer ++ read) with
    | none => exact ih (buffer ++ read)
    | some answer =>
      rw [foldl_answered rfl]
      rfl

theorem run_answer (reads : List Bytes) : (run reads).answer = firstAnswer answerBuffer [] reads :=
  foldl_answer [] reads

end HttpConnection

/-! ## What a header can turn out to be -/

def kHeaderExceeded : String := "HTTP request header exceeded the maximum supported size."

/-- A header that is read has a content length within its bound, and no header is refused as
too long. -/
def HeaderSound {α : Type} (contentLength : α → Nat) : Except String α → Prop
  | .error message => message ≠ kHeaderExceeded
  | .ok value => contentLength value ≤ kMaxBodyBytes

theorem parseHeaderLine_sound {line : Bytes} {contentLength : Nat} (bounded : contentLength ≤ kMaxBodyBytes) :
    HeaderSound id (parseHeaderLine line contentLength) := by
  unfold parseHeaderLine
  split
  · exact bounded
  · split
    · exact (by decide : "HTTP header line is invalid." ≠ kHeaderExceeded)
    · split
      · have other : "HTTP Content-Length is invalid." ≠ kHeaderExceeded := by decide
        split
        · exact other
        · split
          · exact other
          · rename_i small
            exact Nat.not_lt.mp small
      · exact bounded

theorem parseHeaderLines_sound {count : Nat} {rest : Bytes} {contentLength : Nat}
    (bounded : contentLength ≤ kMaxBodyBytes) : HeaderSound id (parseHeaderLines count rest contentLength) := by
  induction count generalizing rest contentLength with
  | zero => exact bounded
  | succ count ih =>
    unfold parseHeaderLines
    split
    · exact bounded
    · split
      · exact parseHeaderLine_sound bounded
      · rename_i lineEnd _
        have line := @parseHeaderLine_sound (rest.take lineEnd) contentLength bounded
        split
        · rename_i message refused
          rw [refused] at line
          exact line
        · rename_i read
          rw [read] at line
          exact ih line

theorem parseRequestLine_error {requestLine : Bytes} {message : String}
    (refused : parseRequestLine requestLine = .error message) : message ≠ kHeaderExceeded := by
  unfold parseRequestLine at refused
  dsimp only at refused
  split at refused
  · cases refused
    decide
  · split at refused
    · cases refused
      decide
    · cases refused

theorem parseHeader_sound (headerText : Bytes) : HeaderSound (fun read => read.2.2) (parseHeader headerText) := by
  unfold parseHeader
  split
  · exact (by decide : "HTTP request line is incomplete." ≠ kHeaderExceeded)
  · split
    · rename_i refused
      exact parseRequestLine_error refused
    · rename_i lineEnd _ _ _ _ _
      have lines := @parseHeaderLines_sound headerText.length (headerText.drop (lineEnd + 2)) 0 (Nat.zero_le _)
      split
      · rename_i refused
        rw [refused] at lines
        exact lines
      · rename_i read
        rw [read] at lines
        exact lines

/-! ## The beginnings of a text -/

section Beginnings
variable {bytes p : Bytes}

theorem tryParseRequest_absent (absent : search blankLine bytes = none) (start : p <+: bytes) :
    tryParseRequest p = if p.length > kMaxHeaderBytes then .invalid kHeaderExceeded else .incomplete := by
  have absent : search blankLine p = none := by
    rw [List.prefix_iff_eq_take.mp start]
    exact search_take_none (by decide) absent
  unfold tryParseRequest
  rw [absent]
  rfl

variable {headerEnd : Nat}

theorem tryParseRequest_short (found : search blankLine bytes = some headerEnd) (start : p <+: bytes)
    (short : p.length < headerEnd + 4) :
    tryParseRequest p = if p.length > kMaxHeaderBytes then .invalid kHeaderExceeded else .incomplete := by
  have absent : search blankLine p = none := by
    rw [List.prefix_iff_eq_take.mp start, search_take (by decide) found, if_neg]
    exact Nat.not_le.mpr short
  unfold tryParseRequest
  rw [absent]
  rfl

theorem tryParseRequest_long (found : search blankLine bytes = some headerEnd) (start : p <+: bytes)
    (long : headerEnd + 4 ≤ p.length) :
    tryParseRequest p =
      match parseHeader (bytes.take headerEnd) with
      | .error message => .invalid message
      | .ok (method, target, contentLength) =>
        if p.length < headerEnd + 4 + contentLength then .incomplete
        else .complete method target ((bytes.drop (headerEnd + 4)).take contentLength) := by
  have same := List.prefix_iff_eq_take.mp start
  have foundHere : search blankLine p = some headerEnd := by
    rw [same, search_take (by decide) found, if_pos]
    exact long
  have header : p.take headerEnd = bytes.take headerEnd := by
    rw [same, List.take_take, Nat.min_eq_left (by omega)]
  unfold tryParseRequest
  rw [foundHere]
  simp only [header]
  cases parseHeader (bytes.take headerEnd) with
  | error message => rfl
  | ok read =>
    obtain ⟨method, target, contentLength⟩ := read
    by_cases part : p.length < headerEnd + 4 + contentLength
    · simp only [if_pos part]
    · have body : (p.drop (headerEnd + 4)).take contentLength = (bytes.drop (headerEnd + 4)).take contentLength := by
        obtain ⟨more, rfl⟩ := start
        rw [List.drop_append_of_le_length long, List.take_append_of_le_length]
        rw [List.length_drop]
        omega
      simp only [if_neg part, body]

end Beginnings

/-! ## The answers to them -/

section Answers
variable {bytes p : Bytes} {headerEnd : Nat}

/-- Short of its blank line a text is waited for up to the supported size, and refused from
there on. -/
theorem answer_short (start : p <+: bytes)
    (short : ∀ headerEnd, search blankLine bytes = some headerEnd → p.length < headerEnd + 4) :
    (p.length ≤ kMaxHeaderBytes → answerBuffer p = none) ∧
    (kMaxHeaderBytes < p.length → p.length ≤ kMaxHeaderBytes + kMaxBodyBytes →
      answerBuffer p = some (.error 400 kHeaderExceeded)) := by
  have parsed : tryParseRequest p =
      if p.length > kMaxHeaderBytes then .invalid kHeaderExceeded else .incomplete := by
    cases found : search blankLine bytes with
    | none => exact tryParseRequest_absent found start
    | some headerEnd => exact tryParseRequest_short found start (short headerEnd found)
  constructor
  · intro supported
    have fits : ¬ p.length > kMaxHeaderBytes + kMaxBodyBytes := by omega
    unfold answerBuffer
    rw [if_neg fits, parsed, if_neg (Nat.not_lt.mpr supported)]
  · intro exceeded fits
    unfold answerBuffer
    rw [if_neg (Nat.not_lt.mpr fits), parsed, if_pos exceeded]

theorem answer_oversized (exceeded : kMaxHeaderBytes + kMaxBodyBytes < p.length) :
    answerBuffer p = some (.error 413 "HTTP request exceeded the supported size.") := by
  unfold answerBuffer
  rw [if_pos exceeded]

theorem answer_refused {message : String} (found : search blankLine bytes = some headerEnd)
    (refused : parseHeader (bytes.take headerEnd) = .error message) (start : p <+: bytes)
    (long : headerEnd + 4 ≤ p.length) (fits : p.length ≤ kMaxHeaderBytes + kMaxBodyBytes) :
    answerBuffer p = some (.error 400 message) := by
  unfold answerBuffer
  rw [if_neg (Nat.not_lt.mpr fits), tryParseRequest_long found start long]
  simp only [refused]

variable {method target : Bytes} {contentLength : Nat}

theorem answer_waits (found : search blankLine bytes = some headerEnd)
    (read : parseHeader (bytes.take headerEnd) = .ok (method, target, contentLength)) (start : p <+: bytes)
    (long : headerEnd + 4 ≤ p.length) (short : p.length < headerEnd + 4 + contentLength)
    (fits : p.length ≤ kMaxHeaderBytes + kMaxBodyBytes) : answerBuffer p = none := by
  unfold answerBuffer
  rw [if_neg (Nat.not_lt.mpr fits), tryParseRequest_long found start long]
  simp only [read, if_pos short]

theorem answer_handled (found : search blankLine bytes = some headerEnd)
    (read : parseHeader (bytes.take headerEnd) = .ok (method, target, contentLength)) (start : p <+: bytes)
    (long : headerEnd + 4 + contentLength ≤ p.length) (fits : p.length ≤ kMaxHeaderBytes + kMaxBodyBytes) :
    answerBuffer p = some (.handled method target ((bytes.drop (headerEnd + 4)).take contentLength)) := by
  unfold answerBuffer
  rw [if_neg (Nat.not_lt.mpr fits), tryParseRequest_long found start (by omega)]
  simp only [read, if_neg (Nat.not_lt.mpr long)]

/-- From the blank line on no text is refused as having too long a header. -/
theorem answer_not_exceeded (found : search blankLine bytes = some headerEnd) (start : p <+: bytes)
    (long : headerEnd + 4 ≤ p.length) : answerBuffer p ≠ some (.error 400 kHeaderExceeded) := by
  by_cases fits : p.length ≤ kMaxHeaderBytes + kMaxBodyBytes
  · have sound := parseHeader_sound (bytes.take headerEnd)
    cases read : parseHeader (bytes.take headerEnd) with
    | error message =>
      rw [read] at sound
      rw [answer_refused found read start long fits]
      intro same
      injection same with same
      injection same with _ same
      exact sound same
    | ok value =>
      obtain ⟨method, target, contentLength⟩ := value
      by_cases short : p.length < headerEnd + 4 + contentLength
      · rw [answer_waits found read start long short fits]
        intro same
        cases same
      · rw [answer_handled found read start (by omega) fits]
        intro same
        injection same with same
        cases same
  · rw [answer_oversized (by omega)]
    intro same
    injection same with same
    injection same with code _
    cases code

end Answers

/-! ## Where the cuts decide -/

/-- A read that starts within the supported size of a header can reach past the blank line, and
another can stop between the two. -/
def HeaderStraddles (bytes : Bytes) : Prop :=
  ∃ headerEnd, search blankLine bytes = some headerEnd ∧ kMaxHeaderBytes + 1 < headerEnd + 4 ∧
    headerEnd + 4 ≤ kMaxHeaderBytes + kReadBufferBytes

/-- A read that starts before the end of the request can reach past the supported size, and
another can stop between the two. -/
def RequestStraddles (bytes : Bytes) : Prop :=
  ∃ headerEnd method target contentLength, search blankLine bytes = some headerEnd ∧
    headerEnd + 4 ≤ kMaxHeaderBytes + 1 ∧
    parseHeader (bytes.take headerEnd) = .ok (method, target, contentLength) ∧
    kMaxHeaderBytes + kMaxBodyBytes + 1 < headerEnd + 4 + contentLength + kReadBufferBytes ∧
    headerEnd + 4 + contentLength ≤ kMaxHeaderBytes + kMaxBodyBytes ∧
    kMaxHeaderBytes + kMaxBodyBytes < bytes.length

namespace HttpConnection
variable {bytes : Bytes}

/-- Two ways of reading with one read each at its place, and what is answered there. -/
theorem not_segmentless {a c d : Nat} (first : a < c) (second : a < d) (within : c ≤ bytes.length ∧ d ≤ bytes.length)
    (near : c ≤ a + kReadBufferBytes ∧ d ≤ a + kReadBufferBytes)
    (quiet : ∀ p, p <+: bytes → p.length ≤ a → answerBuffer p = none) {answer : HttpAnswer}
    (here : answerBuffer (bytes.take c) = some answer)
    (apart : ∀ p, p <+: bytes → d ≤ p.length → answerBuffer p ≠ some answer) : ¬ Segmentless bytes := by
  intro same
  have equal := same _ _ (reads_readsThrough first within.1 near.1) (reads_readsThrough second within.2 near.2)
  rw [run_answer, run_answer, firstAnswer_readsThrough (Nat.le_of_lt first) quiet,
    firstAnswer_readsThrough (Nat.le_of_lt second) quiet, here, Option.some_or] at equal
  have length : (bytes.take d).length = d := by
    rw [List.length_take]
    omega
  have never : firstAnswer answerBuffer (bytes.take d) (singles (bytes.drop d)) ≠ some answer := by
    refine @firstAnswer_all _ _ _ _ _ (fun outcome => outcome ≠ some answer) (by simp) fun p start long => ?_
    rw [flatten_singles, List.take_append_drop] at start
    exact apart p start (by omega)
  have there := apart _ (List.take_prefix d bytes) (Nat.le_of_eq length.symm)
  cases found : answerBuffer (bytes.take d) with
  | none =>
    rw [found, Option.none_or] at equal
    exact never equal.symm
  | some other =>
    rw [found, Option.some_or] at equal
    rw [← equal] at found
    exact there found

theorem header_straddles (straddles : HeaderStraddles bytes) : ¬ Segmentless bytes := by
  obtain ⟨headerEnd, found, exceeded, near⟩ := straddles
  have within : headerEnd + 4 ≤ bytes.length := search_within found
  have short : ∀ p, p <+: bytes → p.length < headerEnd + 4 →
      ∀ other, search blankLine bytes = some other → p.length < other + 4 := by
    intro p start short other foundOther
    rw [found] at foundOther
    cases foundOther
    exact short
  have length : (bytes.take (kMaxHeaderBytes + 1)).length = kMaxHeaderBytes + 1 := by
    rw [List.length_take]
    omega
  have window : 0 < kReadBufferBytes ∧ 0 < kMaxBodyBytes := by decide
  refine @not_segmentless bytes kMaxHeaderBytes (kMaxHeaderBytes + 1) (headerEnd + 4) (by omega) (by omega)
    ⟨by omega, within⟩ ⟨by omega, near⟩ ?_ (.error 400 kHeaderExceeded) ?_ ?_
  · intro p start supported
    exact (answer_short start (short p start (by omega))).1 supported
  · have start := List.take_prefix (kMaxHeaderBytes + 1) bytes
    exact (answer_short start (short _ start (by omega))).2 (by omega) (by omega)
  · intro p start long
    exact answer_not_exceeded found start long

theorem request_straddles (straddles : RequestStraddles bytes) : ¬ Segmentless bytes := by
  obtain ⟨headerEnd, method, target, contentLength, found, supported, read, near, fits, exceeded⟩ := straddles
  have length : (bytes.take (headerEnd + 4 + contentLength)).length = headerEnd + 4 + contentLength := by
    rw [List.length_take]
    omega
  have window : 0 < kReadBufferBytes := by decide
  refine @not_segmentless bytes (headerEnd + 4 + contentLength - 1) (headerEnd + 4 + contentLength)
    (kMaxHeaderBytes + kMaxBodyBytes + 1) (by omega) (by omega) ⟨by omega, by omega⟩ ⟨by omega, by omega⟩ ?_
    _ (answer_handled found read (List.take_prefix _ bytes) (by omega) (by omega)) ?_
  · intro p start before
    by_cases long : headerEnd + 4 ≤ p.length
    · exact answer_waits found read start long (by omega) (by omega)
    · refine (answer_short start fun other foundOther => ?_).1 (by omega)
      rw [found] at foundOther
      cases foundOther
      omega
  · intro p start long
    rw [answer_oversized (by omega)]
    intro same
    injection same with same
    cases same

/-! ## Where they do not -/

theorem segmentless_quiet (quiet : ∀ p, p <+: bytes → answerBuffer p = none) : Segmentless bytes := by
  have waits : ∀ reads, CutInto kReadBufferBytes bytes reads → (run reads).answer = none := by
    intro reads read
    rw [run_answer]
    refine @firstAnswer_all _ _ _ _ _ (fun outcome => outcome = none) rfl fun p start _ => ?_
    rw [List.nil_append, read.whole] at start
    exact quiet p start
  intro one other readOne readOther
  rw [waits one readOne, waits other readOther]

theorem segmentless_reached {a : Nat} {answer : HttpAnswer} (positive : 0 < a) (reach : a ≤ bytes.length)
    (quiet : ∀ p, p <+: bytes → p.length < a → answerBuffer p = none)
    (decided : ∀ p, p <+: bytes → a ≤ p.length → p.length < a + kReadBufferBytes → answerBuffer p = some answer) :
    Segmentless bytes := by
  have answered : ∀ reads, CutInto kReadBufferBytes bytes reads → (run reads).answer = some answer := by
    intro reads read
    rw [run_answer]
    apply firstAnswer_reaches read.sized positive
    · rwa [List.nil_append, read.whole]
    · rwa [List.nil_append, read.whole]
    · rwa [List.nil_append, read.whole]
  intro one other readOne readOther
  rw [answered one readOne, answered other readOther]

/-- No read can reach a blank line that is missing or far away. -/
theorem segmentless_far
    (far : ∀ headerEnd, search blankLine bytes = some headerEnd → kMaxHeaderBytes + kReadBufferBytes < headerEnd + 4) :
    Segmentless bytes := by
  have sizes : kReadBufferBytes ≤ kMaxBodyBytes := by decide
  by_cases long : kMaxHeaderBytes + 1 ≤ bytes.length
  · apply segmentless_reached (Nat.succ_pos kMaxHeaderBytes) long
    · intro p start short
      exact (answer_short start fun headerEnd found => by have away := far headerEnd found; omega).1 (by omega)
    · intro p start exceeded near
      exact (answer_short start fun headerEnd found => by have away := far headerEnd found; omega).2 exceeded (by omega)
  · apply segmentless_quiet
    intro p start
    have length := start.length_le
    exact (answer_short start fun headerEnd found => by have away := far headerEnd found; omega).1 (by omega)

section Header
variable {headerEnd : Nat} (found : search blankLine bytes = some headerEnd)
  (supported : headerEnd + 4 ≤ kMaxHeaderBytes + 1)
include found supported

theorem quiet_header {p : Bytes} (start : p <+: bytes) (short : p.length < headerEnd + 4) : answerBuffer p = none := by
  refine (answer_short start fun other foundOther => ?_).1 (by omega)
  rw [found] at foundOther
  cases foundOther
  exact short

theorem segmentless_refused {message : String} (refused : parseHeader (bytes.take headerEnd) = .error message) :
    Segmentless bytes := by
  have sizes : kReadBufferBytes ≤ kMaxBodyBytes := by decide
  apply segmentless_reached (Nat.succ_pos (headerEnd + 3)) (search_within found)
  · intro p start short
    exact quiet_header found supported start short
  · intro p start long near
    exact answer_refused found refused start long (by omega)

theorem segmentless_read {method target : Bytes} {contentLength : Nat}
    (read : parseHeader (bytes.take headerEnd) = .ok (method, target, contentLength))
    (clear : ¬ RequestStraddles bytes) : Segmentless bytes := by
  have bounded : contentLength ≤ kMaxBodyBytes := by
    have sound := parseHeader_sound (bytes.take headerEnd)
    rw [read] at sound
    exact sound
  have quiet : ∀ p, p <+: bytes → p.length < headerEnd + 4 + contentLength → answerBuffer p = none := by
    intro p start short
    by_cases long : headerEnd + 4 ≤ p.length
    · exact answer_waits found read start long short (by omega)
    · exact quiet_header found supported start (by omega)
  by_cases whole : headerEnd + 4 + contentLength ≤ bytes.length
  · by_cases fits : headerEnd + 4 + contentLength ≤ kMaxHeaderBytes + kMaxBodyBytes
    · apply segmentless_reached (by omega) whole quiet
      intro p start long near
      have length := start.length_le
      refine answer_handled found read start long ?_
      by_contra exceeded
      refine clear ⟨headerEnd, method, target, contentLength, found, supported, read, ?_, fits, ?_⟩ <;> omega
    · apply segmentless_reached (by omega) whole quiet
      intro p start long near
      exact answer_oversized (by omega)
  · apply segmentless_quiet
    intro p start
    have length := start.length_le
    exact quiet p start (by omega)

end Header

/-- The cuts do not matter exactly where neither the header nor the request straddles its size. -/
theorem segmentless_iff (bytes : Bytes) : Segmentless bytes ↔ ¬ HeaderStraddles bytes ∧ ¬ RequestStraddles bytes := by
  constructor
  · intro same
    exact ⟨fun straddles => header_straddles straddles same, fun straddles => request_straddles straddles same⟩
  · rintro ⟨header, request⟩
    by_cases far : ∀ headerEnd, search blankLine bytes = some headerEnd →
        kMaxHeaderBytes + kReadBufferBytes < headerEnd + 4
    · exact segmentless_far far
    · push Not at far
      obtain ⟨headerEnd, found, near⟩ := far
      have supported : headerEnd + 4 ≤ kMaxHeaderBytes + 1 := by
        by_contra exceeded
        exact header ⟨headerEnd, found, by omega, near⟩
      cases read : parseHeader (bytes.take headerEnd) with
      | error message => exact segmentless_refused found supported read
      | ok value =>
        obtain ⟨method, target, contentLength⟩ := value
        exact segmentless_read found supported read request

/-- A request with one header line, of `n` letters behind its colon. -/
def paddedRequest (n : Nat) : Bytes :=
  text "GET / HTTP/1.1" ++ ([text "X:" ++ List.replicate n 97].flatMap (fun l => crlf ++ l) ++ (blankLine ++ []))

theorem search_paddedRequest (n : Nat) : search blankLine (paddedRequest n) = some (n + 18) := by
  have plain : 13 ∉ text "GET / HTTP/1.1" := by decide +kernel
  have name : text "X:" ≠ [] ∧ 13 ∉ text "X:" := by decide +kernel
  have lengths : (text "GET / HTTP/1.1").length = 14 ∧ (text "X:").length = 2 := by decide +kernel
  have clean : ∀ l ∈ [text "X:" ++ List.replicate n 97], l ≠ [] ∧ 13 ∉ l := by
    intro l mem
    rw [List.mem_singleton] at mem
    subst mem
    refine ⟨List.append_ne_nil_of_left_ne_nil name.1 _, ?_⟩
    rw [List.mem_append, List.mem_replicate]
    rintro (mem | ⟨-, same⟩)
    · exact name.2 mem
    · exact absurd same (by decide)
  refine (search_blankLine plain clean []).trans ?_
  rw [List.flatMap_cons, List.flatMap_nil, List.append_nil]
  simp only [List.length_append, lengths.1, lengths.2, List.length_replicate, crlf, List.length_cons, List.length_nil]
  congr 1
  omega

/-- One whose blank line ends at 8194. -/
theorem paddedRequest_segmented : ¬ Segmentless (paddedRequest 8172) :=
  header_straddles ⟨8190, search_paddedRequest 8172, by decide, by decide⟩

end HttpConnection

end XServer.Node
