import Mathlib.Data.List.DropRight
import XServer.Core.JsonText
import XServer.Lib.Search

/-!
# HTTP requests

`TryParseRequest` of `node/GmControlHttpService.cpp`, which `node/GateAuthHttpService.cpp`
has word for word: the blank line ends the header, whose first line is read as a stream of
words, whose other lines are searched for a colon and `Content-Length`. What is in the
buffer behind the body is left alone.
-/

namespace XServer.Node
open XServer.Core XServer.Lib XServer.Lib.Wire XServer.Net

def kMaxHeaderBytes : Nat := 8192
def kMaxBodyBytes : Nat := 65536

def crlf : Bytes := [13, 10]
def blankLine : Bytes := [13, 10, 13, 10]

/-- `std::isspace` in the classic locale. -/
def isSpace (ch : UInt8) : Bool := ch == 32 || (decide (9 ≤ ch) && decide (ch ≤ 13))

/-- `std::tolower` in the classic locale. -/
def toLower (ch : UInt8) : UInt8 := if 65 ≤ ch ∧ ch ≤ 90 then ch + 32 else ch

def trimAscii (value : Bytes) : Bytes := (value.dropWhile isSpace).rdropWhile isSpace

def toLowerAscii (value : Bytes) : Bytes := value.map toLower

/-- `stream >> word`: what was read, what is left and whether the end was seen. A stream that
has seen its end, or has only blanks left, gives no word. -/
def nextWord (stream : Bytes × Bool) : Option (Bytes × (Bytes × Bool)) :=
  if stream.2 then none
  else
    let rest := stream.1.dropWhile isSpace
    if rest = [] then none
    else
      let left := rest.dropWhile fun ch => !isSpace ch
      some (rest.takeWhile fun ch => !isSpace ch, (left, left.isEmpty))

/-- `std::from_chars` of a `uint64_t`, where it takes the whole text. -/
def fromChars (value : Bytes) : Option Nat :=
  if value ≠ [] ∧ value.all isDecimalDigit = true ∧ readDecimal value < 2 ^ 64 then some (readDecimal value) else none

/-- The words of the request line: method, target and version. -/
def parseRequestLine (requestLine : Bytes) : Except String (Bytes × Bytes) :=
  let words := do
    let (method, stream) ← nextWord (requestLine, false)
    let (target, stream) ← nextWord stream
    let (version, stream) ← nextWord stream
    if stream.2 then some (method, target, version) else none
  match words with
  | none => .error "HTTP request line is invalid."
  | some (method, target, version) =>
    if version ≠ text "HTTP/1.1" ∧ version ≠ text "HTTP/1.0" then .error "HTTP version is not supported."
    else .ok (method, target)

def headerName (line : Bytes) (colon : Nat) : Bytes := toLowerAscii (trimAscii (line.take colon))

def headerValue (line : Bytes) (colon : Nat) : Bytes := trimAscii (line.drop (colon + 1))

/-- One header line: the content length behind it. -/
def parseHeaderLine (line : Bytes) (contentLength : Nat) : Except String Nat :=
  if line = [] then .ok contentLength
  else
    match search (text ":") line with
    | none => .error "HTTP header line is invalid."
    | some colon =>
      if headerName line colon = text "content-length" then
        match fromChars (headerValue line colon) with
        | none => .error "HTTP Content-Length is invalid."
        | some parsedLength =>
          if parsedLength > kMaxBodyBytes then .error "HTTP Content-Length is invalid." else .ok parsedLength
      else .ok contentLength

/-- The lines of what is left of the header, which is at most so long. -/
def parseHeaderLines : Nat → Bytes → Nat → Except String Nat
  | 0, _, contentLength => .ok contentLength
  | count + 1, rest, contentLength =>
    if rest = [] then .ok contentLength
    else
      match search crlf rest with
      | none => parseHeaderLine rest contentLength
      | some lineEnd =>
        match parseHeaderLine (rest.take lineEnd) contentLength with
        | .error message => .error message
        | .ok contentLength => parseHeaderLines count (rest.drop (lineEnd + 2)) contentLength

/-- The text before the blank line: method, target and content length. -/
def parseHeader (headerText : Bytes) : Except String (Bytes × Bytes × Nat) :=
  match search crlf headerText with
  | none => .error "HTTP request line is incomplete."
  | some lineEnd =>
    match parseRequestLine (headerText.take lineEnd) with
    | .error message => .error message
    | .ok (method, target) =>
      match parseHeaderLines headerText.length (headerText.drop (lineEnd + 2)) 0 with
      | .error message => .error message
      | .ok contentLength => .ok (method, target, contentLength)

/-- `RequestParseResult`. -/
inductive RequestParseResult where
  | incomplete
  | complete (method path body : Bytes)
  | invalid (errorMessage : String)
  deriving DecidableEq, Repr

def tryParseRequest (buffer : Bytes) : RequestParseResult :=
  match search blankLine buffer with
  | none =>
    if buffer.length > kMaxHeaderBytes then .invalid "HTTP request header exceeded the maximum supported size."
    else .incomplete
  | some headerEnd =>
    match parseHeader (buffer.take headerEnd) with
    | .error message => .invalid message
    | .ok (method, target, contentLength) =>
      let bodyOffset := headerEnd + 4
      if buffer.length < bodyOffset + contentLength then .incomplete
      else .complete method target ((buffer.drop bodyOffset).take contentLength)

end XServer.Node
