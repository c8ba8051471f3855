import PageAudit.Decimal.Whole
import PageAudit.Fetch.Network
import PageAudit.Page.Header
import PageAudit.Text.Charset
import PageAudit.Text.Span
/-!
Responses, read from the bytes that a server sends. A status line and header lines make the
head, and the head says how the end of the body is told. A head that contradicts itself makes no
response; a body that ends too early, or cannot be divided, leaves the response without one.
-/
namespace PageAudit.Fetch

/-- Why bytes make no response, or no body. -/
inductive Fault where
  /-- They cannot be read, or there are no more of them. -/
  | broken
  /-- The rest of them does not come within the time limit. -/
  | late
deriving DecidableEq, Repr

/-- What is wrong with an answer that ends too early. -/
def Ending.fault : Ending → Fault
  | .closed | .lost => .broken
  | .late => .late

structure Response where
  status : UInt16
  headers : List Header
  /-- The bytes of the body, unless they ended too early or could not be divided. -/
  body : Except Fault (List UInt8)

namespace Response

/-! ### Lines -/

/-- The first line and what follows it. A line of a head ends with a line feed, and a carriage
return before that is not part of it. -/
def line (ending : Ending) (bytes : List UInt8) : Except Fault (List UInt8 × List UInt8) :=
  match bytes.dropWhile (· != 10) with
  | _ :: rest =>
    let line := bytes.takeWhile (· != 10)
    .ok (if line.getLast? = some 13 then line.dropLast else line, rest)
  | [] => .error ending.fault

/-- The first line and what follows it, where a line has to end with both. -/
def strictLine (ending : Ending) (bytes : List UInt8) : Except Fault (List UInt8 × List UInt8) :=
  let line := bytes.takeWhile fun b => b != 13 && b != 10
  match bytes.drop line.length with
  | 13 :: 10 :: rest => .ok (line, rest)
  | [] | [13] => .error ending.fault
  | _ => .error .broken

/-- Line ends may stand before a status line. -/
def skipLineEnds : List UInt8 → List UInt8
  | 13 :: 10 :: rest => skipLineEnds rest
  | 10 :: rest => skipLineEnds rest
  | bytes => bytes

def asciiText (bytes : List UInt8) : List Char := bytes.map fun b => Char.ofNat b.toNat

/-! ### The head -/

/-- The head of a response; `isOld` tells version 1.0 from version 1.1. -/
structure Head where
  isOld : Bool
  status : UInt16
  headers : List Header

/-- The version and the status of a status line. The bytes that header values may hold may
follow, behind a space. -/
def statusLine? (line : List UInt8) : Option (Bool × UInt16) :=
  match asciiText line with
  | 'H' :: 'T' :: 'T' :: 'P' :: '/' :: '1' :: '.' :: minor :: ' ' :: a :: b :: c :: reason =>
    if (minor = '0' || minor = '1') && (reason.isEmpty || reason.head? = some ' ') &&
        (line.drop 12).all Header.isValueByte then
      ((Decimal.digits? [a, b, c]).filter (100 ≤ ·)).map fun n => (minor = '0', UInt16.ofNat n)
    else none
  | _ => none

def isSpace (b : UInt8) : Bool := b == 32 || b == 9

/-- The header line of a line. -/
def header? (line : List UInt8) : Option Header :=
  match line.dropWhile (· != 58) with
  | _ :: value =>
    let value := ((value.dropWhile isSpace).reverse.dropWhile isSpace).reverse
    (Header.ofBytes (line.takeWhile (· != 58)) value).toOption
  | [] => none

/-- The most header lines that are taken. -/
def maxHeaders : Nat := 100

/-- At most `left` header lines up to the first empty line, and what follows that. -/
def readHeaders (next : List UInt8 → Except Fault (List UInt8 × List UInt8)) (left : Nat)
    (bytes : List UInt8) : Except Fault (List Header × List UInt8) := do
  let (line, rest) ← next bytes
  if line.isEmpty then return ([], rest)
  match left, header? line with
  | left + 1, some first =>
    let (others, body) ← readHeaders next left rest
    return (first :: others, body)
  | _, _ => throw .broken

/-- The head at the front of bytes, and what follows it. -/
def readHead (ending : Ending) (bytes : List UInt8) : Except Fault (Head × List UInt8) := do
  let (first, rest) ← line ending (skipLineEnds bytes)
  match statusLine? first with
  | none => throw .broken
  | some (isOld, status) =>
    let (headers, rest) ← readHeaders (line ending) maxHeaders rest
    return (⟨isOld, status, headers⟩, rest)

/-! ### Framing -/

/-- How the end of a body is told. -/
inductive Framing where
  /-- There is no body. -/
  | empty
  /-- It comes in chunks, of which the last one is empty. -/
  | chunks
  /-- The head has its length. -/
  | counted (size : Nat)
  /-- It is all that comes until the connection is closed. -/
  | rest
deriving DecidableEq, Repr

/-- The greatest length that a head may give. -/
def maxLength : Nat := UInt64.size - 3

/-- The length that all values of `Content-Length` agree on; one line may hold several. -/
def contentLength? (values : List String) : Option Nat := do
  let lengths ← (values.flatMap (·.splitOn ",")).mapM fun v => Decimal.digits? (Text.trimmed v).toList
  let first ← lengths.head?
  if lengths.all (· == first) && first ≤ maxLength then some first else none

/-- Whether the last transfer coding is the one in chunks. -/
def isChunked (lastValue : String) : Bool :=
  ((lastValue.splitOn ",").getLast?.map fun v => (Text.trimmed v).toLower) == some "chunked"

/-- The framing that a head announces. It makes no response if it gives a transfer coding to a
version without them, or lengths that are none or differ. -/
def framing? (head : Head) : Option Framing :=
  if head.status = 101 || head.status = 204 || head.status = 304 then some .empty
  else match (headerValues head.headers "transfer-encoding").getLast? with
    | some lastValue =>
      if head.isOld then none else some (if isChunked lastValue then .chunks else .rest)
    | none => match headerValues head.headers "content-length" with
      | [] => some .rest
      | values => (contentLength? values).map .counted

/-! ### The body -/

/-- The size in the line before a chunk: hexadecimal digits, blanks, and perhaps an extension
behind a semicolon. -/
def chunkSize? (line : List UInt8) : Option Nat :=
  let digits := (asciiText line).takeWhile fun c => (Text.hexDigit? c).isSome
  let after := ((asciiText line).drop digits.length).dropWhile fun c => c == ' ' || c == '\t'
  if digits.isEmpty || !(after.isEmpty || after.head? = some ';') then none
  else (some (Text.hexNumber digits)).filter (· < UInt64.size)

/-- The bytes of a body in chunks. Header lines may follow the last one, and are dropped. -/
def readChunks (ending : Ending) (bytes : List UInt8) : Except Fault (List UInt8) :=
  match strictLine ending bytes with
  | .error fault => .error fault
  | .ok (line, rest) =>
    match chunkSize? line with
    | none => .error .broken
    | some 0 => (readHeaders (strictLine ending) maxHeaders rest).map fun _ => []
    | some size =>
      match rest.drop size with
      | [] | [13] => .error ending.fault
      | 13 :: 10 :: more =>
        if _h : more.length < bytes.length then
          (readChunks ending more).map fun others => rest.take size ++ others
        else .error .broken
      | _ => .error .broken
termination_by bytes.length

/-- The body in the bytes after a head. -/
def readBody (ending : Ending) (bytes : List UInt8) : Framing → Except Fault (List UInt8)
  | .empty => .ok []
  | .chunks => readChunks ending bytes
  | .counted size => if size ≤ bytes.length then .ok (bytes.take size) else .error ending.fault
  | .rest => if ending = .closed then .ok bytes else .error ending.fault

/-- The response that bytes make. Those of a status below 200 announce another one, except for
status 101, which ends the exchange. -/
def read (ending : Ending) (bytes : List UInt8) : Except Fault Response :=
  match readHead ending bytes with
  | .error fault => .error fault
  | .ok (head, rest) =>
    if head.status < 200 && head.status != 101 then
      if _h : rest.length < bytes.length then read ending rest else .error .broken
    else match framing? head with
      | none => .error .broken
      | some framing => .ok ⟨head.status, head.headers, readBody ending rest framing⟩
termination_by bytes.length

/-! ### The encoding -/

/-- The encoding that the head announces, and otherwise UTF-8. -/
def charset (headers : List Header) : Text.Charset :=
  let parameters := ((headerValues headers "content-type").head?.getD "").splitOn ";"
  let announced := (parameters.drop 1).findSome? fun p =>
    match (Text.trimmed p).splitOn "=" with
    | [name, value] =>
      if name.toLower == "charset" then some (value.replace "\"" "") else none
    | _ => none
  (announced.bind Text.Charset.ofName?).getD .utf8

end Response

end PageAudit.Fetch
