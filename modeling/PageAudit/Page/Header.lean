/-!
Response headers. Header lines keep the order in which they came, a name is looked up in
any case of its letters, and the value of a repeated header is the values of its lines with
a comma between them. A value may hold bytes that no text stands for.
-/
namespace PageAudit

/-- A header line. -/
structure Header where
  name : String
  value : List UInt8
deriving DecidableEq, Repr, Inhabited

namespace Header

/-- The characters of a header name. -/
def isNameChar (c : Char) : Bool :=
  c.isAlphanum || "!#$%&'*+-.^_\x60|~".toList.contains c

/-- The bytes of a header value: visible ones, the space, the tab and those above ASCII. -/
def isValueByte (b : UInt8) : Bool := (32 ≤ b && b != 127) || b == 9

/-- Why bytes are no header line. -/
inductive Flaw where
  | name
  | value
deriving DecidableEq, Repr

/-- The header line of two byte strings; the name is judged before the value. -/
def ofBytes (name value : List UInt8) : Except Flaw Header :=
  let letters := name.map fun b => Char.ofNat b.toNat
  if letters.isEmpty || !letters.all isNameChar then .error .name
  else if !value.all isValueByte then .error .value
  else .ok ⟨String.ofList letters, value⟩

/-- What stands for a value that is no text. -/
def unreadable : String := "[Invalid UTF-8]"

/-- Bytes that header values show as text: printable ASCII and the tab. -/
def isTextByte (b : UInt8) : Bool := (32 ≤ b && b < 127) || b == 9

/-- The value as text. -/
def text (h : Header) : String :=
  if h.value.all isTextByte then String.ofList (h.value.map fun b => Char.ofNat b.toNat)
  else unreadable

/-- Whether a header line has a name, in any case of its letters. -/
def isNamed (h : Header) (name : String) : Bool := h.name.toLower == name.toLower

end Header

/-- The values of the lines of a name, in order. -/
def headerValues (headers : List Header) (name : String) : List String :=
  (headers.filter (·.isNamed name)).map (·.text)

/-- The value of a header; nothing when it is absent. -/
def header? (headers : List Header) (name : String) : Option String :=
  match headerValues headers name with
  | [] => none
  | values => some (", ".intercalate values)

def hasHeader (headers : List Header) (name : String) : Bool := headers.any (·.isNamed name)

end PageAudit
