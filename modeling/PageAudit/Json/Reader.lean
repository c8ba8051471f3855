import PageAudit.Json.Real
import PageAudit.Json.Value
/-!
Reading JSON. Each reader takes the characters in front of it and returns what it read
together with the rest; `read?` accepts a text that is one value with blanks around it.
Whole numbers below `2 ^ 64` and negative ones down to `-2 ^ 63` keep their class, and
every other number, minus zero included, is a binary64 value.
-/
namespace PageAudit.Json

def isBlank (c : Char) : Bool := c == ' ' || c == '\n' || c == '\t' || c == '\r'

def skipBlanks (cs : List Char) : List Char := cs.dropWhile isBlank

/-! ### Strings -/

def hexValue? (c : Char) : Option Nat :=
  if '0' ≤ c && c ≤ '9' then some (c.toNat - 48)
  else if 'a' ≤ c && c ≤ 'f' then some (c.toNat - 87)
  else if 'A' ≤ c && c ≤ 'F' then some (c.toNat - 55)
  else none

/-- Four hexadecimal digits and what follows. -/
def hex4? : List Char → Option (Nat × List Char)
  | a :: b :: c :: d :: rest => do
    let a ← hexValue? a
    let b ← hexValue? b
    let c ← hexValue? c
    let d ← hexValue? d
    some (a * 4096 + b * 256 + c * 16 + d, rest)
  | _ => none

/-- The character of an escape that is one letter long. -/
def shortEscape? (c : Char) : Option Char :=
  match c with
  | '"' => some '"'
  | '\\' => some '\\'
  | '/' => some '/'
  | 'b' => some '\x08'
  | 'f' => some '\x0c'
  | 'n' => some '\n'
  | 'r' => some '\r'
  | 't' => some '\t'
  | _ => none

/-- The character of an escape that begins with `u`: one code unit, or two that form a
surrogate pair. -/
def unicodeEscape? (cs : List Char) : Option (Char × List Char) := do
  let (high, rest) ← hex4? cs
  if 0xDC00 ≤ high && high ≤ 0xDFFF then none
  else if 0xD800 ≤ high && high ≤ 0xDBFF then
    match rest with
    | '\\' :: 'u' :: more =>
      let (low, rest) ← hex4? more
      if 0xDC00 ≤ low && low ≤ 0xDFFF then
        some (Char.ofNat (0x10000 + (high - 0xD800) * 1024 + (low - 0xDC00)), rest)
      else none
    | _ => none
  else some (Char.ofNat high, rest)

/-- The characters up to the closing quote, with those already read in reverse. -/
def stringBody (read : List Char) : Nat → List Char → Option (String × List Char)
  | 0, _ => none
  | fuel + 1, cs =>
    match cs with
    | '"' :: rest => some (String.ofList read.reverse, rest)
    | '\\' :: 'u' :: rest =>
      match unicodeEscape? rest with
      | some (c, rest) => stringBody (c :: read) fuel rest
      | none => none
    | '\\' :: c :: rest =>
      match shortEscape? c with
      | some c => stringBody (c :: read) fuel rest
      | none => none
    | c :: rest => if c.toNat < 32 then none else stringBody (c :: read) fuel rest
    | [] => none

/-! ### Numbers -/

/-- Digits of the whole part. Once a digit would take the value to `2 ^ 64` it and all
after it only count towards the scale. -/
def wholeDigits (value scale : Nat) : List Char → Nat × Nat × List Char
  | [] => (value, scale, [])
  | c :: rest =>
    if c.isDigit then
      let next := value * 10 + (c.toNat - 48)
      if scale = 0 && next < UInt64.size then wholeDigits next 0 rest
      else wholeDigits value (scale + 1) rest
    else (value, scale, c :: rest)

/-- Digits after the point, each lowering the scale by one. The first that would take the
value to `2 ^ 64` is dropped with all after it. -/
def fractionDigits (value places : Nat) (full : Bool) : List Char → Nat × Nat × List Char
  | [] => (value, places, [])
  | c :: rest =>
    if c.isDigit then
      let next := value * 10 + (c.toNat - 48)
      if !full && next < UInt64.size then fractionDigits next (places + 1) false rest
      else fractionDigits value places true rest
    else (value, places, c :: rest)

/-- A run of digits as a number, with what follows; at least one digit is asked for. -/
def digitRun? (cs : List Char) : Option (Nat × List Char) :=
  let ds := cs.takeWhile Char.isDigit
  if ds.isEmpty then none
  else some (ds.foldl (fun n c => 10 * n + (c.toNat - 48)) 0, cs.dropWhile Char.isDigit)

/-- The digits of an exponent after its sign, if it has one. -/
def exponentDigits? (cs : List Char) : Option (Int × List Char) :=
  match cs with
  | '-' :: rest => (digitRun? rest).map fun (n, r) => (-(n : Int), r)
  | '+' :: rest => (digitRun? rest).map fun (n, r) => ((n : Int), r)
  | _ => (digitRun? cs).map fun (n, r) => ((n : Int), r)

/-- The exponent part, zero when there is none, and whether there is one. -/
def exponentPart? (cs : List Char) : Option (Int × Bool × List Char) :=
  match cs with
  | c :: rest =>
    if c == 'e' || c == 'E' then (exponentDigits? rest).map fun (n, r) => (n, true, r)
    else some (0, false, cs)
  | [] => some (0, false, [])

/-- The class and value of a number without point and exponent. -/
def wholeNumber? (negative : Bool) (value scale : Nat) : Option Number :=
  if scale ≠ 0 then (ofDecimal? negative value scale).map .real
  else if !negative then some (.natural value)
  else if value = 0 || 0x8000000000000000 < value then (ofDecimal? true value 0).map .real
  else some (.negative value)

/-- A number from the digits after its point on. -/
def afterPoint? (negative : Bool) (value scale : Nat) (cs : List Char) : Option (Number × List Char) := do
  let (digits, places, rest) := fractionDigits value 0 false cs
  if (cs.takeWhile Char.isDigit).isEmpty then none
  else
    let (e, _, after) ← exponentPart? rest
    let x ← ofDecimal? negative digits ((scale : Int) - places + e)
    some (.real x, after)

/-- A number that has no point, from the end of its digits on. -/
def withoutPoint? (negative : Bool) (value scale : Nat) (cs : List Char) :
    Option (Number × List Char) := do
  let (e, marked, after) ← exponentPart? cs
  if marked then
    let x ← ofDecimal? negative value ((scale : Int) + e)
    some (.real x, after)
  else
    let n ← wholeNumber? negative value scale
    some (n, after)

/-- A number without its sign. -/
def unsigned? (negative : Bool) (cs : List Char) : Option (Number × List Char) :=
  let ds := cs.takeWhile Char.isDigit
  if ds.isEmpty || (ds.length > 1 && ds.head? == some '0') then none
  else
    let (value, scale, rest) := wholeDigits 0 0 cs
    match rest with
    | '.' :: more => afterPoint? negative value scale more
    | _ => withoutPoint? negative value scale rest

def number? : List Char → Option (Number × List Char)
  | '-' :: rest => unsigned? true rest
  | cs => unsigned? false cs

/-! ### Values -/

/-- The rest of a text that starts with the given word. -/
def word? (word cs : List Char) : Option (List Char) :=
  if word.isPrefixOf cs then some (cs.drop word.length) else none

mutual

/-- One value, after blanks. -/
def valueAt : Nat → List Char → Option (Json × List Char)
  | 0, _ => none
  | fuel + 1, cs =>
    match skipBlanks cs with
    | '"' :: rest => (stringBody [] (rest.length + 1) rest).map fun (s, r) => (.string s, r)
    | '[' :: rest =>
      match skipBlanks rest with
      | ']' :: more => some (.array [], more)
      | _ => (itemsAt fuel rest).map fun (vs, r) => (.array vs, r)
    | '{' :: rest =>
      match skipBlanks rest with
      | '}' :: more => some (.object [], more)
      | _ => (membersAt fuel rest).map fun (ms, r) => (.object ms, r)
    | 'n' :: rest => (word? "ull".toList rest).map fun r => (.null, r)
    | 't' :: rest => (word? "rue".toList rest).map fun r => (.bool true, r)
    | 'f' :: rest => (word? "alse".toList rest).map fun r => (.bool false, r)
    | cs => (number? cs).map fun (n, r) => (.number n, r)

/-- The items of an array up to its closing bracket, at least one. -/
def itemsAt : Nat → List Char → Option (List Json × List Char)
  | 0, _ => none
  | fuel + 1, cs =>
    match valueAt fuel cs with
    | none => none
    | some (v, rest) =>
      match skipBlanks rest with
      | ',' :: more => (itemsAt fuel more).map fun (vs, r) => (v :: vs, r)
      | ']' :: more => some ([v], more)
      | _ => none

/-- The members of an object up to its closing brace, at least one. -/
def membersAt : Nat → List Char → Option (List (String × Json) × List Char)
  | 0, _ => none
  | fuel + 1, cs =>
    match skipBlanks cs with
    | '"' :: rest =>
      match stringBody [] (rest.length + 1) rest with
      | none => none
      | some (k, rest) =>
        match skipBlanks rest with
        | ':' :: rest =>
          match valueAt fuel rest with
          | none => none
          | some (v, rest) =>
            match skipBlanks rest with
            | ',' :: more => (membersAt fuel more).map fun (ms, r) => ((k, v) :: ms, r)
            | '}' :: more => some ([(k, v)], more)
            | _ => none
        | _ => none
    | _ => none

end

/-- The value of a text that is one JSON value with blanks around it. -/
def read? (s : String) : Option Json :=
  match valueAt (2 * s.length + 2) s.toList with
  | some (v, rest) => if (skipBlanks rest).isEmpty then some v else none
  | none => none

end PageAudit.Json
