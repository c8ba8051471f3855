import PageAudit.Instant.Basic
import PageAudit.Text.Blank
/-!
Reading instants. `read?` takes a day, a time and an offset from Universal Time and
answers the instant in Universal Time. It is lenient: blanks may stand before each part,
parts need not be padded, a year of other than four digits is accepted with a sign, and
the colon of the offset may be missing. `readStrict?` accepts the exact layout only.

The offset of a text is in whole minutes and is not kept: `ZonedTime.read?` gives an instant
the offset of the zone in which it is read.
-/
namespace PageAudit

namespace Instant

open PageAudit.Text

def digitValue (c : Char) : Nat := c.toNat - 48

/-- The number that a list of digits denotes. -/
def number (ds : List Char) : Nat := ds.foldl (fun n c => 10 * n + digitValue c) 0

/-- One to `most` digits, as many as there are. -/
def digits? (most : Nat) (cs : List Char) : Option (Nat × List Char) :=
  let ds := (cs.take most).takeWhile Char.isDigit
  if ds.isEmpty then none else some (number ds, cs.drop ds.length)

/-- Exactly `count` digits. -/
def exactDigits? (count : Nat) (cs : List Char) : Option (Nat × List Char) :=
  let ds := (cs.take count).takeWhile Char.isDigit
  if ds.length = count then some (number ds, cs.drop count) else none

/-- The rest of a text after a character it has to start with. -/
def mark? (c : Char) : List Char → Option (List Char)
  | [] => none
  | d :: rest => if d = c then some rest else none

/-- A year: up to four digits, or a sign and any number of them. -/
def year? (cs : List Char) : Option (Int × List Char) :=
  match trimLeft cs with
  | '-' :: rest => (digits? rest.length rest).map fun (n, r) => (-(n : Int), r)
  | '+' :: rest => (digits? rest.length rest).map fun (n, r) => ((n : Int), r)
  | cs => (digits? 4 cs).map fun (n, r) => ((n : Int), r)

/-- A part of up to two digits. -/
def part? (cs : List Char) : Option (Nat × List Char) := digits? 2 (trimLeft cs)

/-- A fraction of a second in nanoseconds, zero when there is no point. Digits after the
ninth are dropped. -/
def fraction? (cs : List Char) : Option (Nat × List Char) :=
  match cs with
  | '.' :: rest =>
    let ds := rest.takeWhile Char.isDigit
    let kept := ds.take 9
    if ds.isEmpty then none
    else some (number kept * Nat.pow 10 (9 - kept.length), rest.drop ds.length)
  | _ => some (0, cs)

/-! ### Offsets -/

/-- Hours and minutes of an offset, as minutes. What stands between the two is dropped by
`between`. -/
def offsetMinutes? (between : List Char → Option (List Char)) (cs : List Char) :
    Option (Nat × List Char) := do
  let (hours, rest) ← exactDigits? 2 cs
  let rest ← between rest
  let (minutes, rest) ← exactDigits? 2 rest
  if minutes < 60 then some (hours * 60 + minutes, rest) else none

/-- An offset from Universal Time in minutes, eastward positive, below a day. -/
def offset? (between : List Char → Option (List Char)) (cs : List Char) :
    Option (Int × List Char) := do
  let (minutes, rest) ← match cs with
    | 'Z' :: rest => some ((0 : Int), rest)
    | 'z' :: rest => some ((0 : Int), rest)
    | '+' :: rest => (offsetMinutes? between rest).map fun (n, r) => ((n : Int), r)
    | '-' :: rest => (offsetMinutes? between rest).map fun (n, r) => (-(n : Int), r)
    | '\u2212' :: rest => (offsetMinutes? between rest).map fun (n, r) => (-(n : Int), r)
    | _ => none
  if minutes.natAbs < 1440 then some (minutes, rest) else none

/-- Colons and blanks between the hours and minutes of an offset. -/
def skipSeparators (cs : List Char) : Option (List Char) :=
  some (cs.dropWhile fun c => c == ':' || isBlank c)

/-- The three letters that name Universal Time, in any case. -/
def namesUniversal (cs : List Char) : Bool :=
  match cs with
  | a :: b :: c :: _ => a.toUpper == 'U' && b.toUpper == 'T' && c.toUpper == 'C'
  | _ => false

/-- An offset in the lenient layout. -/
def lenientOffset? (cs : List Char) : Option (Int × List Char) :=
  if namesUniversal cs then some (0, cs.drop 3) else offset? skipSeparators cs

/-! ### Instants -/

/-- The instant of a local time, if both the local time and the instant exist. -/
def atOffset? (local_ : Instant) (minutes : Int) : Option Instant :=
  if local_.isValid then
    let t := local_.ahead (-60 * minutes)
    if t.isValid then some t else none
  else none

/-- The rest after what parts day and time. -/
def dayEnd? : List Char → Option (List Char)
  | 'T' :: rest => some rest
  | 't' :: rest => some rest
  | c :: rest => if isBlank c then some rest else none
  | [] => none

/-- The instant of a text in the lenient layout. -/
def read? (s : String) : Option Instant := do
  let (year, cs) ← year? s.toList
  let cs ← mark? '-' (trimLeft cs)
  let (month, cs) ← part? cs
  let cs ← mark? '-' (trimLeft cs)
  let (day, cs) ← part? cs
  let cs ← dayEnd? cs
  let (hour, cs) ← part? cs
  let cs ← mark? ':' (trimLeft cs)
  let (minute, cs) ← part? cs
  let cs ← mark? ':' (trimLeft cs)
  let (second, cs) ← part? cs
  let (nano, cs) ← fraction? cs
  let (offset, cs) ← lenientOffset? (trimLeft cs)
  if (trimLeft cs).isEmpty then atOffset? ⟨⟨year, month, day⟩, hour, minute, second, nano⟩ offset
  else none

/-- The instant of a text in the exact layout. -/
def readStrict? (s : String) : Option Instant := do
  let (year, cs) ← exactDigits? 4 s.toList
  let cs ← mark? '-' cs
  let (month, cs) ← exactDigits? 2 cs
  let cs ← mark? '-' cs
  let (day, cs) ← exactDigits? 2 cs
  let cs ← match cs with
    | 'T' :: rest => some rest
    | 't' :: rest => some rest
    | ' ' :: rest => some rest
    | _ => none
  let (hour, cs) ← exactDigits? 2 cs
  let cs ← mark? ':' cs
  let (minute, cs) ← exactDigits? 2 cs
  let cs ← mark? ':' cs
  let (second, cs) ← exactDigits? 2 cs
  let (nano, cs) ← fraction? cs
  let (offset, cs) ← offset? (mark? ':') cs
  if cs.isEmpty then atOffset? ⟨⟨year, month, day⟩, hour, minute, second, nano⟩ offset else none

end Instant

/-- The time of a text in the lenient layout, on the clocks of a zone. -/
def ZonedTime.read? (zone : Zone) (s : String) : Option ZonedTime := (Instant.read? s).map zone.time

end PageAudit
