import PageAudit.Decimal.Whole
import PageAudit.Text.Span
/-!
Addresses of 128 bits: eight pieces of four hexadecimal digits with colons between them. Two
colons stand for the zero pieces that are missing, and the last two pieces may be
written as four bytes in decimal. The written form drops leading zeros and writes two colons
for the longest run of zero pieces, the first of equal ones.
-/
namespace PageAudit.Url.Address6

/-- A piece of one to four hexadecimal digits. -/
def piece? (cs : List Char) : Option Nat :=
  if !cs.isEmpty && cs.length ≤ 4 && cs.all fun c => (Text.hexDigit? c).isSome then
    some (Text.hexNumber cs)
  else none

/-- A byte in decimal without leading zeros. -/
def byte? (cs : List Char) : Option Nat :=
  if 1 < cs.length && cs.head? == some '0' then none else (Decimal.digits? cs).filter (· < 256)

/-- Two pieces written as four bytes. -/
def bytePieces? (cs : List Char) : Option (List Nat) := do
  match ← (Text.splitAll (· == '.') cs).mapM byte? with
  | [a, b, c, d] => some [256 * a + b, 256 * c + d]
  | _ => none

/-- The pieces of some texts, of which the last may be written as bytes. -/
def pieces? : List (List Char) → Option (List Nat)
  | [] => some []
  | [last] => if last.contains '.' then bytePieces? last else (piece? last).map fun n => [n]
  | cs :: rest => do return (← piece? cs) :: (← pieces? rest)

/-- The text before two colons and the text after them. -/
def splitAtGap? (before : List Char) : List Char → Option (List Char × List Char)
  | ':' :: ':' :: rest => some (before.reverse, rest)
  | c :: rest => splitAtGap? (c :: before) rest
  | [] => none

/-- The texts between colons, none of an empty text. -/
def fields (cs : List Char) : List (List Char) :=
  if cs.isEmpty then [] else Text.splitAll (· == ':') cs

/-- The eight pieces that a text denotes. -/
def ofText? (cs : List Char) : Option (List Nat) := do
  match splitAtGap? [] cs with
  | some (front, back) =>
    let front ← (fields front).mapM piece?
    let back ← pieces? (fields back)
    let size := front.length + back.length
    if size ≤ 7 then some (front ++ List.replicate (8 - size) 0 ++ back) else none
  | none =>
    let all ← pieces? (fields cs)
    if all.length = 8 then some all else none

/-- The number of zero pieces at the start. -/
def zeros (pieces : List Nat) : Nat := (pieces.takeWhile (· == 0)).length

/-- Start and length of the longest run of zero pieces from position `at` on. -/
def longestGap (position : Nat) : List Nat → Nat × Nat
  | [] => (position, 0)
  | n :: rest =>
    let here := zeros (n :: rest)
    let later := longestGap (position + 1) rest
    if later.2 ≤ here then (position, here) else later

def pieceText (n : Nat) : String := String.ofList (Nat.toDigits 16 n)

def text (pieces : List Nat) : String :=
  let joined (ps : List Nat) := ":".intercalate (ps.map pieceText)
  let (start, size) := longestGap 0 pieces
  if 2 ≤ size then joined (pieces.take start) ++ "::" ++ joined (pieces.drop (start + size))
  else joined pieces

end PageAudit.Url.Address6
