import PageAudit.Decimal.Whole
import PageAudit.Text.Span
/-!
Addresses of 32 bits. A host whose last label is a number is such an address or nothing. Up
to four numbers in decimal, octal or hexadecimal name the bytes from the left, and the last
of them the remaining bytes together.
-/
namespace PageAudit.Url.Address4

/-- A number, octal after a zero and hexadecimal after `0x`. -/
def number? (label : List Char) : Option Nat :=
  match label with
  | [] => none
  | '0' :: x :: rest =>
    if x = 'x' || x = 'X' then
      if rest.all fun c => (Text.hexDigit? c).isSome then some (Text.hexNumber rest) else none
    else
      let digits := x :: rest
      if digits.all fun c => '0' ≤ c && c ≤ '7' then
        some (digits.foldl (fun n c => 8 * n + (c.toNat - 48)) 0)
      else none
  | _ => Decimal.digits? label

/-- The labels of a name, without an empty one at the end of more than one. -/
def labels (name : List Char) : List (List Char) :=
  match (Text.splitAll (· == '.') name).reverse with
  | [] :: rest@(_ :: _) => rest.reverse
  | all => all.reverse

/-- Whether the last label is a number. -/
def isMeant (name : List Char) : Bool :=
  match (labels name).getLast? with
  | some label => (!label.isEmpty && label.all Char.isDigit) || (number? label).isSome
  | none => false

/-- The address of one to four numbers. -/
def ofNumbers? (numbers : List Nat) : Option Nat :=
  let bytes := numbers.dropLast
  match numbers.getLast? with
  | some rest =>
    if bytes.length < 4 && bytes.all (· < 256) && rest < Nat.pow 256 (4 - bytes.length) then
      some (bytes.foldl (fun n b => 256 * n + b) 0 * Nat.pow 256 (4 - bytes.length) + rest)
    else none
  | none => none

def ofName? (name : List Char) : Option Nat := do ofNumbers? (← (labels name).mapM number?)

/-- The four bytes in decimal. -/
def text (address : Nat) : String :=
  ".".intercalate ([3, 2, 1, 0].map fun i => toString (address / Nat.pow 256 i % 256))

end PageAudit.Url.Address4
