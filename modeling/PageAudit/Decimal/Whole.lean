/-!
Whole numbers in decimal: an optional sign followed by one or more ASCII digits and
nothing else, read as a mathematical integer and then held against a bound.
-/
namespace PageAudit.Decimal

/-- The number that a non-empty run of ASCII digits denotes. -/
def digits? (cs : List Char) : Option Nat :=
  if cs.isEmpty || !cs.all Char.isDigit then none
  else some (cs.foldl (fun n c => 10 * n + (c.toNat - 48)) 0)

/-- A number below `2 ^ 64`, with an optional plus sign. -/
def natural64? (cs : List Char) : Option Nat :=
  let read := match cs with
    | '+' :: rest => digits? rest
    | _ => digits? cs
  read.filter (· < UInt64.size)

/-- A number from `-2 ^ 63` to `2 ^ 63 - 1`, with an optional sign. -/
def integer64? (cs : List Char) : Option Int :=
  let read : Option Int := match cs with
    | '+' :: rest => (digits? rest).map Int.ofNat
    | '-' :: rest => (digits? rest).map (fun n => -(n : Int))
    | _ => (digits? cs).map Int.ofNat
  read.filter (fun n => -0x8000000000000000 ≤ n && n < 0x8000000000000000)

end PageAudit.Decimal
