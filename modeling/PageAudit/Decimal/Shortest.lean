import PageAudit.Binary64.Basic
/-!
Shortest decimals. Of all decimals that lie closer to a finite binary64 value than to
any other value, `shortest` gives one with the fewest digits and, of those, the nearest
to the value, a tie going to the even last digit.

For a digit count the candidates are the two neighbours of the value on the decimal
grid of that size: if any point of the grid lies in the interval of reals that round to
the value, one of the two does.
-/
namespace PageAudit.Decimal

/-- A decimal `digits * 10 ^ scale`. -/
structure Scaled where
  digits : Nat
  scale : Int
deriving DecidableEq, Repr

/-- The reals that round to a value, all over one denominator: the value itself, its
lower and upper end, and whether the ends belong to the interval. -/
structure Interval where
  low : Nat
  value : Nat
  high : Nat
  den : Nat
  closed : Bool
deriving Repr

namespace Interval

/-- The interval of a finite value that is not zero. Below a power of two the next value
is half as far away as above it. -/
def ofBinary64 (x : Binary64) : Interval :=
  let m := x.significand
  let narrow := m == Binary64.fractions && x.raisedExponent != 0
  let shift := Nat.pow 2 x.raisedExponent
  { low := (4 * m - (if narrow then 1 else 2)) * shift
    value := 4 * m * shift
    high := (4 * m + 2) * shift
    den := Nat.pow 2 1076
    closed := m % 2 == 0 }

/-- `digits * 10 ^ scale` lies in the interval. -/
def holds (i : Interval) (d : Scaled) : Bool :=
  let up := Nat.pow 10 d.scale.toNat
  let down := Nat.pow 10 (-d.scale).toNat
  let x := d.digits * up * i.den
  if i.closed then i.low * down ≤ x && x ≤ i.high * down else i.low * down < x && x < i.high * down

/-- Whole part of the value in units of `10 ^ scale`, with the remainder and its bound. -/
def inUnits (i : Interval) (scale : Int) : Nat × Nat × Nat :=
  let num := i.value * Nat.pow 10 (-scale).toNat
  let den := i.den * Nat.pow 10 scale.toNat
  (num / den, num % den, den)

/-- The best decimal on the grid of one scale, if one rounds to the value. -/
def onGrid (i : Interval) (scale : Int) : Option Scaled :=
  let (below, rest, den) := i.inUnits scale
  let lower : Scaled := ⟨below, scale⟩
  let upper : Scaled := ⟨below + 1, scale⟩
  match i.holds lower, i.holds upper with
  | true, true =>
    some (if 2 * rest < den || (2 * rest == den && below % 2 == 0) then lower else upper)
  | true, false => some lower
  | false, true => some upper
  | false, false => none

/-- The first grid with a hit, from the given scale downwards. -/
def firstHit (i : Interval) (scale : Int) : Nat → Scaled
  | 0 => ⟨(i.inUnits scale).1, scale⟩
  | n + 1 => (i.onGrid scale).getD (i.firstHit (scale - 1) n)

end Interval

/-- Drops the zeros at the end of the digits. -/
def Scaled.reduced (d : Scaled) : Nat → Scaled
  | 0 => d
  | n + 1 =>
    if d.digits != 0 && d.digits % 10 == 0 then Scaled.reduced ⟨d.digits / 10, d.scale + 1⟩ n else d

/-- An exponent of ten that is at least the one of the value's first digit. -/
def leadingScale (x : Binary64) : Int :=
  let bits : Int := x.significand.log2 + x.exponent
  bits * 30103 / 100000 + 1

/-- The shortest decimal of a finite magnitude. -/
def shortest (x : Binary64) : Scaled :=
  if x.magnitude = 0 then ⟨0, 0⟩
  else Scaled.reduced (Interval.firstHit (Interval.ofBinary64 x) (leadingScale x) 20) 20

end PageAudit.Decimal
