import PageAudit.Binary64.Basic
/-!
Rounding to binary64. `ofRatio` takes an exact quotient to the nearest value, a tie
going to the even significand, and beyond the largest value to infinity. Products and
quotients of values are the exact results rounded once.
-/
namespace PageAudit.Binary64

/-- The whole number nearest to `num / den`, a tie going to the even one. -/
def roundQuotient (num den : Nat) : Nat :=
  let q := num / den
  let twice := 2 * (num % den)
  if twice < den then q else if den < twice then q + 1 else q + q % 2

/-- Exponent, above -1074, of the unit that a positive quotient is rounded to. -/
def raisedUnit (num den : Nat) : Nat :=
  let guess : Int := (num.log2 : Int) - den.log2 - 52
  let enough := if 0 ≤ guess then den * Nat.pow 2 (52 + guess.toNat) ≤ num else
    den * fractions ≤ num * Nat.pow 2 (-guess).toNat
  ((if enough then guess else guess - 1) + 1074).toNat

/-- The binary64 value nearest to `num / den`. -/
def ofRatio (negative : Bool) (num den : Nat) : Binary64 :=
  if num = 0 then ofMagnitude negative 0 else
    let unit := raisedUnit num den
    let significand :=
      if 1074 ≤ unit then roundQuotient num (den * Nat.pow 2 (unit - 1074))
      else roundQuotient (num * Nat.pow 2 (1074 - unit)) den
    ofMagnitude negative (min infiniteMagnitude (unit * fractions + significand))

def ofNat (n : Nat) : Binary64 := ofRatio false n 1

/-- Product of two finite values. -/
def mul (x y : Binary64) : Binary64 :=
  let (a, b) := x.ratio
  let (c, d) := y.ratio
  ofRatio (x.isNegative != y.isNegative) (a * c) (b * d)

/-- Quotient of two finite values, the second not zero. -/
def div (x y : Binary64) : Binary64 :=
  let (a, b) := x.ratio
  let (c, d) := y.ratio
  ofRatio (x.isNegative != y.isNegative) (a * d) (b * c)

end PageAudit.Binary64
