import PageAudit.Binary64.Rounding
/-!
Fixed places. A binary64 value is written with two places after the point: its exact
value in hundredths, rounded to the nearest whole number with ties to even. The sign is
kept when the digits are all zero, and there is no exponent however large the value is.
-/
namespace PageAudit.Decimal

/-- A natural number in at least two digits. -/
def twoDigits (n : Nat) : String := if n < 10 then "0" ++ toString n else toString n

/-- A value with two places after the point. -/
def fixed2 (x : Binary64) : String :=
  if x.isNan then "NaN" else
    let sign := if x.isNegative then "-" else ""
    if !x.isFinite then sign ++ "inf" else
      let (num, den) := x.ratio
      let hundredths := Binary64.roundQuotient (100 * num) den
      sign ++ toString (hundredths / 100) ++ "." ++ twoDigits (hundredths % 100)

end PageAudit.Decimal
