import PageAudit.Binary64.Rounding
import PageAudit.Decimal.Shortest
/-!
Binary64 values as JSON numbers. `realText` writes the shortest decimal that reads back,
positional from 1e-5 up to 1e16 and with an exponent elsewhere, and always with a point
or an exponent. `ofDecimal?` reads digits times a power of ten in two roundings, one for
the digits and one for the scaling, and refuses what lies beyond the largest value.
-/
namespace PageAudit.Json

/-- Digits `ds` of a value `0.ds * 10 ^ point`, laid out as a JSON number. -/
def layout (ds : List Char) (point : Int) : List Char :=
  let n : Int := ds.length
  if 0 < point && point ≤ 16 then
    if n ≤ point then ds ++ List.replicate (point - n).toNat '0' ++ ['.', '0']
    else ds.take point.toNat ++ '.' :: ds.drop point.toNat
  else if -5 < point && point ≤ 0 then
    '0' :: '.' :: List.replicate (-point).toNat '0' ++ ds
  else
    let mantissa := match ds with
      | [] => []
      | [d] => [d]
      | d :: rest => d :: '.' :: rest
    let e := point - 1
    mantissa ++ 'e' :: (if e < 0 then '-' else '+') :: (toString e.natAbs).toList

/-- The text of a finite value, and `null` for the others, which JSON cannot write. -/
def realText (x : Binary64) : String :=
  if !x.isFinite then "null" else
    let sign := if x.isNegative then "-" else ""
    if x.magnitude = 0 then sign ++ "0.0" else
      let d := Decimal.shortest x
      let ds := (toString d.digits).toList
      sign ++ String.ofList (layout ds (ds.length + d.scale))

/-- The largest power of ten below infinity. -/
def maxPower : Nat := 308

/-- `f * 10 ^ scale` rounded; a scale below the least power is taken in several steps, at
most `steps` of them. -/
def scaleBy (f : Binary64) (scale : Int) : Nat → Option Binary64
  | 0 => some Binary64.zero
  | steps + 1 =>
    if f.magnitude = 0 then some f
    else if 0 ≤ scale then
      if maxPower < scale.toNat then none
      else
        let product := f.mul (Binary64.ofNat (Nat.pow 10 scale.toNat))
        if product.isFinite then some product else none
    else if (-scale).toNat ≤ maxPower then some (f.div (Binary64.ofNat (Nat.pow 10 (-scale).toNat)))
    else scaleBy (f.div (Binary64.ofNat (Nat.pow 10 maxPower))) (scale + maxPower) steps

/-- The value of `digits * 10 ^ scale`. -/
def ofDecimal? (negative : Bool) (digits : Nat) (scale : Int) : Option Binary64 :=
  (scaleBy (Binary64.ofNat digits) scale 4).map fun x => Binary64.ofMagnitude negative x.magnitude

end PageAudit.Json
