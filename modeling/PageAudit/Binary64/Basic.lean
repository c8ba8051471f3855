/-!
Binary64 values by their bits. The value of a finite magnitude is a whole number
times a power of two (`significand`, `exponent`), and all arithmetic on it elsewhere
is exact arithmetic on these two. Order is the order of the signed magnitudes
(`key`), in which the two zeros are equal and a NaN is comparable with nothing.
-/
namespace PageAudit

/-- An IEEE 754 binary64 value: a sign bit, eleven exponent bits and 52 fraction bits. -/
structure Binary64 where
  bits : UInt64
deriving DecidableEq, Repr, Inhabited

namespace Binary64

/-- The bit of the sign. -/
def signBit : Nat := 0x8000000000000000

/-- The number of fractions, above which the bits of the exponent begin. -/
def fractions : Nat := 0x10000000000000

/-- The bits below the sign. -/
def magnitude (x : Binary64) : Nat := x.bits.toNat % signBit

def isNegative (x : Binary64) : Bool := signBit ≤ x.bits.toNat

/-- The magnitude of an infinity: every exponent bit set and no fraction. -/
def infiniteMagnitude : Nat := 0x7FF * fractions

def isNan (x : Binary64) : Bool := infiniteMagnitude < x.magnitude

def isFinite (x : Binary64) : Bool := x.magnitude < infiniteMagnitude

/-- The value with the given sign and magnitude bits. -/
def ofMagnitude (negative : Bool) (magnitude : Nat) : Binary64 :=
  ⟨UInt64.ofNat ((if negative then signBit else 0) + magnitude % signBit)⟩

def zero : Binary64 := ⟨0⟩

def infinity (negative : Bool) : Binary64 := ofMagnitude negative infiniteMagnitude

def nan : Binary64 := ofMagnitude false (infiniteMagnitude + fractions / 2)

/-- Whole number that a finite magnitude multiplies its power of two by. -/
def significand (x : Binary64) : Nat :=
  let fraction := x.magnitude % fractions
  if x.magnitude < fractions then fraction else fractions + fraction

/-- Binary exponent of a finite magnitude, above the least exponent -1074. -/
def raisedExponent (x : Binary64) : Nat := x.magnitude / fractions - 1

/-- A finite magnitude is `significand * 2 ^ exponent`. -/
def exponent (x : Binary64) : Int := x.raisedExponent - 1074

/-- Signed magnitude, by which values that are no NaN are ordered. -/
def key (x : Binary64) : Int := if x.isNegative then -(x.magnitude : Int) else x.magnitude

/-- The order of the values; false when a NaN takes part. -/
def lt (x y : Binary64) : Bool := !x.isNan && !y.isNan && x.key < y.key

/-- `num / den` for a finite magnitude, as exact whole numbers. -/
def ratio (x : Binary64) : Nat × Nat :=
  if 0 ≤ x.exponent then (x.significand * Nat.pow 2 x.exponent.toNat, 1)
  else (x.significand, Nat.pow 2 (-x.exponent).toNat)

end Binary64

end PageAudit
