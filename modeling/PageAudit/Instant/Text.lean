import PageAudit.Instant.Basic
/-!
Written times, as the clocks of their zone show them. Years from 0 to 9999 have four digits;
others carry their sign, and at least four digits after it. `exact` keeps a fraction of three,
six or nine digits when it is not zero, and the offset, to the nearest minute only; `display`
and `stamp` stop at the second and leave the offset out.
-/
namespace PageAudit

/-- A natural number in at least `width` digits. -/
def padded (width n : Nat) : String :=
  let digits := toString n
  String.ofList (List.replicate (width - digits.length) '0') ++ digits

namespace Instant

def yearText (year : Int) : String :=
  if 0 ≤ year && year ≤ 9999 then padded 4 year.toNat
  else (if year < 0 then "-" else "+") ++ padded 4 year.natAbs

/-- The fraction of a second, in the least of three, six and nine digits that is exact. -/
def fractionText (nano : Nat) : String :=
  if nano = 0 then ""
  else if nano % 1000000 = 0 then "." ++ padded 3 (nano / 1000000)
  else if nano % 1000 = 0 then "." ++ padded 6 (nano / 1000)
  else "." ++ padded 9 nano

/-- Day and time in full. -/
def full (t : Instant) : String :=
  yearText t.date.year ++ "-" ++ padded 2 t.date.month ++ "-" ++ padded 2 t.date.day ++ "T" ++
    padded 2 t.hour ++ ":" ++ padded 2 t.minute ++ ":" ++ padded 2 t.second ++
    fractionText t.nano

/-- Day and time as reports show them. -/
def display (t : Instant) : String :=
  yearText t.date.year ++ "-" ++ padded 2 t.date.month ++ "-" ++ padded 2 t.date.day ++ " " ++
    padded 2 t.hour ++ ":" ++ padded 2 t.minute ++ ":" ++ padded 2 t.second

/-- Day and time as file names carry them. -/
def stamp (t : Instant) : String :=
  yearText t.date.year ++ padded 2 t.date.month ++ padded 2 t.date.day ++ "-" ++
    padded 2 t.hour ++ padded 2 t.minute ++ padded 2 t.second

end Instant

/-- The minutes of an offset without its sign; half a minute counts as a whole one. -/
def roundedMinutes (offset : Int) : Nat := (offset.natAbs + 30) / 60

/-- An offset in hours and minutes. -/
def offsetText (offset : Int) : String :=
  if offset = 0 then "Z"
  else (if offset < 0 then "-" else "+") ++ padded 2 (roundedMinutes offset / 60) ++ ":" ++
    padded 2 (roundedMinutes offset % 60)

namespace ZonedTime

/-- The time in full. -/
def exact (t : ZonedTime) : String := t.clock.full ++ offsetText t.offset

/-- The time as reports show it. -/
def display (t : ZonedTime) : String := t.clock.display

/-- The time as file names carry it. -/
def stamp (t : ZonedTime) : String := t.clock.stamp

end ZonedTime

end PageAudit
