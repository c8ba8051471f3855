/-!
Instants: a day of the Gregorian calendar and a time of that day, in Coordinated
Universal Time. The second may be 60, which is how a leap second is told apart from the
second before it.

Clocks of a place are ahead of Universal Time by an offset, in seconds, that depends on the
instant and stays below a day. So `ahead` carries at most one day, and no count of days is
needed. A `ZonedTime` keeps the offset with the instant; what its clocks show may lie one
day outside the calendar.
-/
namespace PageAudit

/-- A day of the Gregorian calendar, extended to all years. -/
structure Date where
  year : Int
  month : Nat
  day : Nat
deriving DecidableEq, Repr, Inhabited

namespace Date

def isLeapYear (year : Int) : Bool := (year % 4 == 0 && year % 100 != 0) || year % 400 == 0

def daysInMonth (year : Int) (month : Nat) : Nat :=
  if month = 2 then (if isLeapYear year then 29 else 28)
  else if month = 4 || month = 6 || month = 9 || month = 11 then 30 else 31

/-- The years an instant may lie in. -/
def minYear : Int := -262143
def maxYear : Int := 262142

/-- A day that exists, in a year an instant may lie in. -/
def isValid (d : Date) : Bool :=
  minYear ≤ d.year && d.year ≤ maxYear && 1 ≤ d.month && d.month ≤ 12 && 1 ≤ d.day &&
    d.day ≤ daysInMonth d.year d.month

def next (d : Date) : Date :=
  if d.day < daysInMonth d.year d.month then ⟨d.year, d.month, d.day + 1⟩
  else if d.month < 12 then ⟨d.year, d.month + 1, 1⟩
  else ⟨d.year + 1, 1, 1⟩

def previous (d : Date) : Date :=
  if 1 < d.day then ⟨d.year, d.month, d.day - 1⟩
  else if 1 < d.month then ⟨d.year, d.month - 1, daysInMonth d.year (d.month - 1)⟩
  else ⟨d.year - 1, 12, 31⟩

end Date

/-- A moment to the nanosecond, or what a clock shows at one. -/
structure Instant where
  date : Date
  hour : Nat
  minute : Nat
  second : Nat
  nano : Nat
deriving DecidableEq, Repr, Inhabited

namespace Instant

/-- A time that a clock can show, on a day that exists. -/
def isValid (t : Instant) : Bool :=
  t.date.isValid && t.hour < 24 && t.minute < 60 && t.second ≤ 60 && t.nano < 1000000000

/-- What a clock shows that is `seconds` ahead of this one, by less than a day. A leap second
counts as the second before it and is one second later on either clock. -/
def ahead (t : Instant) (seconds : Int) : Instant :=
  let total := ((t.hour * 60 + t.minute) * 60 + min t.second 59 : Nat) + seconds
  let (date, total) :=
    if total < 0 then (t.date.previous, total + 86400)
    else if 86400 ≤ total then (t.date.next, total - 86400)
    else (t.date, total)
  { t with
    date := date
    hour := total.toNat / 3600
    minute := total.toNat / 60 % 60
    second := total.toNat % 60 + (t.second - 59) }

end Instant

/-- An instant with the offset of the clocks where it was taken. -/
structure ZonedTime where
  instant : Instant
  /-- The seconds by which the clocks are ahead of Universal Time. -/
  offset : Int
deriving DecidableEq, Repr, Inhabited

instance : Coe Instant ZonedTime := ⟨fun t => ⟨t, 0⟩⟩

/-- What the clocks show. -/
def ZonedTime.clock (t : ZonedTime) : Instant := t.instant.ahead t.offset

/-- The clocks of a place: how far they are ahead of Universal Time at each instant. -/
structure Zone where
  offset : Instant → Int
  natAbs_lt : ∀ t, (offset t).natAbs < 86400

namespace Zone

/-- Universal Time. -/
def utc : Zone := ⟨fun _ => 0, fun _ => by decide⟩

/-- An instant on the clocks of a zone. -/
def time (z : Zone) (t : Instant) : ZonedTime := ⟨t, z.offset t⟩

end Zone

end PageAudit
