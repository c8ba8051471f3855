/-!
Areas of a screen: rectangles of cells. An area is split along one side at bounds, which are
counted from its start; parts that take shares end at the nearest cell, and lengths that do not
fit together are all cut at one common length.
-/
namespace PageAudit.Screen

structure Area where
  x : Nat
  y : Nat
  width : Nat
  height : Nat
deriving DecidableEq, Repr, Inhabited

namespace Area

/-- The column after the last one. -/
def right (a : Area) : Nat := a.x + a.width

/-- The row after the last one. -/
def bottom (a : Area) : Nat := a.y + a.height

def isEmpty (a : Area) : Bool := a.width = 0 || a.height = 0

/-- The area of a whole screen. -/
def ofSize (width height : Nat) : Area := ⟨0, 0, width, height⟩

/-- The cells of an area, row by row. -/
def cells (a : Area) : List (Nat × Nat) :=
  (List.range a.height).flatMap fun dy => (List.range a.width).map fun dx => (a.x + dx, a.y + dy)

/-- What a border on all sides leaves. -/
def inside (a : Area) : Area :=
  ⟨min (a.x + 1) a.right, min (a.y + 1) a.bottom, a.width - 2, a.height - 2⟩

/-- What a heading in the first row leaves. -/
def belowTop (a : Area) : Area := ⟨a.x, min (a.y + 1) a.bottom, a.width, a.height - 1⟩

/-- The area without its outermost cells, empty if it is too small to have others. -/
def withoutEdge (a : Area) : Area :=
  if a.width < 2 || a.height < 2 then ⟨0, 0, 0, 0⟩
  else ⟨a.x + 1, a.y + 1, a.width - 2, a.height - 2⟩

/-! ### Splitting -/

/-- The rows between each bound and the next. -/
def rowsAt (a : Area) : List Nat → List Area
  | first :: second :: rest =>
    { a with y := a.y + first, height := second - first } :: a.rowsAt (second :: rest)
  | _ => []

/-- The columns between each bound and the next. -/
def columnsAt (a : Area) : List Nat → List Area
  | first :: second :: rest =>
    { a with x := a.x + first, width := second - first } :: a.columnsAt (second :: rest)
  | _ => []

/-- The whole number nearest to `num / den`, a half going up. -/
def nearest (num den : Nat) : Nat := (2 * num + den) / (2 * den)

/-- The sums of the first none, one, two, … numbers on top of `total`. -/
def sums (total : Nat) : List Nat → List Nat
  | [] => [total]
  | n :: rest => total :: sums (total + n) rest

/-- The bounds of parts that take shares, in percent. -/
def shareBounds (side : Nat) (shares : List Nat) : List Nat :=
  (sums 0 shares).map fun percent => nearest (side * percent) 100

/-- The part of a side that one part takes. -/
inductive Extent where
  | cells (n : Nat)
  /-- What the others leave. -/
  | rest
deriving DecidableEq, Repr, Inhabited

def Extent.length? : Extent → Option Nat
  | .cells n => some n
  | .rest => none

/-- The common length, as a quotient, that ascending lengths are cut at to fit a side. -/
def commonLength (side : Nat) : List Nat → Nat × Nat
  | [] => (side, 1)
  | n :: rest =>
    if n * (rest.length + 1) ≤ side then commonLength (side - n) rest else (side, rest.length + 1)

/-- The bounds of parts of which at most one takes what is left. Fractions of cells are counted
in hundredths. -/
def extentBounds (side : Nat) (parts : List Extent) : List Nat :=
  let lengths := parts.filterMap Extent.length?
  let total := lengths.foldr (· + ·) 0
  let (num, den) := if total ≤ side then (side, 1)
    else commonLength side (lengths.mergeSort (· ≤ ·))
  let sizes := parts.map fun
    | .cells n => min (n * den) num
    | .rest => (side - total) * den
  (sums 0 sizes).map fun n => nearest (nearest (100 * n) den) 100

def rowsOfExtents (a : Area) (parts : List Extent) : List Area :=
  a.rowsAt (extentBounds a.height parts)

def columnsOfShares (a : Area) (shares : List Nat) : List Area :=
  a.columnsAt (shareBounds a.width shares)

/-- The area around the middle that takes shares of both sides. -/
def middle (a : Area) (percent : Nat) : Area :=
  let shares := [(100 - percent) / 2, percent, (100 - percent) / 2]
  let rows := a.rowsAt (shareBounds a.height shares)
  ((rows[1]?).bind fun row => (row.columnsOfShares shares)[1]?).getD ⟨0, 0, 0, 0⟩

end Area

end PageAudit.Screen
