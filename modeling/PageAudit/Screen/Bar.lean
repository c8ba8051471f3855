import PageAudit.Binary64.Rounding
import PageAudit.Screen.Canvas
/-!
Bars. A gauge is filled up to the column nearest to its share of the width; the cell in the
middle of it, where a label would stand, has the colours the other way round. A scroll bar has
an arrow at each end, and between them a thumb whose place and length say which part of the
content is in view.
-/
namespace PageAudit.Screen

/-- The most that a gauge shows. -/
def fullGauge : Nat := 100

/-- The columns of a gauge that are filled. The share is a binary64 value, as is its product with
the width, and the product is taken to the nearest whole number, a half upwards. -/
def filledColumns (width percent : Nat) : Nat :=
  let share := Binary64.div (.ofNat percent) (.ofNat fullGauge)
  let (num, den) := (Binary64.mul (.ofNat width) share).ratio
  Area.nearest num den

/-- What lies between the arrows of a scroll bar. -/
structure Track where
  before : Nat
  thumb : Nat
  after : Nat
deriving DecidableEq, Repr, Inhabited

/-- The track for a position in a content of which `view` columns are in view. -/
def Track.ofPosition (length view content position : Nat) : Track :=
  let last := content - 1
  let first := min position last
  let start := min (Area.nearest (first * length) (last + view)) (length - 1)
  let stop := min (max (Area.nearest ((first + view) * length) (last + view)) (start + 1)) length
  ⟨start, stop - start, length - stop⟩

def Track.symbols (t : Track) : List String :=
  ["◄"] ++ List.replicate t.before "═" ++ List.replicate t.thumb "■" ++
    List.replicate t.after "═" ++ ["►"]

namespace Canvas

/-- Draws a gauge, unless the percentage is more than it can show. -/
def gauge? (c : Canvas) (a : Area) (percent : Nat) (color : Color) : Option Canvas :=
  if fullGauge < percent then none
  else if a.isEmpty then some c
  else
    let c := c.paint a { front := some color }
    let label := (a.x + a.width / 2, a.y + a.height / 2)
    let filled := { a with width := filledColumns a.width percent }
    some (filled.cells.foldl (fun c (x, y) =>
      if (x, y) = label then
        c.modify x y (Cell.put " " { front := some .usual, back := some color })
      else c.modify x y (Cell.put "█" { front := some color, back := some .usual })) c)

/-- Writes one symbol in each cell from `x` on. -/
def writeSymbols (c : Canvas) (x y : Nat) : List String → Canvas
  | [] => c
  | symbol :: rest => (c.modify x y (Cell.put symbol {})).writeSymbols (x + 1) y rest

/-- Draws a scroll bar in the first row of an area, if there is content and room for a track. -/
def scrollBar (c : Canvas) (a : Area) (content position : Nat) : Canvas :=
  if content = 0 || a.width ≤ 2 then c
  else c.writeSymbols a.x a.y (Track.ofPosition (a.width - 2) a.width content position).symbols

end Canvas

end PageAudit.Screen
