import PageAudit.Screen.Row
/-!
Panels: borders, headings and paragraphs. A border runs along the edge of its area, and in an
area of one row or one column it consists of what fits there. A title is cut where the area
ends. An empty area stays as it is.
-/
namespace PageAudit.Screen

/-- The symbol of a border in a cell of its area. -/
def edge? (a : Area) (x y : Nat) : Option String :=
  let isLeft := x = a.x
  let isRight := x + 1 = a.right
  let isTop := y = a.y
  let isBottom := y + 1 = a.bottom
  if isLeft && isTop then some "┌"
  else if isLeft && isBottom then some "└"
  else if isRight && isTop then some "┐"
  else if isRight && isBottom then some "┘"
  else if isTop || isBottom then some "─"
  else if isLeft || isRight then some "│"
  else none

/-- Lines of text, from the first row of their area on. -/
structure Paragraph where
  lines : List Line
  centered : Bool := false
  /-- Whether lines are wrapped; if not, they are cut. -/
  wraps : Bool := false
  /-- The columns that are scrolled away from lines that are cut. -/
  scroll : Nat := 0
deriving DecidableEq, Repr, Inhabited

/-- The rows that a paragraph takes in a width. -/
def Paragraph.rows (p : Paragraph) (width : Nat) : List Row :=
  if p.wraps then p.lines.flatMap fun l => wrap width l.glyphs
  else p.lines.map fun l => Row.cut width 0 p.scroll l.glyphs

/-- The columns before a row. -/
def Paragraph.indent (p : Paragraph) (width : Nat) (r : Row) : Nat :=
  if p.centered then width / 2 - widthOf r / 2 else 0

namespace Canvas

/-- Draws a border with a title in its first row. -/
def border (c : Canvas) (a : Area) (title : String) (s : Style) : Canvas :=
  if a.isEmpty then c
  else
    let c := a.cells.foldl (fun c (x, y) => match edge? a x y with
      | some symbol => c.modify x y (Cell.put symbol s)
      | none => c) c
    c.write ⟨a.x + 1, a.y, a.width - 2, 1⟩ (Line.plain title)

/-- Writes a title in the first row. -/
def heading (c : Canvas) (a : Area) (title : Line) : Canvas :=
  if a.isEmpty then c else c.write { a with height := 1 } title

/-- Draws a line along the first row, with a title on it. -/
def rule (c : Canvas) (a : Area) (title : String) : Canvas :=
  if a.isEmpty then c
  else (c.fill { a with height := 1 } (Cell.put "─" {})).heading a (Line.plain title)

/-- Writes a row from `x` on. -/
def writeRow (c : Canvas) (x y : Nat) : Row → Canvas
  | [] => c
  | g :: rest =>
    if g.width = 0 then c.writeRow x y rest
    else (c.modify x y (Cell.put g.symbol g.style)).writeRow (x + g.width) y rest

/-- Writes rows below each other. -/
def writeRows (c : Canvas) (x y : Nat) (indent : Row → Nat) : List Row → Canvas
  | [] => c
  | r :: rest => (c.writeRow (x + indent r) y r).writeRows x (y + 1) indent rest

def paragraph (c : Canvas) (a : Area) (p : Paragraph) : Canvas :=
  if a.isEmpty then c
  else c.writeRows a.x a.y (p.indent a.width) ((p.rows a.width).take a.height)

end Canvas

end PageAudit.Screen
