import PageAudit.Screen.Area
/-!
Canvases: grids of cells, each with a symbol, two colours and a weight. A canvas keeps its size
whatever is drawn on it: it has no cell outside of its grid, and drops what is written there.

A terminal does not, but stops the program. So drawing has to keep to the grid by itself, as all
of it does that is for an area of the screen; only the scroll bar of the log takes a row beside
its area, and on a screen of less than two rows there is none.
-/
namespace PageAudit.Screen

inductive Color where
  /-- The terminal's own. -/
  | usual
  | red
  | green
  | yellow
  | magenta
  | cyan
  | darkGray
deriving DecidableEq, Repr, Inhabited

/-- What a cell is given beside a symbol; what is absent stays as it is. -/
structure Style where
  front : Option Color := none
  back : Option Color := none
  bold : Bool := false
deriving DecidableEq, Repr, Inhabited

structure Cell where
  symbol : String := " "
  front : Color := .usual
  back : Color := .usual
  bold : Bool := false
deriving DecidableEq, Repr, Inhabited

namespace Cell

def blank : Cell := {}

def styled (c : Cell) (s : Style) : Cell :=
  { c with front := s.front.getD c.front, back := s.back.getD c.back, bold := c.bold || s.bold }

/-- The cell with another symbol. -/
def put (symbol : String) (s : Style) (c : Cell) : Cell := { c with symbol := symbol }.styled s

/-- The cell with more on top of its symbol. -/
def append (symbol : String) (s : Style) (c : Cell) : Cell :=
  { c with symbol := c.symbol ++ symbol }.styled s

end Cell

structure Canvas where
  width : Nat
  height : Nat
  /-- The cells row by row. -/
  grid : Array Cell
deriving DecidableEq, Repr, Inhabited

namespace Canvas

def blank (width height : Nat) : Canvas := ⟨width, height, Array.replicate (width * height) .blank⟩

def get? (c : Canvas) (x y : Nat) : Option Cell :=
  if x < c.width && y < c.height then c.grid[y * c.width + x]? else none

/-- Changes one cell, if the grid has it. -/
def modify (c : Canvas) (x y : Nat) (f : Cell → Cell) : Canvas :=
  if x < c.width && y < c.height then { c with grid := c.grid.modify (y * c.width + x) f } else c

/-- Changes the cells of an area. -/
def fill (c : Canvas) (a : Area) (f : Cell → Cell) : Canvas :=
  a.cells.foldl (fun c (x, y) => c.modify x y f) c

def paint (c : Canvas) (a : Area) (s : Style) : Canvas := c.fill a (·.styled s)

def clear (c : Canvas) (a : Area) : Canvas := c.fill a fun _ => .blank

/-- The rows of a canvas. -/
def rows (c : Canvas) : List (List Cell) :=
  (List.range c.height).map fun y => (List.range c.width).filterMap fun x => c.get? x y

/-- The rows as text. -/
def lines (c : Canvas) : List String :=
  c.rows.map fun row => String.join (row.map (·.symbol))

end Canvas

end PageAudit.Screen
