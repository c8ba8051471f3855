import PageAudit.Screen.Canvas
import PageAudit.Text.Blank
import PageAudit.Text.Width
/-!
Styled text. A line is a list of pieces, each in one style, and is drawn glyph by glyph. A
cluster of characters is one glyph, and clusters with a control character in them are not
drawn. `Canvas.write` puts a line into one row from the left; it stops at the first glyph that
does not fit, and a glyph without a width joins the cell before it.
-/
namespace PageAudit.Screen

/-- Text in one style. -/
structure Piece where
  text : String
  style : Style := {}
deriving DecidableEq, Repr, Inhabited

abbrev Line := List Piece

namespace Line

def plain (text : String) : Line := [⟨text, {}⟩]

def bold (text : String) : Line := [⟨text, { bold := true }⟩]

def colored (color : Color) (text : String) : Line := [⟨text, { front := some color }⟩]

def boldColored (color : Color) (text : String) : Line :=
  [⟨text, { front := some color, bold := true }⟩]

def empty : Line := []

end Line

structure Glyph where
  symbol : String
  width : Nat
  style : Style
  /-- Whether a row may be broken here. -/
  isGap : Bool
deriving DecidableEq, Repr, Inhabited

/-- The control characters. -/
def isControl (c : Char) : Bool := c.toNat < 32 || (127 ≤ c.toNat && c.toNat < 160)

/-- Blank clusters, of which one with a no-break space is none, and the blank without a width. -/
def isGap (cluster : List Char) : Bool :=
  cluster = ['\u200B'] || (cluster.all Text.isBlank && cluster != ['\u00A0'])

def Piece.glyphs (p : Piece) : List Glyph :=
  ((Text.clusters p.text.toList).filter fun cluster => !cluster.any isControl).map fun cluster =>
    ⟨String.ofList cluster, Text.clusterWidth cluster, p.style, isGap cluster⟩

def Line.glyphs (l : Line) : List Glyph := l.flatMap Piece.glyphs

/-- The columns of glyphs. -/
def widthOf (glyphs : List Glyph) : Nat := glyphs.foldr (fun g n => g.width + n) 0

namespace Canvas

/-- Writes the glyphs of a piece from `x` on in the columns before `right`; `start` is where the
piece begins, and the column after the last glyph is the other result. -/
def writeGlyphs (c : Canvas) (start x y right : Nat) (isFirst : Bool) : List Glyph → Canvas
  | [] => c
  | g :: rest =>
    if right < x + g.width then c
    else
      let c :=
        if isFirst then c.modify x y (Cell.put g.symbol g.style)
        else if x = start then c.modify x y (Cell.append g.symbol g.style)
        else if g.width = 0 then c.modify (x - 1) y (Cell.append g.symbol g.style)
        else c.modify x y (Cell.put g.symbol g.style)
      let c := c.clear ⟨x + 1, y, g.width - 1, 1⟩
      c.writeGlyphs start (x + g.width) y right false rest

/-- Writes a line in the first row of an area. -/
def write (c : Canvas) (a : Area) : Line → Canvas
  | [] => c
  | p :: rest =>
    if a.isEmpty then c
    else
      let glyphs := p.glyphs
      let width := min (widthOf glyphs) a.width
      (c.writeGlyphs a.x a.x a.y a.right true glyphs).write
        { a with x := a.x + width, width := a.width - width } rest

end Canvas

end PageAudit.Screen
