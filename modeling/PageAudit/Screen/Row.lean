import PageAudit.Screen.Glyph
/-!
Rows of glyphs. A line that is cut gives one row, from which a number of columns may be
scrolled away on the left. A line that is wrapped gives as many rows as it takes: rows break in
gaps, the blanks of a gap that is broken go as far as they fit the row, and a word that is
wider than a row is broken where the row ends.
-/
namespace PageAudit.Screen

abbrev Row := List Glyph

namespace Row

/-- The glyphs that fit in what is left of a row of a width after `used` columns, when `skip`
more columns are scrolled away. -/
def cut (width used skip : Nat) : List Glyph → Row
  | [] => []
  | g :: rest =>
    if width < g.width then cut width used skip rest
    else if width < used + g.width then []
    else if 0 < skip && g.width ≤ skip then cut width used (skip - g.width) rest
    else g :: cut width (used + g.width) 0 rest

end Row

/-- The state of wrapping: the rows that are complete, the last of them first, and the row, the
gap and the word that are being read. -/
structure Wrapping where
  complete : List Row := []
  row : Row := []
  gap : List Glyph := []
  word : List Glyph := []
  /-- Whether the last glyph belongs to a word. -/
  inWord : Bool := false
deriving DecidableEq, Repr, Inhabited

namespace Wrapping

/-- Moves the word into the row; the gap before it goes too unless the row begins there. -/
def join (w : Wrapping) : Wrapping :=
  { w with row := if w.row.isEmpty then w.word else w.row ++ w.gap ++ w.word, gap := [], word := [] }

def put (w : Wrapping) (g : Glyph) : Wrapping :=
  if g.isGap then { w with gap := w.gap ++ [g], inWord := false }
  else { w with word := w.word ++ [g], inWord := true }

/-- What is left of a gap whose first columns belong to the row before it. -/
def dropGap (columns : Nat) : List Glyph → List Glyph
  | [] => []
  | g :: rest => if columns < g.width then g :: rest else dropGap (columns - g.width) rest

/-- Completes the row. -/
def breakRow (width : Nat) (w : Wrapping) : Wrapping :=
  { w with
    complete := w.row :: w.complete
    row := []
    gap := dropGap (width - widthOf w.row) w.gap }

/-- Reads a glyph. -/
def step (width : Nat) (w : Wrapping) (g : Glyph) : Wrapping :=
  if width < g.width then w
  else
    let isFull (glyphs : List Glyph) : Bool := w.row.isEmpty && width < widthOf glyphs + g.width
    let w := if (w.inWord && g.isGap) || isFull w.word || isFull w.gap then w.join else w
    if width ≤ widthOf w.row ||
        (0 < g.width && width ≤ widthOf w.row + widthOf w.gap + widthOf w.word) then
      let w := w.breakRow width
      if g.isGap && w.gap.isEmpty then w else w.put g
    else w.put g

/-- The rows of a line that has been read. -/
def rows (w : Wrapping) : List Row :=
  let before := if w.row.isEmpty && w.word.isEmpty && !w.gap.isEmpty then [] :: w.complete
    else w.complete
  let last := w.join.row
  match if last.isEmpty then before else last :: before with
  | [] => [[]]
  | rows => rows.reverse

end Wrapping

/-- The rows that a line is wrapped into. -/
def wrap (width : Nat) (glyphs : List Glyph) : List Row :=
  (glyphs.foldl (Wrapping.step width) {}).rows

end PageAudit.Screen
