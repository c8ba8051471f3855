import PageAudit.Screen.Bar
import PageAudit.View.Basic
/-!
The log on the screen. The newest lines are shown above a scroll bar, and the time that a line
begins with is dimmed.
-/
namespace PageAudit.View

open Screen

/-- A line of the log with its time dimmed. -/
def logLine (line : String) : Line :=
  let time := line.toList.takeWhile (· ≠ ' ')
  match time.head?, line.toList.dropWhile (· ≠ ' ') with
  | some c, _ :: rest =>
    if c.isDigit then
      Line.colored .darkGray (String.ofList time) ++ Line.plain " " ++ Line.plain (String.ofList rest)
    else Line.plain line
  | _, _ => Line.plain line

/-- The columns that are scrolled away, as a screen counts them. -/
def scrolledColumns (p : Session.LogPanel) : Nat := (UInt16.ofNat p.scroll).toNat

/-- The area of the scroll bar, at the bottom of what is inside the border. -/
def scrollBarArea (a : Area) : Area :=
  let inside := a.inside
  { inside with y := inside.y + (inside.height - 1), height := 1 }

/-- The lines that fit above the scroll bar. -/
def linesInView (a : Area) (p : Session.LogPanel) : List String :=
  Text.lastOf (a.inside.height - 1) p.lines

/-- The length of the longest line. -/
def contentLength (p : Session.LogPanel) : Nat := (p.lines.map (·.length)).foldl max 0

def drawLog (canvas : Canvas) (a : Area) (p : Session.LogPanel) : Canvas :=
  let canvas := canvas.border a "Logs (scroll with ← →)" {}
  let canvas := canvas.paragraph a.inside
    { lines := (linesInView a p).map logLine, scroll := scrolledColumns p }
  canvas.scrollBar (scrollBarArea a) (contentLength p) p.scroll

end PageAudit.View
