import PageAudit.View.Log
import PageAudit.View.Report
import PageAudit.View.Summary
/-!
The whole screen. The notice is drawn last, over everything else, and the cursor is shown only
where an address can be typed. Of the session, drawing changes nothing but how far the list of
findings has scrolled.
-/
namespace PageAudit.View

open Screen

structure Picture where
  canvas : Canvas
  /-- The column and the row of the cursor. -/
  cursor : Option (Nat × Nat)
deriving DecidableEq, Repr, Inhabited

/-! ### The input -/

/-- The lines of what has been typed. -/
def inputLines (input : String) : List Line := (Text.lines input).map Line.plain

def drawInput (canvas : Canvas) (a : Area) (input : String) : Canvas :=
  let canvas := canvas.paint a { front := some .yellow }
  let canvas := canvas.border a "Target URL (https:// is added when no scheme is given)" {}
  canvas.paragraph a.inside { lines := inputLines input }

/-- The column of the cursor behind a number of characters, as a screen counts columns. -/
def cursorColumn (a : Area) (typed : Nat) : Nat :=
  (UInt16.ofNat a.x + UInt16.ofNat typed + 1).toNat

def cursor? (a : Area) (s : Session) : Option (Nat × Nat) :=
  if s.phase = .idle && !s.noticeShown then some (cursorColumn a s.input.length, a.y + 1) else none

/-! ### The footer -/

def keyName (name : String) : Line := Line.boldColored .yellow name

def footerLine (s : Session) : Line :=
  match s.phase, s.saved with
  | .idle, _ => Line.plain "Press " ++ keyName "Enter" ++ Line.plain " to audit, " ++ keyName "Esc" ++
      Line.plain " to quit."
  | .scanning, _ => Line.plain "Auditing... Press Q to quit."
  | .finished, .saved path => Line.colored .green ("Report saved to " ++ path)
  | .finished, .failed message => Line.colored .red ("Export failed: " ++ message)
  | .finished, .untried => keyName "[N]" ++ Line.plain "ew Audit, " ++ keyName "[E]" ++
      Line.plain "xport Text, " ++ keyName "[J]" ++ Line.plain "SON Export, " ++ keyName "[L]" ++
      Line.plain "ogs, " ++ keyName "[Q]" ++ Line.plain "uit"

/-! ### The notice -/

def noticeLines : List Line :=
  [Line.boldColored .yellow "BEFORE YOU AUDIT", Line.empty,
    Line.plain ("Vanguard RS Audit fetches one page and checks it for security, performance, SEO " ++
      "and accessibility issues."), Line.empty,
    Line.plain ("The security checks look for exposed error messages and risky markup. Only audit " ++
      "sites you own or are explicitly authorized to test."), Line.empty,
    Line.plain ("Certificate errors are ignored so that misconfigured hosts can still be audited. " ++
      "Do not rely on this tool to validate TLS."), Line.empty,
    Line.plain "Scores are heuristics, not a substitute for a manual review.", Line.empty,
    Line.bold "Press " ++ keyName "Enter" ++ Line.bold " to Acknowledge and Continue"]

/-- The share of both sides of the screen that the notice takes. -/
def noticeShare : Nat := 70

def drawNotice (canvas : Canvas) (screen : Area) : Canvas :=
  let a := screen.middle noticeShare
  let canvas := (canvas.clear a).border a "Disclaimer" { front := some .yellow }
  canvas.paragraph a.inside { lines := noticeLines, centered := true, wraps := true }

/-! ### Everything -/

/-- Draws a screen of a size; also the session with its list as it is shown. -/
def draw (width height : Nat) (s : Session) : Except DrawError (Picture × Session) := do
  let screen := Area.ofSize width height
  let regions := Regions.ofScreen screen s.log.shown
  let canvas := drawInput (Canvas.blank width height) regions.input s.input
  let (canvas, s) ← drawReport canvas regions.report s
  let canvas ← drawSummary canvas regions.summary s
  let canvas := if s.log.shown then drawLog canvas regions.log s.log else canvas
  let canvas := canvas.paragraph regions.footer { lines := [footerLine s], centered := true }
  let canvas := if s.noticeShown then drawNotice canvas screen else canvas
  return (⟨canvas, cursor? regions.input s⟩, s)

end PageAudit.View
