import PageAudit.Decimal.Fixed
import PageAudit.Instant.Text
import PageAudit.Screen.Bar
import PageAudit.View.Basic
/-!
The summary on the screen: the overall score with its rating, a label and a gauge for each
category, and what is known of the page.
-/
namespace PageAudit.View

open Screen

/-- What a score is called, and its colour. -/
def rating (score : Nat) : String × Color :=
  if 90 ≤ score && score ≤ 100 then ("Excellent", .green)
  else if 75 ≤ score && score < 90 then ("Good", .cyan)
  else if 50 ≤ score && score < 75 then ("Needs Improvement", .yellow)
  else ("Poor", .red)

/-- The parts of the summary from top to bottom: the overall score, an empty row, two rows for
each category, an empty row, and the rest. -/
def summaryParts (categories : Nat) : List Area.Extent :=
  [.cells 3, .cells 1] ++ List.replicate (2 * categories) (.cells 1) ++ [.cells 1, .rest]

def overallLines (score : Nat) : List Line :=
  let (name, color) := rating score
  [Line.bold "Overall Score", Line.colored color (toString score ++ "/100 (" ++ name ++ ")")]

def scoreLine (c : Category) (score : Nat) : Line :=
  Line.plain (c.display ++ " ") ++ Line.colored (rating score).2 (toString score ++ "/100")

/-- What is known of the page, line by line. -/
def pageLines (s : Session) : List Line :=
  [Line.plain "Findings: " ++ Line.colored .yellow (toString s.summary.total)] ++
  match s.result with
  | none => []
  | some r =>
    [Line.plain ("Scanned: " ++ r.scanTime.display)] ++
    (r.status.map fun n => Line.plain ("HTTP status: " ++ toString n.toNat)).toList ++
    (r.loadTime.map fun t => Line.plain ("Load time: " ++ Decimal.fixed2 t ++ "s")).toList ++
    (r.finalUrl.map fun u => Line.plain ("Final URL: " ++ u)).toList

/-- One of the rows that the summary is split into. -/
def summaryRow (rows : List Area) (i : Nat) : Except DrawError Area :=
  match rows[i]? with
  | some a => .ok a
  | none => .error (.row i)

/-- Draws the scores of categories, the first of them with index `i`. -/
def drawScores (canvas : Canvas) (rows : List Area) (i : Nat) :
    List (Category × UInt8) → Except DrawError Canvas
  | [] => .ok canvas
  | (c, score) :: rest => do
    let label ← summaryRow rows (2 + 2 * i)
    let bar ← summaryRow rows (3 + 2 * i)
    let canvas := canvas.paragraph label { lines := [scoreLine c score.toNat] }
    match canvas.gauge? bar score.toNat (rating score.toNat).2 with
    | some canvas => drawScores canvas rows (i + 1) rest
    | none => .error (.gauge score.toNat)

def drawSummary (canvas : Canvas) (a : Area) (s : Session) : Except DrawError Canvas := do
  let canvas := canvas.border a "Summary" {}
  if s.phase = .finished then
    let rows := a.withoutEdge.rowsOfExtents (summaryParts s.summary.scores.length)
    let canvas := canvas.paragraph (← summaryRow rows 0)
      { lines := overallLines s.summary.overall, centered := true }
    let canvas ← drawScores canvas rows 0 s.summary.scores
    let below ← summaryRow rows (rows.length - 1)
    return (canvas.heading below (Line.bold "DETAILS")).paragraph below.belowTop
      { lines := pageLines s }
  else return canvas

end PageAudit.View
