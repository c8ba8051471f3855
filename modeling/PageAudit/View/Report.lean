import PageAudit.View.Basic
/-!
The report on the screen. Above is the list of findings, which scrolls just far enough to show
the selected one, and below are the details of that one. A result without a page shows its error
alone.
-/
namespace PageAudit

open Screen

/-- The position once the list has been drawn in a number of rows. -/
def Session.Choice.settled (count rows : Nat) (c : Choice) : Choice :=
  if rows = 0 then c
  else if count = 0 then {}
  else
    let selected := c.selected.map (min · (count - 1))
    let offset := min c.offset (count - 1)
    let index := selected.getD offset
    let offset :=
      if min count (offset + rows) ≤ index then index + 1 - rows
      else if index < offset then index
      else offset
    ⟨selected, offset⟩

namespace View

def categoryTag : Category → String × Color
  | .security => ("[SEC] ", .red)
  | .performance => ("[PERF] ", .yellow)
  | .seo => ("[SEO] ", .cyan)
  | .accessibility => ("[A11Y] ", .magenta)

/-- A finding as the list shows it. -/
def findingLine (c : Category) (f : Finding) : Line :=
  let (tag, color) := categoryTag c
  Line.colored .darkGray tag ++ Line.colored color f.name

/-- What is done to the row of the selected finding. -/
def selectedStyle : Style := { back := some .darkGray, bold := true }

/-- Draws the findings in view, the first of them with index `i`. -/
def drawFindings (canvas : Canvas) (a : Area) (selected : Option Nat) (i : Nat) :
    List (Category × Finding) → Canvas
  | [] => canvas
  | (c, f) :: rest =>
    let row := { a with height := 1 }
    let canvas := canvas.write row (findingLine c f)
    let canvas := if selected = some i then canvas.paint row selectedStyle else canvas
    drawFindings canvas { a with y := a.y + 1 } selected (i + 1) rest

/-- Steps with their numbers, from `n` on. -/
def stepLines (n : Nat) : List String → List Line
  | [] => []
  | step :: rest => Line.plain (toString n ++ ". " ++ step) :: stepLines (n + 1) rest

def detailLines (c : Category) (f : Finding) : List Line :=
  [Line.empty, Line.bold (c.display ++ " · " ++ f.name), Line.empty,
    Line.boldColored .yellow "WHAT WAS FOUND:", Line.plain f.description, Line.empty,
    Line.boldColored .yellow "HOW TO FIX:"] ++ stepLines 1 f.fixSteps

/-- What stands for the details when no finding is selected. -/
def noDetailLines (s : Session) : List Line :=
  if s.summary.total = 0 then
    [Line.empty, Line.boldColored .green "✓ NO ISSUES FOUND", Line.empty,
      Line.plain "Every security, performance, SEO and accessibility check passed."]
  else [Line.plain "Select an item above to see details."]

def details (s : Session) : Paragraph :=
  match s.selectedFinding? with
  | some (c, f) => { lines := detailLines c f, wraps := true }
  | none => { lines := noDetailLines s, centered := true }

def errorParagraph (error : String) : Paragraph where
  lines := [Line.empty, Line.boldColored .red "✗ AUDIT FAILED", Line.empty, Line.plain error]
  centered := true
  wraps := true

/-- The rows of the list, and of the details below it. -/
def reportBounds (height : Nat) : List Nat := [0, Area.nearest (height * 40) 100, height]

def drawResult (canvas : Canvas) (a : Area) (s : Session) : Canvas × Session :=
  match s.result.bind (·.error) with
  | some error => (canvas.paragraph a (errorParagraph error), s)
  | none =>
    let parts := a.rowsAt (reportBounds a.height)
    let list := Regions.part parts 0
    let rows := if list.isEmpty then 0 else list.height
    let s := { s with choice := s.choice.settled s.findings.length rows }
    let canvas := drawFindings canvas list s.choice.selected s.choice.offset
      ((s.findings.drop s.choice.offset).take rows)
    let below := Regions.part parts 1
    ((canvas.rule below "Details").paragraph below.belowTop (details s), s)

/-- What is shown while there is no result. -/
def waitingLine (s : Session) : Except DrawError Line :=
  match s.phase with
  | .scanning => match Session.wheel[s.wheelAt]? with
    | some picture =>
      .ok (Line.colored .cyan (picture ++ " ") ++ Line.plain "Auditing... Please wait.")
    | none => .error (.wheel s.wheelAt)
  | _ => .ok (Line.plain "Audit results will appear here...")

/-- Draws the report; also the session with its list as it is shown. -/
def drawReport (canvas : Canvas) (a : Area) (s : Session) : Except DrawError (Canvas × Session) := do
  let canvas := canvas.border a "Audit Report (Navigate with ↑ ↓)" {}
  if s.phase = .finished then return drawResult canvas a.inside s
  else
    let line ← waitingLine s
    return (canvas.paragraph a.inside { lines := [line], centered := true }, s)

end View

end PageAudit
