import PageAudit.Screen.Panel
import PageAudit.Session.Basic
/-!
The regions of the screen. The input is on top and the footer in the last row; between them are
the report, the summary and, if it is open, the log, side by side. A drawing fails if a part of
it asks for something that is not there.
-/
namespace PageAudit.View

open Screen

/-- Why a screen could not be drawn. -/
inductive DrawError where
  /-- There is no such picture of the wheel. -/
  | wheel (index : Nat)
  /-- There is no such row. -/
  | row (index : Nat)
  /-- A gauge cannot show so much. -/
  | gauge (percent : Nat)
deriving DecidableEq, Repr

structure Regions where
  input : Area
  report : Area
  summary : Area
  log : Area
  footer : Area
deriving DecidableEq, Repr, Inhabited

namespace Regions

/-- The shares of the report, the summary and, when it is shown, the log. -/
def shares (showsLog : Bool) : List Nat := if showsLog then [45, 20, 35] else [70, 30]

/-- One of the parts of a split area. -/
def part (parts : List Area) (i : Nat) : Area := parts.getD i ⟨0, 0, 0, 0⟩

def ofScreen (screen : Area) (showsLog : Bool) : Regions :=
  let rows := screen.rowsOfExtents [.cells 3, .rest, .cells 1]
  let columns := (part rows 1).columnsOfShares (shares showsLog)
  { input := part rows 0
    report := part columns 0
    summary := part columns 1
    log := part columns 2
    footer := part rows 2 }

end Regions

end PageAudit.View
