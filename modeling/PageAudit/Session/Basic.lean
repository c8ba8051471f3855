import PageAudit.Audit.Result
import PageAudit.Session.LogPanel
/-!
Sessions at the terminal. A session is idle while an address is typed, then it scans, and when
the audit has finished it shows the result. The list of findings and the summary are made once,
when the result arrives, and go when the session is reset; the notice and the log panel stay as
they are.
-/
namespace PageAudit

namespace Session

inductive Phase where
  | idle
  | scanning
  | finished
deriving DecidableEq, Repr, Inhabited

/-- What became of the last attempt to save the report. -/
inductive SaveStatus where
  | untried
  | saved (path : String)
  | failed (message : String)
deriving DecidableEq, Repr, Inhabited

/-- What is shown of a result beside its findings. -/
structure Summary where
  overall : Nat := 0
  scores : List (Category × UInt8) := []
  total : Nat := 0
deriving DecidableEq, Repr, Inhabited

/-- The position in a list: the selected entry, and the first entry that is in view. -/
structure Choice where
  selected : Option Nat := none
  offset : Nat := 0
deriving DecidableEq, Repr, Inhabited

/-- The pictures of the wheel that turns while an audit is under way. -/
def wheel : List String := ["⠋", "⠙", "⠹", "⠸", "⠼", "⠴", "⠦", "⠧", "⠇", "⠏"]

end Session

structure Session where
  closed : Bool := false
  phase : Session.Phase := .idle
  /-- What has been typed. -/
  input : String := ""
  result : Option AuditResult := none
  summary : Session.Summary := {}
  findings : List (Category × Finding) := []
  choice : Session.Choice := {}
  saved : Session.SaveStatus := .untried
  noticeShown : Bool := true
  /-- The picture of the wheel. -/
  wheelAt : Nat := 0
  log : Session.LogPanel := {}
deriving DecidableEq, Repr, Inhabited

namespace Session

/-- A session as it begins. -/
def start : Session := {}

def close (s : Session) : Session := { s with closed := true }

def dismissNotice (s : Session) : Session := { s with noticeShown := false }

/-- Turns the wheel while an audit is under way, and keeps an open panel up to date. -/
def tick (file : LogPanel.File) (s : Session) : Session :=
  let s := match s.phase with
    | .scanning => { s with wheelAt := (s.wheelAt + 1) % wheel.length }
    | _ => s
  if s.log.shown then { s with log := s.log.refresh file } else s

def startScan (s : Session) : Session :=
  { s with phase := .scanning, wheelAt := 0, saved := .untried }

/-- What is shown of a result of which `total` findings are listed. -/
def Summary.ofResult (r : AuditResult) (total : Nat) : Summary where
  overall := r.overallScore
  scores := Category.all.map fun c => (c, (r.category c).score)
  total := total

def updateSummary (s : Session) : Session :=
  match s.result with
  | some r => { s with summary := .ofResult r s.findings.length }
  | none => s

/-- The position in a list that has just been made. -/
def Choice.first (count : Nat) : Choice := if count = 0 then {} else { selected := some 0 }

/-- Shows a result. -/
def finish (r : AuditResult) (s : Session) : Session :=
  updateSummary { s with
    phase := .finished
    result := some r
    findings := r.allFindings
    choice := .first r.allFindings.length }

/-- Makes room for another audit. -/
def reset (s : Session) : Session :=
  { closed := s.closed, noticeShown := s.noticeShown, log := s.log }

def selectedFinding? (s : Session) : Option (Category × Finding) :=
  s.choice.selected.bind fun i => s.findings[i]?

/-- Selects an entry of the list, if the list has entries. -/
def select (i : Nat) (s : Session) : Session :=
  if s.findings.isEmpty then s else { s with choice := { s.choice with selected := some i } }

def selectPrevious (s : Session) : Session := s.select (s.choice.selected.getD 0 - 1)

def selectNext (s : Session) : Session :=
  s.select (match s.choice.selected with
    | some i => min (i + 1) (s.findings.length - 1)
    | none => 0)

/-! ### Typing -/

def insert (c : Char) (s : Session) : Session := { s with input := s.input.push c }

/-- Takes the last character back. -/
def erase (s : Session) : Session := { s with input := String.ofList s.input.toList.dropLast }

end Session

end PageAudit
