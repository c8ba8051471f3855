import PageAudit.Report.Folder
import PageAudit.Session.Basic
/-!
What can be done to a session. A session works with the files of one folder: the log, and the
folder of reports, which saving alone changes.
-/
namespace PageAudit.Session

/-- The files that a session works with. -/
structure Store where
  /-- The path of the folder that holds the files. -/
  path : String
  log : LogPanel.File := none
  reports : Report.Folder := .absent
deriving DecidableEq, Repr, Inhabited

/-- The path of the folder of reports. -/
def Store.reportsPath (st : Store) : String := st.path ++ "/reports"

/-- A session and its files. -/
structure Desk where
  session : Session := {}
  store : Store
deriving DecidableEq, Repr, Inhabited

namespace Desk

/-- Changes the session and leaves the files alone. -/
def update (d : Desk) (f : Session → Session) : Desk := { d with session := f d.session }

/-- Saves the report of the result, if there is one. -/
def save (format : Report.Format) (d : Desk) : Desk :=
  match d.session.result with
  | none => d
  | some r =>
    let (reports, outcome) := d.store.reports.save d.store.reportsPath r format
    let status := match outcome with
      | .ok path => .saved path
      | .error e => .failed e.message
    { session := { d.session with saved := status }, store := { d.store with reports := reports } }

end Desk

inductive Action where
  | tick
  | startScan
  | finish (r : AuditResult)
  | updateSummary
  | selectPrevious
  | selectNext
  | scrollLeft
  | scrollRight
  | toggleLog
  | save (format : Report.Format)
  | dismissNotice
  | close
  | reset
deriving DecidableEq, Repr

/-- Changes the log panel. -/
def onLog (f : LogPanel → LogPanel) (s : Session) : Session := { s with log := f s.log }

def Desk.act (d : Desk) : Action → Desk
  | .tick => d.update (Session.tick d.store.log)
  | .startScan => d.update Session.startScan
  | .finish r => d.update (Session.finish r)
  | .updateSummary => d.update Session.updateSummary
  | .selectPrevious => d.update Session.selectPrevious
  | .selectNext => d.update Session.selectNext
  | .scrollLeft => d.update (onLog LogPanel.scrollLeft)
  | .scrollRight => d.update (onLog LogPanel.scrollRight)
  | .toggleLog => d.update (onLog (LogPanel.toggle d.store.log))
  | .save format => d.save format
  | .dismissNotice => d.update Session.dismissNotice
  | .close => d.update Session.close
  | .reset => d.update Session.reset

end PageAudit.Session
