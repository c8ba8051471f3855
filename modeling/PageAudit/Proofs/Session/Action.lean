import PageAudit.Session.Action
/-!
What each action changes. An action that keeps most of a session as it is has a lemma here that names
the fields it can touch, so that whatever does not depend on these fields is left alone by it; the
other actions are updates of a record as they stand.
-/
namespace PageAudit.Session

/-- The clock turns the wheel, which goes on showing a picture, and keeps the log panel up to date. -/
theorem tick_eq (file : LogPanel.File) (s : Session) :
    ∃ w p, s.tick file = { s with wheelAt := w, log := p } ∧
      (s.wheelAt < wheel.length → w < wheel.length) := by
  have turned : (s.wheelAt + 1) % wheel.length < wheel.length := Nat.mod_lt _ (by decide)
  obtain ⟨closed, phase, input, result, summary, findings, choice, saved, noticeShown, wheelAt, log⟩ := s
  cases phase <;> unfold tick <;> dsimp only <;> split
  case scanning.isTrue | scanning.isFalse => exact ⟨_, _, rfl, fun _ => turned⟩
  all_goals exact ⟨_, _, rfl, id⟩

theorem updateSummary_eq (s : Session) : ∃ v, s.updateSummary = { s with summary := v } := by
  unfold updateSummary
  split
  · exact ⟨_, rfl⟩
  · exact ⟨s.summary, rfl⟩

/-- Selecting moves in the list of findings. -/
theorem select_eq (i : Nat) (s : Session) : ∃ c, s.select i = { s with choice := c } := by
  unfold select
  split
  · exact ⟨s.choice, rfl⟩
  · exact ⟨_, rfl⟩

theorem selectPrevious_eq (s : Session) : ∃ c, s.selectPrevious = { s with choice := c } := select_eq ..

theorem selectNext_eq (s : Session) : ∃ c, s.selectNext = { s with choice := c } := select_eq ..

/-- What a session is told of an attempt to save a report. -/
def SaveStatus.ofOutcome : Except Report.SaveError String → SaveStatus
  | .ok path => .saved path
  | .error e => .failed e.message

/-- Saving a result changes the folder of reports, and of the session only the word of it. -/
theorem Desk.save_some {d : Desk} {r : AuditResult} (hr : d.session.result = some r) (format : Report.Format) :
    d.save format =
      let saving := d.store.reports.save d.store.reportsPath r format
      { session := { d.session with saved := .ofOutcome saving.2 }
        store := { d.store with reports := saving.1 } } := by
  unfold Desk.save
  rw [hr]
  rfl

/-- Without a result there is nothing to save. -/
theorem Desk.save_none {d : Desk} (hr : d.session.result = none) (format : Report.Format) :
    d.save format = d := by
  unfold Desk.save
  rw [hr]

theorem Desk.save_session (d : Desk) (format : Report.Format) :
    ∃ status, (d.save format).session = { d.session with saved := status } := by
  cases hr : d.session.result with
  | none =>
    rw [save_none hr]
    exact ⟨d.session.saved, rfl⟩
  | some r =>
    rw [save_some hr]
    exact ⟨_, rfl⟩

end PageAudit.Session
