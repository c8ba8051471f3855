import PageAudit.Proofs.Report.Folder
import PageAudit.Proofs.Session.UnderWay
/-!
What is left of earlier audits. `nothing_left` says that a session which is idle or scans holds
nothing of an audit, and that one which shows a result tells at most of a report of that very result.

`Fresh` is the invariant. Starting an audit, taking over its result and resetting clear different
parts of a session, so it holds by the order in which keys let them happen: an audit starts only where
everything is clear, nothing but a result can be added while it is under way, and only a session that
shows its result can save a report.
-/
namespace PageAudit

namespace Session

/-- A session that holds nothing of an audit. -/
structure Clear (s : Session) : Prop where
  result : s.result = none
  findings : s.findings = []
  summary : s.summary = {}
  choice : s.choice = {}
  saved : s.saved = .untried

/-- What a desk holds of audits is the result that is shown and what became of saving it. -/
structure Fresh (path : String) (d : Desk) : Prop where
  folder : d.store.reportsPath = path
  clear : d.session.phase ≠ .finished → Clear d.session
  saved : ∀ target, d.session.saved = .saved target →
    ∃ r format, d.session.result = some r ∧ target = path ++ "/" ++ Report.fileName r format

namespace Fresh

variable {path : String} {d d' : Desk}

/-- Whatever changes nothing that comes from an audit keeps a desk fresh. -/
theorem frame (hs : Fresh path d) (hpath : d'.store.path = d.store.path)
    (hphase : d'.session.phase = d.session.phase) (hresult : d'.session.result = d.session.result)
    (hfindings : d'.session.findings = d.session.findings)
    (hsummary : d'.session.summary = d.session.summary) (hchoice : d'.session.choice = d.session.choice)
    (hsaved : d'.session.saved = d.session.saved) : Fresh path d' := by
  refine ⟨?_, fun hp => ?_, ?_⟩
  · rw [Store.reportsPath, hpath]
    exact hs.folder
  · rw [hphase] at hp
    obtain ⟨result, findings, summary, choice, saved⟩ := hs.clear hp
    exact ⟨hresult.trans result, hfindings.trans findings, hsummary.trans summary, hchoice.trans choice,
      hsaved.trans saved⟩
  · rw [hresult, hsaved]
    exact hs.saved

/-- Where a result is shown, the list may move. -/
theorem moved (hs : Fresh path d) (hp : d.session.phase = .finished) (c : Choice) :
    Fresh path (d.update fun s => { s with choice := c }) :=
  ⟨hs.folder, fun hne => absurd hp hne, hs.saved⟩

theorem select (hs : Fresh path d) (hp : d.session.phase = .finished) (i : Nat) :
    Fresh path (d.update (Session.select i)) := by
  obtain ⟨c, hc⟩ := select_eq i d.session
  have := hs.moved hp c
  rwa [Desk.update, ← hc] at this

/-- An audit starts where everything is clear, and nothing is added by that. -/
theorem startScan (hs : Fresh path d) (hp : d.session.phase = .idle) : Fresh path (d.act .startScan) := by
  obtain ⟨result, findings, summary, choice, -⟩ := hs.clear (by rw [hp]; decide)
  exact ⟨hs.folder, fun _ => ⟨result, findings, summary, choice, rfl⟩, nofun⟩

/-- A result arrives where no report has been saved. -/
theorem finish (hs : Fresh path d) (hp : d.session.phase = .scanning) (r : AuditResult) :
    Fresh path (d.act (.finish r)) := by
  have hsaved : d.session.saved = .untried := (hs.clear (by rw [hp]; decide)).saved
  refine ⟨hs.folder, fun hne => absurd rfl hne, fun target ht => ?_⟩
  have : (d.act (.finish r)).session.saved = .untried := hsaved
  rw [this] at ht
  cases ht

theorem reset (hs : Fresh path d) : Fresh path (d.act .reset) :=
  ⟨hs.folder, fun _ => ⟨rfl, rfl, rfl, rfl, rfl⟩, nofun⟩

/-- A report that is saved is one of the result that is shown. -/
theorem save (hs : Fresh path d) (hp : d.session.phase = .finished) (format : Report.Format) :
    Fresh path (d.act (.save format)) := by
  show Fresh path (d.save format)
  cases hr : d.session.result with
  | none =>
    rw [Desk.save_none hr]
    exact hs
  | some r =>
    rw [Desk.save_some hr]
    refine ⟨hs.folder, fun hne => absurd hp hne, fun target ht => ⟨r, format, hr, ?_⟩⟩
    change SaveStatus.ofOutcome (d.store.reports.save d.store.reportsPath r format).2 = .saved target at ht
    cases houtcome : (d.store.reports.save d.store.reportsPath r format).2 with
    | error e =>
      rw [houtcome] at ht
      cases ht
    | ok written =>
      rw [houtcome] at ht
      rw [← SaveStatus.saved.inj ht, Report.Folder.path_of_save houtcome, hs.folder]

/-! ### One step at a time -/

/-- What keys do when a result is shown. -/
theorem actFinished (hs : Fresh path d) (hp : d.session.phase = .finished) {a : Action}
    (ha : a ∈ Command.finishedActions) : Fresh path (d.act a) := by
  simp only [Command.finishedActions, List.mem_cons, List.not_mem_nil, or_false] at ha
  rcases ha with rfl | rfl | rfl | rfl | rfl | rfl | rfl | rfl
  · exact hs.reset
  · exact hs.save hp .text
  · exact hs.save hp .json
  · exact hs.frame rfl rfl rfl rfl rfl rfl rfl
  · exact hs.select hp _
  · exact hs.select hp _
  · exact hs.frame rfl rfl rfl rfl rfl rfl rfl
  · exact hs.frame rfl rfl rfl rfl rfl rfl rfl

theorem handle (hs : Fresh path d) (e : Event) : Fresh path (d.handle e).1 := by
  unfold Desk.handle
  cases he : Command.ofEvent? d.session e with
  | none => exact hs
  | some c =>
    cases Command.allowed_of_ofEvent? he with
    | close | dismiss _ | insert _ _ _ | erase _ _ => exact hs.frame rfl rfl rfl rfl rfl rfl rfl
    | audit _ hp _ => exact hs.startScan hp
    | finished _ hp ha => exact hs.actFinished hp ha

theorem tick (hs : Fresh path d) : Fresh path (d.act .tick) := by
  obtain ⟨w, p, htick, -⟩ := tick_eq d.store.log d.session
  have hact : (d.act .tick).session = { d.session with wheelAt := w, log := p } := htick
  refine hs.frame rfl ?_ ?_ ?_ ?_ ?_ ?_ <;> rw [hact]

theorem draw {l l' : Loop} (hs : Fresh path l.desk) {width height : Nat} {picture : View.Picture}
    (hdraw : l.draw width height = .ok (picture, l')) : Fresh path l'.desk := by
  by_cases hp : l.desk.session.phase = .finished
  · obtain ⟨c, rfl⟩ := Loop.draw_eq hdraw
    exact hs.moved hp c
  · obtain rfl := Loop.draw_unlisted (fun hl => hp hl.1) hdraw
    exact hs

/-- Only the audit under way has a result that can arrive. -/
theorem deliver {l : Loop} {h : History} (hs : Fresh path l.desk)
    (haccounted : Accounted l.underWay l.desk.session h) (config : Config) (ended : Ended) :
    Fresh path (l.deliver config ended).desk := by
  obtain ⟨desk, underWay⟩ := l
  cases underWay with
  | nil => exact hs
  | cons target rest =>
    have hp : desk.session.phase = .scanning := by
      by_contra hp
      cases haccounted.underWay_nil hp
    exact hs.finish hp _

end Fresh

/-- In every state of a loop, in a round or between two of them, the desk is fresh. -/
theorem Loop.Reachable.fresh {config : Config} {store : Store} {p : Point} {l : Loop} {h : History}
    (hr : Reachable config store p l h) : Fresh store.reportsPath l.desk := by
  induction hr with
  | start => exact ⟨rfl, fun _ => ⟨rfl, rfl, rfl, rfl, rfl⟩, nofun⟩
  | draw _ _ hdraw ih => exact ih.draw hdraw
  | pause log _ ih => exact ih.frame rfl rfl rfl rfl rfl rfl rfl
  | @event l _ log e _ ih =>
    have hmeet : Fresh store.reportsPath (l.meet log).desk := ih.frame rfl rfl rfl rfl rfl rfl rfl
    exact hmeet.handle e
  | wait _ ih => exact ih
  | receive ended hr ih => exact ih.deliver hr.accounted config ended
  | tick _ ih => exact ih.tick

/-- **Nothing of an earlier audit is left.** A session that is idle or scans has no result, no
findings, an empty summary, no selected entry and no word of a saved report; and one that shows a
result has not tried to save it, or failed to, or names the report of that result in the folder of
reports, in one of the two formats. -/
theorem nothing_left {config : Config} {store : Store} {p : Point} {l : Loop} {h : History}
    (hr : Loop.Reachable config store p l h) :
    let s := l.desk.session
    (s.phase = .idle ∨ s.phase = .scanning → s.result = none ∧ s.findings = [] ∧ s.summary = {} ∧
      s.choice.selected = none ∧ s.selectedFinding? = none ∧ s.saved = .untried) ∧
    (s.phase = .finished → s.saved = .untried ∨ (∃ message, s.saved = .failed message) ∨
      ∃ r format, s.result = some r ∧
        s.saved = .saved (store.reportsPath ++ "/" ++ Report.fileName r format)) := by
  have hs := hr.fresh
  refine ⟨fun hp => ?_, fun _ => ?_⟩
  · have hne : l.desk.session.phase ≠ .finished := by
      rcases hp with hp | hp <;> rw [hp] <;> decide
    obtain ⟨result, findings, summary, choice, saved⟩ := hs.clear hne
    refine ⟨result, findings, summary, ?_, ?_, saved⟩
    · rw [choice]
    · rw [selectedFinding?, choice]
      rfl
  · cases hsaved : l.desk.session.saved with
    | untried => exact .inl rfl
    | failed message => exact .inr (.inl ⟨message, rfl⟩)
    | saved target =>
      obtain ⟨r, format, hresult, rfl⟩ := hs.saved target hsaved
      exact .inr (.inr ⟨r, format, hresult, rfl⟩)

/-- The report of one audit is saved, the session is reset, and the report of the next is saved in the
other format. -/
theorem nothing_left_twice : ∃ l h,
    Loop.Reachable .default { path := "data" } .handled l h ∧ h.started = ["/", "/"] ∧
      l.desk.session.phase = .finished ∧
      l.desk.session.saved = .saved "data/reports/audit-site-20250314-092653.json" ∧
      let s := l.desk.session
      (s.phase = .idle ∨ s.phase = .scanning → s.result = none ∧ s.findings = [] ∧ s.summary = {} ∧
        s.choice.selected = none ∧ s.selectedFinding? = none ∧ s.saved = .untried) ∧
      (s.phase = .finished → s.saved = .untried ∨ (∃ message, s.saved = .failed message) ∨
        ∃ r format, s.result = some r ∧
          s.saved = .saved (Store.reportsPath { path := "data" } ++ "/" ++ Report.fileName r format)) := by
  let ended : Ended := ⟨.none, ⟨⟨⟨2025, 3, 14⟩, 9, 26, 53, 0⟩, 0⟩⟩
  have begun : Loop.Reachable .default { path := "data" } .top
      { desk := { store := { path := "data" } } } {} := .start
  have acknowledged := ((begun.drawIdle rfl rfl 80 24).event none (.key .press .enter)).wait.tick
  have typed := ((acknowledged.drawIdle rfl rfl 80 24).event none (.key .press (.char '/'))).wait.tick
  have started := (typed.drawIdle rfl rfl 80 24).event none (.key .press .enter)
  have finished := (started.receive ended).tick
  have saved := ((finished.redraw (by decide +kernel) (by decide +kernel) (by decide +kernel)
    (by decide +kernel) 80 24).event none (.key .press (.char 'e'))).wait.tick
  have reset := ((saved.redraw (by decide +kernel) (by decide +kernel) (by decide +kernel)
    (by decide +kernel) 80 24).event none (.key .press (.char 'n'))).wait.tick
  have retyped := ((reset.drawIdle (by decide +kernel) (by decide +kernel) 80 24).event none
    (.key .press (.char '/'))).wait.tick
  have restarted := (retyped.drawIdle (by decide +kernel) (by decide +kernel) 80 24).event none
    (.key .press .enter)
  have refinished := (restarted.receive ended).tick
  have resaved := (refinished.redraw (by decide +kernel) (by decide +kernel) (by decide +kernel)
    (by decide +kernel) 80 24).event none (.key .press (.char 'j'))
  exact ⟨_, _, resaved, by decide +kernel, by decide +kernel, by decide +kernel, nothing_left resaved⟩

end Session

end PageAudit
