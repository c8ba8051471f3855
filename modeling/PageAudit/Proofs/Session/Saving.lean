import PageAudit.Proofs.Report.FileName
import PageAudit.Proofs.Session.Action
/-!
Saving the report of a session. `report_saved` says that an attempt is all or nothing, and that it touches
nothing else: the session is told what became of it, and of the files at most the one of the report is
another afterwards, with the whole report in it. A report that has been saved can be saved again without a
change, and the reports in the two formats do not get in each other's way.

All of it follows from what a save does to the entries of the folder (`lookup_save`), since the session
keeps the result and the path of the folder.
-/
namespace PageAudit

open Report

/-! ### Folders before and after -/

namespace Report.Folder

/-- Two folders in which every name stands for the same. -/
def Alike (f g : Folder) : Prop := ∀ name, f.entry? name = g.entry? name

/-- A folder in which one name stands for a file with some contents, and every other for the same as before. -/
structure Wrote (before after : Folder) (name contents : String) : Prop where
  written : after.entry? name = some (.file contents)
  others : ∀ other, other ≠ name → after.entry? other = before.entry? other

variable {f : Folder} {path : String} {r : AuditResult} {format : Format}

theorem wrote_save (h : f.Admits (fileName r format)) (path : String) :
    Wrote f (f.save path r format).1 (fileName r format) (contents r format) where
  written := by simp [lookup_save, h]
  others n hn := by simp [lookup_save, hn]

theorem alike_save (h : ¬ f.Admits (fileName r format)) (path : String) :
    Alike (f.save path r format).1 f := by
  intro n
  simp [lookup_save, h]

/-- Reports in the two formats can be saved in either order. -/
theorem save_comm (f : Folder) (path : String) (r : AuditResult) :
    Alike ((f.save path r .text).1.save path r .json).1 ((f.save path r .json).1.save path r .text).1 := by
  intro n
  have hne : fileName r .text ≠ fileName r .json := fileName_ne r r
  simp only [lookup_save, admits_save]
  by_cases htext : n = fileName r .text
  · simp [htext, hne]
  · simp [htext]

end Report.Folder

namespace Session

variable {d : Desk} {r : AuditResult} {format : Format}

/-! ### One attempt -/

/-- The path that a report of a result is saved under. -/
def Desk.target (d : Desk) (r : AuditResult) (format : Format) : String :=
  d.store.reportsPath ++ "/" ++ fileName r format

/-- The folder of reports after an attempt to save one. -/
def Desk.reportsAfter (d : Desk) (r : AuditResult) (format : Format) : Folder :=
  (d.store.reports.save d.store.reportsPath r format).1

/-- What an attempt to save the report of a result does. -/
structure Attempted (r : AuditResult) (format : Format) (before after : Desk) : Prop where
  session : ∃ status, after.session = { before.session with saved := status }
  store : after.store = { before.store with reports := before.reportsAfter r format }
  /-- The session is told of a success exactly if the folder admits the name. -/
  told : after.session.saved =
    if before.store.reports.Admits (fileName r format) then .saved (before.target r format)
    else .failed (before.store.reports.refusal before.store.reportsPath (fileName r format)).message

theorem attempted_act (hr : d.session.result = some r) (format : Format) :
    Attempted r format d (d.act (.save format)) := by
  show Attempted r format d (d.save format)
  rw [Desk.save_some hr]
  refine ⟨⟨_, rfl⟩, rfl, ?_⟩
  show SaveStatus.ofOutcome (d.store.reports.save d.store.reportsPath r format).2 = _
  by_cases h : d.store.reports.Admits (fileName r format)
  · rw [if_pos h, Folder.save_of_admits h]
    rfl
  · rw [if_neg h, (Folder.save_of_not_admits h d.store.reportsPath).2.2]
    rfl

namespace Attempted

variable {after : Desk}

/-- A report that a session takes for saved is there, and all else is as before. -/
theorem saved (h : Attempted r format d after) {path : String} (hpath : after.session.saved = .saved path) :
    path = d.target r format ∧
      Folder.Wrote d.store.reports after.store.reports (fileName r format) (contents r format) := by
  rw [h.told] at hpath
  split at hpath
  · next hadmits =>
    refine ⟨(SaveStatus.saved.inj hpath).symm, ?_⟩
    rw [h.store]
    exact Folder.wrote_save hadmits _
  · cases hpath

/-- After a failure every name stands for what it stood for. -/
theorem failed (h : Attempted r format d after) {message : String}
    (hmessage : after.session.saved = .failed message) : Folder.Alike d.store.reports after.store.reports := by
  rw [h.told] at hmessage
  split at hmessage
  · cases hmessage
  · next hadmits =>
    rw [h.store]
    exact fun name => (Folder.alike_save hadmits _ name).symm

/-- The result stays for the next attempt. -/
theorem result (h : Attempted r format d after) : after.session.result = d.session.result := by
  obtain ⟨status, hsession⟩ := h.session
  rw [hsession]

end Attempted

/-- Where the report is already, another attempt changes nothing and gives the same path. -/
theorem act_save_again (hr : d.session.result = some r)
    (hshort : (fileName r format).utf8ByteSize ≤ Folder.maxName)
    (hfile : d.store.reports.entry? (fileName r format) = some (.file (contents r format))) :
    (d.act (.save format)).session.saved = .saved (d.target r format) ∧
      (d.act (.save format)).store = d.store := by
  show (d.save format).session.saved = _ ∧ (d.save format).store = _
  rw [Desk.save_some hr, Folder.save_again hshort hfile]
  exact ⟨rfl, rfl⟩

/-! ### Two attempts -/

theorem reports_after_two (hr : d.session.result = some r) (first second : Format) :
    ((d.act (.save first)).act (.save second)).store.reports =
      ((d.store.reports.save d.store.reportsPath r first).1.save d.store.reportsPath r second).1 := by
  have hfirst := attempted_act hr first
  have hsecond := attempted_act (hfirst.result.trans hr) second
  rw [hsecond.store, Desk.reportsAfter, hfirst.store]
  rfl

/-- **Saving a report is all or nothing.** Without a result nothing happens. With one, of the session only
the word of the attempt changes and of the files only the folder of reports. If the word is of a saved
report, its path is that of the folder with the name of the report, the file has the whole report in it, and
every other name stands for what it did before; if it is of a failure, every name does. Where a saved report
still is, saving it again gives the same path and changes nothing; and saving it in both formats leaves the
same files in either order. -/
theorem report_saved (d : Desk) :
    (d.session.result = none → ∀ format, d.act (.save format) = d) ∧
    ∀ r, d.session.result = some r →
      (∀ format,
        let name := fileName r format
        let target := d.store.reportsPath ++ "/" ++ name
        let before := d.store.reports
        let after := d.act (.save format)
        (∃ status, after.session = { d.session with saved := status }) ∧
        after.store = { d.store with reports := after.store.reports } ∧
        after.session.saved = (if before.Admits name then .saved target
          else .failed (before.refusal d.store.reportsPath name).message) ∧
        (∀ path, after.session.saved = .saved path → path = target ∧
          Folder.Wrote before after.store.reports name
            (match format with | .text => Report.text r | .json => Report.json r)) ∧
        (∀ message, after.session.saved = .failed message → Folder.Alike before after.store.reports) ∧
        (∀ later : Desk, later.session.result = some r → later.store.path = d.store.path →
          after.session.saved = .saved target →
          later.store.reports.entry? name = after.store.reports.entry? name →
          (later.act (.save format)).session.saved = .saved target ∧
            (later.act (.save format)).store = later.store)) ∧
      let textFirst := ((d.act (.save .text)).act (.save .json)).store.reports
      let jsonFirst := ((d.act (.save .json)).act (.save .text)).store.reports
      Folder.Alike textFirst jsonFirst ∧
      (d.store.reports.Admits (fileName r .text) → d.store.reports.Admits (fileName r .json) →
        textFirst.entry? (fileName r .text) = some (.file (Report.text r)) ∧
        textFirst.entry? (fileName r .json) = some (.file (Report.json r))) := by
  refine ⟨fun hr format => Desk.save_none hr format,
    fun r hr => ⟨fun format => ?_, ?_, fun htext hjson => ?_⟩⟩
  · have hcontents : (match format with | .text => Report.text r | .json => Report.json r) =
        contents r format := by cases format <;> rfl
    have h := attempted_act hr format
    refine ⟨h.session, by rw [h.store], h.told, fun path hpath => ?_, fun message => h.failed,
      fun later hlater hpath hsaved hentry => ?_⟩
    · rw [hcontents]
      exact h.saved hpath
    · have hadmits : d.store.reports.Admits (fileName r format) := by
        by_contra hrefused
        rw [h.told, if_neg hrefused] at hsaved
        cases hsaved
      have hagain := act_save_again hlater hadmits.short (hentry.trans (h.saved hsaved).2.written)
      rwa [Desk.target, Store.reportsPath, hpath] at hagain
  · rw [reports_after_two hr, reports_after_two hr]
    exact Folder.save_comm _ _ _
  · have hne : fileName r .text ≠ fileName r .json := fileName_ne r r
    rw [reports_after_two hr]
    simp only [Folder.lookup_save, Folder.admits_save]
    constructor
    · simp [htext, hne, contents]
    · simp [hjson, contents]

/-- A folder has a note in it, and something stands in the place of the report in JSON: the report in text is
saved, and the other one is not. -/
theorem report_saved_half :
    let r := AuditResult.failed "http://[::1]/" ⟨⟨⟨2025, 3, 14⟩, 9, 26, 53, 0⟩, 0⟩ "no answer"
    let reports : Folder :=
      .holding [("note", .file "kept"), ("audit-___1_-20250314-092653.json", .blocked)]
    let d : Desk :=
      { session := { phase := .finished, result := some r }, store := { path := "data", reports := reports } }
    (d.act (.save .text)).session.saved = .saved "data/reports/audit-___1_-20250314-092653.txt" ∧
    Folder.Wrote reports (d.act (.save .text)).store.reports "audit-___1_-20250314-092653.txt" (Report.text r) ∧
    (d.act (.save .json)).session.saved =
      .failed "Could not write data/reports/audit-___1_-20250314-092653.json" ∧
    Folder.Alike reports (d.act (.save .json)).store.reports := by
  intro r reports d
  have hr : d.session.result = some r := rfl
  have hname : fileName r .text = "audit-___1_-20250314-092653.txt" := by decide +kernel
  have hsaved : (d.act (.save .text)).session.saved = .saved "data/reports/audit-___1_-20250314-092653.txt" := by
    decide +kernel
  have hfailed : (d.act (.save .json)).session.saved =
      .failed "Could not write data/reports/audit-___1_-20250314-092653.json" := by decide +kernel
  obtain ⟨-, -, -, hwrote, -⟩ := ((report_saved d).2 r hr).1 .text
  obtain ⟨-, -, -, -, halike, -⟩ := ((report_saved d).2 r hr).1 .json
  exact ⟨hsaved, hname ▸ (hwrote _ hsaved).2, hfailed, halike _ hfailed⟩

end Session

end PageAudit
