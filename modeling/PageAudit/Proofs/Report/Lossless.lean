import PageAudit.Proofs.Report.Reading
/-!
Text reports lose nothing of what they present. `ofText_text`: reading the report of a result gives
back its address, its status, its error, its scores and its findings, if each text of the result is
a single line. The results of audits are such results, up to the two addresses, since no rule puts
a line feed into a finding.

`text_lossless` draws the consequences: results with the same report agree in all of this, and the
findings that a report shows are the ones that a session lists.
-/
namespace PageAudit

open Text

/-- A result whose texts have no line feed. -/
structure AuditResult.SingleLine (r : AuditResult) : Prop where
  url : Text.SingleLine r.url
  finalUrl : ∀ u ∈ r.finalUrl, Text.SingleLine u
  error : ∀ e ∈ r.error, Text.SingleLine e
  findings : ∀ c, ∀ f ∈ (r.category c).findings, f.SingleLine

/-- The result of a page has a line feed in its addresses only. -/
theorem AuditResult.singleLine_evaluate {url : String} {page : Page} (hurl : Text.SingleLine url)
    (hfinal : Text.SingleLine page.finalUrl) (scanTime : ZonedTime) :
    (evaluate url page scanTime).SingleLine where
  url := hurl
  finalUrl := fun _ hu => Option.some.inj hu ▸ hfinal
  error := fun _ he => nomatch he
  findings := fun _ _ => Rule.finding_singleLine

namespace Report

/-! ### The lines of a report -/

theorem singleLine_fieldLines {fields : List (String × Option String)}
    (h : ∀ f ∈ fields, SingleLine f.1 ∧ ∀ s ∈ f.2, SingleLine s) :
    ∀ line ∈ fieldLines fields, SingleLine line := by
  intro line hline
  obtain ⟨f, hf, hline⟩ := List.mem_flatMap.mp hline
  obtain ⟨s, hs, rfl⟩ := Option.map_eq_some_iff.mp (Option.mem_toList.mp hline)
  exact (h f hf).1.append ((h f hf).2 s hs)

theorem singleLine_stepLines (n : Nat) {steps : List String} (h : ∀ step ∈ steps, SingleLine step) :
    ∀ line ∈ stepLines n steps, SingleLine line := by
  induction steps generalizing n with
  | nil => exact List.forall_mem_nil _
  | cons step rest ih =>
    obtain ⟨hstep, hrest⟩ := List.forall_mem_cons.mp h
    refine List.forall_mem_cons.mpr ⟨?_, ih (n + 1) hrest⟩
    exact ((SingleLine.append (.ofList rfl) (singleLine_toString n)).append (.ofList rfl)).append hstep

theorem singleLine_findingLines {f : Finding} (h : f.SingleLine) :
    ∀ line ∈ findingLines f, SingleLine line := by
  refine List.forall_mem_append.mpr ⟨?_, singleLine_stepLines 1 h.fixSteps⟩
  simp only [List.forall_mem_cons]
  exact ⟨.ofList rfl, h.name, h.description, .ofList rfl, List.forall_mem_nil _⟩

theorem singleLine_headingLines (c : Category) : ∀ line ∈ headingLines c, SingleLine line := by
  have hheading : SingleLine (heading c) := by cases c <;> decide
  simp only [headingLines, List.forall_mem_cons]
  refine ⟨.ofList rfl, hheading, ?_, List.forall_mem_nil _⟩
  rw [underline, SingleLine, String.toList_ofList]
  exact fun h => absurd (List.eq_of_mem_replicate h) (by decide)

theorem singleLine_categoryLines {r : AuditResult} (hr : r.SingleLine) (c : Category) :
    ∀ line ∈ categoryLines r c, SingleLine line := by
  rw [categoryLines_eq]
  split
  · exact List.forall_mem_nil _
  · refine List.forall_mem_append.mpr ⟨singleLine_headingLines c, fun line hline => ?_⟩
    obtain ⟨f, hf, hline⟩ := List.mem_flatMap.mp hline
    exact singleLine_findingLines (hr.findings c f hf) line hline

theorem singleLine_fields {r : AuditResult} (hr : r.SingleLine) :
    ∀ f ∈ fields r, SingleLine f.1 ∧ ∀ s ∈ f.2, SingleLine s := by
  simp only [fields, List.forall_mem_cons]
  refine ⟨⟨.ofList rfl, ?url⟩, ⟨.ofList rfl, ?date⟩, ⟨.ofList rfl, ?finalUrl⟩, ⟨.ofList rfl, ?status⟩,
    ⟨.ofList rfl, ?loadTime⟩, ⟨.ofList rfl, hr.error⟩, List.forall_mem_nil _⟩
  case url => exact fun s hs => Option.some.inj hs ▸ hr.url
  case date => exact fun s hs => Option.some.inj hs ▸ singleLine_display r.scanTime.clock
  case finalUrl => exact fun s hs => hr.finalUrl s (Option.filter_eq_some_iff.mp hs).1
  case status =>
    intro s hs
    obtain ⟨n, -, rfl⟩ := Option.map_eq_some_iff.mp hs
    exact singleLine_toString n.toNat
  case loadTime =>
    intro s hs
    obtain ⟨t, -, rfl⟩ := Option.map_eq_some_iff.mp hs
    exact (singleLine_fixed2 t).append (.ofList rfl)

theorem singleLine_scoreFields (r : AuditResult) :
    ∀ f ∈ scoreFields r, SingleLine f.1 ∧ ∀ s ∈ f.2, SingleLine s := by
  refine List.forall_mem_map.mpr fun c _ => ⟨?_, fun s hs => ?_⟩
  · exact (by decide : ∀ c ∈ Category.all, SingleLine (c.display ++ ": ")) c (by cases c <;> decide)
  · rw [← Option.some.inj hs]
    exact (singleLine_toString _).append (.ofList rfl)

theorem singleLine_textLines {r : AuditResult} (hr : r.SingleLine) :
    ∀ line ∈ textLines r, SingleLine line := by
  have hcategories : ∀ line ∈ Category.all.flatMap (categoryLines r), SingleLine line := fun line hline => by
    obtain ⟨c, -, hline⟩ := List.mem_flatMap.mp hline
    exact singleLine_categoryLines hr c line hline
  simp only [textLines_eq, List.forall_mem_append, List.forall_mem_cons]
  exact ⟨⟨.ofList rfl, .ofList rfl, .ofList rfl, List.forall_mem_nil _⟩,
    singleLine_fieldLines (singleLine_fields hr), .ofList rfl, .ofList rfl, .ofList rfl,
    singleLine_fieldLines (singleLine_scoreFields r), hcategories⟩

/-! ### Reading back -/

/-- A report tells all that there is to be read of its result. -/
theorem ofText_text {r : AuditResult} (hr : r.SingleLine) : Reading.ofText (text r) = .ofResult r := by
  have hlines : splitAll (· == '\n') (text r).toList = (textLines r).map String.toList ++ [[]] := by
    rw [text, toList_foldl_lines]
    exact splitAll_joined (singleLine_textLines hr)
  have hstrings : ((textLines r).map String.toList).map String.ofList = textLines r := by
    rw [List.map_map]
    exact List.map_id'' (fun line => String.ofList_toList) _
  rw [Reading.ofText, hlines, List.dropLast_concat, hstrings, ofLines_textLines]

/-- The findings of a category, among those of all categories. -/
theorem filterMap_allFindings (r : AuditResult) (c : Category) :
    r.allFindings.filterMap (fun x => if x.1 = c then some x.2 else none) = (r.category c).findings := by
  cases c <;> simp [AuditResult.allFindings, Category.all, List.filterMap_append, List.filterMap_map]

/-- Results with the same reading agree in all that a report presents. -/
theorem agree_of_ofResult {r r' : AuditResult} (h : Reading.ofResult r = .ofResult r') :
    r.url = r'.url ∧ r.status = r'.status ∧ r.error = r'.error ∧ ∀ c,
      (r.category c).score = (r'.category c).score ∧ (r.category c).findings = (r'.category c).findings := by
  have hstatus : r.status.map (·.toNat) = r'.status.map (·.toNat) := congrArg Reading.status h
  have hfindings : r.allFindings = r'.allFindings := congrArg Reading.findings h
  refine ⟨Option.some.inj (congrArg Reading.url h), ?_, congrArg Reading.error h, fun c => ⟨?_, ?_⟩⟩
  · exact Option.map_injective (fun _ _ => UInt16.toNat_inj.mp) hstatus
  · exact UInt8.toNat_inj.mp (Option.some.inj (congrFun (congrArg Reading.score h) c))
  · rw [← filterMap_allFindings, hfindings, filterMap_allFindings]

/-- **Text reports are lossless.** Results whose texts are single lines have the same report only if
they have the same address, status, error, scores and findings. The findings that can be read from
a report are, in their order, those that a session lists for the result. And the findings of an
audited page are single lines whatever the page, so that all of this holds of every page, as long
as its two addresses are single lines. -/
theorem text_lossless :
    (∀ r r' : AuditResult, r.SingleLine → r'.SingleLine → text r = text r' →
      r.url = r'.url ∧ r.status = r'.status ∧ r.error = r'.error ∧ ∀ c,
        (r.category c).score = (r'.category c).score ∧
          (r.category c).findings = (r'.category c).findings) ∧
    (∀ (r : AuditResult) (s : Session), r.SingleLine →
      (Reading.ofText (text r)).findings = (s.finish r).findings) ∧
    (∀ (url : String) (page : Page) (scanTime : ZonedTime),
      (∀ c, ∀ f ∈ ((AuditResult.evaluate url page scanTime).category c).findings, f.SingleLine) ∧
      (SingleLine url → SingleLine page.finalUrl →
        (AuditResult.evaluate url page scanTime).SingleLine)) := by
  refine ⟨fun r r' hr hr' h => ?_, fun r s hr => ?_, fun url page scanTime => ⟨?_, ?_⟩⟩
  · exact agree_of_ofResult (by rw [← ofText_text hr, h, ofText_text hr'])
  · rw [ofText_text hr]
    rfl
  · exact fun _ _ => Rule.finding_singleLine
  · exact fun hurl hfinal => AuditResult.singleLine_evaluate hurl hfinal scanTime

/-- A finding that looks like the layout, and an address that was not redirected. -/
theorem text_lossless_layout :
    let finding : Finding := ⟨"SEO Findings", "------------", ["", "Steps to Fix:", "  1. "]⟩
    let r : AuditResult := { AuditResult.failed "a" default "e" with seo := ⟨90, [finding, finding]⟩ }
    let r' : AuditResult := { r with finalUrl := some "a" }
    r ≠ r' ∧ text r = text r' ∧ (r.category .seo).findings = (r'.category .seo).findings := by
  intro finding r r'
  have hfinding : finding.SingleLine := ⟨by decide, by decide, by decide⟩
  have hfindings : ∀ c, ∀ f ∈ (r.category c).findings, f.SingleLine := fun c f hf => by
    cases c with
    | seo =>
      obtain rfl : f = finding := by simpa [r, AuditResult.category] using hf
      exact hfinding
    | security | performance | accessibility => exact nomatch hf
  have hr : r.SingleLine := ⟨by decide, nofun, fun e he => Option.some.inj he ▸ by decide, hfindings⟩
  have hr' : r'.SingleLine := ⟨by decide, fun u hu => Option.some.inj hu ▸ by decide, hr.error, hfindings⟩
  exact ⟨by decide, rfl, ((text_lossless.1 r r' hr hr' rfl).2.2.2 .seo).2⟩

end Report

end PageAudit
