import PageAudit.Proofs.Html.PlainText
import PageAudit.Proofs.Rule.Labels
import PageAudit.Proofs.Rule.SearchEngine
/-!
Audits of plain text. A page without a less-than sign has a document of three elements, so no rule finds an
element that it looks for (`Bare`). What is reported then follows from the document alone, save for the
colours that the text speaks of and the time that the page took (`plain_text_evaluated`).
-/
namespace PageAudit
open Html Rule Text

/-! ### Rules and a bare document -/

/-- The elements that rules look for. -/
def soughtTags : List String := ["title", "meta", "h1", "img", "form", "a", "button", "script", "link"]

/-- A document without any element that rules look for. -/
def Bare (d : Document) : Prop := ∀ tag ∈ soughtTags, d.findAll tag = []

theorem bare_plain (content : Option String) : Bare ⟨plainRoot content⟩ := by
  have table : ∀ tag ∈ soughtTags, tag.toLower ∉ ["html", "head", "body"] := by decide +kernel
  exact fun tag htag => Document.findAll_plain content (table tag htag)

namespace Bare

variable {d : Document} {s : Subject} {tag : String}

theorem count (h : Bare d) (htag : tag ∈ soughtTags) : d.count tag = 0 := by
  rw [Document.count, h tag htag]
  rfl

theorem name_ne (h : Bare d) (htag : tag ∈ soughtTags) (hlower : tag.toLower = tag) :
    ∀ n ∈ d.elements, n.name ≠ tag := by
  have hnone := h tag htag
  rw [Document.findAll_eq hlower, List.filter_eq_nil_iff] at hnone
  simpa using hnone

theorem muteImages (h : Bare d) : muteImages d = 0 := by
  rw [← imagesMissingAlt_eq, Document.imagesMissingAlt, h "img" (by decide)]
  rfl

/-- Search engines miss a title, a description and a heading. -/
theorem seo (h : Bare d) :
    Seo.due d = [Seo.wantedTitle.missing, Seo.wantedDescription.missing] ++ Seo.headingDue 0 := by
  have htitle : Seo.title? d = none := by rw [Seo.title?, h "title" (by decide)]; rfl
  have hdescription : Seo.description? d = none := by
    rw [Seo.description?, Document.findFirst, h "meta" (by decide)]
    rfl
  have hheading : d.elements.countP (·.name = "h1") = 0 := by
    rw [List.countP_eq_zero]
    exact fun n hn => by simpa using h.name_ne (by decide) (by decide +kernel) n hn
  rw [Seo.due, htitle, hdescription, hheading, h.muteImages, chargeIf_neg (Nat.lt_irrefl 0), List.append_nil]
  rfl

theorem unreachable (h : Bare d) : Accessibility.Unreachable d := fun n hn =>
  ⟨h.name_ne (by decide) (by decide +kernel) n hn, h.name_ne (by decide) (by decide +kernel) n hn⟩

theorem unlabelledForms (h : Bare d) : Accessibility.unlabelledForms d = 0 := by
  rw [Accessibility.unlabelledForms, List.countP_eq_zero]
  intro n hn howes
  exact h.name_ne (by decide) (by decide +kernel) n hn (of_decide_eq_true howes).1

/-- There is nothing to reach with the keyboard, and only colours can be a matter besides. -/
theorem accessibility (h : Bare d) (body : String) : Accessibility.due d body =
    chargeIf (Accessibility.Colored body) Accessibility.colorCharge ++ [Accessibility.keyboardCharge] := by
  rw [Accessibility.due, h.muteImages, h.unlabelledForms, chargeIf_neg (Nat.lt_irrefl 0),
    chargeIf_pos h.unreachable]
  rfl

theorem performance (h : Bare s.document) :
    penaltiesIn Performance.rules s = Performance.loadTime.penalties s := by
  have himages : Performance.oversizedImages s.document = 0 := by
    rw [Performance.oversizedImages, h "img" (by decide)]
    rfl
  have hscripts : s.document.count "script" = 0 := h.count (by decide)
  have hstylesheets : Performance.stylesheets s.document = 0 := by
    rw [Performance.stylesheets, Document.findAllWithToken, h "link" (by decide)]
    rfl
  simp only [penaltiesIn, Performance.rules, List.flatMap_cons, List.flatMap_nil, Performance.imagesFit,
    Performance.fewScripts, Performance.fewStylesheets, himages, hscripts, hstylesheets, Nat.zero_le,
    if_true, List.append_nil]

end Bare

/-! ### Results -/

/-- A result with some score and findings of some names, in order. -/
structure Reported (r : CategoryResult) (score : UInt8) (names : List String) : Prop where
  score : r.score = score
  names : r.findings.map (·.name) = names

theorem reported_of_penalties {rules : List Rule} {s : Subject} {penalties : List Penalty}
    (h : penaltiesIn rules s = penalties) :
    Reported (scoreRules rules s) (UInt8.ofNat (scoreAfter penalties)) (penalties.map (·.finding.name)) := by
  subst h
  exact ⟨rfl, List.map_map⟩

theorem scoreRules_eq_of_penalties {rules rules' : List Rule} {s : Subject}
    (h : penaltiesIn rules s = penaltiesIn rules' s) : scoreRules rules s = scoreRules rules' s :=
  congrArg (fun penalties : List Penalty =>
    CategoryResult.mk (UInt8.ofNat (scoreAfter penalties)) (penalties.map Penalty.finding)) h

/-- The time that a page takes gives one finding at the most. -/
theorem names_loadTime (s : Subject) : (scoreRules [Performance.loadTime] s).findings.map (·.name) ∈
    [[], ["Slow Page Load Time"], ["Moderate Page Load Time"]] := by
  rw [scoreRules_findings, penaltiesIn, List.flatMap_singleton, Performance.loadTime]
  dsimp only
  split
  · rw [List.map_singleton, List.map_singleton, Finding.ofCode, Finding.name_about (Knowledge.mem_of_find? rfl)]
    decide
  · split
    · rw [List.map_singleton, List.map_singleton, Finding.ofCode, Finding.name_about (Knowledge.mem_of_find? rfl)]
      decide
    · decide

/-- **Plain text is audited as an empty page.** Whatever a body without a less-than sign holds, its document
has a root, a head and a body and no other element. Then search engines find no title, no description and no
heading; the only finding on accessibility, besides colours that the text speaks of, is that there is nothing
to reach with the keyboard; and the only one on performance is on the time that the page took, if any. -/
theorem plain_text_evaluated (url : String) (page : Page) (scanTime : ZonedTime) (h : '<' ∉ page.body.toList) :
    let r := AuditResult.evaluate url page scanTime
    (Document.parse page.body).elements.map (·.name) = ["html", "head", "body"] ∧
    Reported r.seo 50 ["Missing Title Tag", "Missing Meta Description", "Missing H1 Tag"] ∧
    ("color: #".toList <:+: Text.Case.lower page.body.toList →
      Reported r.accessibility 85 ["Color Contrast Check Needed", "Keyboard Navigation Issues"]) ∧
    (¬ "color: #".toList <:+: Text.Case.lower page.body.toList →
      Reported r.accessibility 90 ["Keyboard Navigation Issues"]) ∧
    r.performance = scoreRules [Performance.loadTime] (Subject.ofPage url page) ∧
    r.performance.findings.map (·.name) ∈ [[], ["Slow Page Load Time"], ["Moderate Page Load Time"]] := by
  intro r
  obtain ⟨content, hparse⟩ := Document.parse_plain h
  have hbare : Bare (Subject.ofPage url page).document := by
    show Bare (Document.parse page.body)
    rw [hparse]
    exact bare_plain content
  have hcolored : Accessibility.Colored page.body ↔ "color: #".toList <:+: Case.lower page.body.toList := by
    obtain ⟨hsteady, hsmall⟩ := decisivePatterns_steady "color: #" (by decide)
    rw [Accessibility.colored_iff, ← occursIn_lower_iff hsteady hsmall, occursIn_iff]
  have hpenalties := (Accessibility.penaltiesIn_rules url page).trans (hbare.accessibility page.body)
  have htime : r.performance = scoreRules [Performance.loadTime] (Subject.ofPage url page) :=
    scoreRules_eq_of_penalties (hbare.performance.trans (List.append_nil _).symm)
  refine ⟨?elements, reported_of_penalties ((Seo.penaltiesIn_rules _).trans hbare.seo), fun hcolor => ?colored, fun hcolor => ?colorless, htime,
    ?names⟩
  case elements =>
    rw [hparse, Document.elements_plain]
    rfl
  case colored =>
    rw [chargeIf_pos (hcolored.mpr hcolor)] at hpenalties
    exact reported_of_penalties hpenalties
  case colorless =>
    rw [chargeIf_neg fun h => hcolor (hcolored.mp h)] at hpenalties
    exact reported_of_penalties hpenalties
  case names =>
    show r.performance.findings.map (·.name) ∈ _
    rw [htime]
    exact names_loadTime _

/-- A text that looks like markup only once its references are read, with a byte order mark, a null character
and a colour. -/
theorem plain_text_evaluated_escaped :
    let page : Page := ⟨"https://a/", 200, [], "\uFEFF \x00&lt;h1 style='COLOR: #fff'&gt;&#60;img>&amp", ⟨0⟩⟩
    let r := AuditResult.evaluate "https://a" page ⟨⟨⟨2025, 3, 14⟩, 9, 26, 53, 0⟩, 0⟩
    '<' ∉ page.body.toList ∧
      Reported r.seo 50 ["Missing Title Tag", "Missing Meta Description", "Missing H1 Tag"] ∧
      Reported r.accessibility 85 ["Color Contrast Check Needed", "Keyboard Navigation Issues"] := by
  intro page r
  have hplain : '<' ∉ page.body.toList := by decide +kernel
  obtain ⟨-, hseo, hcolored, -⟩ := plain_text_evaluated "https://a" page ⟨⟨⟨2025, 3, 14⟩, 9, 26, 53, 0⟩, 0⟩ hplain
  have hcolor : occursIn "color: #".toList (Case.lower page.body.toList) = true := by decide +kernel
  exact ⟨hplain, hseo, hcolored ((occursIn_iff ..).mp hcolor)⟩

end PageAudit
