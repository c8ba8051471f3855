import PageAudit.Program
import PageAudit.Proofs.Rule.Bound
/-!
The two outcomes of an audit. `page_or_error` says that they can always be told apart: a result for a
page has no error, all that is known of the page, and never less than a quarter of the overall score,
as the performance and search engine rules cannot take everything (`OfPage`); a result without a page
has an error and nothing else (`WithoutPage`). So the error, the overall score, the status and the exit
code of a run all tell the same.
-/
namespace PageAudit

namespace AuditResult

/-- What the result for a page that was fetched is like. -/
structure OfPage (r : AuditResult) : Prop where
  performance : 60 ≤ r.performance.score.toNat ∧ r.performance.score.toNat ≤ 100
  seo : 40 ≤ r.seo.score.toNat ∧ r.seo.score.toNat ≤ 100
  security : r.security.score.toNat ≤ 100
  accessibility : r.accessibility.score.toNat ≤ 100
  overall : 25 ≤ r.overallScore
  error : r.error = none
  known : r.finalUrl.isSome = true ∧ r.status.isSome = true ∧ r.loadTime.isSome = true
  counts : r.performance.findings.length ≤ 4 ∧ r.seo.findings.length ≤ 4 ∧
    r.security.findings.length ≤ 18
  alternatives : ∀ x ∈ Rule.alternatives, ¬ (x.2.1 ∈ (r.category x.1).findings.map (·.name) ∧
    x.2.2 ∈ (r.category x.1).findings.map (·.name))

/-- What the result for a page that could not be fetched is like. -/
structure WithoutPage (r : AuditResult) : Prop where
  scores : ∀ c, (r.category c).score = 0
  findings : ∀ c, (r.category c).findings = []
  error : r.error.isSome = true
  unknown : r.finalUrl = none ∧ r.status = none ∧ r.loadTime = none

theorem overallScore_eq (r : AuditResult) :
    r.overallScore = (r.security.score.toNat + r.performance.score.toNat + r.seo.score.toNat +
      r.accessibility.score.toNat) / 4 := by
  show (_ + (_ + (_ + (_ + 0)))) / 4 = _
  rw [Nat.add_zero, ← Nat.add_assoc, ← Nat.add_assoc]
  rfl

/-- Two categories alone are worth a quarter. -/
theorem overallScore_ge {r : AuditResult} (hperformance : 60 ≤ r.performance.score.toNat)
    (hseo : 40 ≤ r.seo.score.toNat) : 25 ≤ r.overallScore := by
  rw [overallScore_eq]
  omega

theorem ofPage_evaluate (url : String) (page : Page) (scanTime : ZonedTime) :
    (evaluate url page scanTime).OfPage where
  performance := ⟨Rule.score_ge_of_bounded Rule.performance_bounded _, Rule.score_le_full ..⟩
  seo := ⟨Rule.score_ge_of_bounded Rule.seo_bounded _, Rule.score_le_full ..⟩
  security := Rule.score_le_full ..
  accessibility := Rule.score_le_full ..
  overall := overallScore_ge (Rule.score_ge_of_bounded Rule.performance_bounded _)
    (Rule.score_ge_of_bounded Rule.seo_bounded _)
  error := rfl
  known := ⟨rfl, rfl, rfl⟩
  counts := ⟨Rule.findings_le_of_bounded Rule.performance_bounded _,
    Rule.findings_le_of_bounded Rule.seo_bounded _, Rule.findings_le_of_bounded Rule.security_bounded _⟩
  alternatives x hx := by
    rw [evaluate_category]
    exact Rule.alternatives_exclusive hx _

theorem withoutPage_failed (url : String) (scanTime : ZonedTime) (error : String) :
    (failed url scanTime error).WithoutPage where
  scores c := by cases c <;> rfl
  findings c := by cases c <;> rfl
  error := rfl
  unknown := ⟨rfl, rfl, rfl⟩

/-- What the parts of a result tell of its outcome. -/
structure Told (r : AuditResult) : Prop where
  score : r.error.isSome = true ↔ r.overallScore = 0
  status : r.overallScore = 0 ↔ r.status = none

theorem OfPage.told {r : AuditResult} (h : r.OfPage) : Told r := by
  have hscore : r.overallScore ≠ 0 := Nat.ne_of_gt (Nat.lt_of_lt_of_le (by decide) h.overall)
  have hstatus : r.status ≠ none := Option.isSome_iff_ne_none.mp h.known.2.1
  refine ⟨⟨fun herror => ?_, fun h0 => absurd h0 hscore⟩,
    ⟨fun h0 => absurd h0 hscore, fun hnone => absurd hnone hstatus⟩⟩
  rw [h.error] at herror
  cases herror

theorem WithoutPage.told {r : AuditResult} (h : r.WithoutPage) : Told r := by
  have hscore : r.overallScore = 0 := by
    have scores := h.scores
    rw [overallScore_eq, show r.security.score = 0 from scores .security,
      show r.performance.score = 0 from scores .performance, show r.seo.score = 0 from scores .seo,
      show r.accessibility.score = 0 from scores .accessibility]
    rfl
  exact ⟨⟨fun _ => hscore, fun _ => h.error⟩, ⟨fun _ => h.unknown.2.1, fun _ => hscore⟩⟩

/-- An audit has one of the two outcomes. -/
theorem told_ofFetch (url : String) (scanTime : ZonedTime) (outcome : Except FetchError Page) :
    Told (ofFetch url scanTime outcome) := by
  cases outcome with
  | ok page => exact (ofPage_evaluate url page scanTime).told
  | error e => exact (withoutPage_failed url scanTime _).told

end AuditResult

/-- A run with an address prints the report of its audit, and its exit code tells whether there is an error. -/
theorem Program.run?_of_url (net : Fetch.Network) (now : ZonedTime) (lookup : String → Option String)
    {args : List String} {command : CommandLine} {target : String}
    (hargs : CommandLine.parse args = .ok command) (htarget : command.url = some target) :
    let run := audit net (Config.ofLookup lookup) now target
    ∃ printout, run? net now lookup args = some printout ∧
      printout.exitCode = (if run.result.error.isSome then 1 else 0) ∧
      printout.output = printed run.result command.json ∧ printout.requests = run.requests := by
  simp only [run?, hargs, htarget, Option.map_some]
  exact ⟨_, rfl, rfl, rfl, rfl⟩

/-- The exit code of a run with an address tells whether its audit has an error. -/
theorem Program.exitCode_eq (net : Fetch.Network) (now : ZonedTime) (lookup : String → Option String)
    {args : List String} {command : CommandLine} {target : String}
    (hargs : CommandLine.parse args = .ok command) (htarget : command.url = some target) :
    ∃ printout, run? net now lookup args = some printout ∧
      printout.exitCode =
        if (audit net (Config.ofLookup lookup) now target).result.error.isSome then 1 else 0 := by
  obtain ⟨printout, hrun, hcode, -⟩ := run?_of_url net now lookup hargs htarget
  exact ⟨printout, hrun, hcode⟩

/-- **Success and failure cannot be confused.** The result for a page has scores above the least that
its rules leave, no error, a final address, a status and a load time; the result for a fetch that
failed has four scores of zero, no findings, an error and nothing else. So for every audit the error,
an overall score of zero and the missing status go together, and a run ends with code one exactly then. -/
theorem page_or_error :
    (∀ url page scanTime, (AuditResult.evaluate url page scanTime).OfPage) ∧
    (∀ url scanTime e, (AuditResult.ofFetch url scanTime (.error e)).WithoutPage) ∧
    (∀ net config now input,
      let r := (audit net config now input).result
      r = .ofFetch (normalizeUrl input) now (Fetch.run net config (normalizeUrl input)).result ∧
      (r.error.isSome = true ↔ r.overallScore = 0) ∧ (r.overallScore = 0 ↔ r.status = none)) ∧
    (∀ net now lookup args command target,
      CommandLine.parse args = .ok command → command.url = some target →
      let r := (audit net (Config.ofLookup lookup) now target).result
      ∃ printout, Program.run? net now lookup args = some printout ∧
        (printout.exitCode = 1 ↔ r.error.isSome = true) ∧
        (printout.exitCode = 0 ↔ r.error = none)) := by
  refine ⟨AuditResult.ofPage_evaluate, fun url scanTime e => ?_, fun net config now input => ?_,
    fun net now lookup args command target hargs htarget => ?_⟩
  · exact AuditResult.withoutPage_failed url scanTime (failureText e)
  · have told := AuditResult.told_ofFetch (normalizeUrl input) now
      (Fetch.run net config (normalizeUrl input)).result
    exact ⟨rfl, told.score, told.status⟩
  · obtain ⟨printout, hrun, hcode⟩ := Program.exitCode_eq net now lookup hargs htarget
    refine ⟨printout, hrun, ?_⟩
    rw [hcode]
    cases (audit net (Config.ofLookup lookup) now target).result.error with
    | none => simp
    | some error => simp

/-- A run whose site cannot be reached ends with code one. -/
theorem page_or_error_unreachable :
    CommandLine.parse ["/", "--json"] = .ok ⟨some "/", true⟩ ∧
      ∃ printout, Program.run? .none ⟨⟨⟨2025, 3, 14⟩, 9, 26, 53, 0⟩, 0⟩ (fun _ => none) ["/", "--json"] =
        some printout ∧ printout.exitCode = 1 := by
  have hargs : CommandLine.parse ["/", "--json"] = .ok ⟨some "/", true⟩ := by decide +kernel
  obtain ⟨printout, hrun, hfailed, -⟩ := page_or_error.2.2.2 .none ⟨⟨⟨2025, 3, 14⟩, 9, 26, 53, 0⟩, 0⟩
    (fun _ => none) _ _ "/" hargs rfl
  exact ⟨hargs, printout, hrun, hfailed.mpr (by decide +kernel)⟩

end PageAudit
