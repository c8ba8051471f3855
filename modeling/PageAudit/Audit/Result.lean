import PageAudit.Audit.Score
import PageAudit.Instant.Basic
/-!
The result of an audit. A page that was fetched is evaluated; for one that was not, every
score is zero and the error says why.
-/
namespace PageAudit

structure AuditResult where
  /-- The address that was asked for, with its scheme. -/
  url : String
  scanTime : ZonedTime
  finalUrl : Option String
  status : Option UInt16
  loadTime : Option Binary64
  security : CategoryResult
  performance : CategoryResult
  seo : CategoryResult
  accessibility : CategoryResult
  error : Option String
deriving DecidableEq, Repr, Inhabited

namespace AuditResult

def category (r : AuditResult) : Category → CategoryResult
  | .security => r.security
  | .performance => r.performance
  | .seo => r.seo
  | .accessibility => r.accessibility

/-- The mean of the four scores, rounded down. -/
def overallScore (r : AuditResult) : Nat :=
  Category.all.foldr (fun c n => (r.category c).score.toNat + n) 0 / 4

/-- Every finding with its category, in report order. -/
def allFindings (r : AuditResult) : List (Category × Finding) :=
  Category.all.flatMap fun c => (r.category c).findings.map fun f => (c, f)

/-- The result for a page that could not be fetched. -/
def failed (url : String) (scanTime : ZonedTime) (error : String) : AuditResult where
  url := url
  scanTime := scanTime
  finalUrl := none
  status := none
  loadTime := none
  security := .zeroed
  performance := .zeroed
  seo := .zeroed
  accessibility := .zeroed
  error := some error

/-- The result for a page that was fetched. -/
def evaluate (url : String) (page : Page) (scanTime : ZonedTime) : AuditResult :=
  let s := Subject.ofPage url page
  { url := url
    scanTime := scanTime
    finalUrl := some page.finalUrl
    status := some page.status
    loadTime := some page.loadTime
    security := scoreCategory .security s
    performance := scoreCategory .performance s
    seo := scoreCategory .seo s
    accessibility := scoreCategory .accessibility s
    error := none }

/-- The same result with its time on the clocks of a zone. -/
def inZone (zone : Zone) (r : AuditResult) : AuditResult :=
  { r with scanTime := zone.time r.scanTime.instant }

end AuditResult

end PageAudit
