import PageAudit.Audit.Result
import PageAudit.Fetch.Client
import PageAudit.Page.Address
/-!
Audits. An audit fetches one page and evaluates it; when there is no page, the result says
why instead.
-/
namespace PageAudit

/-- A finished audit, and the requests that it took. -/
structure AuditRun where
  result : AuditResult
  requests : List Fetch.Request

/-- The error of a result without a page. -/
def failureText (e : FetchError) : String := "Failed to access website: " ++ e.message

/-- The result of an audit, from what the fetch ended with. -/
def AuditResult.ofFetch (url : String) (scanTime : ZonedTime) : Except FetchError Page → AuditResult
  | .ok page => .evaluate url page scanTime
  | .error e => .failed url scanTime (failureText e)

/-- Audits the page at an address as people type it. -/
def audit (net : Fetch.Network) (config : Config) (now : ZonedTime) (input : String) : AuditRun :=
  let url := normalizeUrl input
  let outcome := Fetch.run net config url
  ⟨.ofFetch url now outcome.result, outcome.requests⟩

end PageAudit
