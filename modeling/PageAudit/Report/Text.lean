import PageAudit.Audit.Result
import PageAudit.Decimal.Fixed
import PageAudit.Instant.Text
/-!
The text report: a header, what was fetched, the four scores, and then each category that
has findings. A category's findings come in the order of its rules, each with its name,
its description and its numbered steps.
-/
namespace PageAudit.Report

/-- The header and what was fetched. The final address is given when it is another. -/
def metadataLines (r : AuditResult) : List String :=
  ["Comprehensive Website Audit Report", "==================================", "",
    "URL: " ++ r.url, "Scan Date: " ++ r.scanTime.display] ++
  ((r.finalUrl.filter (· != r.url)).map ("Final URL: " ++ ·)).toList ++
  (r.status.map fun s => "HTTP Status: " ++ toString s.toNat).toList ++
  (r.loadTime.map fun t => "Load Time: " ++ Decimal.fixed2 t ++ "s").toList ++
  (r.error.map ("Error: " ++ ·)).toList

def scoreLines (r : AuditResult) : List String :=
  ["", "Overall Audit Scores", "--------------------"] ++
  Category.all.map fun c => c.display ++ ": " ++ toString (r.category c).score.toNat ++ "/100"

/-- Steps with their numbers, from `n` on. -/
def stepLines (n : Nat) : List String → List String
  | [] => []
  | step :: rest => ("  " ++ toString n ++ ". " ++ step) :: stepLines (n + 1) rest

def findingLines (f : Finding) : List String :=
  ["", f.name, f.description, "Steps to Fix:"] ++ stepLines 1 f.fixSteps

def heading (c : Category) : String := c.display ++ " Findings"

def underline (s : String) : String := String.ofList (List.replicate s.length '-')

/-- A category, if it has findings. -/
def categoryLines (r : AuditResult) (c : Category) : List String :=
  match (r.category c).findings with
  | [] => []
  | findings => ["", heading c, underline (heading c)] ++ findings.flatMap findingLines

/-- The report line by line. -/
def textLines (r : AuditResult) : List String :=
  metadataLines r ++ scoreLines r ++ Category.all.flatMap (categoryLines r)

/-- The report, each line with its line end. -/
def text (r : AuditResult) : String := (textLines r).foldl (fun s line => s ++ line ++ "\n") ""

end PageAudit.Report
