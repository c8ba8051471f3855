/-!
Findings: issues that an audit reports, each with advice on how to fix it.
-/
namespace PageAudit

structure Finding where
  name : String
  /-- What was found. -/
  description : String
  /-- What to do, in order. -/
  fixSteps : List String
deriving DecidableEq, Repr, Inhabited

end PageAudit
