/-!
The four dimensions of an audit, in the order in which they are reported.
-/
namespace PageAudit

inductive Category where
  | security
  | performance
  | seo
  | accessibility
deriving DecidableEq, Repr, Inhabited

namespace Category

/-- Every category, in report order. -/
def all : List Category := [.security, .performance, .seo, .accessibility]

/-- The name shown to people. -/
def display : Category → String
  | .security => "Security"
  | .performance => "Performance"
  | .seo => "SEO"
  | .accessibility => "Accessibility"

/-- The name used in data. -/
def key : Category → String
  | .security => "security"
  | .performance => "performance"
  | .seo => "seo"
  | .accessibility => "accessibility"

def ofKey? (s : String) : Option Category := all.find? (·.key == s)

end Category

end PageAudit
