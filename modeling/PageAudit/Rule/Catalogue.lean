import PageAudit.Rule.Accessibility
import PageAudit.Rule.Performance
import PageAudit.Rule.Security
import PageAudit.Rule.Seo
/-!
The catalogue: the rules of each category, in the order in which they are tried and
reported.
-/
namespace PageAudit.Rule

def catalogue : Category → List Rule
  | .security => Security.rules
  | .performance => Performance.rules
  | .seo => Seo.rules
  | .accessibility => Accessibility.rules

/-- The rule of a name, in any category. -/
def find? (name : String) : Option Rule :=
  (Category.all.flatMap catalogue).find? (·.name == name)

end PageAudit.Rule
