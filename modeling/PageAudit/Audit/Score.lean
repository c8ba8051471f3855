import PageAudit.Rule.Catalogue
/-!
Scores. A category starts from one hundred points, all penalties of all its rules are added
up, and the sum is taken off once at the end, down to zero at the least.
-/
namespace PageAudit

/-- The score of a category and the findings that explain it, in the order of the rules. -/
structure CategoryResult where
  score : UInt8
  findings : List Finding
deriving DecidableEq, Repr, Inhabited

namespace CategoryResult

/-- The result of a category of a page that could not be fetched. -/
def zeroed : CategoryResult := ⟨0, []⟩

end CategoryResult

/-- The points that a category starts from. -/
def fullScore : Nat := 100

/-- The points that penalties leave. -/
def scoreAfter (penalties : List Penalty) : Nat :=
  fullScore - penalties.foldr (fun p n => p.points + n) 0

/-- The result of a list of rules. -/
def scoreRules (rules : List Rule) (s : Subject) : CategoryResult :=
  let penalties := rules.flatMap (·.penalties s)
  ⟨UInt8.ofNat (scoreAfter penalties), penalties.map (·.finding)⟩

/-- The result of a category. -/
def scoreCategory (c : Category) (s : Subject) : CategoryResult := scoreRules (Rule.catalogue c) s

end PageAudit
