/-!
Texts with a place for a subject, such as the name of a header. There is at most one
place, and filling it leaves the subject as it is, whatever it contains.
-/
namespace PageAudit

inductive Template where
  | fixed (text : String)
  /-- A text around the place of the subject. -/
  | around (before after : String)
deriving DecidableEq, Repr, Inhabited

namespace Template

/-- What marks the place of the subject. -/
def placeholder : String := "\x7bsubject\x7d"

/-- The text with its place marked. -/
def raw : Template → String
  | .fixed text => text
  | .around before after => before ++ placeholder ++ after

/-- The text about a subject. -/
def fill (subject : String) : Template → String
  | .fixed text => text
  | .around before after => before ++ subject ++ after

instance : Coe String Template := ⟨.fixed⟩

end Template

end PageAudit
