import PageAudit.Finding.Knowledge
import PageAudit.Html.Document
import PageAudit.Page.Basic
import PageAudit.Text.Case
import PageAudit.Text.Search
/-!
Rules. A rule looks at one page (`Subject`) and answers the penalties that it deserves, in
the order in which they are reported. What a rule may look at is fixed here: the address,
the response, its document, and its text in lower case.
-/
namespace PageAudit

/-- Everything that rules look at. -/
structure Subject where
  /-- The address that was asked for, with its scheme. -/
  url : String
  page : Page
  document : Html.Document
  /-- The body in lower case, for literal search. -/
  content : List Char

namespace Subject

def ofPage (url : String) (page : Page) : Subject :=
  ⟨url, page, Html.Document.parse page.body, Text.Case.lower page.body.toList⟩

/-- Whether the body holds a pattern, in any case of its letters. -/
def mentions (s : Subject) (pattern : String) : Bool := Text.occursIn pattern.toList s.content

end Subject

/-- A finding and the points that it costs. -/
structure Penalty where
  points : Nat
  finding : Finding
deriving DecidableEq, Repr, Inhabited

structure Rule where
  name : String
  penalties : Subject → List Penalty

/-- The images of a document whose alternative text is absent or empty. -/
def Html.Document.imagesMissingAlt (d : Html.Document) : Nat :=
  ((d.findAll "img").filter fun image => ((image.attribute? "alt").getD "").isEmpty).length

end PageAudit
