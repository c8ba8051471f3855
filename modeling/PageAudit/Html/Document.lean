import PageAudit.Html.Node
import PageAudit.Html.Tree.Construction
import PageAudit.Text.Words
/-!
Documents and the questions that audits ask of them. Any text is a document. Names of
elements and attributes are compared in lower case.
-/
namespace PageAudit.Html

/-- A finished document, by its root element. -/
structure Document where
  root : Node
deriving Repr, Inhabited

namespace Document

/-- The first element among the children of the document. -/
def rootOf (a : Arena) : Node :=
  ((a.trees 0 (a.size + 1) (a.children 0).toList).1.find? fun n => match n with
    | .element _ _ => true
    | .text _ => false).getD (.element ⟨0, "html", []⟩ [])

/-- The document that a text spells. -/
def parse (text : String) : Document :=
  ⟨rootOf (Builder.build (prepareText text.toList)).arena⟩

/-- Every element of the document, in document order. -/
def elements (d : Document) : List Node := d.root.elements

/-- The elements of a name. -/
def findAll (d : Document) (tag : String) : List Node :=
  d.elements.filter (·.name == tag.toLower)

/-- The first element of a name whose attribute has exactly the given value. -/
def findFirst (d : Document) (tag key value : String) : Option Node :=
  (d.findAll tag).find? fun n => n.attribute? key == some value

/-- The elements of a name that list a token among the words of an attribute. -/
def findAllWithToken (d : Document) (tag key token : String) : List Node :=
  (d.findAll tag).filter fun n => match n.attribute? key with
    | some value => (Text.words value).contains token
    | none => false

/-- The elements of a name below an element. -/
def findWithin (scope : Node) (tag : String) : List Node :=
  scope.innerElements.filter (·.name == tag.toLower)

def count (d : Document) (tag : String) : Nat := (d.findAll tag).length

def contains (d : Document) (tag : String) : Bool := 0 < d.count tag

end Document

end PageAudit.Html
