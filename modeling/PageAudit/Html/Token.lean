/-!
Tokens of a document: what its characters spell, before any of it has a place in the tree.
-/
namespace PageAudit.Html

/-- A tag as written, its name and attribute names in lower case. -/
structure Tag where
  name : String
  attributes : List (String × String)
  selfClosing : Bool
deriving DecidableEq, Repr, Inhabited

/-- A document type declaration. -/
structure Doctype where
  name : Option String
  publicId : Option String
  systemId : Option String
  forceQuirks : Bool
deriving DecidableEq, Repr, Inhabited

inductive Token where
  | doctype (d : Doctype)
  | startTag (t : Tag)
  | endTag (name : String)
  | comment
  | character (c : Char)
  /-- An error between two tokens. -/
  | flaw
  | endOfText
deriving DecidableEq, Repr, Inhabited

/-- How far a script has gone into a comment, by the hyphens just read. -/
inductive ScriptState where
  | plain
  | escaped (hyphens : Nat)
  | doubleEscaped (hyphens : Nat)
deriving DecidableEq, Repr

/-- What the characters of the text may spell at some point. -/
inductive Content where
  | markup
  /-- References and the end tag of the element. -/
  | referencesOnly
  /-- The end tag of the element. -/
  | raw
  | script (s : ScriptState)
  | plain
deriving DecidableEq, Repr, Inhabited

namespace Tag

def attribute? (t : Tag) (name : String) : Option String :=
  (t.attributes.find? (·.1 == name)).map (·.2)

end Tag

end PageAudit.Html
