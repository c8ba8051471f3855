import PageAudit.Html.ElementName
/-!
The open elements, innermost first. Searches go outwards from the innermost element and
stop where a scope ends; closing drops elements from the front.
-/
namespace PageAudit.Html

/-- An open element: its node and its name. -/
structure Open where
  node : Nat
  name : ElementName
deriving DecidableEq, Repr, Inhabited

namespace Open

def is (o : Open) (label : String) : Bool := o.name.isHtml label

/-- Whether the innermost element has the given HTML name. -/
def currentIs (label : String) : List Open → Bool
  | o :: _ => o.is label
  | [] => false

/-- Whether the innermost element's name is of a class. -/
def currentIn (p : ElementName → Bool) : List Open → Bool
  | o :: _ => p o.name
  | [] => false

/-- Whether an element that satisfies `goal` is open, with none that ends the scope inside
of it. -/
def inScope (limit : ElementName → Bool) (goal : Open → Bool) : List Open → Bool
  | [] => false
  | o :: rest => goal o || (!limit o.name && inScope limit goal rest)

def inScopeNamed (limit : ElementName → Bool) (label : String) (stack : List Open) : Bool :=
  inScope limit (·.is label) stack

/-- Whether an element of the given HTML name is open. -/
def has (label : String) (stack : List Open) : Bool := stack.any (·.is label)

/-- Closes elements up to and with the first whose name is of a class. -/
def closeThrough (p : ElementName → Bool) (stack : List Open) : List Open :=
  (stack.dropWhile fun o => !p o.name).drop 1

def closeThroughNamed (label : String) (stack : List Open) : List Open :=
  closeThrough (·.isHtml label) stack

/-- Closes elements up to the first whose name is of a class. -/
def closeUpTo (p : ElementName → Bool) (stack : List Open) : List Open :=
  stack.dropWhile fun o => !p o.name

/-- Closes the elements in front whose names are of a class. -/
def closeImplied (p : ElementName → Bool) (stack : List Open) : List Open :=
  stack.dropWhile fun o => p o.name

/-- Closes the elements in front whose end tags may be left out, save one name. -/
def closeImpliedExcept (label : String) (stack : List Open) : List Open :=
  closeImplied (fun n => n.mayStayOpen && !n.isHtml label) stack

/-- The open elements without the one of a node. -/
def remove (node : Nat) (stack : List Open) : List Open := stack.filter (·.node != node)

end Open

end PageAudit.Html
