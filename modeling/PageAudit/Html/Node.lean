import PageAudit.Html.Tree.Arena
/-!
Finished trees. Elements are numbered in document order, and `elements` lists a node's
element and all below it in that order.
-/
namespace PageAudit.Html

/-- What an element says about itself. -/
structure Element where
  /-- The place of the element in document order. -/
  position : Nat
  name : String
  attributes : List Attribute
deriving DecidableEq, Repr, Inhabited

inductive Node where
  | text (s : String)
  | element (e : Element) (children : List Node)
deriving Repr, Inhabited

namespace Node

mutual

/-- The elements of a node in document order, followed by others. -/
def elementsThen (later : List Node) : Node → List Node
  | .text _ => later
  | .element e children => .element e children :: elementsOfThen later children

def elementsOfThen (later : List Node) : List Node → List Node
  | [] => later
  | n :: ns => elementsThen (elementsOfThen later ns) n

end

/-- A node's element and all elements below it, in document order. -/
def elements (n : Node) : List Node := elementsThen [] n

/-- The elements below a node, in document order. -/
def innerElements : Node → List Node
  | .text _ => []
  | .element _ children => elementsOfThen [] children

mutual

/-- A text followed by the text of a node. -/
def textAfter (before : String) : Node → String
  | .text s => before ++ s
  | .element _ children => textOfAfter before children

def textOfAfter (before : String) : List Node → String
  | [] => before
  | n :: ns => textOfAfter (textAfter before n) ns

end

/-- The text of a node and all below it. -/
def innerText (n : Node) : String := textAfter "" n

def name : Node → String
  | .text _ => ""
  | .element e _ => e.name

def attributes : Node → List Attribute
  | .text _ => []
  | .element e _ => e.attributes

/-- The value of an attribute, in any case of its name; nothing when it is absent. -/
def attribute? (n : Node) (name : String) : Option String :=
  (n.attributes.find? fun a => a.isPlain && a.name == name.toLower).map (·.value)

end Node

/-! ### From arena to tree -/

namespace Arena

mutual

/-- The tree below a node, elements numbered from `next`, with the next free number. At
most `fuel` levels are read. -/
def tree (a : Arena) (next : Nat) : Nat → Nat → Option Node × Nat
  | 0, _ => (none, next)
  | fuel + 1, n =>
    match a[n]? with
    | some ⟨.element name attributes, _, children⟩ =>
      let (below, free) := trees a (next + 1) fuel children.toList
      (some (.element ⟨next, name.label, attributes⟩ below), free)
    | some ⟨.text s, _, _⟩ => (some (.text s), next)
    | _ => (none, next)

/-- The trees below several nodes. -/
def trees (a : Arena) (next : Nat) : Nat → List Nat → List Node × Nat
  | _, [] => ([], next)
  | fuel, n :: ns =>
    match tree a next fuel n with
    | (some node, free) =>
      let (rest, free) := trees a free fuel ns
      (node :: rest, free)
    | (none, free) => trees a free fuel ns

end

end Arena

end PageAudit.Html
