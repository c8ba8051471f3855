import PageAudit.Html.ElementName
/-!
A tree under construction. Every node has a number, under which its slot keeps its item,
its parent and its children, so that a node can be moved while other parts of the
construction still refer to it. Number 0 is the document.
-/
namespace PageAudit.Html

/-- An attribute of an element. One that belongs to a vocabulary of its own is not found
by name. -/
structure Attribute where
  name : String
  value : String
  isPlain : Bool
deriving DecidableEq, Repr, Inhabited

inductive Item where
  | document
  | element (name : ElementName) (attributes : List Attribute)
  | text (s : String)
deriving Repr, Inhabited

structure Slot where
  item : Item
  parent : Option Nat
  children : Array Nat
deriving Repr, Inhabited

abbrev Arena := Array Slot

namespace Arena

def empty : Arena := #[⟨.document, none, #[]⟩]

/-- A new node without a parent. -/
def create (a : Arena) (item : Item) : Arena × Nat :=
  let n := a.size
  (a.push ⟨item, none, #[]⟩, n)

def parent? (a : Arena) (n : Nat) : Option Nat := a[n]?.bind (·.parent)

def children (a : Arena) (n : Nat) : Array Nat := (a[n]?.map (·.children)).getD #[]

/-- Takes a node from its parent. -/
def detach (a : Arena) (n : Nat) : Arena :=
  match a.parent? n with
  | some p =>
    (a.modify p fun s => { s with children := s.children.filter (· != n) }).modify n
      fun s => { s with parent := none }
  | none => a

/-- Makes a node the last child of another. -/
def append (a : Arena) (parent n : Nat) : Arena :=
  ((a.detach n).modify parent fun s => { s with children := s.children.push n }).modify n
    fun s => { s with parent := some parent }

/-- Puts a number right before another in a list of children. -/
def insertBeforeIn (children : Array Nat) (sibling n : Nat) : Array Nat :=
  match children.findIdx? (· == sibling) with
  | some i => children.extract 0 i ++ #[n] ++ children.extract i children.size
  | none => children.push n

/-- Puts a node right before one that has a parent. -/
def insertBefore (a : Arena) (sibling n : Nat) : Arena :=
  let a := a.detach n
  match a.parent? sibling with
  | some p =>
    (a.modify p fun s => { s with children := insertBeforeIn s.children sibling n }).modify n
      fun s => { s with parent := some p }
  | none => a

def isText (a : Arena) (n : Nat) : Bool :=
  match a[n]? with
  | some ⟨.text _, _, _⟩ => true
  | _ => false

/-- Adds a character to a text node. -/
def extendText (a : Arena) (n : Nat) (c : Char) : Arena :=
  a.modify n fun
    | ⟨.text t, parent, children⟩ => ⟨.text (t.push c), parent, children⟩
    | s => s

/-- Adds a character after the children of a node. -/
def appendText (a : Arena) (parent : Nat) (c : Char) : Arena :=
  match (a.children parent).back? with
  | some n =>
    if a.isText n then a.extendText n c
    else
      let (a, n) := a.create (.text (String.singleton c))
      a.append parent n
  | none =>
    let (a, n) := a.create (.text (String.singleton c))
    a.append parent n

/-- The node right before another, of the same parent. -/
def previousSibling? (a : Arena) (n : Nat) : Option Nat := do
  let siblings := a.children (← a.parent? n)
  match siblings.findIdx? (· == n) with
  | some (i + 1) => siblings[i]?
  | _ => none

/-- Adds a character right before a node that has a parent. -/
def insertTextBefore (a : Arena) (sibling : Nat) (c : Char) : Arena :=
  match (a.previousSibling? sibling).filter a.isText with
  | some n => a.extendText n c
  | none =>
    let (a, n) := a.create (.text (String.singleton c))
    a.insertBefore sibling n

/-- Moves all children of a node to the end of another. -/
def moveChildren (a : Arena) (source target : Nat) : Arena :=
  (a.children source).foldl (fun a n => a.append target n) a

/-- Adds the attributes that an element does not have yet. -/
def addMissing (a : Arena) (n : Nat) (attributes : List (String × String)) : Arena :=
  a.modify n fun s => { s with item := match s.item with
    | .element name old =>
      .element name (attributes.foldl (fun old (k, v) =>
        if old.any (fun x => x.isPlain && x.name == k) then old else old ++ [⟨k, v, true⟩]) old)
    | item => item }

end Arena

end PageAudit.Html
