import PageAudit.Html.Token
import PageAudit.Html.Tree.Arena
import PageAudit.Html.Tree.Open
/-!
The state of tree construction and the steps that all its rules share: where a node goes,
how an element is opened, and how text is added.
-/
namespace PageAudit.Html

/-- Which rules the next token falls under. -/
inductive Mode where
  | initial
  | beforeHtml
  | beforeHead
  | inHead
  | afterHead
  | inBody
  | text
  | inTable
  | inTableText
  | inCaption
  | inColumnGroup
  | inTableBody
  | inRow
  | inCell
  | inSelect
  | inSelectInTable
  | inTemplate
  | afterBody
  | inFrameset
  | afterFrameset
  | afterAfterBody
  | afterAfterFrameset
deriving DecidableEq, Repr, Inhabited

/-- An entry of the list of active formatting elements. -/
inductive Formatting where
  | marker
  | element (node : Nat) (tag : Tag)
deriving DecidableEq, Repr, Inhabited

structure Builder where
  arena : Arena
  /-- Open elements, innermost first. -/
  stack : List Open
  /-- Active formatting elements, latest first. -/
  formatting : List Formatting
  mode : Mode
  /-- The mode to go back to after raw text or the text of a table. -/
  returnMode : Mode
  /-- Modes of the open templates, innermost first. -/
  templateModes : List Mode
  head : Option Nat
  form : Option Nat
  framesetOk : Bool
  quirks : Bool
  /-- Whether nodes that have no place in a table are put before it. -/
  fostering : Bool
  /-- Text of a table that is not placed yet, in reverse. -/
  tableText : List Char
  /-- Whether a line feed is dropped if it comes next. -/
  dropLineFeed : Bool
  /-- Content asked for after a start tag. -/
  request : Option Content
deriving Repr, Inhabited

namespace Builder

def start : Builder where
  arena := Arena.empty
  stack := []
  formatting := []
  mode := .initial
  returnMode := .inBody
  templateModes := []
  head := none
  form := none
  framesetOk := true
  quirks := false
  fostering := false
  tableText := []
  dropLineFeed := false
  request := none

/-- A step that ends with its token. -/
abbrev Step := Builder × Bool

/-- The token has been dealt with. -/
def done (b : Builder) : Step := (b, false)

/-- The token is to be looked at again, in another mode. -/
def again (b : Builder) (mode : Mode) : Step := ({ b with mode := mode }, true)

/-! ### Places -/

inductive Place where
  | lastIn (node : Nat)
  | before (node : Nat)

/-- The place of a node that fosters what a table cannot hold: before the innermost table
if it has a parent, else in the element outside of it. A template keeps its own. -/
def fosterPlace (a : Arena) : List Open → Place
  | [] => .lastIn 0
  | o :: rest =>
    if o.is "template" then .lastIn o.node
    else if o.is "table" then
      if (a.parent? o.node).isSome then .before o.node
      else .lastIn ((rest.head?.map (·.node)).getD 0)
    else match rest with
      | [] => .lastIn o.node
      | _ => fosterPlace a rest

/-- The place of a new node, for an element that would be its parent. -/
def placeIn (b : Builder) (target : Open) : Place :=
  if b.fostering && target.name.isTablePart then fosterPlace b.arena b.stack
  else .lastIn target.node

/-- The place of a new node. -/
def place (b : Builder) : Place :=
  match b.stack with
  | target :: _ => b.placeIn target
  | [] => .lastIn 0

def putNode (a : Arena) (n : Nat) : Place → Arena
  | .lastIn parent => a.append parent n
  | .before sibling => a.insertBefore sibling n

/-- Adds a character of text at the current place. -/
def addText (b : Builder) (c : Char) : Builder :=
  match b.place with
  | .lastIn parent => { b with arena := b.arena.appendText parent c }
  | .before sibling => { b with arena := b.arena.insertTextBefore sibling c }

/-! ### Elements -/

/-- Attributes of an HTML element. -/
def plainAttributes (t : Tag) : List Attribute := t.attributes.map fun (k, v) => ⟨k, v, true⟩

/-- Makes an element at the current place without opening it. -/
def insertClosed (b : Builder) (name : ElementName) (attributes : List Attribute) : Builder × Open :=
  let n := b.arena.size
  let item : Item := .element name attributes
  let b := match b.place with
    | .lastIn parent => { b with arena := (b.arena.create item).1.append parent n }
    | .before sibling => { b with arena := (b.arena.create item).1.insertBefore sibling n }
  (b, ⟨n, name⟩)

/-- Makes an element at the current place and opens it. -/
def insertOpen (b : Builder) (name : ElementName) (attributes : List Attribute) : Builder × Open :=
  let (b, o) := b.insertClosed name attributes
  ({ b with stack := o :: b.stack }, o)

/-- Opens the HTML element of a start tag. -/
def openTag (b : Builder) (t : Tag) : Builder :=
  (b.insertOpen (.html t.name) (plainAttributes t)).1

/-- Opens an HTML element that the text does not spell out. -/
def openImplied (b : Builder) (label : String) : Builder :=
  (b.insertOpen (.html label) []).1

/-- Adds the HTML element of a start tag that holds nothing. -/
def addVoid (b : Builder) (t : Tag) : Builder :=
  (b.insertClosed (.html t.name) (plainAttributes t)).1

/-- Makes the root element. -/
def addRoot (b : Builder) (attributes : List Attribute) : Builder :=
  let (arena, n) := b.arena.create (.element (.html "html") attributes)
  { b with arena := arena.append 0 n, stack := ⟨n, .html "html"⟩ :: b.stack }

def pop (b : Builder) : Builder := { b with stack := b.stack.drop 1 }

def mapStack (b : Builder) (f : List Open → List Open) : Builder := { b with stack := f b.stack }

def withMode (b : Builder) (mode : Mode) : Builder := { b with mode := mode }

def noFrameset (b : Builder) : Builder := { b with framesetOk := false }

/-- Opens an element whose text is read as the given content. -/
def openRaw (b : Builder) (t : Tag) (content : Content) : Builder :=
  let b := b.openTag t
  { b with returnMode := b.mode, mode := .text, request := some content }

/-- Closes a paragraph and what may stay open in it. -/
def closeParagraph (b : Builder) : Builder :=
  b.mapStack fun s => Open.closeThroughNamed "p" (Open.closeImpliedExcept "p" s)

/-- Closes a paragraph if one is open here. -/
def closeOpenParagraph (b : Builder) : Builder :=
  if Open.inScopeNamed ElementName.limitsButtonScope "p" b.stack then b.closeParagraph else b

/-! ### Marked formatting -/

def mark (b : Builder) : Builder := { b with formatting := .marker :: b.formatting }

/-- Drops the formatting elements up to and with the last marker. -/
def dropToMarker (b : Builder) : Builder :=
  { b with formatting := (b.formatting.dropWhile (· != .marker)).drop 1 }

/-! ### The mode of the open elements -/

/-- The mode of a `select` element with the given elements outside of it. -/
def selectMode : List Open → Mode
  | [] => .inSelect
  | o :: rest =>
    if o.is "template" then .inSelect
    else if o.is "table" then .inSelectInTable
    else selectMode rest

/-- The mode that the open elements call for. -/
def modeOf (templateModes : List Mode) (hasHead : Bool) : List Open → Mode
  | [] => .inBody
  | o :: outer =>
    if o.name.vocabulary != .html then modeOf templateModes hasHead outer
    else match o.name.label with
      | "select" => selectMode outer
      | "td" => if outer.isEmpty then modeOf templateModes hasHead outer else .inCell
      | "th" => if outer.isEmpty then modeOf templateModes hasHead outer else .inCell
      | "tr" => .inRow
      | "tbody" => .inTableBody
      | "thead" => .inTableBody
      | "tfoot" => .inTableBody
      | "caption" => .inCaption
      | "colgroup" => .inColumnGroup
      | "table" => .inTable
      | "template" => templateModes.head?.getD .inBody
      | "head" => if outer.isEmpty then modeOf templateModes hasHead outer else .inHead
      | "body" => .inBody
      | "frameset" => .inFrameset
      | "html" => if hasHead then .afterHead else .beforeHead
      | _ => modeOf templateModes hasHead outer

def resetMode (b : Builder) : Mode := modeOf b.templateModes b.head.isSome b.stack

end Builder

/-- White space as tree construction knows it. -/
def isSpaceChar (c : Char) : Bool :=
  c == '\t' || c == '\n' || c == '\x0c' || c == '\r' || c == ' '

end PageAudit.Html
