import PageAudit.Html.Tree.Builder
/-!
Active formatting elements. An element such as `b` whose end tag comes too early or too
late is opened again where the text goes on (`reconstruct`), and `adopt` rearranges the
tree when an end tag closes a formatting element across other elements: what is inside of
both is moved out, and a copy of the element takes the children that are left.
-/
namespace PageAudit.Html

namespace Formatting

def isNode (n : Nat) : Formatting → Bool
  | .element m _ => m == n
  | .marker => false

/-- A marker, or an element that is open. -/
def isSettled (stack : List Open) : Formatting → Bool
  | .element n _ => stack.any (·.node == n)
  | .marker => true

/-- The latest element of a name since the last marker. -/
def latest? (label : String) : List Formatting → Option (Nat × Tag)
  | .element n t :: rest => if t.name == label then some (n, t) else latest? label rest
  | _ => none

/-- Tags with one name and the same attributes in any order. -/
def sameTag (a b : Tag) : Bool :=
  a.name == b.name && a.attributes.length == b.attributes.length &&
    a.attributes.all b.attributes.contains

/-- Drops the earliest of three elements like the given one since the last marker. -/
def dropThird (t : Tag) (list : List Formatting) : List Formatting :=
  let alike := (list.takeWhile (· != .marker)).filter fun e => match e with
    | .element _ u => sameTag t u
    | .marker => false
  match alike.getLast? with
  | some (.element n _) => if 3 ≤ alike.length then list.filter (!isNode n ·) else list
  | _ => list

def tagOf? (n : Nat) (list : List Formatting) : Option Tag :=
  match list.find? (isNode n) with
  | some (.element _ t) => some t
  | _ => none

/-- Puts one element in the place of another. -/
def replace (n m : Nat) (t : Tag) (list : List Formatting) : List Formatting :=
  list.map fun e => if isNode n e then .element m t else e

/-- Adds an element that comes right after another in time. -/
def insertAfter (n m : Nat) (t : Tag) : List Formatting → List Formatting
  | [] => []
  | e :: rest =>
    if isNode n e then .element m t :: e :: rest else e :: insertAfter n m t rest

end Formatting

namespace Builder

/-- Opens again the formatting elements that have been closed since the last that is
settled. -/
def reconstruct (b : Builder) : Builder :=
  let lost := b.formatting.takeWhile (!Formatting.isSettled b.stack ·)
  let settled := b.formatting.drop lost.length
  lost.reverse.foldl
    (fun b e => match e with
      | .element _ t =>
        let (b, o) := b.insertOpen (.html t.name) (plainAttributes t)
        { b with formatting := .element o.node t :: b.formatting }
      | .marker => b)
    { b with formatting := settled }

/-- Opens the formatting element of a start tag. -/
def openFormatting (b : Builder) (t : Tag) : Builder :=
  let kept := Formatting.dropThird t b.formatting
  let (b, o) := b.insertOpen (.html t.name) (plainAttributes t)
  { b with formatting := .element o.node t :: kept }

def forget (b : Builder) (n : Nat) : Builder :=
  { b with formatting := b.formatting.filter (!Formatting.isNode n ·) }

/-! ### End tags without rules of their own -/

/-- Whether an element of the name is open with no special element inside of it. -/
def canClose (label : String) : List Open → Bool
  | [] => false
  | o :: rest => o.is label || (!o.name.isSpecial && canClose label rest)

/-- Closes the innermost element of a name, if no special element is in the way. -/
def closePlain (b : Builder) (label : String) : Builder :=
  if canClose label b.stack then
    b.mapStack fun s => Open.closeThroughNamed label (Open.closeImpliedExcept label s)
  else b

/-! ### Adoption -/

/-- What the walk from the block out to the formatting element carries. -/
structure Lift where
  arena : Arena
  formatting : List Formatting
  /-- Copies that stay open, outermost first. -/
  copies : List Open
  last : Nat
  /-- The element after which the formatting element's copy is listed. -/
  bookmark : Option Nat

/-- One element between the block and the formatting element, the `count`-th from the
block. The first three that are formatting elements are copied around what was lifted so
far; the others are closed. -/
def liftThrough (block : Nat) (s : Lift) (count : Nat) (o : Open) : Lift :=
  if 3 < count then { s with formatting := s.formatting.filter (!Formatting.isNode o.node ·) }
  else match Formatting.tagOf? o.node s.formatting with
    | none => s
    | some t =>
      let (arena, copy) := s.arena.create (.element (.html t.name) (plainAttributes t))
      { arena := arena.append copy s.last
        formatting := Formatting.replace o.node copy t s.formatting
        copies := ⟨copy, .html t.name⟩ :: s.copies
        last := copy
        bookmark := if s.last == block then some copy else s.bookmark }

/-- All elements between, from the block outwards. -/
def lift (block : Nat) (s : Lift) (count : Nat) : List Open → Lift
  | [] => s
  | o :: rest => lift block (liftThrough block s count o) (count + 1) rest

/-- Closes the formatting element `f` across the block, which is inside of it. The open
elements are `inner`, the block, `between`, `f` and `outer`; the first two lists are
given outermost first. -/
def adoptBlock (b : Builder) (f : Open) (tag : Tag) (between : List Open) (block : Open)
    (inner outer : List Open) : Builder :=
  let s := lift block.node ⟨b.arena, b.formatting, [], block.node, none⟩ 1 between.reverse
  let b := { b with stack := inner.reverse ++ block :: s.copies.reverse ++ f :: outer }
  let arena := s.arena.detach s.last
  let arena := match outer with
    | ancestor :: _ => putNode arena s.last ({ b with arena := arena }.placeIn ancestor)
    | [] => arena
  let (arena, copy) := arena.create (.element (.html tag.name) (plainAttributes tag))
  let arena := (arena.moveChildren block.node copy).append block.node copy
  let formatting := match s.bookmark with
    | none => Formatting.replace f.node copy tag s.formatting
    | some n =>
      (Formatting.insertAfter n copy tag s.formatting).filter (!Formatting.isNode f.node ·)
  { b with
    arena := arena
    formatting := formatting
    stack := inner.reverse ++ ⟨copy, .html tag.name⟩ :: block :: s.copies.reverse ++ outer }

/-- One round of adoption, and whether another may follow. -/
def adoptOnce (b : Builder) (label : String) : Builder × Bool :=
  match Formatting.latest? label b.formatting with
  | none => (b.closePlain label, false)
  | some (n, tag) =>
    let newer := b.stack.takeWhile (·.node != n)
    match b.stack.drop newer.length with
    | [] => (b.forget n, false)
    | f :: outer =>
      if !Open.inScope ElementName.limitsScope (·.node == n) b.stack then (b, false)
      else
        let within := newer.reverse
        let between := within.takeWhile (!·.name.isSpecial)
        match within.drop between.length with
        | [] => ({ b.forget n with stack := outer }, false)
        | block :: inner => (b.adoptBlock f tag between block inner outer, true)

def adoptRounds (label : String) : Nat → Builder → Builder
  | 0, b => b
  | n + 1, b =>
    match b.adoptOnce label with
    | (b, true) => adoptRounds label n b
    | (b, false) => b

/-- The end tag of a formatting element. -/
def adopt (b : Builder) (label : String) : Builder :=
  match b.stack with
  | o :: rest =>
    if o.is label && !b.formatting.any (Formatting.isNode o.node) then { b with stack := rest }
    else adoptRounds label 8 b
  | [] => adoptRounds label 8 b

/-- Closes a link that is still open when another starts. -/
def closeOpenLink (b : Builder) : Builder :=
  match Formatting.latest? "a" b.formatting with
  | some (n, _) => (b.adopt "a").forget n |>.mapStack (Open.remove n)
  | none => b

end Builder

end PageAudit.Html
