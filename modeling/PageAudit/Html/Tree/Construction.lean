import PageAudit.Html.Lexer
import PageAudit.Html.Tree.Select
/-!
Tree construction: every token falls under the rules of the current mode, or under those
of foreign content when the innermost element is MathML or SVG. `build` runs the tokens of
a text from the beginning and answers the finished arena.
-/
namespace PageAudit.Html

namespace Builder

/-- The end tag of an element with raw text, or the end of the text in it. -/
def inText (b : Builder) : Token → Step
  | .character c => done (b.addText c)
  | .endTag _ => done (b.pop.withMode b.returnMode)
  | .endOfText => again b.pop b.returnMode
  | _ => done b

/-- The rules of the current mode. -/
def modeStep (b : Builder) (t : Token) : Step :=
  match b.mode with
  | .initial => b.initial t
  | .beforeHtml => b.beforeHtml t
  | .beforeHead => b.beforeHead t
  | .inHead => b.inHead t
  | .afterHead => b.afterHead t
  | .inBody => b.inBody t
  | .text => b.inText t
  | .inTable => b.inTable t
  | .inTableText => b.inTableText t
  | .inCaption => b.inCaption t
  | .inColumnGroup => b.inColumnGroup t
  | .inTableBody => b.inTableBody t
  | .inRow => b.inRow t
  | .inCell => b.inCell t
  | .inSelect => b.inSelect t
  | .inSelectInTable => b.inSelectInTable t
  | .inTemplate => b.inTemplate t
  | .afterBody => b.afterBody t
  | .inFrameset => b.inFrameset t
  | .afterFrameset => b.afterFrameset t
  | .afterAfterBody => b.afterAfterBody t
  | .afterAfterFrameset => b.afterAfterFrameset t

/-! ### Foreign content -/

/-- Whether the innermost element is of a foreign vocabulary. -/
def insideForeign (b : Builder) : Bool := Open.currentIn (·.vocabulary != .html) b.stack

/-- Whether an element of a foreign vocabulary takes a token as HTML. -/
def takesAsHtml (n : ElementName) : Token → Bool
  | .character _ => n.holdsText || n.holdsHtml
  | .startTag t =>
    (n.holdsText && !(["mglyph", "malignmark"].contains t.name)) || n.holdsHtml ||
      (n == ⟨.math, "annotation-xml"⟩ && t.name == "svg")
  | .endOfText => true
  | _ => false

/-- Whether a token falls under the rules of foreign content. -/
def isForeign (b : Builder) (t : Token) : Bool :=
  match b.stack with
  | o :: _ => o.name.vocabulary != .html && !takesAsHtml o.name t
  | [] => false

/-- A start tag that belongs to the vocabulary around it. -/
def foreignElement (b : Builder) (v : Vocabulary) (t : Tag) : Builder :=
  let attributes := t.attributes.map (Foreign.adjusted v)
  let name := Foreign.elementName v t.name
  if t.selfClosing then (b.insertClosed name attributes).1 else (b.insertOpen name attributes).1

/-- A tag that ends foreign content. -/
def breakOut (b : Builder) (t : Token) : Step :=
  (b.mapStack fun s => s.dropWhile fun o =>
    o.name.vocabulary != .html && !o.name.holdsText && !o.name.holdsHtml).modeStep t

def hasFontAttribute (t : Tag) : Bool :=
  t.attributes.any fun a => ["color", "face", "size"].contains a.1

/-- What an end tag in foreign content does. -/
inductive ForeignEnd where
  | nothing
  | close (outer : List Open)
  | asHtml

/-- Looks outwards for the element of an end tag; from the first HTML element on, but not
at the innermost element, the tag is an HTML tag. -/
def foreignEnd (label : String) (innermost : Bool) : List Open → ForeignEnd
  | [] => .nothing
  | [_] => .nothing
  | o :: outer =>
    if !innermost && o.name.vocabulary == .html then .asHtml
    else if o.name.label.toLower == label then .close outer
    else foreignEnd label false outer

def foreignStep (b : Builder) (t : Token) : Step :=
  match t with
  | .character c =>
    if c.toNat = 0 then done (b.addText Reference.replacement)
    else done ((if isSpaceChar c then b else b.noFrameset).addText c)
  | .startTag tag =>
    if Foreign.breaksOut.contains tag.name || (tag.name == "font" && hasFontAttribute tag) then
      b.breakOut t
    else match b.stack with
      | o :: _ => done (b.foreignElement o.name.vocabulary tag)
      | [] => done b
  | .endTag label =>
    if label == "br" || label == "p" then b.breakOut t
    else match foreignEnd label true b.stack with
      | .nothing => done b
      | .close outer => done { b with stack := outer }
      | .asHtml => b.modeStep t
  | _ => done b

/-! ### Documents -/

def step (b : Builder) (t : Token) : Step :=
  if b.isForeign t then b.foreignStep t else b.modeStep t

/-- Steps until the token has been dealt with, at most `n` of them. -/
def settle (t : Token) : Nat → Builder → Builder
  | 0, b => b
  | n + 1, b =>
    match b.step t with
    | (b, true) => settle t n b
    | (b, false) => b

/-- Each step that looks at its token again closes an element or goes on to a later part
of the document, of which there are fewer than this. -/
def stepLimit (b : Builder) : Nat := 2 * b.stack.length + 2 * b.templateModes.length + 32

/-- Public identifiers, in lower case, that put a document in quirks mode. -/
def quirkyPublicIds : List String := [
  "-//w3o//dtd w3 html strict 3.0//en//", "-/w3c/dtd html 4.0 transitional/en", "html"]

/-- Beginnings of public identifiers, in lower case, that put a document in quirks mode. -/
def quirkyPublicStarts : List String := [
  "+//silmaril//dtd html pro v0r11 19970101//", "-//advasoft ltd//dtd html 3.0 aswedit + extensions//",
  "-//as//dtd html 3.0 aswedit + extensions//", "-//ietf//dtd html 2.0 level 1//",
  "-//ietf//dtd html 2.0 level 2//", "-//ietf//dtd html 2.0 strict level 1//",
  "-//ietf//dtd html 2.0 strict level 2//", "-//ietf//dtd html 2.0 strict//",
  "-//ietf//dtd html 2.0//", "-//ietf//dtd html 2.1e//", "-//ietf//dtd html 3.0//",
  "-//ietf//dtd html 3.2 final//", "-//ietf//dtd html 3.2//", "-//ietf//dtd html 3//",
  "-//ietf//dtd html level 0//", "-//ietf//dtd html level 1//", "-//ietf//dtd html level 2//",
  "-//ietf//dtd html level 3//", "-//ietf//dtd html strict level 0//",
  "-//ietf//dtd html strict level 1//", "-//ietf//dtd html strict level 2//",
  "-//ietf//dtd html strict level 3//", "-//ietf//dtd html strict//", "-//ietf//dtd html//",
  "-//metrius//dtd metrius presentational//",
  "-//microsoft//dtd internet explorer 2.0 html strict//",
  "-//microsoft//dtd internet explorer 2.0 html//",
  "-//microsoft//dtd internet explorer 2.0 tables//",
  "-//microsoft//dtd internet explorer 3.0 html strict//",
  "-//microsoft//dtd internet explorer 3.0 html//",
  "-//microsoft//dtd internet explorer 3.0 tables//", "-//netscape comm. corp.//dtd html//",
  "-//netscape comm. corp.//dtd strict html//", "-//o'reilly and associates//dtd html 2.0//",
  "-//o'reilly and associates//dtd html extended 1.0//",
  "-//o'reilly and associates//dtd html extended relaxed 1.0//",
  "-//softquad software//dtd hotmetal pro 6.0::19990601::extensions to html 4.0//",
  "-//softquad//dtd hotmetal pro 4.0::19971010::extensions to html 4.0//",
  "-//spyglass//dtd html 2.0 extended//", "-//sq//dtd html 2.0 hotmetal + extensions//",
  "-//sun microsystems corp.//dtd hotjava html//",
  "-//sun microsystems corp.//dtd hotjava strict html//", "-//w3c//dtd html 3 1995-03-24//",
  "-//w3c//dtd html 3.2 draft//", "-//w3c//dtd html 3.2 final//", "-//w3c//dtd html 3.2//",
  "-//w3c//dtd html 3.2s draft//", "-//w3c//dtd html 4.0 frameset//",
  "-//w3c//dtd html 4.0 transitional//", "-//w3c//dtd html experimental 19960712//",
  "-//w3c//dtd html experimental 970421//", "-//w3c//dtd w3 html//", "-//w3o//dtd w3 html 3.0//",
  "-//webtechs//dtd mozilla html 2.0//", "-//webtechs//dtd mozilla html//"]

/-- Beginnings of public identifiers that do so only without a system identifier. -/
def quirkyUnlessSystem : List String := [
  "-//w3c//dtd html 4.01 frameset//", "-//w3c//dtd html 4.01 transitional//"]

def startsWithAny (starts : List String) (s : String) : Bool :=
  starts.any fun start => start.toList.isPrefixOf s.toList

/-- Whether a document type declaration puts the document in quirks mode. -/
def isQuirky (d : Doctype) : Bool :=
  let publicId := (d.publicId.map String.toLower).getD ""
  let systemId := d.systemId.map String.toLower
  d.forceQuirks || d.name != some "html" ||
    (d.publicId.isSome && (quirkyPublicIds.contains publicId ||
      startsWithAny quirkyPublicStarts publicId ||
      (systemId.isNone && startsWithAny quirkyUnlessSystem publicId))) ||
    systemId == some "http://www.ibm.com/data/dtd/v11/ibmxhtml1-transitional.dtd"

/-- One token. -/
def process (b : Builder) (t : Token) : Builder :=
  let dropping := b.dropLineFeed
  let b := { b with dropLineFeed := false }
  match t with
  | .flaw => b
  | .doctype d =>
    if b.mode == .initial then { b with quirks := isQuirky d, mode := .beforeHtml } else b
  | .character c => if dropping && c == '\n' then b else settle t b.stepLimit b
  | t => settle t b.stepLimit b

/-- The name of the last start tag among tokens. -/
def lastStart (before : String) (tokens : List Token) : String :=
  tokens.foldl (fun s t => match t with
    | .startTag tag => tag.name
    | _ => s) before

/-- All tokens of a text, read with at most `n` scans. -/
def readAll (content : Content) (last : String) : Nat → Builder → List Char → Builder
  | 0, b, _ => b
  | _, b, [] => b.process .endOfText
  | n + 1, b, c :: cs =>
    let scan := Lexer.next ⟨content, last, b.insideForeign⟩ c cs
    let b := scan.tokens.foldl process b
    readAll (b.request.getD scan.content) (lastStart last scan.tokens) n
      { b with request := none } scan.rest

/-- The tree of a text. -/
def build (text : List Char) : Builder :=
  readAll .markup "" (text.length + 1) start text

end Builder

end PageAudit.Html
