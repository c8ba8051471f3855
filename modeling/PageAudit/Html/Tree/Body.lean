import PageAudit.Html.Tree.Formatting
import PageAudit.Html.Tree.ForeignNames
import PageAudit.Html.Tree.Head
/-!
The body of a document: start and end tags of ordinary content. Each group of elements
with one rule is a list of names, and the rules are tried in order.
-/
namespace PageAudit.Html.Builder

/-! ### Groups of elements -/

/-- Elements that end a paragraph in front of them. -/
def isBlock (label : String) : Bool :=
  ["address", "article", "aside", "blockquote", "center", "details", "dialog", "dir", "div", "dl",
    "fieldset", "figcaption", "figure", "footer", "header", "hgroup", "main", "menu", "nav", "ol",
    "p", "search", "section", "summary", "ul"].contains label

/-- Elements whose end tag closes what may stay open in them. -/
def isContainer (label : String) : Bool :=
  ["address", "article", "aside", "blockquote", "button", "center", "details", "dialog", "dir",
    "div", "dl", "fieldset", "figcaption", "figure", "footer", "header", "hgroup", "listing",
    "main", "menu", "nav", "ol", "pre", "search", "section", "summary", "ul"].contains label

def isFormatting (label : String) : Bool :=
  ["b", "big", "code", "em", "font", "i", "s", "small", "strike", "strong", "tt", "u"].contains label

def isHeadingLabel (label : String) : Bool := ["h1", "h2", "h3", "h4", "h5", "h6"].contains label

/-- Elements that keep formatting from the outside apart. -/
def isApart (label : String) : Bool := ["applet", "marquee", "object"].contains label

/-- Elements of tables, frames and heads that have no place in a body. -/
def isMisplaced (label : String) : Bool :=
  ["caption", "col", "colgroup", "frame", "head", "tbody", "td", "tfoot", "th", "thead",
    "tr"].contains label

/-! ### Start tags -/

/-- Whether an `input` is hidden. -/
def isHiddenInput (t : Tag) : Bool :=
  t.name == "input" && (t.attribute? "type").map String.toLower == some "hidden"

/-- The innermost open element that an item of a list closes, if any: one of `labels` with
only elements inside of it that a list item may close. -/
def openItem? (labels : List String) : List Open → Option String
  | [] => none
  | o :: rest =>
    if o.name.isHtmlIn labels then some o.name.label
    else if o.name.isSpecial && !o.name.isHtmlIn ["address", "div", "p"] then none
    else openItem? labels rest

/-- The start tag of a list item, which closes an item that is open. -/
def openListItem (b : Builder) (t : Tag) (labels : List String) : Builder :=
  let b := b.noFrameset
  let b := match openItem? labels b.stack with
    | some label =>
      b.mapStack fun s => Open.closeThroughNamed label (Open.closeImpliedExcept label s)
    | none => b
  b.closeOpenParagraph.openTag t

/-- A second `body` start tag only adds attributes to the body. -/
def mergeBody (b : Builder) (t : Tag) : Builder :=
  match b.stack.reverse with
  | _ :: body :: _ =>
    if body.is "body" && !Open.has "template" b.stack then
      { b with framesetOk := false, arena := b.arena.addMissing body.node t.attributes }
    else b
  | _ => b

/-- A frameset in place of a body that shows nothing yet. -/
def replaceBody (b : Builder) (t : Tag) : Builder :=
  match b.stack.reverse with
  | root :: body :: _ =>
    if b.framesetOk && body.is "body" then
      ({ b with arena := b.arena.detach body.node, stack := [root] }.openTag t).withMode .inFrameset
    else b
  | _ => b

def openForm (b : Builder) (t : Tag) : Builder :=
  let inTemplate := Open.has "template" b.stack
  if b.form.isSome && !inTemplate then b
  else
    let (b, o) := b.closeOpenParagraph.insertOpen (.html "form") (plainAttributes t)
    if inTemplate then b else { b with form := some o.node }

def openHeading (b : Builder) (t : Tag) : Builder :=
  let b := b.closeOpenParagraph
  (if Open.currentIn ElementName.isHeading b.stack then b.pop else b).openTag t

def openButton (b : Builder) (t : Tag) : Builder :=
  let b := if Open.inScopeNamed ElementName.limitsScope "button" b.stack then
      b.mapStack fun s =>
        Open.closeThroughNamed "button" (Open.closeImplied ElementName.mayStayOpen s)
    else b
  (b.reconstruct.openTag t).noFrameset

/-- The start tag of a link that may not break, one of which closes another. -/
def openNobr (b : Builder) (t : Tag) : Builder :=
  let b := b.reconstruct
  let b := if Open.inScopeNamed ElementName.limitsScope "nobr" b.stack then
      (b.adopt "nobr").reconstruct
    else b
  b.openFormatting t

/-- The start tag of a `select`, which reads on in a mode of its own. -/
def openSelect (b : Builder) (t : Tag) : Builder :=
  let inTable := [Mode.inTable, .inCaption, .inTableBody, .inRow, .inCell].contains b.mode
  (b.reconstruct.openTag t).noFrameset.withMode (if inTable then .inSelectInTable else .inSelect)

/-- The start tag that begins MathML or SVG. -/
def openForeign (b : Builder) (v : Vocabulary) (t : Tag) : Builder :=
  let attributes := t.attributes.map (Foreign.adjusted v)
  let b := b.reconstruct
  if t.selfClosing then (b.insertClosed ⟨v, t.name⟩ attributes).1
  else (b.insertOpen ⟨v, t.name⟩ attributes).1

/-- A start tag in the body. -/
def bodyStart (b : Builder) (tag : Tag) : Builder :=
  let t := if tag.name == "image" then { tag with name := "img" } else tag
  let label := t.name
  if label == "html" then b.mergeRoot t
  else if belongsToHead label then b.headElement t
  else if label == "body" then b.mergeBody t
  else if label == "frameset" then b.replaceBody t
  else if isBlock label then b.closeOpenParagraph.openTag t
  else if isHeadingLabel label then b.openHeading t
  else if label == "pre" || label == "listing" then
    { (b.closeOpenParagraph.openTag t).noFrameset with dropLineFeed := true }
  else if label == "form" then b.openForm t
  else if label == "li" then b.openListItem t ["li"]
  else if label == "dd" || label == "dt" then b.openListItem t ["dd", "dt"]
  else if label == "plaintext" then
    { b.closeOpenParagraph.openTag t with request := some .plain }
  else if label == "button" then b.openButton t
  else if label == "a" then b.closeOpenLink.reconstruct.openFormatting t
  else if isFormatting label then b.reconstruct.openFormatting t
  else if label == "nobr" then b.openNobr t
  else if isApart label then (b.reconstruct.openTag t).mark.noFrameset
  else if label == "table" then
    ((if b.quirks then b else b.closeOpenParagraph).openTag t).noFrameset.withMode .inTable
  else if ["area", "br", "embed", "img", "keygen", "wbr", "input"].contains label then
    let b := b.reconstruct.addVoid t
    if isHiddenInput t then b else b.noFrameset
  else if ["param", "source", "track"].contains label then b.addVoid t
  else if label == "hr" then (b.closeOpenParagraph.addVoid t).noFrameset
  else if label == "textarea" then
    { b.noFrameset.openRaw t .referencesOnly with dropLineFeed := true }
  else if label == "xmp" then b.closeOpenParagraph.reconstruct.noFrameset.openRaw t .raw
  else if label == "iframe" then b.noFrameset.openRaw t .raw
  else if label == "noembed" || label == "noscript" then b.openRaw t .raw
  else if label == "select" then b.openSelect t
  else if label == "optgroup" || label == "option" then
    (if Open.currentIs "option" b.stack then b.pop else b).reconstruct.openTag t
  else if label == "rb" || label == "rtc" then
    (if Open.inScopeNamed ElementName.limitsScope "ruby" b.stack then
      b.mapStack (Open.closeImplied ElementName.mayStayOpen) else b).openTag t
  else if label == "rp" || label == "rt" then
    (if Open.inScopeNamed ElementName.limitsScope "ruby" b.stack then
      b.mapStack (Open.closeImpliedExcept "rtc") else b).openTag t
  else if label == "math" then b.openForeign .math t
  else if label == "svg" then b.openForeign .svg t
  else if isMisplaced label then b
  else b.reconstruct.openTag t

/-! ### End tags -/

/-- Closes what may stay open and then through the innermost element of a name. -/
def closeContainer (b : Builder) (label : String) : Builder :=
  b.mapStack fun s => Open.closeThroughNamed label (Open.closeImplied ElementName.mayStayOpen s)

def endForm (b : Builder) : Builder :=
  if Open.has "template" b.stack then
    if Open.inScopeNamed ElementName.limitsScope "form" b.stack then b.closeContainer "form" else b
  else match b.form with
    | none => b
    | some n =>
      let b := { b with form := none }
      if Open.inScope ElementName.limitsScope (·.node == n) b.stack then
        b.mapStack fun s => Open.remove n (Open.closeImplied ElementName.mayStayOpen s)
      else b

def endHeading (b : Builder) : Builder :=
  if Open.inScope ElementName.limitsScope (·.name.isHeading) b.stack then
    b.mapStack fun s =>
      Open.closeThrough ElementName.isHeading (Open.closeImplied ElementName.mayStayOpen s)
  else b

def endParagraph (b : Builder) : Builder :=
  (if Open.inScopeNamed ElementName.limitsButtonScope "p" b.stack then b
    else b.openImplied "p").closeParagraph

/-- Ends an item of a list. -/
def endItem (b : Builder) (label : String) : Builder :=
  let limit := if label == "li" then ElementName.limitsListItemScope else ElementName.limitsScope
  if Open.inScopeNamed limit label b.stack then
    b.mapStack fun s => Open.closeThroughNamed label (Open.closeImpliedExcept label s)
  else b

/-- An end tag in the body other than those that end the body. -/
def bodyEnd (b : Builder) (label : String) : Builder :=
  if label == "template" then b.endTemplate
  else if isContainer label then
    if Open.inScopeNamed ElementName.limitsScope label b.stack then b.closeContainer label else b
  else if label == "form" then b.endForm
  else if label == "p" then b.endParagraph
  else if ["li", "dd", "dt"].contains label then b.endItem label
  else if isHeadingLabel label then b.endHeading
  else if label == "a" || label == "nobr" || isFormatting label then b.adopt label
  else if isApart label then
    if Open.inScopeNamed ElementName.limitsScope label b.stack then
      (b.closeContainer label).dropToMarker
    else b
  else if label == "br" then b.bodyStart ⟨"br", [], false⟩
  else b.closePlain label

/-! ### All tokens -/

/-- The end of the text inside a template closes the template. -/
def endOfTemplate (b : Builder) : Step :=
  if Open.has "template" b.stack then
    let b := b.closeTemplate
    again b b.resetMode
  else done b

def inBody (b : Builder) : Token → Step
  | .character c =>
    if c.toNat = 0 then done b
    else
      let b := b.reconstruct
      done ((if isSpaceChar c then b else b.noFrameset).addText c)
  | .startTag t => done (b.bodyStart t)
  | .endTag label =>
    if label == "body" || label == "html" then
      if Open.inScopeNamed ElementName.limitsScope "body" b.stack then
        if label == "body" then done (b.withMode .afterBody) else again b .afterBody
      else done b
    else done (b.bodyEnd label)
  | .endOfText => if b.templateModes.isEmpty then done b else b.endOfTemplate
  | _ => done b

/-- A token that has no place in a table: what it adds goes before the table. -/
def foster (b : Builder) (t : Token) : Step :=
  let (b, repeated) := ({ b with fostering := true }).inBody t
  ({ b with fostering := false }, repeated)

end PageAudit.Html.Builder
