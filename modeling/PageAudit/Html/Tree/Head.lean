import PageAudit.Html.Tree.Builder
/-!
The beginning of a document up to its head, and the elements that belong to a head
wherever they stand.
-/
namespace PageAudit.Html.Builder

/-- A second `html` start tag only adds attributes to the root. -/
def mergeRoot (b : Builder) (t : Tag) : Builder :=
  if Open.has "template" b.stack then b
  else match b.stack.getLast? with
    | some root => { b with arena := b.arena.addMissing root.node t.attributes }
    | none => b

/-- Start tags of elements that belong to a head. -/
def belongsToHead (label : String) : Bool :=
  ["base", "basefont", "bgsound", "link", "meta", "title", "noframes", "style", "script",
    "template"].contains label

/-- The start tag of an element that belongs to a head. -/
def headElement (b : Builder) (t : Tag) : Builder :=
  if t.name == "title" then b.openRaw t .referencesOnly
  else if t.name == "noframes" || t.name == "style" then b.openRaw t .raw
  else if t.name == "script" then b.openRaw t (.script .plain)
  else if t.name == "template" then
    let b := (b.openTag t).mark.noFrameset
    { b with mode := .inTemplate, templateModes := .inTemplate :: b.templateModes }
  else b.addVoid t

/-- Closes the innermost template. -/
def closeTemplate (b : Builder) : Builder :=
  let b := (b.mapStack (Open.closeThroughNamed "template")).dropToMarker
  let b := { b with templateModes := b.templateModes.drop 1 }
  b.withMode b.resetMode

/-- The end tag of a template. -/
def endTemplate (b : Builder) : Builder :=
  if Open.has "template" b.stack then
    (b.mapStack (Open.closeImplied ElementName.mayStayOpenInTemplate)).closeTemplate
  else b

/-- End tags that stand for a body that is not there yet. -/
def impliesBody (label : String) : Bool := ["body", "html", "br"].contains label

def initial (b : Builder) : Token → Step
  | .character c =>
    if isSpaceChar c then done b else again { b with quirks := true } .beforeHtml
  | .comment => done b
  | _ => again { b with quirks := true } .beforeHtml

def beforeHtml (b : Builder) : Token → Step
  | .character c => if isSpaceChar c then done b else again (b.addRoot []) .beforeHead
  | .startTag t =>
    if t.name == "html" then done ((b.addRoot (plainAttributes t)).withMode .beforeHead)
    else again (b.addRoot []) .beforeHead
  | .endTag label =>
    if label == "head" || impliesBody label then again (b.addRoot []) .beforeHead else done b
  | .endOfText => again (b.addRoot []) .beforeHead
  | _ => done b

/-- Opens the head. -/
def openHead (b : Builder) (attributes : List Attribute) : Builder :=
  let (b, o) := b.insertOpen (.html "head") attributes
  { b with head := some o.node }

def beforeHead (b : Builder) : Token → Step
  | .character c => if isSpaceChar c then done b else again (b.openHead []) .inHead
  | .startTag t =>
    if t.name == "html" then done (b.mergeRoot t)
    else if t.name == "head" then done ((b.openHead (plainAttributes t)).withMode .inHead)
    else again (b.openHead []) .inHead
  | .endTag label =>
    if label == "head" || impliesBody label then again (b.openHead []) .inHead else done b
  | .endOfText => again (b.openHead []) .inHead
  | _ => done b

def inHead (b : Builder) : Token → Step
  | .character c => if isSpaceChar c then done (b.addText c) else again b.pop .afterHead
  | .startTag t =>
    if t.name == "html" then done (b.mergeRoot t)
    else if belongsToHead t.name then done (b.headElement t)
    else if t.name == "noscript" then done (b.openRaw t .raw)
    else if t.name == "head" then done b
    else again b.pop .afterHead
  | .endTag label =>
    if label == "head" then done (b.pop.withMode .afterHead)
    else if impliesBody label then again b.pop .afterHead
    else if label == "template" then done b.endTemplate
    else done b
  | .endOfText => again b.pop .afterHead
  | _ => done b

/-- An element of the head that comes after the head's end is put into the head. -/
def lateHeadElement (b : Builder) (t : Tag) : Builder :=
  match b.head with
  | some h =>
    ({ b with stack := ⟨h, .html "head"⟩ :: b.stack }.headElement t).mapStack (Open.remove h)
  | none => b.headElement t

def afterHead (b : Builder) : Token → Step
  | .character c =>
    if isSpaceChar c then done (b.addText c) else again (b.openImplied "body") .inBody
  | .startTag t =>
    if t.name == "html" then done (b.mergeRoot t)
    else if t.name == "body" then done ((b.openTag t).noFrameset.withMode .inBody)
    else if t.name == "frameset" then done ((b.openTag t).withMode .inFrameset)
    else if belongsToHead t.name then done (b.lateHeadElement t)
    else if t.name == "head" then done b
    else again (b.openImplied "body") .inBody
  | .endTag label =>
    if label == "template" then done b.endTemplate
    else if impliesBody label then again (b.openImplied "body") .inBody
    else done b
  | .endOfText => again (b.openImplied "body") .inBody
  | _ => done b

end PageAudit.Html.Builder
