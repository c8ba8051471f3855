import PageAudit.Html.Tree.Table
/-!
Lists of choices, templates and framesets: modes in which few tokens mean anything.
-/
namespace PageAudit.Html.Builder

/-! ### Lists of choices -/

def popIf (b : Builder) (label : String) : Builder :=
  if Open.currentIs label b.stack then b.pop else b

/-- Closes the list of choices and goes on in the mode around it. -/
def closeSelect (b : Builder) : Builder :=
  let b := b.mapStack (Open.closeThroughNamed "select")
  b.withMode b.resetMode

def hasSelect (b : Builder) : Bool :=
  Open.inScopeNamed ElementName.limitsSelectScope "select" b.stack

/-- The end tag of a group of choices, which also ends the choice in it. -/
def endChoices (b : Builder) : Builder :=
  (match b.stack with
    | o :: g :: _ => if o.is "option" && g.is "optgroup" then b.pop else b
    | _ => b).popIf "optgroup"

def inSelect (b : Builder) : Token → Step
  | .character c => done (if c.toNat = 0 then b else b.addText c)
  | .startTag t =>
    let label := t.name
    if label == "html" then done (b.mergeRoot t)
    else if label == "option" then done ((b.popIf "option").openTag t)
    else if label == "optgroup" then done (((b.popIf "option").popIf "optgroup").openTag t)
    else if label == "hr" then done (((b.popIf "option").popIf "optgroup").addVoid t)
    else if label == "select" then done (if b.hasSelect then b.closeSelect else b)
    else if ["input", "keygen", "textarea"].contains label then
      if b.hasSelect then (b.closeSelect, true) else done b
    else if label == "script" || label == "template" then done (b.headElement t)
    else done b
  | .endTag label =>
    if label == "optgroup" then done b.endChoices
    else if label == "option" then done (b.popIf "option")
    else if label == "select" then done (if b.hasSelect then b.closeSelect else b)
    else if label == "template" then done b.endTemplate
    else done b
  | .endOfText => b.inBody .endOfText
  | _ => done b

/-- Tags of a table around the list of choices. -/
def leavesSelect (label : String) : Bool :=
  ["caption", "table", "tbody", "tfoot", "thead", "tr", "td", "th"].contains label

def inSelectInTable (b : Builder) : Token → Step
  | .startTag t =>
    if leavesSelect t.name then (b.closeSelect, true) else b.inSelect (.startTag t)
  | .endTag label =>
    if leavesSelect label then
      if b.inTableScope label then (b.closeSelect, true) else done b
    else b.inSelect (.endTag label)
  | t => b.inSelect t

/-! ### Templates -/

/-- The mode that a template's content turns out to need. -/
def templateMode (label : String) : Mode :=
  if ["caption", "colgroup", "tbody", "tfoot", "thead"].contains label then .inTable
  else if label == "col" then .inColumnGroup
  else if label == "tr" then .inTableBody
  else if label == "td" || label == "th" then .inRow
  else .inBody

def inTemplate (b : Builder) : Token → Step
  | .character c => b.inBody (.character c)
  | .startTag t =>
    if belongsToHead t.name then done (b.headElement t)
    else
      let mode := templateMode t.name
      again { b with templateModes := mode :: b.templateModes.drop 1 } mode
  | .endTag label => done (if label == "template" then b.endTemplate else b)
  | .endOfText => b.endOfTemplate
  | _ => done b

/-! ### After the body -/

def afterBody (b : Builder) : Token → Step
  | .character c => if isSpaceChar c then b.inBody (.character c) else again b .inBody
  | .startTag t => if t.name == "html" then done (b.mergeRoot t) else again b .inBody
  | .endTag label =>
    if label == "html" then done (b.withMode .afterAfterBody) else again b .inBody
  | _ => done b

def afterAfterBody (b : Builder) : Token → Step
  | .character c => if isSpaceChar c then b.inBody (.character c) else again b .inBody
  | .startTag t => if t.name == "html" then done (b.mergeRoot t) else again b .inBody
  | .endTag _ => again b .inBody
  | _ => done b

/-! ### Framesets -/

def endFrameset (b : Builder) : Builder :=
  match b.stack with
  | _ :: _ :: _ =>
    let b := b.pop
    if Open.currentIs "frameset" b.stack then b else b.withMode .afterFrameset
  | _ => b

def inFrameset (b : Builder) : Token → Step
  | .character c => done (if isSpaceChar c then b.addText c else b)
  | .startTag t =>
    if t.name == "html" then done (b.mergeRoot t)
    else if t.name == "frameset" then done (b.openTag t)
    else if t.name == "frame" then done (b.addVoid t)
    else if t.name == "noframes" then done (b.headElement t)
    else done b
  | .endTag label => done (if label == "frameset" then b.endFrameset else b)
  | _ => done b

def afterFrameset (b : Builder) : Token → Step
  | .character c => done (if isSpaceChar c then b.addText c else b)
  | .startTag t =>
    if t.name == "html" then done (b.mergeRoot t)
    else if t.name == "noframes" then done (b.headElement t)
    else done b
  | .endTag label => done (if label == "html" then b.withMode .afterAfterFrameset else b)
  | _ => done b

def afterAfterFrameset (b : Builder) : Token → Step
  | .character c => if isSpaceChar c then b.inBody (.character c) else done b
  | .startTag t =>
    if t.name == "html" then done (b.mergeRoot t)
    else if t.name == "noframes" then done (b.headElement t)
    else done b
  | _ => done b

end PageAudit.Html.Builder
