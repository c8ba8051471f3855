import PageAudit.Html.Tree.Body
/-!
Tables and their parts. Each part closes what is open up to where it belongs, and missing
parts in between are supplied.
-/
namespace PageAudit.Html.Builder

/-- Closes elements up to the innermost one whose name is listed. -/
def backTo (b : Builder) (labels : List String) : Builder :=
  b.mapStack (Open.closeUpTo (·.isHtmlIn labels))

def backToTable (b : Builder) : Builder := b.backTo ["table", "template", "html"]

def backToTableBody (b : Builder) : Builder := b.backTo ["tbody", "tfoot", "thead", "template", "html"]

def backToRow (b : Builder) : Builder := b.backTo ["tr", "template", "html"]

/-- Whether an element of the name is open in the innermost table. -/
def inTableScope (b : Builder) (label : String) : Bool :=
  Open.inScopeNamed ElementName.limitsTableScope label b.stack

/-- Start tags of parts that hold or follow rows. -/
def isTableSection (label : String) : Bool := ["tbody", "tfoot", "thead"].contains label

/-- Start tags that end the part of a table that they stand in. -/
def endsTablePart (label : String) : Bool :=
  ["caption", "col", "colgroup", "tbody", "tfoot", "thead"].contains label

def endTable (b : Builder) : Builder :=
  if b.inTableScope "table" then
    let b := b.mapStack (Open.closeThroughNamed "table")
    b.withMode b.resetMode
  else b

def tableStart (b : Builder) (t : Tag) : Step :=
  let label := t.name
  if label == "caption" then done ((b.backToTable.mark.openTag t).withMode .inCaption)
  else if label == "colgroup" then done ((b.backToTable.openTag t).withMode .inColumnGroup)
  else if label == "col" then again (b.backToTable.openImplied "colgroup") .inColumnGroup
  else if isTableSection label then done ((b.backToTable.openTag t).withMode .inTableBody)
  else if ["td", "th", "tr"].contains label then
    again (b.backToTable.openImplied "tbody") .inTableBody
  else if label == "table" then
    if b.inTableScope "table" then
      let b := b.mapStack (Open.closeThroughNamed "table")
      again b b.resetMode
    else done b
  else if ["style", "script", "template"].contains label then done (b.headElement t)
  else if label == "input" && isHiddenInput t then done (b.addVoid t)
  else if label == "form" then
    if Open.has "template" b.stack || b.form.isSome then done b
    else
      let (b, o) := b.insertClosed (.html "form") (plainAttributes t)
      done { b with form := some o.node }
  else b.foster (.startTag t)

/-- End tags that mean nothing in a table. -/
def strayTableEnd (label : String) : Bool :=
  ["body", "caption", "col", "colgroup", "html", "tbody", "td", "tfoot", "th", "thead",
    "tr"].contains label

def inTable (b : Builder) : Token → Step
  | .character c =>
    if Open.currentIn ElementName.isTablePart b.stack then
      again { b with returnMode := b.mode, tableText := [] } .inTableText
    else b.foster (.character c)
  | .startTag t => b.tableStart t
  | .endTag label =>
    if label == "table" then done b.endTable
    else if strayTableEnd label then done b
    else if label == "template" then done b.endTemplate
    else b.foster (.endTag label)
  | .endOfText => b.inBody .endOfText
  | _ => done b

/-- Places the collected text: in the table if it is blank, else before the table. -/
def placeTableText (b : Builder) : Builder :=
  let text := b.tableText.reverse
  let b := { b with tableText := [] }
  if text.all isSpaceChar then text.foldl addText b
  else text.foldl (fun b c => (b.foster (.character c)).1) b

def inTableText (b : Builder) : Token → Step
  | .character c => done (if c.toNat = 0 then b else { b with tableText := c :: b.tableText })
  | _ =>
    let b := b.placeTableText
    again b b.returnMode

/-- Closes the caption that is open. -/
def closeCaption (b : Builder) : Builder := (b.closeContainer "caption").dropToMarker

def inCaption (b : Builder) : Token → Step
  | .startTag t =>
    if endsTablePart t.name || ["td", "th", "tr"].contains t.name then
      if b.inTableScope "caption" then again b.closeCaption .inTable else done b
    else b.inBody (.startTag t)
  | .endTag label =>
    if label == "caption" || label == "table" then
      if !b.inTableScope "caption" then done b
      else if label == "caption" then done (b.closeCaption.withMode .inTable)
      else again b.closeCaption .inTable
    else if strayTableEnd label then done b
    else b.inBody (.endTag label)
  | t => b.inBody t

/-- A token that ends a group of columns. -/
def endColumns (b : Builder) : Step :=
  if Open.currentIs "colgroup" b.stack then again b.pop .inTable else done b

def inColumnGroup (b : Builder) : Token → Step
  | .character c => if isSpaceChar c then done (b.addText c) else b.endColumns
  | .startTag t =>
    if t.name == "html" then done (b.mergeRoot t)
    else if t.name == "col" then done (b.addVoid t)
    else if t.name == "template" then done (b.headElement t)
    else b.endColumns
  | .endTag label =>
    if label == "colgroup" then
      done (if Open.currentIs "colgroup" b.stack then b.pop.withMode .inTable else b)
    else if label == "col" then done b
    else if label == "template" then done b.endTemplate
    else b.endColumns
  | .endOfText => b.inBody .endOfText
  | _ => done b

/-- Whether a part that holds rows is open in the innermost table, or the table itself. -/
def inRows (b : Builder) : Bool :=
  Open.inScope ElementName.limitsTableScope (·.name.isHtmlIn ["table", "tbody", "tfoot"]) b.stack

/-- Closes the part that holds rows. -/
def closeTableBody (b : Builder) : Builder := b.backToTableBody.pop

def inTableBody (b : Builder) : Token → Step
  | .startTag t =>
    if t.name == "tr" then done ((b.backToTableBody.openTag t).withMode .inRow)
    else if t.name == "td" || t.name == "th" then again (b.backToTableBody.openImplied "tr") .inRow
    else if endsTablePart t.name then
      if b.inRows then again b.closeTableBody .inTable else done b
    else b.inTable (.startTag t)
  | .endTag label =>
    if isTableSection label then
      done (if b.inTableScope label then b.closeTableBody.withMode .inTable else b)
    else if label == "table" then
      if b.inRows then again b.closeTableBody .inTable else done b
    else if strayTableEnd label then done b
    else b.inTable (.endTag label)
  | t => b.inTable t

/-- Closes the row. -/
def closeRow (b : Builder) : Builder := b.backToRow.pop

def inRow (b : Builder) : Token → Step
  | .startTag t =>
    if t.name == "td" || t.name == "th" then done ((b.backToRow.openTag t).mark.withMode .inCell)
    else if t.name == "tr" || endsTablePart t.name then
      if b.inTableScope "tr" then again b.closeRow .inTableBody else done b
    else b.inTable (.startTag t)
  | .endTag label =>
    if label == "tr" then
      done (if b.inTableScope "tr" then b.closeRow.withMode .inTableBody else b)
    else if label == "table" then
      if b.inTableScope "tr" then again b.closeRow .inTableBody else done b
    else if isTableSection label then
      if b.inTableScope label && b.inTableScope "tr" then again b.closeRow .inTableBody else done b
    else if strayTableEnd label then done b
    else b.inTable (.endTag label)
  | t => b.inTable t

/-- Closes the cell that is open. -/
def closeCell (b : Builder) : Builder :=
  (b.mapStack fun s =>
    Open.closeThrough ElementName.isCell (Open.closeImplied ElementName.mayStayOpen s)).dropToMarker

def inCell (b : Builder) : Token → Step
  | .startTag t =>
    if endsTablePart t.name || ["td", "th", "tr"].contains t.name then
      if Open.inScope ElementName.limitsTableScope (·.name.isCell) b.stack then again b.closeCell .inRow
      else done b
    else b.inBody (.startTag t)
  | .endTag label =>
    if label == "td" || label == "th" then
      done (if b.inTableScope label then
        ((b.closeContainer label).dropToMarker).withMode .inRow else b)
    else if ["table", "tbody", "tfoot", "thead", "tr"].contains label then
      if b.inTableScope label then again b.closeCell .inRow else done b
    else if strayTableEnd label then done b
    else b.inBody (.endTag label)
  | t => b.inBody t

end PageAudit.Html.Builder
