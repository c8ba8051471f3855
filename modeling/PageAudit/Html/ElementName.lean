/-!
Names of elements and the classes of names that tree construction goes by. A name belongs
to a vocabulary, and all classes but the integration points are classes of HTML names.
-/
namespace PageAudit.Html

/-- The vocabularies that an element's name can come from. -/
inductive Vocabulary where
  | html
  | math
  | svg
deriving DecidableEq, Repr, Inhabited

structure ElementName where
  vocabulary : Vocabulary
  label : String
deriving DecidableEq, Repr, Inhabited

namespace ElementName

def html (label : String) : ElementName := ⟨.html, label⟩

def isHtml (n : ElementName) (label : String) : Bool := n.vocabulary == .html && n.label == label

def isHtmlIn (n : ElementName) (labels : List String) : Bool :=
  n.vocabulary == .html && labels.contains n.label

/-! ### Integration points -/

/-- MathML elements whose text is HTML. -/
def holdsText (n : ElementName) : Bool :=
  n.vocabulary == .math && ["mi", "mo", "mn", "ms", "mtext"].contains n.label

/-- SVG elements whose content is HTML. -/
def holdsHtml (n : ElementName) : Bool :=
  n.vocabulary == .svg && ["foreignObject", "desc", "title"].contains n.label

/-! ### Scopes: the elements at which a search through the open elements stops -/

def limitsScope (n : ElementName) : Bool :=
  n.isHtmlIn ["applet", "caption", "html", "table", "td", "th", "marquee", "object", "template"] ||
    n.holdsText || n.holdsHtml

def limitsListItemScope (n : ElementName) : Bool := n.limitsScope || n.isHtmlIn ["ol", "ul"]

def limitsButtonScope (n : ElementName) : Bool := n.limitsScope || n.isHtml "button"

def limitsTableScope (n : ElementName) : Bool := n.isHtmlIn ["html", "table", "template"]

def limitsSelectScope (n : ElementName) : Bool := !n.isHtmlIn ["optgroup", "option"]

/-! ### Other classes -/

/-- Elements that only their own rules may close. -/
def isSpecial (n : ElementName) : Bool :=
  n.isHtmlIn [
    "address", "applet", "area", "article", "aside", "base", "basefont", "bgsound", "blockquote",
    "body", "br", "button", "caption", "center", "col", "colgroup", "dd", "details", "dir", "div",
    "dl", "dt", "embed", "fieldset", "figcaption", "figure", "footer", "form", "frame", "frameset",
    "h1", "h2", "h3", "h4", "h5", "h6", "head", "header", "hgroup", "hr", "html", "iframe", "img",
    "input", "isindex", "li", "link", "listing", "main", "marquee", "menu", "meta", "nav",
    "noembed", "noframes", "noscript", "object", "ol", "p", "param", "plaintext", "pre", "script",
    "section", "select", "source", "style", "summary", "table", "tbody", "td", "template",
    "textarea", "tfoot", "th", "thead", "title", "tr", "track", "ul", "wbr", "xmp"]

/-- Elements whose end tag may be left out. -/
def mayStayOpen (n : ElementName) : Bool :=
  n.isHtmlIn ["dd", "dt", "li", "option", "optgroup", "p", "rb", "rp", "rt", "rtc"]

/-- Elements that the end of a template closes without a word. -/
def mayStayOpenInTemplate (n : ElementName) : Bool :=
  n.mayStayOpen ||
    n.isHtmlIn ["caption", "colgroup", "tbody", "td", "tfoot", "th", "thead", "tr"]

/-- Elements of a table that no text may stand in directly. -/
def isTablePart (n : ElementName) : Bool := n.isHtmlIn ["table", "tbody", "tfoot", "thead", "tr"]

def isHeading (n : ElementName) : Bool := n.isHtmlIn ["h1", "h2", "h3", "h4", "h5", "h6"]

def isCell (n : ElementName) : Bool := n.isHtmlIn ["td", "th"]

end ElementName

end PageAudit.Html
