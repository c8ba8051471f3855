import PageAudit.Binary64.Basic
import PageAudit.Page.Header
/-!
A page as it was received.
-/
namespace PageAudit

structure Page where
  /-- The address of the response, after redirects. -/
  finalUrl : String
  status : UInt16
  headers : List Header
  body : String
  /-- Seconds from the request to the end of the body. -/
  loadTime : Binary64
deriving DecidableEq, Repr, Inhabited

namespace Page

def header? (p : Page) (name : String) : Option String := PageAudit.header? p.headers name

def hasHeader (p : Page) (name : String) : Bool := PageAudit.hasHeader p.headers name

end Page

end PageAudit
