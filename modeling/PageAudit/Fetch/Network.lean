import PageAudit.Binary64.Rounding
import PageAudit.Url.Basic
/-!
The network, as far as a fetch can tell: what becomes of each request that is sent to it.
-/
namespace PageAudit.Fetch

/-- A request for a page. The name and password of the address are not part of the address
that the server sees. -/
structure Request where
  /-- What the server is asked to do with the address. -/
  verb : String
  url : Url
  userAgent : String
deriving DecidableEq, Repr

namespace Request

/-- What a server is asked to do with the address of a page. -/
def method : String := "GET"

/-- What the request asks the server for. -/
def target (r : Request) : String :=
  r.url.path.text ++ ((r.url.query.map ("?" ++ ·)).getD "")

end Request

/-- How the bytes of an answer end. -/
inductive Ending where
  /-- The connection is closed. -/
  | closed
  /-- The connection is lost. -/
  | lost
  /-- Nothing more comes within the time limit. -/
  | late
deriving DecidableEq, Repr

/-- What becomes of a request. -/
inductive Reply where
  /-- No connection to the server could be made. -/
  | unreachable
  /-- The bytes that come, and how they end. A silent server is one that sends none. -/
  | answer (bytes : List UInt8) (ending : Ending)
deriving Repr

structure Network where
  reply : Request → Reply
  /-- Seconds from the first request to the last byte. -/
  elapsed : Binary64

/-- A network that reaches nothing. -/
def Network.none : Network := ⟨fun _ => .unreachable, Binary64.ofNat 0⟩

end PageAudit.Fetch
