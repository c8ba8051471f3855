/-!
Why a page could not be fetched. Each cause has one text; those that concern the transport
carry its own message.
-/
namespace PageAudit

inductive FetchError where
  /-- The client could not be set up. -/
  | client (message : String)
  | timeout (milliseconds : Nat)
  | connect (message : String)
  | redirect (message : String)
  | request (message : String)
  | body (message : String)
deriving DecidableEq, Repr

namespace FetchError

def message : FetchError → String
  | .client m => "could not build HTTP client: " ++ m
  | .timeout ms => "request timed out after " ++ toString (ms / 1000) ++ " seconds"
  | .connect m => "connection failed: " ++ m
  | .redirect m => "too many redirects: " ++ m
  | .request m => "request failed: " ++ m
  | .body m => "could not read response body: " ++ m

end FetchError

end PageAudit
